import Mathlib.Algebra.Group.Nat.Defs
import Mathlib.Data.List.Chain
import RenderTrust.Frontend.Session

/-!
# The refreshes of `frontend/src/contexts/AuthContext.tsx` in time

Times are milliseconds on the clock of the client; the server's is ahead of it by an offset. Every
refresh succeeds, and its token is what `scheduleRefresh` reads. The numbers of dates and of `exp`
are exact as doubles.
-/
namespace RenderTrust.Frontend

/-- What `scheduleRefresh` does: nothing, a refresh at once, or a timer. -/
inductive Next where
  | nothing
  | refresh
  | timer (delay : ℤ)
  deriving DecidableEq, Repr

/-- `scheduleRefresh` with the time that it gives to `setTimeout`. -/
def nextRefresh (decodeJwtPayload : String → Option JwtPayload) (now : ℤ)
    (accessToken : Option String) : Next :=
  match accessToken.filter truthy with
  | none => .nothing
  | some token =>
      let ttl := secondsUntilExpiry decodeJwtPayload (now / 1000) token
      let delay := max 0 ((ttl - REFRESH_MARGIN_SECONDS) * 1000)
      if delay ≤ 0 then .refresh else .timer delay

/-- `ToInt32`. -/
def toInt32 (x : ℤ) : ℤ := Int.bmod x (2 ^ 32)

/-- The time that a timer waits: the delay of `setTimeout` is a `long`, and a negative one is 0. -/
def timeout (delay : ℤ) : ℤ := max 0 (toInt32 delay)

example : timeout ((30 * 86400 - 60) * 1000) = 0 := by decide

/-- The timer of the session is set where there is one here. -/
theorem scheduleRefresh_eq {ι : Type} (app : App ι)
    (decodeJwtPayload : String → Option JwtPayload) (now : ℤ) :
    app.scheduleRefresh decodeJwtPayload (now / 1000) =
      match nextRefresh decodeJwtPayload now app.accessToken with
      | .nothing => ({ app with refreshTimer := false }, .done)
      | .refresh => App.doRefresh { app with refreshTimer := false }
      | .timer _ => ({ app with refreshTimer := true }, .done) := by
  unfold App.scheduleRefresh nextRefresh
  dsimp only
  cases app.accessToken.filter truthy with
  | none => rfl
  | some token =>
      dsimp only
      by_cases near : secondsUntilExpiry decodeJwtPayload (now / 1000) token ≤
          REFRESH_MARGIN_SECONDS
      · have least : max 0 ((secondsUntilExpiry decodeJwtPayload (now / 1000) token -
            REFRESH_MARGIN_SECONDS) * 1000) ≤ 0 := by omega
        rw [if_pos near, if_pos least]
      · have more : ¬ max 0 ((secondsUntilExpiry decodeJwtPayload (now / 1000) token -
            REFRESH_MARGIN_SECONDS) * 1000) ≤ 0 := by omega
        rw [if_neg near, if_neg more]

/-- The access tokens that the server grants, by their `exp`. -/
structure Grants (decodeJwtPayload : String → Option JwtPayload) where
  token : ℤ → String
  truthy : ∀ exp, Frontend.truthy (token exp)
  exp : ∀ exp, (decodeJwtPayload (token exp)).bind JwtPayload.exp = some exp

/-- Of one refresh: until the server grants the token, from there until it is scheduled, and by how
much the timer is late. -/
structure Latency where
  up : ℕ
  down : ℕ
  late : ℕ

/-- From the request of one refresh to that of the next. -/
structure Round where
  sent : ℤ
  exp : ℤ
  scheduled : ℤ
  next : Next
  resent : ℤ

section Rounds
variable {decodeJwtPayload : String → Option JwtPayload} (grants : Grants decodeJwtPayload)
  (lifetime offset : ℤ)

def round (sent : ℤ) (latency : Latency) : Round :=
  let issued := sent + latency.up
  let exp := (issued + offset) / 1000 + lifetime
  let scheduled := issued + latency.down
  let next := nextRefresh decodeJwtPayload scheduled (some (grants.token exp))
  { sent, exp, scheduled, next
    resent := match next with
      | .timer delay => scheduled + timeout delay + latency.late
      | _ => scheduled }

def rounds : ℤ → List Latency → List Round
  | _, [] => []
  | sent, latency :: latencies =>
      let r := round grants lifetime offset sent latency
      r :: rounds r.resent latencies

end Rounds

/-- The next request waits for a timer of at least `ε`. -/
def Round.Waits (ε : ℤ) (r : Round) : Prop :=
  ∃ delay, r.next = .timer delay ∧ ε ≤ timeout delay ∧ r.sent + ε ≤ r.resent

structure Paced (ε : ℤ) (run : List Round) : Prop where
  waits : ∀ r ∈ run, r.Waits ε
  requests : (run.map Round.sent).IsChain fun a b => a + ε ≤ b

/-- When the token is scheduled it is more than a minute from its expiry by the client's clock, and
the delay, in milliseconds, is positive as a `long`. -/
def Round.InTime (r : Round) : Prop :=
  60 < r.exp - r.scheduled / 1000 ∧ 0 < toInt32 ((r.exp - r.scheduled / 1000 - 60) * 1000)

instance (r : Round) : Decidable r.InTime := inferInstanceAs (Decidable (_ ∧ _))

/-! ## One round -/

/-- A whole number of seconds is a multiple of 8 milliseconds, and stays one. -/
theorem eight_le_toInt32 {seconds : ℤ} (positive : 0 < toInt32 (seconds * 1000)) :
    8 ≤ toInt32 (seconds * 1000) := by
  have eighth : toInt32 (seconds * 1000) % 8 = 0 := by
    unfold toInt32 Int.bmod
    dsimp only
    split
    · omega
    · omega
  omega

section Round
variable {decodeJwtPayload : String → Option JwtPayload} {grants : Grants decodeJwtPayload}
  {lifetime offset sent ε : ℤ} {latency : Latency}

theorem nextRefresh_grant (now exp : ℤ) :
    nextRefresh decodeJwtPayload now (some (grants.token exp)) =
      if 60 < exp - now / 1000 then .timer ((exp - now / 1000 - 60) * 1000) else .refresh := by
  have filtered : (some (grants.token exp)).filter truthy = some (grants.token exp) := by
    rw [Option.filter_some, if_pos (grants.truthy exp)]
  have ttl : secondsUntilExpiry decodeJwtPayload (now / 1000) (grants.token exp) =
      max 0 (exp - now / 1000) := by
    simp only [secondsUntilExpiry, grants.exp]
  simp only [nextRefresh, filtered, ttl, REFRESH_MARGIN_SECONDS]
  by_cases early : 60 < exp - now / 1000
  · have least : max 0 (exp - now / 1000) = exp - now / 1000 := by omega
    have delay : max 0 ((exp - now / 1000 - 60) * 1000) = (exp - now / 1000 - 60) * 1000 := by
      omega
    have positive : ¬ (exp - now / 1000 - 60) * 1000 ≤ 0 := by omega
    rw [least, delay, if_pos early, if_neg positive]
  · have late : max 0 ((max 0 (exp - now / 1000) - 60) * 1000) ≤ 0 := by omega
    rw [if_neg early, if_pos late]

variable (grants lifetime offset sent latency) in
theorem round_next :
    (round grants lifetime offset sent latency).next =
      if 60 < (round grants lifetime offset sent latency).exp -
          (round grants lifetime offset sent latency).scheduled / 1000 then
        .timer (((round grants lifetime offset sent latency).exp -
          (round grants lifetime offset sent latency).scheduled / 1000 - 60) * 1000)
      else .refresh :=
  nextRefresh_grant _ _

theorem sent_le_scheduled :
    sent ≤ (round grants lifetime offset sent latency).scheduled := by
  simp only [round]
  omega

theorem round_resent {delay : ℤ}
    (timer : (round grants lifetime offset sent latency).next = .timer delay) :
    (round grants lifetime offset sent latency).resent =
      (round grants lifetime offset sent latency).scheduled + timeout delay + latency.late := by
  unfold round at timer ⊢
  dsimp only at timer ⊢
  rw [timer]

theorem waits_of_inTime (inTime : (round grants lifetime offset sent latency).InTime) :
    (round grants lifetime offset sent latency).Waits 8 := by
  obtain ⟨early, positive⟩ := inTime
  have timer := round_next grants lifetime offset sent latency
  rw [if_pos early] at timer
  have eight := eight_le_toInt32 positive
  have waiting : 8 ≤ timeout (((round grants lifetime offset sent latency).exp -
      (round grants lifetime offset sent latency).scheduled / 1000 - 60) * 1000) := by
    unfold timeout
    omega
  refine ⟨_, timer, waiting, ?_⟩
  have before : sent ≤ (round grants lifetime offset sent latency).scheduled := sent_le_scheduled
  rw [round_resent timer]
  change sent + 8 ≤ _
  omega

theorem inTime_of_waits (positive : 0 < ε)
    (waits : (round grants lifetime offset sent latency).Waits ε) :
    (round grants lifetime offset sent latency).InTime := by
  obtain ⟨delay, timer, waiting, -⟩ := waits
  rw [round_next] at timer
  split at timer
  · rename_i early
    refine ⟨early, ?_⟩
    rw [Next.timer.inj timer]
    unfold timeout at waiting
    omega
  · cases timer

end Round

/-! ## Runs -/

section Rounds
variable {decodeJwtPayload : String → Option JwtPayload} {grants : Grants decodeJwtPayload}
  {lifetime offset : ℤ} {latencies : List Latency}

theorem mem_rounds {r : Round} {sent : ℤ}
    (member : r ∈ rounds grants lifetime offset sent latencies) :
    ∃ sent latency, r = round grants lifetime offset sent latency := by
  induction latencies generalizing sent with
  | nil => cases member
  | cons latency latencies ih =>
      rw [rounds, List.mem_cons] at member
      obtain rfl | later := member
      · exact ⟨sent, latency, rfl⟩
      · exact ih later

/-- Each request is that which the round before has led to. -/
theorem isChain_sent {ε : ℤ} {sent : ℤ}
    (waits : ∀ r ∈ rounds grants lifetime offset sent latencies, r.Waits ε) :
    ((rounds grants lifetime offset sent latencies).map Round.sent).IsChain
      fun a b => a + ε ≤ b := by
  induction latencies generalizing sent with
  | nil => exact .nil
  | cons latency latencies ih =>
      have first := waits _ List.mem_cons_self
      have rest := ih fun r member => waits r (List.mem_cons_of_mem _ member)
      cases latencies with
      | nil => exact .singleton _
      | cons next latencies =>
          obtain ⟨-, -, -, apart⟩ := first
          exact .cons_cons apart rest

theorem paced_of_inTime {sent : ℤ}
    (inTime : ∀ r ∈ rounds grants lifetime offset sent latencies, r.InTime) :
    Paced 8 (rounds grants lifetime offset sent latencies) := by
  have waits : ∀ r ∈ rounds grants lifetime offset sent latencies, r.Waits 8 := by
    intro r member
    obtain ⟨sent', latency, rfl⟩ := mem_rounds member
    exact waits_of_inTime (inTime _ member)
  exact ⟨waits, isChain_sent waits⟩

end Rounds

/-! ## Lifetimes -/

section Lifetimes
variable {decodeJwtPayload : String → Option JwtPayload} {grants : Grants decodeJwtPayload}
  {lifetime offset sent : ℤ} {latency : Latency} {latencies : List Latency}

/-- The lifetime, by the client's clock, is between a minute and the 24 days of a `long`. -/
theorem inTime_of_lifetime (long : 62 * 1000 + latency.down ≤ lifetime * 1000 + offset)
    (short : lifetime * 1000 + offset ≤ 2147542 * 1000) :
    (round grants lifetime offset sent latency).InTime := by
  have early : 60 < (round grants lifetime offset sent latency).exp -
      (round grants lifetime offset sent latency).scheduled / 1000 := by
    simp only [round]
    omega
  have fits : (round grants lifetime offset sent latency).exp -
      (round grants lifetime offset sent latency).scheduled / 1000 ≤ 2147543 := by
    simp only [round]
    omega
  refine ⟨early, ?_⟩
  unfold toInt32
  rw [Int.bmod_eq_of_le (by omega) (by omega)]
  omega

/-- With a lifetime of a minute at most, and no clock behind the server's, no round has a timer. -/
theorem next_eq_refresh (short : lifetime ≤ 60) (ahead : offset ≤ 0) {r : Round}
    (member : r ∈ rounds grants lifetime offset sent latencies) :
    r.next = .refresh ∧ r.resent = r.scheduled := by
  obtain ⟨sent', latency, rfl⟩ := mem_rounds member
  have late : ¬ 60 < (round grants lifetime offset sent' latency).exp -
      (round grants lifetime offset sent' latency).scheduled / 1000 := by
    simp only [round]
    omega
  have next := round_next grants lifetime offset sent' latency
  rw [if_neg late] at next
  refine ⟨next, ?_⟩
  unfold round at next ⊢
  dsimp only at next ⊢
  rw [next]

end Lifetimes

/-- A run of refreshes waits on timers of at least 8 milliseconds, however long it is, if each of
its tokens is in time; and it waits on timers at all only then. -/
theorem paced_iff {decodeJwtPayload : String → Option JwtPayload}
    (grants : Grants decodeJwtPayload) (lifetime offset sent : ℤ) (latencies : List Latency) :
    ((∀ r ∈ rounds grants lifetime offset sent latencies, r.InTime) →
        Paced 8 (rounds grants lifetime offset sent latencies)) ∧
      ∀ ε > 0, Paced ε (rounds grants lifetime offset sent latencies) →
        ∀ r ∈ rounds grants lifetime offset sent latencies, r.InTime := by
  refine ⟨paced_of_inTime, fun ε positive paced r member => ?_⟩
  obtain ⟨sent', latency, rfl⟩ := mem_rounds member
  exact inTime_of_waits positive (paced.waits _ member)

/-- A sign and the number in unary. -/
def unaryPayload (token : String) : Option JwtPayload :=
  match token.toList with
  | [] => none
  | sign :: digits => some ⟨none, none, some (if sign = '-' then -digits.length else digits.length)⟩

def unaryGrants : Grants unaryPayload where
  token exp := String.ofList ((if exp < 0 then '-' else '+') :: List.replicate exp.natAbs '1')
  truthy exp := by
    simp [truthy]
  exp exp := by
    by_cases negative : exp < 0
    · simp only [unaryPayload, String.toList_ofList, negative, if_true, Option.bind_some,
        List.length_replicate]
      congr 1
      omega
    · simp only [unaryPayload, String.toList_ofList, negative, if_false, Option.bind_some,
        List.length_replicate]
      congr 1
      simp
      omega

/-- Tokens of a minute, and answers within the millisecond. -/
theorem short_tokens_spin :
    (rounds unaryGrants 60 0 0 (List.replicate 3 ⟨0, 0, 0⟩)).map Round.next =
        [.refresh, .refresh, .refresh] ∧
      (rounds unaryGrants 60 0 0 (List.replicate 3 ⟨0, 0, 0⟩)).map Round.resent = [0, 0, 0] := by
  decide +kernel

end RenderTrust.Frontend
