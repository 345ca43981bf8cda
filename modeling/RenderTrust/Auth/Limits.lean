import Mathlib.Algebra.Order.Group.Int
import RenderTrust.Auth.RateLimit

/-!
# What the rate limiter promises a client

While Redis answers, the requests of a client fall into groups, one for each counter, and the first
`max_requests` of a group are admitted. A window across two groups may hold more than that. A
counter that was left without a time to live is never gone.
-/
namespace RenderTrust.Auth
open Lib.Runs Lib.Windows

/-! ## Windows -/

/-- The times at which requests are admitted, of those at which they are made. -/
def admittedTimes (limiter : RateLimiter) (request : Client) : Counters → List ℤ → List ℤ
  | _, [] => []
  | counters, now :: times =>
      match (limiter.call request now .available).run counters with
      | .ok () after => now :: admittedTimes limiter request after times
      | .error _ after => admittedTimes limiter request after times

def perCounterFrom (width start : ℤ) (group : List ℤ) : List ℤ → List (List ℤ)
  | [] => [group]
  | now :: times =>
      if now < start + width then perCounterFrom width start (group ++ [now]) times
      else group :: perCounterFrom width now [now] times

/-- The times of the requests that share a counter: it starts with the first request at which
there is none, and lasts for the window. -/
def perCounter (width : ℤ) : List ℤ → List (List ℤ)
  | [] => []
  | now :: times => perCounterFrom width now [now] times

section Windows
variable (limiter : RateLimiter) (request : Client)

theorem call_available (now : ℤ) (counters : Counters) :
    (limiter.call request now .available).run counters =
      .ok () (Function.update counters request.key
        (limiter.started now (counters request.key))) ∧
        (counted now (counters request.key)).count ≤ limiter.maxRequests ∨
    (∃ e, (limiter.call request now .available).run counters =
      .error e (Function.update counters request.key
        (limiter.started now (counters request.key)))) ∧
        limiter.maxRequests < (counted now (counters request.key)).count := by
  generalize ran : (limiter.call request now .available).run counters = result
  have ends := called limiter request now .available counters
  rw [ran] at ends
  cases ends with
  | uncounted h => exact absurd h (by simp [Calls.available])
  | unanswered _ h => cases h
  | unexpired _ _ _ h => cases h
  | admitted _ within => exact .inl ⟨rfl, not_lt.mp fun more => within more rfl⟩
  | refused retryAfter _ more => exact .inr ⟨⟨_, rfl⟩, more⟩

/-- One more request under a counter, or not. -/
theorem take_concat (m : ℕ) (group later : List ℤ) (now : ℤ) :
    (group ++ [now]).take m ++ later =
      group.take m ++ if group.length + 1 ≤ m then now :: later else later := by
  rw [List.take_append, List.append_assoc]
  congr 1
  split
  · rename_i fits
    rw [List.take_of_length_le (by rw [List.length_singleton]; omega)]
    rfl
  · rename_i full
    have none : m - group.length = 0 := by omega
    rw [none]
    rfl

theorem take_first (m : ℕ) (later : List ℤ) (now : ℤ) :
    [now].take m ++ later = if 1 ≤ m then now :: later else later := by
  simpa using take_concat m [] later now

/-- The request at `now` and those after it, in terms of the counter it leaves. -/
theorem admittedTimes_cons (now : ℤ) (times : List ℤ) (counters : Counters) {count : ℕ}
    {left : Option Counter} (some : (counted now (counters request.key)).count = count)
    (after : limiter.started now (counters request.key) = left) (positive : 0 < count) :
    admittedTimes limiter request counters (now :: times) =
      if count ≤ limiter.maxRequests.toNat then
        now :: admittedTimes limiter request (Function.update counters request.key left) times
      else admittedTimes limiter request (Function.update counters request.key left) times := by
  rcases call_available limiter request now counters with ⟨ran, fits⟩ | ⟨⟨e, ran⟩, full⟩
  · rw [admittedTimes, ran, if_pos (by omega), after]
  · rw [admittedTimes, ran, if_neg (by omega), after]

theorem admittedTimes_from (times : List ℤ) (counters : Counters) (start : ℤ) (group : List ℤ)
    (counter : counters request.key = some ⟨group.length, some (start + limiter.window)⟩)
    (used : 0 < group.length) :
    group.take limiter.maxRequests.toNat ++ admittedTimes limiter request counters times =
      ((perCounterFrom limiter.window start group times).map
        (List.take limiter.maxRequests.toNat)).flatten := by
  induction times generalizing counters start group with
  | nil => simp [admittedTimes, perCounterFrom]
  | cons now times ih =>
      by_cases lasts : now < start + limiter.window
      · have there : live now (counters request.key) =
            some ⟨group.length, some (start + limiter.window)⟩ := by
          rw [counter, live_some]
          simp [lasts]
        have next := ih (Function.update counters request.key
            (some ⟨group.length + 1, some (start + limiter.window)⟩)) start (group ++ [now])
          (by simp) (by simp)
        rw [take_concat] at next
        rw [admittedTimes_cons limiter request now times counters
          (by rw [counted_of_live there]) (started_of_live there used) (Nat.succ_pos _),
          perCounterFrom, if_pos lasts, ← next]
      · have gone : live now (counters request.key) = none := by
          rw [counter, live_some]
          simp [lasts]
        have next := ih (Function.update counters request.key
            (some ⟨1, some (now + limiter.window)⟩)) now [now] (by simp) (by simp)
        rw [admittedTimes_cons limiter request now times counters
          (by rw [counted_of_gone gone]) (started_of_gone gone) Nat.one_pos,
          perCounterFrom, if_neg lasts, List.map_cons, List.flatten_cons, ← next, take_first]

theorem admittedTimes_eq (times : List ℤ) :
    admittedTimes limiter request (fun _ => none) times =
      ((perCounter limiter.window times).map
        (List.take limiter.maxRequests.toNat)).flatten := by
  cases times with
  | nil => rfl
  | cons now times =>
      have next := admittedTimes_from limiter request times
        (Function.update (fun _ => none) request.key (some ⟨1, some (now + limiter.window)⟩))
        now [now] (by simp) (by simp)
      rw [admittedTimes_cons limiter request now times _
        (by rw [counted_of_gone rfl]) (started_of_gone rfl) Nat.one_pos, perCounter, ← next,
          take_first]

variable {width : ℤ}

theorem flatten_perCounterFrom (start : ℤ) (group times : List ℤ) :
    (perCounterFrom width start group times).flatten = group ++ times := by
  induction times generalizing start group with
  | nil => simp [perCounterFrom]
  | cons now times ih =>
      unfold perCounterFrom
      split
      · rw [ih, List.append_assoc]
        rfl
      · rw [List.flatten_cons, ih]
        rfl

theorem flatten_perCounter (times : List ℤ) : (perCounter width times).flatten = times := by
  cases times with
  | nil => rfl
  | cons now times => exact flatten_perCounterFrom now [now] times

/-- The requests after those of a counter come when its window is over. -/
theorem tail_perCounterFrom {start : ℤ} {group times : List ℤ} (sorted : times.Pairwise (· ≤ ·)) :
    ∀ t ∈ (perCounterFrom width start group times).tail.flatten, start + width ≤ t := by
  induction times generalizing start group with
  | nil => simp [perCounterFrom]
  | cons now times ih =>
      obtain ⟨first, rest⟩ := List.pairwise_cons.mp sorted
      unfold perCounterFrom
      split
      · exact ih rest
      · rename_i past
        intro t member
        rw [List.tail_cons, flatten_perCounterFrom, List.singleton_append, List.mem_cons] at member
        rcases member with rfl | later
        · exact not_lt.mp past
        · exact le_trans (not_lt.mp past) (first t later)

theorem far_perCounterFrom {start : ℤ} {group times : List ℤ} (sorted : times.Pairwise (· ≤ ·))
    (before : ∀ x ∈ group, ∀ t ∈ times, x ≤ t) :
    Far width (perCounterFrom width start group times) := by
  induction times generalizing start group with
  | nil => simp [perCounterFrom, Far]
  | cons now times ih =>
      obtain ⟨first, rest⟩ := List.pairwise_cons.mp sorted
      unfold perCounterFrom
      split
      · apply ih rest
        intro x member t later
        rw [List.mem_append, List.mem_singleton] at member
        rcases member with earlier | rfl
        · exact before x earlier t (List.mem_cons_of_mem _ later)
        · exact first t later
      · refine ⟨?_, ih rest ?_⟩
        · intro x member t later
          have at_now := before x member now List.mem_cons_self
          have past := tail_perCounterFrom rest t later
          omega
        · intro x member t later
          rw [List.mem_singleton] at member
          exact member ▸ first t later

theorem far_perCounter {times : List ℤ} (sorted : times.Pairwise (· ≤ ·)) :
    Far width (perCounter width times) := by
  cases times with
  | nil => trivial
  | cons now times =>
      obtain ⟨first, rest⟩ := List.pairwise_cons.mp sorted
      refine far_perCounterFrom rest fun x member t later => ?_
      rw [List.mem_singleton] at member
      exact member ▸ first t later

end Windows

/-- No window, wherever it starts, holds more admitted requests than the limit, exactly when the
first requests of each counter, as many as are admitted, are followed by those of the next one at
the distance of the window, place by place of the limit. -/
theorem sliding_window_iff (limiter : RateLimiter) (request : Client) {times : List ℤ}
    (sorted : times.Pairwise (· ≤ ·)) :
    (∀ start, ((within limiter.window start
        (admittedTimes limiter request (fun _ => none) times)).length : ℤ) ≤
          limiter.maxRequests) ↔
      0 ≤ limiter.maxRequests ∧
        ((perCounter limiter.window times).map (List.take limiter.maxRequests.toNat)).IsChain
          (Follows limiter.window limiter.maxRequests.toNat) := by
  have whole : (perCounter limiter.window times).flatten.Pairwise (· ≤ ·) := by
    rw [flatten_perCounter]
    exact sorted
  have short : ∀ group ∈ (perCounter limiter.window times).map
      (List.take limiter.maxRequests.toNat), group.length ≤ limiter.maxRequests.toNat := by
    intro group member
    obtain ⟨all, _, rfl⟩ := List.mem_map.mp member
    exact List.length_take_le _ _
  rw [← limited_flatten_iff (whole.sublist flatten_take_sublist) short (far_perCounter sorted).take,
    ← admittedTimes_eq limiter request]
  constructor
  · intro limited
    have nonneg : 0 ≤ limiter.maxRequests := le_trans (Int.natCast_nonneg _) (limited 0)
    refine ⟨nonneg, fun start => ?_⟩
    have few := limited start
    omega
  · intro ⟨nonneg, limited⟩ start
    have few := limited start
    omega

theorem sliding_window_steady : ((within 1000 500
    (admittedTimes ⟨1, 1⟩ ⟨"/auth/login", none⟩ (fun _ => none) [0, 500, 1000, 2100])).length : ℤ) ≤
      1 :=
  (sliding_window_iff ⟨1, 1⟩ ⟨"/auth/login", none⟩ (by decide)).mpr (by decide +kernel) 500

/-- One login, four in the last second of its minute and five in the next minute's first. -/
theorem sliding_window_straddled :
    ¬ ∀ (limiter : RateLimiter) (request : Client) (times : List ℤ), times.Pairwise (· ≤ ·) →
      ∀ start, ((within limiter.window start
        (admittedTimes limiter request (fun _ => none) times)).length : ℤ) ≤
          limiter.maxRequests := by
  intro holds
  have nine := holds loginLimiter ⟨"/auth/login", none⟩
    [0, 59000, 59000, 59000, 59000, 60000, 60000, 60000, 60000, 60000] (by decide) 1000
  exact absurd nine (by decide +kernel)

/-! ## Failures -/

structure Attempt where
  now : ℤ
  calls : Calls
  deriving DecidableEq

/-- The counters of the server, and when the client made its last request. -/
structure Traffic where
  counters : Counters
  last : Option ℤ

def Traffic.silent : Traffic := ⟨fun _ => none, none⟩

def after (result : EStateM.Result RateLimitError Counters Unit) : Counters :=
  match result with
  | .ok _ counters => counters
  | .error _ counters => counters

/-- A request of the client; the server's clock does not go back. -/
def attempt (limiter : RateLimiter) (request : Client) (s : Traffic) (e : Attempt) :
    Option Traffic :=
  if s.last.all fun last => last ≤ e.now then
    some ⟨after ((limiter.call request e.now e.calls).run s.counters), some e.now⟩
  else none

/-- If the request creates the counter, its `EXPIRE` takes effect. -/
def Timed (request : Client) (s : Traffic) (e : Attempt) : Prop :=
  live e.now (s.counters request.key) = none → e.calls.fromUrl = true → e.calls.incr ≠ .failed →
    e.calls.incr = .answered ∧ e.calls.expire ≠ .failed

instance (request : Client) (s : Traffic) (e : Attempt) : Decidable (Timed request s e) :=
  inferInstanceAs (Decidable (_ → _))

/-- The counter is gone when the client has made no request for the length of the window. -/
def Fading (limiter : RateLimiter) (request : Client) (s : Traffic) : Prop :=
  ∀ c, s.counters request.key = some c → 0 < c.count ∧
    ∃ last deadline, s.last = some last ∧ c.deadline = some deadline ∧
      deadline ≤ last + limiter.window

section Failures
variable {limiter : RateLimiter} {request : Client} {s t : Traffic} {e : Attempt}

theorem live_eq_some {now : ℤ} {counter : Option Counter} {c : Counter}
    (there : live now counter = some c) : counter = some c := by
  unfold live at there
  exact (Option.filter_eq_some_iff.mp there).1

theorem Fading.attempt (fading : Fading limiter request s) (timed : Timed request s e)
    (accepted : attempt limiter request s e = some t) : Fading limiter request t := by
  obtain ⟨clock, same⟩ := Option.ite_none_right_eq_some.mp accepted
  obtain rfl := Option.some.inj same
  have kept : ∀ c, s.counters request.key = some c → 0 < c.count ∧ ∃ last deadline,
      some e.now = some last ∧ c.deadline = some deadline ∧ deadline ≤ last + limiter.window := by
    intro c there
    obtain ⟨used, last, deadline, at_last, ends, bound⟩ := fading c there
    rw [at_last, Option.all_some, decide_eq_true_eq] at clock
    exact ⟨used, e.now, deadline, rfl, ends, by omega⟩
  intro c left
  have ends := called limiter request e.now e.calls s.counters
  generalize (limiter.call request e.now e.calls).run s.counters = result at ends left
  cases gone : live e.now (s.counters request.key) with
  | none =>
      have fresh : limiter.started e.now (s.counters request.key) = some c → 0 < c.count ∧
          ∃ last deadline, some e.now = some last ∧ c.deadline = some deadline ∧
            deadline ≤ last + limiter.window := by
        intro same
        rw [started_of_gone gone] at same
        obtain rfl := Option.some.inj same
        exact ⟨Nat.one_pos, e.now, _, rfl, rfl, le_rfl⟩
      cases ends with
      | uncounted _ => exact kept c left
      | unanswered up lost =>
          have answered := (timed gone up (by rw [lost]; decide)).1
          rw [lost] at answered
          cases answered
      | unexpired up answered _ failed =>
          exact absurd failed (timed gone up (by rw [answered]; decide)).2
      | admitted _ _ => exact fresh (by simpa [after] using left)
      | refused _ _ _ => exact fresh (by simpa [after] using left)
  | some before =>
      obtain ⟨used, rest⟩ := kept before (live_eq_some gone)
      have again : some { before with count := before.count + 1 } = some c → 0 < c.count ∧
          ∃ last deadline, some e.now = some last ∧ c.deadline = some deadline ∧
            deadline ≤ last + limiter.window := by
        intro same
        obtain rfl := Option.some.inj same
        exact ⟨Nat.succ_pos _, rest⟩
      cases ends with
      | uncounted _ => exact kept c left
      | unanswered _ _ => exact again (by simpa [after, counted_of_live gone] using left)
      | unexpired _ _ _ _ => exact again (by simpa [after, counted_of_live gone] using left)
      | admitted _ _ => exact again (by simpa [after, started_of_live gone used] using left)
      | refused _ _ _ => exact again (by simpa [after, started_of_live gone used] using left)

theorem Fading.admitted (fading : Fading limiter request s) (positive : 1 ≤ limiter.maxRequests)
    (quiet : ∀ last, s.last = some last → last + limiter.window ≤ e.now) :
    ∃ counters, (limiter.call request e.now e.calls).run s.counters = .ok () counters := by
  have gone : live e.now (s.counters request.key) = none := by
    cases there : s.counters request.key with
    | none => rfl
    | some c =>
        obtain ⟨_, last, deadline, at_last, ends, bound⟩ := fading c there
        have past := quiet last at_last
        rw [live_some, ends, Option.all_some, if_neg (by simp; omega)]
  have ends := called limiter request e.now e.calls s.counters
  generalize (limiter.call request e.now e.calls).run s.counters = result at ends ⊢
  cases ends with
  | uncounted _ => exact ⟨_, rfl⟩
  | unanswered _ _ => exact ⟨_, rfl⟩
  | unexpired _ _ _ _ => exact ⟨_, rfl⟩
  | admitted _ _ => exact ⟨_, rfl⟩
  | refused _ _ more =>
      have more' : limiter.maxRequests < ((1 : ℕ) : ℤ) := by
        rw [counted_of_gone gone] at more
        exact more
      omega

end Failures

/-- A client of a limiter that lets requests through is not locked out: after a window without a
request its next one is admitted, whatever failed, if every counter was given its time to live. -/
theorem no_lockout (limiter : RateLimiter) (request : Client) (positive : 1 ≤ limiter.maxRequests)
    {es : List Attempt} {s : Traffic}
    (run : Run (attempt limiter request) (Timed request) Traffic.silent es s) (e : Attempt)
    (quiet : ∀ last, s.last = some last → last + limiter.window ≤ e.now) :
    ∃ counters, (limiter.call request e.now e.calls).run s.counters = .ok () counters := by
  have fading : Fading limiter request s :=
    run.invariant (I := Fading limiter request) (fun _ _ _ held timed accepted =>
      held.attempt timed accepted) (by intro c there; cases there)
  exact fading.admitted positive quiet

def loginClient : Client := ⟨"/api/v1/auth/login", some "10.0.0.1"⟩

/-- A minute in which the first request and the closing of the connections fail. -/
def troubledMinute : List Attempt :=
  ⟨0, { Calls.available with incr := .failed }⟩ ::
    List.replicate 7 ⟨10, { Calls.available with aclose := false }⟩

theorem no_lockout_troubled : ∃ s,
    Run (attempt loginLimiter loginClient) (Timed loginClient) Traffic.silent troubledMinute s ∧
      ∃ counters, (loginLimiter.call loginClient 60010 .available).run s.counters =
        .ok () counters := by
  obtain ⟨s, run, last⟩ : ∃ s,
      Run (attempt loginLimiter loginClient) (Timed loginClient) Traffic.silent troubledMinute s ∧
        decide (s.last = some 10) = true := run_of_any (by decide +kernel)
  refine ⟨s, run, no_lockout loginLimiter loginClient (by decide) run ⟨60010, .available⟩ ?_⟩
  intro time at_last
  rw [of_decide_eq_true last] at at_last
  obtain rfl := Option.some.inj at_last
  decide

def refuses (result : EStateM.Result RateLimitError Counters Unit) : Bool :=
  match result with
  | .ok _ _ => false
  | .error _ _ => true

/-- The `EXPIRE` of the first of five logins fails; after an hour the next one is refused. -/
theorem locked_out :
    ¬ ∀ (limiter : RateLimiter) (request : Client), 1 ≤ limiter.maxRequests →
      ∀ (es : List Attempt) (s : Traffic),
        Run (attempt limiter request) Always Traffic.silent es s → ∀ e : Attempt,
          (∀ last, s.last = some last → last + limiter.window ≤ e.now) →
            ∃ counters, (limiter.call request e.now e.calls).run s.counters = .ok () counters := by
  intro holds
  obtain ⟨s, run, bad⟩ : ∃ s, Run (attempt loginLimiter loginClient) Always Traffic.silent
      (⟨0, { Calls.available with expire := .failed }⟩ :: List.replicate 4 ⟨0, .available⟩) s ∧
        (decide (s.last = some 0) &&
          refuses ((loginLimiter.call loginClient 3600000 .available).run s.counters)) = true :=
    run_of_any (by decide +kernel)
  obtain ⟨last, refused⟩ := Bool.and_eq_true_iff.mp bad
  obtain ⟨counters, ran⟩ := holds loginLimiter loginClient (by decide) _ s run
    ⟨3600000, .available⟩ (by
      intro time at_last
      rw [of_decide_eq_true last] at at_last
      obtain rfl := Option.some.inj at_last
      decide)
  rw [ran] at refused
  cases refused

end RenderTrust.Auth
