import Mathlib.Algebra.Order.Floor.Semiring
import Mathlib.Data.Rat.Floor
import Mathlib.Tactic.Linarith
import RenderTrust.Auth.Api
import RenderTrust.Lib.Hoare

/-!
# How long a logout lasts

Instants are those of an ordered field. The clock of the process reads whole microseconds,
the expiry of a token is a whole second, and so is the time to live of a key of Redis.
-/
namespace RenderTrust.Auth
open Lib Lib.Hoare

variable {J : Type} {ext : External J}

/-- The JWT library accepts a token until the second of its expiry is over. -/
structure ExpiresLate (ext : External J) : Prop where
  fresh : ∀ token seconds claims exp, ext.decode token seconds = some claims →
    claims.exp = some exp → seconds ≤ exp
  again : ∀ token seconds later claims exp, ext.decode token seconds = some claims →
    claims.exp = some exp → later ≤ exp → ext.decode token later = some claims

/-! ## What a logout does -/

theorem Claims.payload_exp {claims : Claims} {sub : String} {payload : TokenPayload}
    (h : claims.payload sub = .ok payload) : claims.exp = some payload.exp := by
  unfold Claims.payload at h
  split at h
  · cases h
  · cases h
  · rename_i exp iat hexp _
    split at h
    · cases h
    · cases h
      exact hexp

/-- What a token that is read was decoded to. -/
theorem tokenPayload_claims {seconds : ℕ} {token : J} {payload : TokenPayload}
    (h : tokenPayload ext seconds token = .ok payload) :
    ∃ claims sub, ext.decode token seconds = some claims ∧ claims.sub = some sub ∧
      claims.payload sub = .ok payload := by
  unfold tokenPayload at h
  cases decoded : ext.decode token seconds with
  | none =>
      rw [decoded] at h
      cases h
  | some claims =>
      simp only [decoded] at h
      cases named : claims.sub with
      | none =>
          rw [named] at h
          cases h
      | some sub =>
          simp only [named] at h
          exact ⟨claims, sub, rfl, named, h⟩

theorem tokenPayload_fresh (late : ExpiresLate ext) {seconds : ℕ} {token : J}
    {payload : TokenPayload} (h : tokenPayload ext seconds token = .ok payload) :
    seconds ≤ payload.exp ∧
      ∀ later ≤ payload.exp, tokenPayload ext later token = .ok payload := by
  obtain ⟨claims, sub, decoded, named, read⟩ := tokenPayload_claims h
  have expiry := Claims.payload_exp read
  refine ⟨late.fresh _ _ _ _ decoded expiry, fun later le => ?_⟩
  simp only [tokenPayload, late.again _ _ _ _ _ decoded expiry le, named, read]

def ttlSeconds (env : Env) (expiresAt : ℕ) : ℕ := (expiresAt * 1000000 - env.now) / 1000000

theorem revoke_run (env : Env) (jti : String) (expiresAt : ℕ) (w : World) :
    (revoke env jti expiresAt).run w =
      if ttlSeconds env expiresAt = 0 ∨ env.redis = false then .ok false w
      else
        .ok true
          { w with redis :=
              (KEY_PREFIX ++ jti, env.now + ttlSeconds env expiresAt * 1000000) :: w.redis } := by
  unfold revoke
  change EStateM.run
    (if ttlSeconds env expiresAt = 0 ∨ !env.redis then _ else _ : AuthM Bool) w = _
  simp only [Bool.not_eq_true']
  split <;> rfl

/-- The keys after a logout with Redis. -/
def revoked (env : Env) (payload : TokenPayload) (redis : List (String × ℕ)) :
    List (String × ℕ) :=
  if ttlSeconds env payload.exp = 0 then redis
  else (KEY_PREFIX ++ payload.jti, env.now + ttlSeconds env payload.exp * 1000000) :: redis

theorem logout_ok {env : Env} {token : J} {w w' : World} {message : MessageResponse}
    (redis : env.redis = true) (ran : (logout ext env token).run w = .ok message w') :
    ∃ payload, tokenPayload ext env.seconds token = .ok payload ∧
      refused env w.redis payload.jti = false ∧
      w' = { w with redis := revoked env payload w.redis } := by
  unfold logout at ran
  rw [EStateM.run_bind, verifyToken_run] at ran
  cases read : tokenPayload ext env.seconds token with
  | error e =>
      rw [read] at ran
      cases ran
  | ok payload =>
      simp only [read] at ran
      cases known : refused env w.redis payload.jti with
      | true =>
          rw [known] at ran
          cases ran
      | false =>
          refine ⟨payload, rfl, known, ?_⟩
          simp only [known, Bool.false_eq_true, if_false] at ran
          have wrote : ∃ listed, (revoke env payload.jti payload.exp).run w =
              .ok listed { w with redis := revoked env payload w.redis } := by
            rw [revoke_run, redis, revoked]
            by_cases none : ttlSeconds env payload.exp = 0 <;> simp [none]
          obtain ⟨listed, wrote⟩ := wrote
          rw [run_bind_ok wrote] at ran
          cases ran
          rfl

theorem blacklisted_later {redis : List (String × ℕ)} {jti : String} {now later : ℕ}
    (gone : blacklisted redis now jti = false) (le : now ≤ later) :
    blacklisted redis later jti = false := by
  unfold blacklisted at gone ⊢
  cases found : redis.lookup (KEY_PREFIX ++ jti) with
  | none => rfl
  | some expiry =>
      rw [found, Option.any_some, decide_eq_false_iff_not] at gone
      rw [Option.any_some, decide_eq_false_iff_not]
      omega

/-- The key of a logout is gone when the last second of the token begins. -/
theorem blacklisted_revoked {env : Env} {payload : TokenPayload} {redis : List (String × ℕ)}
    {later : ℕ} (gone : blacklisted redis env.now payload.jti = false) (le : env.now ≤ later)
    (expired : payload.exp * 1000000 ≤ later) :
    blacklisted (revoked env payload redis) later payload.jti = false := by
  unfold revoked
  split
  · exact blacklisted_later gone le
  · have whole := Nat.div_mul_le_self (payload.exp * 1000000 - env.now) 1000000
    rw [blacklisted, List.lookup_cons_self, Option.any_some, decide_eq_false_iff_not, ttlSeconds]
    omega

theorem refused_revoked {env later : Env} {payload : TokenPayload} {redis : List (String × ℕ)}
    (available : env.redis = true) (before : refused env redis payload.jti = false)
    (le : env.now ≤ later.now) (expired : payload.exp * 1000000 ≤ later.now) :
    refused later (revoked env payload redis) payload.jti = false := by
  rw [refused, decide_eq_false_iff_not] at before ⊢
  rintro ⟨named, -, listed⟩
  have gone : blacklisted redis env.now payload.jti = false := by
    rw [Bool.eq_false_iff]
    exact fun known => before ⟨named, available, known⟩
  rw [blacklisted_revoked gone le expired] at listed
  cases listed

/-! ## Instants -/

section Instants
variable {K : Type} [Field K] [LinearOrder K] [IsStrictOrderedRing K] [FloorSemiring K]

/-- What the clock reads at an instant, which is in seconds. -/
def Env.reading (env : Env) (t : K) : Env := { env with now := ⌊t * 1000000⌋₊ }

/-- At every instant after `t` the token is rejected, if nothing else happens to Redis. -/
def RejectedAfter (ext : External J) (token : J) (t : K) (w : World) : Prop :=
  ∀ later, t < later → ∀ env : Env, env.redis = true →
    ∃ e, (verifyToken ext (env.reading later) token).run w = .error e w

/-- Some time of the second that begins with the expiry is still to come. -/
theorem exists_later {t : K} {exp : ℕ} (fresh : ⌊t * 1000000⌋₊ / 1000000 ≤ exp) :
    ∃ later, t < later ∧ (exp : K) ≤ later ∧ exp * 1000000 ≤ ⌊later * 1000000⌋₊ ∧
      ⌊later * 1000000⌋₊ / 1000000 ≤ exp := by
  have below : ⌊t * 1000000⌋₊ < (exp + 1) * 1000000 := by omega
  have before : t < exp + 1 := by
    have cast := Nat.lt_of_floor_lt below
    push_cast at cast
    linarith
  have bound : max t exp < (exp : K) + 1 := max_lt before (by linarith)
  refine ⟨(max t exp + (exp + 1)) / 2, ?_, ?_, ?_, ?_⟩
  · have left := le_max_left t (exp : K)
    linarith
  · have right := le_max_right t (exp : K)
    linarith
  · apply Nat.le_floor
    have right := le_max_right t (exp : K)
    push_cast
    linarith
  · have nonneg : (0 : K) ≤ (max t exp + (exp + 1)) / 2 * 1000000 := by
      have right := le_max_right t (exp : K)
      have cast : (0 : K) ≤ exp := Nat.cast_nonneg exp
      linarith
    have less : ⌊(max t exp + (exp + 1)) / 2 * 1000000⌋₊ < (exp + 1) * 1000000 := by
      rw [Nat.floor_lt nonneg]
      push_cast
      linarith
    omega

/-- At the expiry or later, when the key is gone, the token is accepted again. -/
theorem accepted_after_logout (late : ExpiresLate ext) {env : Env} (redis : env.redis = true)
    {t : K} {token : J} {w w' : World} {message : MessageResponse}
    (ran : (logout ext (env.reading t) token).run w = .ok message w') :
    ∃ payload later, t < later ∧ (payload.exp : K) ≤ later ∧ ∀ env' : Env,
      (verifyToken ext (env'.reading later) token).run w' = .ok payload w' := by
  have available : (env.reading t).redis = true := redis
  obtain ⟨payload, read, before, rfl⟩ := logout_ok available ran
  obtain ⟨fresh, again⟩ := tokenPayload_fresh late read
  obtain ⟨later, after, expired, gone, valid⟩ := exists_later fresh
  refine ⟨payload, later, after, expired, fun env' => ?_⟩
  have open_ : refused (env'.reading later) (revoked (env.reading t) payload w.redis)
      payload.jti = false := by
    apply refused_revoked available before ?_ gone
    apply Nat.floor_le_floor
    linarith
  have still : tokenPayload ext (env'.reading later).seconds token = .ok payload :=
    again _ valid
  rw [verifyToken_run, still]
  simp only [open_, Bool.false_eq_true, if_false]

/-- Whenever a logout returns, the token is accepted at some later instant. -/
theorem not_rejected_after_logout (late : ExpiresLate ext) {env : Env} (redis : env.redis = true)
    {t : K} {token : J} {w w' : World} {message : MessageResponse}
    (ran : (logout ext (env.reading t) token).run w = .ok message w') :
    ¬ RejectedAfter ext token t w' := by
  intro rejected
  obtain ⟨payload, later, after, -, accepted⟩ := accepted_after_logout late redis ran
  obtain ⟨e, raised⟩ := rejected later after env redis
  rw [accepted env] at raised
  cases raised

end Instants

/-! ## A token of ten seconds -/

/-- A token is the claims themselves. -/
def plainExternal : External Claims where
  hash _ _ := none
  verify _ _ := none
  encode claims := claims
  decode token seconds :=
    match token.exp with
    | none => some token
    | some exp => if seconds ≤ exp then some token else none

theorem expiresLate_plain : ExpiresLate plainExternal := by
  have valid : ∀ token seconds claims exp, plainExternal.decode token seconds = some claims →
      claims.exp = some exp → token = claims ∧ seconds ≤ exp := by
    intro token seconds claims exp decoded expiry
    unfold plainExternal at decoded
    simp only at decoded
    split at decoded
    · rename_i never
      cases decoded
      rw [never] at expiry
      cases expiry
    · rename_i last _
      obtain ⟨le, same⟩ := Option.ite_none_right_eq_some.mp decoded
      cases same
      simp_all
  constructor
  · intro token seconds claims exp decoded expiry
    exact (valid _ _ _ _ decoded expiry).2
  · intro token seconds later claims exp decoded expiry le
    obtain ⟨rfl, -⟩ := valid _ _ _ _ decoded expiry
    simp [plainExternal, expiry, le]

def tenSeconds : Claims := ⟨some "5", some 10, some 0, some "access", some "7"⟩

def quietEnv : Env := ⟨0, true, "", 0, 0, 0⟩

def quietWorld (redis : List (String × ℕ)) : World := ⟨⟨.empty, .empty⟩, redis⟩

/-- The key that is written at half a second is gone nine seconds later. -/
theorem logout_half : (logout plainExternal (quietEnv.reading (1 / 2 : ℚ)) tenSeconds).run
    (quietWorld []) = .ok ⟨"Logged out successfully"⟩ (quietWorld [("blacklist:7", 9500000)]) := by
  have reading : quietEnv.reading (1 / 2 : ℚ) = ⟨500000, true, "", 0, 0, 0⟩ := by
    simp only [Env.reading, quietEnv]
    norm_num
  rw [reading]
  rfl

theorem not_rejected_after_logout_half :
    (logout plainExternal (quietEnv.reading (1 / 2 : ℚ)) tenSeconds).run (quietWorld []) =
        .ok ⟨"Logged out successfully"⟩ (quietWorld [("blacklist:7", 9500000)]) ∧
      ¬ RejectedAfter plainExternal tenSeconds (1 / 2 : ℚ)
        (quietWorld [("blacklist:7", 9500000)]) :=
  ⟨logout_half, not_rejected_after_logout expiresLate_plain rfl logout_half⟩

theorem accepted_again :
    ¬ ∀ (t : ℚ) (w w' : World) (message : MessageResponse),
      (logout plainExternal (quietEnv.reading t) tenSeconds).run w = .ok message w' →
        RejectedAfter plainExternal tenSeconds t w' := by
  intro claim
  obtain ⟨payload, later, after, -, accepted⟩ :=
    accepted_after_logout expiresLate_plain (rfl : quietEnv.redis = true) logout_half
  obtain ⟨e, raised⟩ := claim _ _ _ _ logout_half later after quietEnv rfl
  rw [accepted quietEnv] at raised
  cases raised

end RenderTrust.Auth
