import RenderTrust.Frontend.Session

/-!
# What is left after a logout

A refresh that is under way does not look whether there was a logout when it goes on: it writes its
tokens to the memory and to the storage, and sets the user. Neither does a login or register that
was called before the logout. Without such a step nothing comes back.
-/
namespace RenderTrust.Frontend
open Lib.Runs Lib.Tasks

variable {ι : Type}

/-- No token in memory or in the storage, and no user. -/
structure App.SignedOut (app : App ι) : Prop where
  accessToken : app.accessToken = none
  refreshToken : app.refreshToken = none
  storedAccess : app.storedAccess = none
  storedRefresh : app.storedRefresh = none
  user : app.user = none

/-- The parts are null. -/
structure App.Lacks (app : App ι) (parts : Cleared) : Prop where
  accessToken : parts.memory → app.accessToken = none
  refreshToken : parts.memory → app.refreshToken = none
  storedAccess : parts.access → app.storedAccess = none
  storedRefresh : parts.refresh → app.storedRefresh = none
  user : parts.user → app.user = none

/-- What was cleared is still so. -/
def App.Safe (app : App ι) : Prop := app.Lacks app.cleared

structure Cleared.Within (less more : Cleared) : Prop where
  memory : less.memory → more.memory
  access : less.access → more.access
  refresh : less.refresh → more.refresh
  user : less.user → more.user

/-- A login has come, or no less is cleared. -/
def App.Later (app app' : App ι) : Prop :=
  app.logins < app'.logins ∨ app'.logins = app.logins ∧ app.cleared.Within app'.cleared

/-- Of a logout, the logins before its call and what it has cleared. -/
def Activity.clearing : Activity ι → Option (ℕ × Cleared)
  | .loggingOut logins (.access written) => some (logins, ⟨true, written, false, false⟩)
  | .loggingOut logins (.refresh written) => some (logins, ⟨true, true, written, false⟩)
  | .loggedOut logins => some (logins, ⟨true, true, true, true⟩)
  | _ => none

/-- What a logout has cleared counts, if no login came after its call. -/
def Reached (app : App ι) (activity : Activity ι) : Prop :=
  ∀ logins cleared, activity.clearing = some (logins, cleared) →
    logins ≤ app.logins ∧ (logins = app.logins → cleared.Within app.cleared)

/-- What a refresh or a login writes when it goes on, of what is cleared: new tokens that are read,
the refresh token that is stored after the access token, or the user. -/
def Renewal.restores (cleared : Cleared) (setsUser : Bool) (answer : Answer) : Renewal → Bool
  | .parsing =>
      match answer with
      | .tokens _ => cleared.memory || cleared.access
      | _ => false
  | .access _ true => cleared.refresh
  | .refresh _ true => setsUser && cleared.user
  | .access _ false | .refresh _ false => false

def restores (s : System ι (App ι) (Activity ι)) : Move ι Action Empty → Bool
  | .task i (.resume answer _ _) =>
      match s.task i with
      | .signing renewal => renewal.restores s.shared.cleared true answer
      | .requesting _ (.renewing renewal) => renewal.restores s.shared.cleared false answer
      | _ => false
  | _ => false

def Leaves (s : System ι (App ι) (Activity ι)) (m : Move ι Action Empty) : Prop :=
  restores s m = false

instance (s : System ι (App ι) (Activity ι)) (m : Move ι Action Empty) :
    Decidable (Leaves s m) :=
  inferInstanceAs (Decidable (_ = _))

section Parts
variable {app app' : App ι} {activity : Activity ι}

theorem Cleared.Within.refl (cleared : Cleared) : cleared.Within cleared := ⟨id, id, id, id⟩

theorem Cleared.Within.trans {a b c : Cleared} (first : a.Within b) (second : b.Within c) :
    a.Within c where
  memory h := second.memory (first.memory h)
  access h := second.access (first.access h)
  refresh h := second.refresh (first.refresh h)
  user h := second.user (first.user h)

theorem App.Lacks.within {less more : Cleared} (lacks : app.Lacks more)
    (within : less.Within more) :
    app.Lacks less where
  accessToken h := lacks.accessToken (within.memory h)
  refreshToken h := lacks.refreshToken (within.memory h)
  storedAccess h := lacks.storedAccess (within.access h)
  storedRefresh h := lacks.storedRefresh (within.refresh h)
  user h := lacks.user (within.user h)

theorem App.Lacks.join {a b : Cleared} (first : app.Lacks a) (second : app.Lacks b) :
    app.Lacks (a.join b) where
  accessToken h := (Bool.or_eq_true_iff.mp h).elim first.accessToken second.accessToken
  refreshToken h := (Bool.or_eq_true_iff.mp h).elim first.refreshToken second.refreshToken
  storedAccess h := (Bool.or_eq_true_iff.mp h).elim first.storedAccess second.storedAccess
  storedRefresh h := (Bool.or_eq_true_iff.mp h).elim first.storedRefresh second.storedRefresh
  user h := (Bool.or_eq_true_iff.mp h).elim first.user second.user

theorem Cleared.within_join_left (a b : Cleared) : a.Within (a.join b) where
  memory h := Bool.or_eq_true_iff.mpr (.inl h)
  access h := Bool.or_eq_true_iff.mpr (.inl h)
  refresh h := Bool.or_eq_true_iff.mpr (.inl h)
  user h := Bool.or_eq_true_iff.mpr (.inl h)

theorem Cleared.within_join_right (a b : Cleared) : b.Within (a.join b) where
  memory h := Bool.or_eq_true_iff.mpr (.inr h)
  access h := Bool.or_eq_true_iff.mpr (.inr h)
  refresh h := Bool.or_eq_true_iff.mpr (.inr h)
  user h := Bool.or_eq_true_iff.mpr (.inr h)

theorem Reached.later (reached : Reached app activity) (later : app.Later app') :
    Reached app' activity := by
  intro logins cleared clearing
  obtain ⟨before, counts⟩ := reached logins cleared clearing
  rcases later with more | ⟨same, within⟩
  · exact ⟨by omega, fun now => by omega⟩
  · exact ⟨by omega, fun now => (counts (by omega)).trans within⟩

theorem Reached.none (other : activity.clearing = none) : Reached app activity := by
  intro logins cleared clearing
  rw [other] at clearing
  cases clearing

theorem Reached.signedOut (safe : app.Safe) (reached : Reached app (.loggedOut app.logins)) :
    app.SignedOut := by
  have all := App.Lacks.within safe ((reached _ _ rfl).2 rfl)
  exact ⟨all.accessToken rfl, all.refreshToken rfl, all.storedAccess rfl, all.storedRefresh rfl,
    all.user rfl⟩

/-- The step of a task that is not a logout: the cleared parts stay, and stay cleared. -/
structure Kept (app app' : App ι) (activity : Activity ι) : Prop where
  cleared : app'.cleared = app.cleared
  logins : app'.logins = app.logins
  lacks : app.Lacks app.cleared → app'.Lacks app.cleared
  other : activity.clearing = none

theorem Kept.same (other : activity.clearing = none) : Kept app app activity :=
  ⟨rfl, rfl, id, other⟩

theorem Kept.of_some {p : App ι × Activity ι} (kept : Kept app p.1 p.2)
    (resumed : some p = some (app', activity)) : Kept app app' activity := by
  obtain rfl := Option.some.inj resumed
  exact kept

/-- The variables of a refresh and the timer are nobody's session. -/
theorem Kept.variables (isRefreshing : Bool) (refreshPromise : Option ι)
    (resolved : ι → Option Bool) (refreshTimer : Bool) (other : activity.clearing = none) :
    Kept app { app with isRefreshing, refreshPromise, resolved, refreshTimer } activity :=
  ⟨rfl, rfl, fun safe => ⟨safe.accessToken, safe.refreshToken, safe.storedAccess,
    safe.storedRefresh, safe.user⟩, other⟩

theorem Kept.after {app'' : App ι} (kept : Kept app' app'' activity)
    (cleared : app'.cleared = app.cleared) (logins : app'.logins = app.logins)
    (lacks : app.Lacks app.cleared → app'.Lacks app.cleared) : Kept app app'' activity := by
  refine ⟨kept.cleared.trans cleared, kept.logins.trans logins, fun held => ?_, kept.other⟩
  have rest := kept.lacks
  rw [cleared] at rest
  exact rest (lacks held)

end Parts

/-! ## What the parts of the two modules keep -/

section Updates
variable {app app' : App ι} {activity : Activity ι}

theorem App.Lacks.setTimer {parts : Cleared} (lacks : app.Lacks parts) (on : Bool) :
    ({ app with refreshTimer := on } : App ι).Lacks parts :=
  ⟨lacks.accessToken, lacks.refreshToken, lacks.storedAccess, lacks.storedRefresh, lacks.user⟩

theorem App.Lacks.clearTokens {parts : Cleared} (lacks : app.Lacks parts) :
    app.clearTokens.Lacks parts :=
  ⟨fun _ => rfl, fun _ => rfl, lacks.storedAccess, lacks.storedRefresh, lacks.user⟩

theorem App.Lacks.deleteAccess {parts : Cleared} (lacks : app.Lacks parts) (written : Bool) :
    (app.deleteAccess written).Lacks parts := by
  cases written with
  | false => exact lacks
  | true =>
      exact ⟨lacks.accessToken, lacks.refreshToken, fun _ => rfl, lacks.storedRefresh, lacks.user⟩

theorem App.Lacks.deleteRefresh {parts : Cleared} (lacks : app.Lacks parts) (written : Bool) :
    (app.deleteRefresh written).Lacks parts := by
  cases written with
  | false => exact lacks
  | true =>
      exact ⟨lacks.accessToken, lacks.refreshToken, lacks.storedAccess, fun _ => rfl, lacks.user⟩

/-- Tokens that are written while neither place was cleared. -/
theorem App.Lacks.setTokens {parts : Cleared} (lacks : app.Lacks parts)
    (uncleared : (parts.memory || parts.access) = false) (tokens : TokenPair) (written : Bool) :
    ((app.setTokens tokens).storeAccess tokens written).Lacks parts := by
  obtain ⟨memory, access⟩ := Bool.or_eq_false_iff.mp uncleared
  refine ⟨fun h => absurd h (by simp [memory]), fun h => absurd h (by simp [memory]),
    fun h => absurd h (by simp [access]), ?_, ?_⟩
  · cases written <;> exact lacks.storedRefresh
  · cases written <;> exact lacks.user

theorem App.Lacks.storeRefresh {parts : Cleared} (lacks : app.Lacks parts)
    (uncleared : parts.refresh = false) (tokens : TokenPair) (written : Bool) :
    (app.storeRefresh tokens written).Lacks parts := by
  cases written with
  | false => exact lacks
  | true =>
      exact ⟨lacks.accessToken, lacks.refreshToken, lacks.storedAccess,
        fun h => absurd h (by simp [uncleared]), lacks.user⟩

theorem App.kept_doRefresh (app : App ι) : Kept app app.doRefresh.1 app.doRefresh.2 := by
  unfold App.doRefresh
  split <;> exact .same rfl

theorem App.kept_scheduleRefresh (decodeJwtPayload : String → Option JwtPayload) (now : ℤ) 
    (app : App ι) : Kept app (app.scheduleRefresh decodeJwtPayload now).1
      (app.scheduleRefresh decodeJwtPayload now).2 := by
  unfold App.scheduleRefresh
  dsimp only
  split
  · exact .variables _ _ _ _ rfl
  · split
    · exact (App.kept_doRefresh _).after rfl rfl fun safe => safe.setTimer false
    · exact .variables _ _ _ _ rfl

end Updates

section Steps
variable {decodeJwtPayload : String → Option JwtPayload} {i : ι}
  {app app' : App ι} {activity : Activity ι} {answer : Answer} {written login : Bool} {now : ℤ}

theorem kept_signing {renewal : Renewal}
    (resumed : resumeSigning decodeJwtPayload app answer written now renewal =
      some (app', activity))
    (leaves : renewal.restores app.cleared true answer = false) : Kept app app' activity := by
  cases renewal with
  | parsing =>
      cases answer with
      | tokens tokens =>
          cases resumed
          exact ⟨by simp, by simp, fun held => held.setTokens leaves tokens written, rfl⟩
      | rejected =>
          cases resumed
          exact .same rfl
      | response | resolved => cases resumed
  | access tokens stored =>
      cases stored with
      | false =>
          cases resumed
          exact .same rfl
      | true =>
          cases resumed
          exact ⟨by simp, by simp, fun safe => safe.storeRefresh leaves tokens written, rfl⟩
  | refresh tokens stored =>
      cases stored with
      | false =>
          cases resumed
          exact .same rfl
      | true =>
          have ran : App.scheduleRefresh
              { app with user := userFromToken decodeJwtPayload tokens.accessToken }
              decodeJwtPayload now = (app', activity) := Option.some.inj resumed
          have kept := App.kept_scheduleRefresh decodeJwtPayload now
            { app with user := userFromToken decodeJwtPayload tokens.accessToken }
          rw [ran] at kept
          refine kept.after rfl rfl fun safe => ?_
          refine ⟨safe.accessToken, safe.refreshToken, safe.storedAccess, safe.storedRefresh, ?_⟩
          intro h
          rw [Renewal.restores, Bool.true_and] at leaves
          exact absurd h (by simp [leaves])

theorem kept_refreshing (resumed : resumeRefreshing app answer written = some (app', activity)) :
    Kept app app' activity := by
  cases answer with
  | response status =>
      unfold resumeRefreshing at resumed
      dsimp only at resumed
      split at resumed
      · cases resumed
        exact .same rfl
      · cases resumed
        exact ⟨by simp, by simp, fun safe => safe.clearTokens.deleteAccess written, rfl⟩
  | rejected =>
      cases resumed
      exact .same rfl
  | tokens | resolved => cases resumed

theorem kept_dropping {deletion : Deletion}
    (resumed : resumeDropping app written deletion = some (app', activity)) :
    Kept app app' activity := by
  cases deletion with
  | access stored =>
      cases stored <;> cases resumed
      · exact .same rfl
      · exact ⟨by simp, by simp, fun safe => safe.deleteRefresh written, rfl⟩
  | refresh stored =>
      cases stored <;> cases resumed
      · exact .same rfl
      · exact ⟨rfl, rfl, fun safe => ⟨safe.accessToken, safe.refreshToken, safe.storedAccess,
          safe.storedRefresh, fun _ => rfl⟩, rfl⟩

theorem kept_resolve [DecidableEq ι] (result : Bool) :
    Kept app (app.resolve i result login).1 (app.resolve i result login).2 :=
  .variables _ _ _ _ rfl

theorem kept_renewing [DecidableEq ι] {renewal : Renewal}
    (resumed : resumeRenewing i app answer written login renewal = some (app', activity))
    (leaves : renewal.restores app.cleared false answer = false) : Kept app app' activity := by
  cases renewal with
  | parsing =>
      cases answer with
      | tokens tokens =>
          cases resumed
          exact ⟨by simp, by simp, fun held => held.setTokens leaves tokens written, rfl⟩
      | rejected =>
          cases resumed
          exact kept_resolve false
      | response | resolved => cases resumed
  | access tokens stored =>
      cases stored <;> cases resumed
      · exact kept_resolve false
      · exact ⟨by simp, by simp, fun safe => safe.storeRefresh leaves tokens written, rfl⟩
  | refresh tokens stored =>
      cases stored <;> cases resumed
      · exact kept_resolve false
      · exact kept_resolve true

theorem kept_respond (app : App ι) (login : Bool) (status : ℕ) :
    Kept app (respond app login status).1 (respond app login status).2 := by
  unfold respond
  split <;> exact .same rfl

theorem kept_attemptTokenRefresh (i : ι) (app : App ι) (login : Bool) :
    Kept app (app.attemptTokenRefresh i login).1 (app.attemptTokenRefresh i login).2 := by
  unfold App.attemptTokenRefresh
  split
  · exact .same rfl
  · exact .variables _ _ _ _ rfl

theorem kept_request [DecidableEq ι] {point : RequestPoint ι}
    (resumed : resumeRequest i app answer written login point = some (app', activity))
    (leaves : ∀ renewal, point = .renewing renewal →
      renewal.restores app.cleared false answer = false) : Kept app app' activity := by
  cases point with
  | fetching =>
      cases answer with
      | response status =>
          unfold resumeRequest at resumed
          dsimp only at resumed
          split at resumed
          · exact (kept_attemptTokenRefresh i app login).of_some resumed
          · exact (kept_respond app login status).of_some resumed
      | rejected =>
          cases resumed
          exact .same rfl
      | tokens | resolved => cases resumed
  | renewFetching =>
      cases answer with
      | response status =>
          unfold resumeRequest at resumed
          dsimp only at resumed
          split at resumed
          · cases resumed
            exact .same rfl
          · cases resumed
            exact kept_resolve false
      | rejected =>
          cases resumed
          exact kept_resolve false
      | tokens | resolved => cases resumed
  | renewing renewal =>
      exact kept_renewing resumed (leaves renewal rfl)
  | resolving result =>
      cases resumed
      exact .variables _ _ _ _ rfl
  | awaiting promise =>
      obtain ⟨result, _, same⟩ := Option.map_eq_some_iff.mp resumed
      cases same
      exact .same rfl
  | returned result =>
      cases result <;> cases resumed
      · exact ⟨rfl, rfl, App.Lacks.clearTokens, rfl⟩
      · exact .same rfl
  | retrying =>
      cases answer with
      | response status => exact (kept_respond app login status).of_some resumed
      | rejected =>
          cases resumed
          exact .same rfl
      | tokens | resolved => cases resumed

/-- What a step keeps, and how far it gets. -/
structure Moved (app app' : App ι) (activity : Activity ι) : Prop where
  safe : app'.Safe
  later : app.Later app'
  reached : Reached app' activity

theorem Kept.moved (kept : Kept app app' activity) (safe : app.Safe) : Moved app app' activity where
  safe := by
    rw [App.Safe, kept.cleared]
    exact kept.lacks safe
  later := .inr ⟨kept.logins, kept.cleared ▸ .refl _⟩
  reached := .none kept.other

/-- A logout has cleared some more. -/
theorem moved_mark {logins : ℕ} {parts : Cleared} (cleared : app'.cleared = app.cleared)
    (same : app'.logins = app.logins) (lacks : app'.Lacks app.cleared)
    (more : logins = app.logins → app'.Lacks parts) (before : logins ≤ app.logins)
    (clearing : activity.clearing = some (logins, parts)) :
    Moved app (app'.mark logins parts) activity := by
  by_cases current : logins = app.logins
  · rw [App.mark, if_pos (current.trans same.symm), cleared]
    refine ⟨?_, .inr ⟨same, Cleared.within_join_left _ _⟩, ?_⟩
    · have both := lacks.join (more current)
      exact ⟨both.accessToken, both.refreshToken, both.storedAccess, both.storedRefresh, both.user⟩
    · intro n cs found
      rw [clearing] at found
      cases found
      exact ⟨same ▸ before, fun _ => Cleared.within_join_right _ _⟩
  · have stale : logins ≠ app'.logins := fun now => current (now.trans same)
    rw [App.mark, if_neg stale]
    refine ⟨?_, .inr ⟨same, cleared ▸ .refl _⟩, ?_⟩
    · rw [App.Safe, cleared]
      exact lacks
    · intro n cs found
      rw [clearing] at found
      cases found
      exact ⟨same ▸ before, fun now => absurd now stale⟩

theorem moved_logout {logins : ℕ} {deletion : Deletion} (safe : app.Safe)
    (reached : Reached app (.loggingOut logins deletion))
    (resumed : resumeLogout app written logins deletion = some (app', activity)) :
    Moved app app' activity := by
  cases deletion with
  | access stored =>
      obtain ⟨before, counts⟩ := reached _ _ rfl
      cases stored <;> cases resumed
      · exact (Kept.same rfl).moved safe
      · refine moved_mark (by simp) (by simp) (App.Lacks.deleteRefresh safe written) ?_ before rfl
        intro current
        have held := (App.Lacks.within safe (counts current)).deleteRefresh written
        refine ⟨held.accessToken, held.refreshToken, held.storedAccess, fun h => ?_, nofun⟩
        have done : written = true := h
        rw [done]
        rfl
  | refresh stored =>
      obtain ⟨before, counts⟩ := reached _ _ rfl
      cases stored <;> cases resumed
      · exact (Kept.same rfl).moved safe
      · refine moved_mark rfl rfl ⟨safe.accessToken, safe.refreshToken, safe.storedAccess,
          safe.storedRefresh, fun _ => rfl⟩ ?_ before rfl
        intro current
        have held := App.Lacks.within safe (counts current)
        exact ⟨held.accessToken, held.refreshToken, held.storedAccess, held.storedRefresh,
          fun _ => rfl⟩

theorem moved_call {call : Call} (safe : app.Safe)
    (started : startCall app written call = some (app', activity)) : Moved app app' activity := by
  cases call with
  | refreshTimer =>
      obtain ⟨_, same⟩ := Option.ite_none_right_eq_some.mp started
      have kept := (App.kept_doRefresh { app with refreshTimer := false }).of_some same
      have whole : Kept app app' activity := kept.after rfl rfl fun held => held.setTimer false
      exact whole.moved safe
  | request =>
      cases started
      exact (Kept.same rfl).moved safe
  | login =>
      cases started
      exact ⟨⟨nofun, nofun, nofun, nofun, nofun⟩, .inl (Nat.lt_succ_self _), .none rfl⟩
  | logout =>
      cases started
      have held := (App.Lacks.setTimer safe false).clearTokens.deleteAccess written
      have same :
          ((App.clearTokens { app with refreshTimer := false }).deleteAccess written).logins =
            app.logins := by simp
      rw [same]
      refine moved_mark (by simp) same held ?_ (Nat.le_refl _) rfl
      intro _
      refine ⟨fun _ => ?_, fun _ => ?_, fun h => ?_, nofun, nofun⟩
      · cases written <;> rfl
      · cases written <;> rfl
      · have done : written = true := h
        rw [done]
        rfl

end Steps

section Runs
variable [DecidableEq ι] {decodeJwtPayload : String → Option JwtPayload}

theorem moved_act {s : System ι (App ι) (Activity ι)} {i : ι} {action : Action} {app' : App ι}
    {activity' : Activity ι} (safe : s.shared.Safe) (reached : Reached s.shared (s.task i))
    (leaves : Leaves s (.task i action))
    (acted : (session decodeJwtPayload).act i action s.shared (s.task i) = some (app', activity')) :
    Moved s.shared app' activity' := by
  cases action with
  | call call written =>
      cases at_i : s.task i with
      | idle =>
          rw [at_i] at acted
          exact moved_call safe acted
      | _ =>
          rw [at_i] at acted
          cases acted
  | resume answer written now =>
      unfold Leaves restores at leaves
      cases at_i : s.task i with
      | refreshing =>
          rw [at_i] at acted
          exact (kept_refreshing acted).moved safe
      | dropping deletion =>
          rw [at_i] at acted
          exact (kept_dropping acted).moved safe
      | signing renewal =>
          rw [at_i] at acted
          simp only [at_i] at leaves
          exact (kept_signing acted leaves).moved safe
      | requesting login point =>
          rw [at_i] at acted
          refine (kept_request acted fun renewal at_renewal => ?_).moved safe
          simpa only [at_i, at_renewal] using leaves
      | loggingOut logins deletion =>
          rw [at_i] at acted reached
          exact moved_logout safe reached acted
      | idle | loggedOut | done =>
          rw [at_i] at acted
          cases acted

theorem stable_session : Stable (session decodeJwtPayload : Program ι (App ι) (Activity ι) Action
    Empty) Leaves App.Safe (fun _ => Reached) where
  own _ i _ _ _ holds leaves acted :=
    let moved := moved_act holds.shared (holds.task i) leaves acted
    ⟨moved.safe, moved.reached⟩
  others _ i _ _ _ holds leaves acted j _ :=
    (holds.task j).later (moved_act holds.shared (holds.task i) leaves acted).later
  environment _ change := change.elim

end Runs

/-- After a logout has finished, and until the next login, nothing of the session is there: in
every run in which no refresh goes on to write what a logout has cleared. -/
theorem logout_final [DecidableEq ι] (decodeJwtPayload : String → Option JwtPayload) {app : App ι}
    (restored : app.cleared = .nothing) {ms : List (Move ι Action Empty)}
    {s : System ι (App ι) (Activity ι)}
    (run : Run (session decodeJwtPayload).step Leaves ⟨app, fun _ => .idle⟩ ms s) {i : ι}
    (finished : s.task i = .loggedOut s.shared.logins) : s.shared.SignedOut := by
  have start : Holds App.Safe (fun _ => Reached) (⟨app, fun _ => .idle⟩ : System ι (App ι) _) := by
    refine ⟨?_, fun _ => .none rfl⟩
    change app.Lacks app.cleared
    rw [restored]
    exact ⟨nofun, nofun, nofun, nofun, nofun⟩
  have holds := stable_session.run run start
  have reached := holds.task i
  rw [finished] at reached
  exact Reached.signedOut holds.shared reached

/-! ## A refresh that was sent before the logout -/

def plainPayload (token : String) : Option JwtPayload := some ⟨some token, none, none⟩

/-- Signed in, with the next refresh planned. -/
def signedIn : App ℕ where
  accessToken := some "access"
  refreshToken := some "refresh"
  isRefreshing := false
  refreshPromise := none
  resolved := fun _ => none
  storedAccess := some "access"
  storedRefresh := some "refresh"
  user := some ⟨"user"⟩
  refreshTimer := true
  cleared := .nothing
  logins := 0

/-- A refresh and a request are sent, then comes a logout. -/
def signingOut : List (Move ℕ Action Empty) :=
  [.task 0 (.call .refreshTimer true), .task 2 (.call .request true),
    .task 1 (.call .logout true), .task 1 (.resume .resolved true 0),
    .task 1 (.resume .resolved true 0)]

theorem logout_final_unanswered : ∃ s,
    Run (session plainPayload).step Leaves ⟨signedIn, fun _ => .idle⟩
      (signingOut ++ [.task 0 (.resume .rejected true 0),
        .task 2 (.resume (.response 401) true 0)]) s ∧ s.shared.SignedOut := by
  obtain ⟨s, run, finished⟩ : ∃ s, Run (session plainPayload).step Leaves
      ⟨signedIn, fun _ => .idle⟩ (signingOut ++ [.task 0 (.resume .rejected true 0),
        .task 2 (.resume (.response 401) true 0)]) s ∧
      decide (s.task 1 = .loggedOut s.shared.logins) = true := run_of_any (by decide +kernel)
  exact ⟨s, run, logout_final plainPayload rfl run (of_decide_eq_true finished)⟩

/-- The refresh is answered after the logout. -/
theorem logout_undone :
    ¬ ∀ (app : App ℕ), app.cleared = .nothing → ∀ (ms : List (Move ℕ Action Empty))
      (s : System ℕ (App ℕ) (Activity ℕ)),
        Run (session plainPayload).step Always ⟨app, fun _ => .idle⟩ ms s →
          ∀ i, s.task i = .loggedOut s.shared.logins → s.shared.SignedOut := by
  intro holds
  obtain ⟨s, run, bad⟩ : ∃ s, Run (session plainPayload).step Always ⟨signedIn, fun _ => .idle⟩
      (signingOut ++ [.task 0 (.resume (.response 200) true 0),
        .task 0 (.resume (.tokens ⟨"access 2", "refresh 2"⟩) true 0)]) s ∧
      (decide (s.task 1 = .loggedOut s.shared.logins) && s.shared.accessToken.isSome) = true :=
    run_of_any (by decide +kernel)
  obtain ⟨finished, back⟩ := Bool.and_eq_true_iff.mp bad
  have out := holds signedIn rfl _ s run 1 (of_decide_eq_true finished)
  rw [out.accessToken] at back
  cases back

end RenderTrust.Frontend
