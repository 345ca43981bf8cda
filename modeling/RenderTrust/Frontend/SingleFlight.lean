import RenderTrust.Frontend.Session

/-!
# One refresh at a time

Requests that meet a 401 while `api.ts` refreshes the tokens wait for the promise of that refresh.
Any number of requests, logins, logouts and refreshes of the provider run at a time.
-/
namespace RenderTrust.Frontend
open Lib.Runs Lib.Tasks

variable {ι : Type}

/-- The variables that the requests meet over. -/
def App.flight (app : App ι) : Bool × Option ι × (ι → Option Bool) :=
  (app.isRefreshing, app.refreshPromise, app.resolved)

/-- The refresh that the request `p` has started is under way. -/
def App.Flies (app : App ι) (p : ι) : Prop :=
  app.isRefreshing = true ∧ app.refreshPromise = some p

namespace Activity

/-- In `attemptTokenRefresh`, with a refresh of its own. -/
def renews : Activity ι → Bool
  | .requesting _ .renewFetching => true
  | .requesting _ (.renewing _) => true
  | .requesting _ (.resolving _) => true
  | _ => false

def awaits : Activity ι → Option ι
  | .requesting _ (.awaiting promise) => some promise
  | _ => none

def settles : Activity ι → Option Bool
  | .requesting _ (.resolving result) => some result
  | _ => none

/-- A refresh of this request is still to be resolved, if there will be one. -/
def unsettled : Activity ι → Bool
  | .idle => true
  | .requesting _ .fetching => true
  | .requesting _ .renewFetching => true
  | .requesting _ (.renewing _) => true
  | _ => false

end Activity

section Fields
variable {app : App ι}

theorem App.flight_storeAccess (tokens : TokenPair) (written : Bool) :
    ((app.setTokens tokens).storeAccess tokens written).flight = app.flight := by
  cases written <;> rfl

theorem App.flight_storeRefresh (tokens : TokenPair) (written : Bool) :
    (app.storeRefresh tokens written).flight = app.flight := by
  cases written <;> rfl

theorem App.flight_deleteAccess (written : Bool) :
    (app.deleteAccess written).flight = app.flight := by
  cases written <;> rfl

theorem App.flight_deleteRefresh (written : Bool) :
    (app.deleteRefresh written).flight = app.flight := by
  cases written <;> rfl

theorem App.flight_mark (logins : ℕ) (parts : Cleared) :
    (app.mark logins parts).flight = app.flight := by
  unfold App.mark
  split <;> rfl

theorem App.Flies.of_flight {app' : App ι} (same : app'.flight = app.flight) (p : ι) :
    app'.Flies p ↔ app.Flies p := by
  obtain ⟨flag, promise, -⟩ : app'.isRefreshing = app.isRefreshing ∧
      app'.refreshPromise = app.refreshPromise ∧ app'.resolved = app.resolved := by
    simpa only [App.flight, Prod.mk.injEq] using same
  unfold App.Flies
  rw [flag, promise]

theorem App.resolved_of_flight {app' : App ι} (same : app'.flight = app.flight) :
    app'.resolved = app.resolved :=
  congrArg (fun flight => flight.2.2) same

theorem App.Flies.unique {p q : ι} (h : app.Flies p) (h' : app.Flies q) : p = q :=
  Option.some.inj (h.2.symm.trans h'.2)

end Fields

section Flights
variable [DecidableEq ι] (i : ι) (app : App ι) (activity : Activity ι)

/-- All that a step of task `i` does to the refresh of `api.ts`. -/
inductive Flown : App ι → Activity ι → Prop
  | kept {app' : App ι} {activity' : Activity ι} : app'.flight = app.flight →
      activity'.renews = activity.renews → activity'.awaits = none →
      activity'.settles = none → (activity'.unsettled → activity.unsettled) →
      Flown app' activity'
  | starts {login : Bool} : activity = .requesting login .fetching →
      (∀ p, ¬ app.Flies p) →
      Flown { app with isRefreshing := true, refreshPromise := some i }
        (.requesting login .renewFetching)
  | joins {login : Bool} {p : ι} : activity = .requesting login .fetching → app.Flies p →
      Flown app (.requesting login (.awaiting p))
  | resolves {login result : Bool} : activity.renews → activity.unsettled →
      Flown { app with resolved := Function.update app.resolved i (some result) }
        (.requesting login (.resolving result))
  | lands {login result : Bool} : activity = .requesting login (.resolving result) →
      Flown { app with isRefreshing := false, refreshPromise := none }
        (.requesting login (.returned result))

variable {i app activity}

theorem Flown.of_some {r : App ι × Activity ι} {app' : App ι} {activity' : Activity ι}
    (flown : Flown i app activity r.1 r.2) (same : some r = some (app', activity')) :
    Flown i app activity app' activity' := by
  obtain rfl := Option.some.inj same
  exact flown

theorem flown_attemptTokenRefresh (login : Bool) :
    Flown i app (.requesting login .fetching) (app.attemptTokenRefresh i login).1
      (app.attemptTokenRefresh i login).2 := by
  unfold App.attemptTokenRefresh
  split
  · rename_i promise flag found
    exact .joins rfl ⟨flag, found⟩
  · rename_i none_flies
    refine .starts rfl ?_
    rintro p ⟨flag, found⟩
    exact none_flies p flag found

/-- What a step does that ends or goes on outside of a request. -/
theorem Flown.outside {app' : App ι} {activity' : Activity ι} (flight : app'.flight = app.flight)
    (before : activity.renews = false) (after : activity'.renews = false)
    (awaits : activity'.awaits = none) (settles : activity'.settles = none)
    (unsettled : activity'.unsettled = false) : Flown i app activity app' activity' := by
  refine .kept flight (after.trans before.symm) awaits settles ?_
  rw [unsettled]
  exact nofun

theorem flown_doRefresh (app' : App ι) (same : app'.flight = app.flight)
    (before : activity.renews = false) :
    Flown i app activity app'.doRefresh.1 app'.doRefresh.2 := by
  unfold App.doRefresh
  split <;> exact .outside same before rfl rfl rfl rfl

theorem flown_scheduleRefresh (decodeJwtPayload : String → Option JwtPayload) (now : ℤ)
    (app' : App ι) (same : app'.flight = app.flight) (before : activity.renews = false) :
    Flown i app activity (app'.scheduleRefresh decodeJwtPayload now).1
      (app'.scheduleRefresh decodeJwtPayload now).2 := by
  unfold App.scheduleRefresh
  dsimp only
  split
  · exact .outside same before rfl rfl rfl rfl
  · split
    · exact flown_doRefresh _ same before
    · exact .outside same before rfl rfl rfl rfl

section Steps
variable {decodeJwtPayload : String → Option JwtPayload} {app' : App ι} {activity' : Activity ι}
  {answer : Answer} {written login : Bool} {now : ℤ}

theorem flown_signing {renewal : Renewal}
    (resumed : resumeSigning decodeJwtPayload app answer written now renewal =
      some (app', activity')) : Flown i app (.signing renewal) app' activity' := by
  cases renewal with
  | parsing =>
      cases answer with
      | tokens tokens =>
          cases resumed
          exact .outside (App.flight_storeAccess tokens written) rfl rfl rfl rfl rfl
      | rejected =>
          cases resumed
          exact .outside rfl rfl rfl rfl rfl rfl
      | response | resolved => cases resumed
  | access tokens stored =>
      cases stored <;> cases resumed
      · exact .outside rfl rfl rfl rfl rfl rfl
      · exact .outside (App.flight_storeRefresh tokens written) rfl rfl rfl rfl rfl
  | refresh tokens stored =>
      cases stored with
      | false =>
          cases resumed
          exact .outside rfl rfl rfl rfl rfl rfl
      | true =>
          have flown : Flown i app (.signing (.refresh tokens true)) _ _ :=
            flown_scheduleRefresh decodeJwtPayload now
              { app with user := userFromToken decodeJwtPayload tokens.accessToken } rfl rfl
          exact flown.of_some resumed

theorem flown_refreshing (resumed : resumeRefreshing app answer written = some (app', activity')) :
    Flown i app .refreshing app' activity' := by
  cases answer with
  | response status =>
      unfold resumeRefreshing at resumed
      dsimp only at resumed
      split at resumed
      · cases resumed
        exact .outside rfl rfl rfl rfl rfl rfl
      · cases resumed
        exact .outside (App.flight_deleteAccess written) rfl rfl rfl rfl rfl
  | rejected =>
      cases resumed
      exact .outside rfl rfl rfl rfl rfl rfl
  | tokens | resolved => cases resumed

theorem flown_dropping {deletion : Deletion}
    (resumed : resumeDropping app written deletion = some (app', activity')) :
    Flown i app (.dropping deletion) app' activity' := by
  cases deletion with
  | access stored =>
      cases stored <;> cases resumed
      · exact .outside rfl rfl rfl rfl rfl rfl
      · exact .outside (App.flight_deleteRefresh written) rfl rfl rfl rfl rfl
  | refresh stored =>
      cases stored <;> cases resumed
      · exact .outside rfl rfl rfl rfl rfl rfl
      · exact .outside rfl rfl rfl rfl rfl rfl

theorem flown_logout {deletion : Deletion} {logins : ℕ}
    (resumed : resumeLogout app written logins deletion = some (app', activity')) :
    Flown i app (.loggingOut logins deletion) app' activity' := by
  cases deletion with
  | access stored =>
      cases stored <;> cases resumed
      · exact .outside rfl rfl rfl rfl rfl rfl
      · refine .outside ?_ rfl rfl rfl rfl rfl
        rw [App.flight_mark, App.flight_deleteRefresh]
  | refresh stored =>
      cases stored <;> cases resumed
      · exact .outside rfl rfl rfl rfl rfl rfl
      · exact .outside (App.flight_mark logins _) rfl rfl rfl rfl rfl

theorem flown_renewing {renewal : Renewal}
    (resumed : resumeRenewing i app answer written login renewal = some (app', activity')) :
    Flown i app (.requesting login (.renewing renewal)) app' activity' := by
  cases renewal with
  | parsing =>
      cases answer with
      | tokens tokens =>
          cases resumed
          exact .kept (App.flight_storeAccess tokens written) rfl rfl rfl id
      | rejected =>
          cases resumed
          exact .resolves rfl rfl
      | response | resolved => cases resumed
  | access tokens stored =>
      cases stored <;> cases resumed
      · exact .resolves rfl rfl
      · exact .kept (App.flight_storeRefresh tokens written) rfl rfl rfl id
  | refresh tokens stored =>
      cases stored <;> cases resumed
      · exact .resolves rfl rfl
      · exact .resolves rfl rfl

theorem flown_respond (status : ℕ) (before : activity.renews = false) :
    Flown i app activity (respond app login status).1 (respond app login status).2 := by
  unfold respond
  split <;> exact .outside rfl before rfl rfl rfl rfl

theorem flown_request {point : RequestPoint ι}
    (resumed : resumeRequest i app answer written login point = some (app', activity')) :
    Flown i app (.requesting login point) app' activity' := by
  cases point with
  | fetching =>
      cases answer with
      | response status =>
          unfold resumeRequest at resumed
          dsimp only at resumed
          split at resumed
          · exact (flown_attemptTokenRefresh login).of_some resumed
          · exact (flown_respond status rfl).of_some resumed
      | rejected =>
          cases resumed
          exact .outside rfl rfl rfl rfl rfl rfl
      | tokens | resolved => cases resumed
  | renewFetching =>
      cases answer with
      | response status =>
          unfold resumeRequest at resumed
          dsimp only at resumed
          split at resumed
          · cases resumed
            exact .kept rfl rfl rfl rfl id
          · cases resumed
            exact .resolves rfl rfl
      | rejected =>
          cases resumed
          exact .resolves rfl rfl
      | tokens | resolved => cases resumed
  | renewing renewal => exact flown_renewing resumed
  | resolving result =>
      cases resumed
      exact .lands rfl
  | awaiting promise =>
      obtain ⟨result, -, same⟩ := Option.map_eq_some_iff.mp resumed
      cases same
      exact .outside rfl rfl rfl rfl rfl rfl
  | returned result =>
      cases result <;> cases resumed <;> exact .outside rfl rfl rfl rfl rfl rfl
  | retrying =>
      cases answer with
      | response status => exact (flown_respond status rfl).of_some resumed
      | rejected =>
          cases resumed
          exact .outside rfl rfl rfl rfl rfl rfl
      | tokens | resolved => cases resumed

theorem flown_call {call : Call} (started : startCall app written call = some (app', activity')) :
    Flown i app .idle app' activity' := by
  cases call with
  | refreshTimer =>
      unfold startCall at started
      dsimp only at started
      split at started
      · have flown : Flown i app .idle _ _ :=
          flown_doRefresh { app with refreshTimer := false } rfl rfl
        exact flown.of_some started
      · cases started
  | request =>
      cases started
      exact .kept rfl rfl rfl rfl fun _ => rfl
  | login =>
      cases started
      exact .kept rfl rfl rfl rfl fun _ => rfl
  | logout =>
      cases started
      refine .outside ?_ rfl rfl rfl rfl rfl
      rw [App.flight_mark, App.flight_deleteAccess]
      rfl

theorem flown_act {action : Action}
    (acted : (session decodeJwtPayload).act i action app activity = some (app', activity')) :
    Flown i app activity app' activity' := by
  cases action with
  | call call written =>
      cases activity with
      | idle => exact flown_call acted
      | _ => cases acted
  | resume answer written now =>
      cases activity with
      | refreshing => exact flown_refreshing acted
      | dropping deletion => exact flown_dropping acted
      | signing renewal => exact flown_signing acted
      | requesting login point => exact flown_request acted
      | loggingOut logins deletion => exact flown_logout acted
      | idle | loggedOut | done => cases acted

end Steps

/-- What holds of a task and of the variables. -/
structure Aboard (i : ι) (app : App ι) (activity : Activity ι) : Prop where
  owner : activity.renews ↔ app.Flies i
  joined : ∀ p, activity.awaits = some p → app.Flies p ∨ (app.resolved p).isSome
  settled : ∀ result, activity.settles = some result → app.resolved i = some result
  pending : activity.unsettled → app.resolved i = none

theorem Flown.own {app' : App ι} {activity' : Activity ι} (aboard : Aboard i app activity)
    (flown : Flown i app activity app' activity') : Aboard i app' activity' := by
  cases flown with
  | kept flight renews awaits settles unsettled =>
      refine ⟨?_, ?_, ?_, ?_⟩
      · rw [renews, App.Flies.of_flight flight]
        exact aboard.owner
      · intro p waits
        rw [awaits] at waits
        cases waits
      · intro result settled
        rw [settles] at settled
        cases settled
      · intro pending
        rw [App.resolved_of_flight flight]
        exact aboard.pending (unsettled pending)
  | starts fetching none_flies =>
      subst fetching
      exact ⟨iff_of_true rfl ⟨rfl, rfl⟩, nofun, nofun, fun _ => aboard.pending rfl⟩
  | joins fetching flies =>
      subst fetching
      refine ⟨aboard.owner, ?_, nofun, nofun⟩
      rintro p waits
      cases waits
      exact .inl flies
  | resolves renews unsettled =>
      refine ⟨iff_of_true rfl (aboard.owner.mp renews), nofun, ?_, nofun⟩
      rintro result settled
      cases settled
      exact Function.update_self i _ app.resolved
  | lands resolving =>
      exact ⟨iff_of_false Bool.false_ne_true fun flies => Bool.false_ne_true flies.1, nofun,
        nofun, nofun⟩

theorem Flown.other {app' : App ι} {activity' other : Activity ι} {j : ι}
    (aboard : Aboard i app activity) (flown : Flown i app activity app' activity')
    (apart : j ≠ i) (others : Aboard j app other) : Aboard j app' other := by
  cases flown with
  | kept flight renews awaits settles unsettled =>
      have resolved := App.resolved_of_flight flight
      refine ⟨?_, ?_, ?_, ?_⟩
      · rw [App.Flies.of_flight flight]
        exact others.owner
      · intro p waits
        rw [App.Flies.of_flight flight, resolved]
        exact others.joined p waits
      · rw [resolved]
        exact others.settled
      · rw [resolved]
        exact others.pending
  | starts fetching none_flies =>
      refine ⟨?_, ?_, others.settled, others.pending⟩
      · rw [others.owner]
        refine iff_of_false (none_flies j) ?_
        rintro ⟨-, promise⟩
        exact apart (Option.some.inj promise).symm
      · intro p waits
        exact .inr ((others.joined p waits).resolve_left (none_flies p))
  | joins fetching flies => exact others
  | resolves renews unsettled =>
      refine ⟨others.owner, ?_, ?_, ?_⟩
      · intro p waits
        refine (others.joined p waits).imp id fun settled => ?_
        by_cases here : p = i
        · subst here
          exact congrArg Option.isSome (Function.update_self p _ app.resolved)
        · exact (congrArg Option.isSome (Function.update_of_ne here _ app.resolved)).trans settled
      · intro result settled
        exact (Function.update_of_ne apart _ app.resolved).trans (others.settled result settled)
      · intro pending
        exact (Function.update_of_ne apart _ app.resolved).trans (others.pending pending)
  | lands resolving =>
      subst resolving
      have mine : app.Flies i := aboard.owner.mp rfl
      refine ⟨?_, ?_, others.settled, others.pending⟩
      · rw [others.owner]
        exact iff_of_false (fun flies => apart (flies.unique mine))
          fun flies => Bool.false_ne_true flies.1
      · intro p waits
        right
        rcases others.joined p waits with flies | settled
        · rw [flies.unique mine]
          exact congrArg Option.isSome (aboard.settled _ rfl)
        · exact settled

/-- A flag that is set has a promise. -/
def App.Promised (app : App ι) : Prop := app.isRefreshing = true → app.refreshPromise.isSome

theorem Flown.promised {app' : App ι} {activity' : Activity ι} (promised : app.Promised)
    (flown : Flown i app activity app' activity') : app'.Promised := by
  cases flown with
  | kept flight =>
      have same : app'.isRefreshing = app.isRefreshing ∧
          app'.refreshPromise = app.refreshPromise :=
        ⟨congrArg Prod.fst flight, congrArg (fun flight => flight.2.1) flight⟩
      unfold App.Promised
      rw [same.1, same.2]
      exact promised
  | starts => exact fun _ => rfl
  | joins => exact promised
  | resolves => exact promised
  | lands => exact fun flag => absurd flag Bool.false_ne_true

/-- What is resolved stays as it is. -/
theorem Flown.resolved {app' : App ι} {activity' : Activity ι} (aboard : Aboard i app activity)
    (flown : Flown i app activity app' activity') {p : ι} {result : Bool}
    (before : app.resolved p = some result) : app'.resolved p = some result := by
  cases flown with
  | kept flight renews awaits settles unsettled =>
      rw [App.resolved_of_flight flight]
      exact before
  | starts fetching none_flies => exact before
  | joins fetching flies => exact before
  | resolves renews unsettled =>
      by_cases here : p = i
      · subst here
        rw [aboard.pending unsettled] at before
        cases before
      · exact (Function.update_of_ne here _ app.resolved).trans before
  | lands resolving => exact before

end Flights

section Runs
variable [DecidableEq ι] {decodeJwtPayload : String → Option JwtPayload}

theorem stable_flight : Stable (session decodeJwtPayload : Program ι (App ι) (Activity ι) Action
    Empty) Always App.Promised Aboard where
  own _ i _ _ _ holds _ acted :=
    ⟨(flown_act acted).promised holds.shared, (flown_act acted).own (holds.task i)⟩
  others _ i _ _ _ holds _ acted j apart :=
    (flown_act acted).other (holds.task i) apart (holds.task j)
  environment _ change := change.elim

/-- One request refreshes at a time, those that wait wait for it or go on with its result, and
the flag tells whether one does. -/
structure SingleFlight (s : System ι (App ι) (Activity ι)) : Prop where
  one : ∀ i j, (s.task i).renews → (s.task j).renews → i = j
  joined : ∀ i p, (s.task i).awaits = some p →
    (s.task p).renews ∨ (s.shared.resolved p).isSome
  flag : s.shared.isRefreshing ↔ ∃ i, (s.task i).renews

omit [DecidableEq ι] in
theorem singleFlight_of_holds {s : System ι (App ι) (Activity ι)}
    (holds : Holds App.Promised Aboard s) : SingleFlight s where
  one i j renews renews' :=
    ((holds.task i).owner.mp renews).unique ((holds.task j).owner.mp renews')
  joined i p waits := ((holds.task i).joined p waits).imp_left (holds.task p).owner.mpr
  flag := by
    constructor
    · intro set
      obtain ⟨p, promise⟩ := Option.isSome_iff_exists.mp (holds.shared set)
      exact ⟨p, (holds.task p).owner.mpr ⟨set, promise⟩⟩
    · rintro ⟨i, renews⟩
      exact ((holds.task i).owner.mp renews).1

theorem singleFlight_of_run {app : App ι} (unlocked : app.isRefreshing = false)
    (unresolved : ∀ p, app.resolved p = none) {ms later : List (Move ι Action Empty)}
    {s t : System ι (App ι) (Activity ι)}
    (run : Run (session decodeJwtPayload).step Always ⟨app, fun _ => .idle⟩ ms s)
    (run' : Run (session decodeJwtPayload).step Always s later t) :
    SingleFlight s ∧ ∀ p result, s.shared.resolved p = some result →
      t.shared.resolved p = some result := by
  have start : Holds App.Promised Aboard
      (⟨app, fun _ => .idle⟩ : System ι (App ι) (Activity ι)) := by
    have unset : ¬ app.isRefreshing = true := by
      rw [unlocked]
      exact Bool.false_ne_true
    refine ⟨fun set => absurd set unset, fun i => ⟨?_, nofun, nofun, fun _ => unresolved i⟩⟩
    exact iff_of_false Bool.false_ne_true fun flies => unset flies.1
  have holds := stable_flight.run run start
  refine ⟨singleFlight_of_holds holds, fun p result before => ?_⟩
  refine (run'.invariant (I := fun u => Holds App.Promised Aboard u ∧
    u.shared.resolved p = some result) ?_ ⟨holds, before⟩).2
  rintro u m v ⟨here, resolved⟩ allowed moved
  refine ⟨stable_flight.step here allowed moved, ?_⟩
  cases m with
  | task i action =>
      obtain ⟨acted, -⟩ := Program.step_task moved
      exact (flown_act acted).resolved (here.task i) resolved
  | environment change => exact change.elim

end Runs

def opened : App ℕ where
  accessToken := some "old"
  refreshToken := some "refresh"
  isRefreshing := false
  refreshPromise := none
  resolved := fun _ => none
  storedAccess := none
  storedRefresh := none
  user := some ⟨"user"⟩
  refreshTimer := false
  cleared := .nothing
  logins := 0

/-- Two requests meet a 401, and the second waits for the refresh of the first. -/
def twoRequests : List (Move ℕ Action Empty) :=
  [.task 0 (.call .request true), .task 1 (.call .request true),
    .task 0 (.resume (.response 401) true 0), .task 1 (.resume (.response 401) true 0),
    .task 0 (.resume (.response 500) true 0)]

def oneRefresh : List (Move ℕ Action Empty) :=
  [.task 1 (.resume .resolved true 0), .task 0 (.resume .resolved true 0)]

theorem singleFlight_twoRequests : ∃ s t : System ℕ (App ℕ) (Activity ℕ),
    Run (session fun _ => none).step Always ⟨opened, fun _ => .idle⟩ twoRequests s ∧
      Run (session fun _ => none).step Always s oneRefresh t ∧ SingleFlight s ∧
      t.shared.resolved 0 = some false := by
  obtain ⟨s, run, found⟩ : ∃ s, Run (session fun _ => none).step Always
      ⟨opened, fun _ => .idle⟩ twoRequests s ∧
      ((exec (session fun _ => none).step Always s oneRefresh).isSome &&
        decide (s.shared.resolved 0 = some false)) = true := run_of_any (by decide +kernel)
  rw [Bool.and_eq_true, decide_eq_true_eq] at found
  obtain ⟨t, run'⟩ := run_of_isSome found.1
  obtain ⟨single, settled⟩ := singleFlight_of_run rfl (fun _ => rfl) run run'
  exact ⟨s, t, run, run', single, settled 0 false found.2⟩

end RenderTrust.Frontend
