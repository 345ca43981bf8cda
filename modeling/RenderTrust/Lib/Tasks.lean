import Mathlib.Logic.Function.Basic
import RenderTrust.Lib.Runs

/-!
# Tasks that share a state

A task moves on a state of its own and on one that all tasks share; the environment moves
the shared one. The moves come in any order.
-/
namespace Lib.Tasks
open Runs

variable {ι σ ℓ α β : Type*}

structure System (ι σ ℓ : Type*) where
  shared : σ
  task : ι → ℓ

inductive Move (ι α β : Type*) where
  | task (i : ι) (action : α)
  | environment (change : β)

/-- What the moves do, and `none` where there is no such move. -/
structure Program (ι σ ℓ α β : Type*) where
  act : ι → α → σ → ℓ → Option (σ × ℓ)
  change : β → σ → Option σ

variable [DecidableEq ι] {p : Program ι σ ℓ α β} {s t : System ι σ ℓ}
  {ok : System ι σ ℓ → Move ι α β → Prop}

namespace Program

def step (p : Program ι σ ℓ α β) (s : System ι σ ℓ) : Move ι α β → Option (System ι σ ℓ)
  | .task i action =>
      (p.act i action s.shared (s.task i)).map fun r => ⟨r.1, Function.update s.task i r.2⟩
  | .environment change => (p.change change s.shared).map fun shared => { s with shared }

theorem step_task {i : ι} {action : α} (h : p.step s (.task i action) = some t) :
    p.act i action s.shared (s.task i) = some (t.shared, t.task i) ∧
      ∀ j, j ≠ i → t.task j = s.task j := by
  obtain ⟨⟨shared, l⟩, moved, rfl⟩ := Option.map_eq_some_iff.mp h
  refine ⟨?_, fun j other => Function.update_of_ne other _ _⟩
  simp only [moved, Function.update_self]

theorem step_environment {change : β} (h : p.step s (.environment change) = some t) :
    p.change change s.shared = some t.shared ∧ t.task = s.task := by
  obtain ⟨shared, moved, rfl⟩ := Option.map_eq_some_iff.mp h
  exact ⟨moved, rfl⟩

end Program

/-- `I` of the shared state, and `J` of it and of each task. -/
structure Holds (I : σ → Prop) (J : ι → σ → ℓ → Prop) (s : System ι σ ℓ) : Prop where
  shared : I s.shared
  task : ∀ i, J i s.shared (s.task i)

/-- A task keeps what holds of it and of the others, and so does the environment. -/
structure Stable (p : Program ι σ ℓ α β) (ok : System ι σ ℓ → Move ι α β → Prop) (I : σ → Prop)
    (J : ι → σ → ℓ → Prop) : Prop where
  own : ∀ s i action shared l, Holds I J s → ok s (.task i action) →
    p.act i action s.shared (s.task i) = some (shared, l) → I shared ∧ J i shared l
  others : ∀ s i action shared l, Holds I J s → ok s (.task i action) →
    p.act i action s.shared (s.task i) = some (shared, l) → ∀ j, j ≠ i → J j shared (s.task j)
  environment : ∀ s change shared, Holds I J s → ok s (.environment change) →
    p.change change s.shared = some shared → I shared ∧ ∀ j, J j shared (s.task j)

variable {I : σ → Prop} {J : ι → σ → ℓ → Prop}

theorem Stable.step (h : Stable p ok I J) {m : Move ι α β} (holds : Holds I J s) (allowed : ok s m)
    (moved : p.step s m = some t) : Holds I J t := by
  cases m with
  | task i action =>
      obtain ⟨acted, same⟩ := Program.step_task moved
      obtain ⟨shared, mine⟩ := h.own s i action _ _ holds allowed acted
      refine ⟨shared, fun j => ?_⟩
      by_cases here : j = i
      · rw [here]
        exact mine
      · rw [same j here]
        exact h.others s i action _ _ holds allowed acted j here
  | environment change =>
      obtain ⟨changed, same⟩ := Program.step_environment moved
      obtain ⟨shared, tasks⟩ := h.environment s change _ holds allowed changed
      refine ⟨shared, fun j => ?_⟩
      rw [same]
      exact tasks j

theorem Stable.run (h : Stable p ok I J) {ms : List (Move ι α β)} (run : Run p.step ok s ms t)
    (start : Holds I J s) : Holds I J t :=
  run.invariant (fun _ _ _ holds allowed moved => h.step holds allowed moved) start

end Lib.Tasks
