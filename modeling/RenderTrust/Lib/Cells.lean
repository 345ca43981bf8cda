import Mathlib.Logic.Basic
import Mathlib.Tactic.TypeStar

/-!
# Cells with uncertain writes

Cells with names, each empty or with a content. A write that is confirmed has happened; one that
fails may have happened or not. What a cell may hold is read off the writes so far.
-/
namespace Lib.Cells

variable {κ α : Type*}

/-- What an operation does to the cells: nothing, a write, or perhaps a write. -/
inductive Effect (κ α : Type*) where
  | nothing
  | write (k : κ) (content : Option α)
  | perhaps (k : κ) (content : Option α)

namespace Effect

def concerns [DecidableEq κ] (k : κ) : Effect κ α → Bool
  | .nothing => false
  | .write l _ => l = k
  | .perhaps l _ => l = k

def uncertain [DecidableEq κ] (k : κ) : Effect κ α → Bool
  | .perhaps l _ => l = k
  | _ => false

end Effect

variable [DecidableEq κ]

/-- What cell `k` may hold after `effects`, the last of which comes first. -/
def Possible : List (Effect κ α) → κ → Option α → Prop
  | [], _, content => content = none
  | .nothing :: effects, k, content => Possible effects k content
  | .write l written :: effects, k, content =>
      if l = k then content = written else Possible effects k content
  | .perhaps l written :: effects, k, content =>
      (l = k ∧ content = written) ∨ Possible effects k content

/-- What cell `k` holds after the writes that were confirmed. -/
def confirmed : List (Effect κ α) → κ → Option α
  | [], _ => none
  | .write l written :: effects, k => if l = k then written else confirmed effects k
  | _ :: effects, k => confirmed effects k

/-- A cell depends on the operations that concern it only. -/
theorem possible_filter {β : Type*} {p : β → Bool} {effect : β → Effect κ α} {k : κ}
    (foreign : ∀ b, p b = false → (effect b).concerns k = false) (bs : List β)
    (content : Option α) :
    Possible ((bs.filter p).map effect) k content ↔ Possible (bs.map effect) k content := by
  induction bs with
  | nil => exact Iff.rfl
  | cons b bs ih =>
      rw [List.filter_cons, List.map_cons]
      cases mine : p b with
      | true =>
          rw [if_pos rfl, List.map_cons]
          cases effect b with
          | nothing => exact ih
          | write l written => simp only [Possible, ih]
          | perhaps l written => simp only [Possible, ih]
      | false =>
          rw [if_neg Bool.false_ne_true, ih]
          have other := foreign b mine
          cases done : effect b with
          | nothing => exact Iff.rfl
          | write l written =>
              rw [done] at other
              simp only [Possible, if_neg (of_decide_eq_false other)]
          | perhaps l written =>
              rw [done] at other
              simp only [Possible, of_decide_eq_false other, false_and, false_or]

/-- Without uncertain writes a cell holds what was written last. -/
theorem possible_iff_of_certain {k : κ} {effects : List (Effect κ α)}
    (certain : ∀ effect ∈ effects, effect.uncertain k = false) (content : Option α) :
    Possible effects k content ↔ content = confirmed effects k := by
  induction effects with
  | nil => exact Iff.rfl
  | cons effect effects ih =>
      obtain ⟨first, rest⟩ := List.forall_mem_cons.mp certain
      cases effect with
      | nothing => exact ih rest
      | write l written =>
          by_cases same : l = k
          · simp only [Possible, confirmed, if_pos same]
          · simp only [Possible, confirmed, if_neg same, ih rest]
      | perhaps l written =>
          have other : l ≠ k := of_decide_eq_false first
          simp only [Possible, confirmed, other, false_and, false_or, ih rest]

end Lib.Cells
