import Mathlib.Data.Nat.Notation

/-!
# Work that is done in order

One worker takes the entries of a queue one after the other. Each takes some time, and may
have a deadline before which it has to be begun.
-/
namespace Lib.Backlog

variable {α : Type*} {cost : α → ℕ} {due : α → Option ℕ} {start deadline : ℕ} {a : α}
  {queue : List α}

def backlog (cost : α → ℕ) : List α → ℕ
  | [] => 0
  | a :: queue => cost a + backlog cost queue

/-- With the first entry begun at `start`, each is begun before its deadline. -/
def OnTime (cost : α → ℕ) (due : α → Option ℕ) : ℕ → List α → Prop
  | _, [] => True
  | start, a :: queue =>
      (∀ deadline, due a = some deadline → start < deadline) ∧
        OnTime cost due (start + cost a) queue

theorem OnTime.mem (h : OnTime cost due start queue) (member : a ∈ queue)
    (has : due a = some deadline) : start < deadline := by
  induction queue generalizing start with
  | nil => cases member
  | cons b queue ih =>
      rcases List.mem_cons.mp member with rfl | later
      · exact h.1 deadline has
      · exact Nat.lt_of_le_of_lt (Nat.le_add_right start (cost b)) (ih h.2 later)

theorem OnTime.mono {earlier : ℕ} (h : OnTime cost due start queue) (le : earlier ≤ start) :
    OnTime cost due earlier queue := by
  induction queue generalizing start earlier with
  | nil => trivial
  | cons a queue ih =>
      refine ⟨fun deadline has => Nat.lt_of_le_of_lt le (h.1 deadline has), ?_⟩
      exact ih h.2 (Nat.add_le_add_right le (cost a))

/-- A new entry comes after the backlog. -/
theorem onTime_append_singleton : OnTime cost due start (queue ++ [a]) ↔
    OnTime cost due start queue ∧
      ∀ deadline, due a = some deadline → start + backlog cost queue < deadline := by
  induction queue generalizing start with
  | nil => simp [OnTime, backlog]
  | cons b queue ih =>
      simp only [List.cons_append, OnTime, ih, backlog, and_assoc, Nat.add_assoc]

end Lib.Backlog
