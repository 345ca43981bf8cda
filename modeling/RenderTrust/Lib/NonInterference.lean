import RenderTrust.Lib.Runs

/-!
# Noninterference by purging

A system answers every event. Some events are hidden from an observer, who has a view of
the state. When a hidden event leaves the view alone, and a visible one does to the view
and answers what it would do and answer in the view itself, a run looks like the run
without its hidden events.
-/
namespace Lib.NonInterference
open Lib.Runs

structure System (σ ε ο : Type*) where
  step : σ → ε → σ
  reply : σ → ε → ο

variable {σ ε ο : Type*} (sys : System σ ε ο)

namespace System

def next (s : σ) (e : ε) : Option σ := some (sys.step s e)

def final (s : σ) (es : List ε) : σ := es.foldl sys.step s

/-- The answers to the visible events of a run. -/
def replies (visible : ε → Bool) : σ → List ε → List ο
  | _, [] => []
  | s, e :: es =>
      if visible e then sys.reply s e :: replies visible (sys.step s e) es
      else replies visible (sys.step s e) es

theorem run_final (s : σ) (es : List ε) : Run sys.next Always s es (sys.final s es) := by
  induction es generalizing s with
  | nil => exact .nil s
  | cons e es ih => exact .cons trivial rfl (ih (sys.step s e))

end System

structure Unwinding (visible : ε → Bool) (view : σ → σ) (ok : σ → ε → Prop) : Prop where
  hidden : ∀ s e, visible e = false → view (sys.step s e) = view s
  step : ∀ s e, visible e = true → ok s e → view (sys.step s e) = sys.step (view s) e
  reply : ∀ s e, visible e = true → ok s e → sys.reply s e = sys.reply (view s) e

variable {sys} {visible : ε → Bool} {view : σ → σ} {ok : σ → ε → Prop}

theorem Unwinding.purge (h : Unwinding sys visible view ok) {s t : σ} {es : List ε}
    (run : Run sys.next ok s es t) :
    view t = sys.final (view s) (es.filter visible) ∧
      sys.replies visible s es = sys.replies visible (view s) (es.filter visible) := by
  induction run with
  | nil s => exact ⟨rfl, rfl⟩
  | @cons s mid t e es allowed moved _ ih =>
      obtain rfl := Option.some.inj moved
      cases seen : visible e with
      | false =>
          rw [h.hidden s e seen] at ih
          simp only [List.filter_cons, seen, Bool.false_eq_true, if_false, System.replies]
          exact ih
      | true =>
          rw [h.step s e seen allowed] at ih
          simp only [List.filter_cons, seen, if_true, System.replies, System.final, List.foldl_cons]
          refine ⟨ih.1, ?_⟩
          rw [h.reply s e seen allowed, ih.2]

/-- Two runs with the same visible events end in the same view, with the same answers. -/
theorem Unwinding.agree (h : Unwinding sys visible view ok) {s t t' : σ} {es es' : List ε}
    (run : Run sys.next ok s es t) (run' : Run sys.next ok s es' t')
    (same : es.filter visible = es'.filter visible) :
    view t = view t' ∧ sys.replies visible s es = sys.replies visible s es' := by
  obtain ⟨final, replies⟩ := h.purge run
  obtain ⟨final', replies'⟩ := h.purge run'
  rw [final, final', replies, replies', same]
  exact ⟨rfl, rfl⟩

end Lib.NonInterference
