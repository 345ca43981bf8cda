import RenderTrust.Lib.NonInterference

/-!
# Forward simulation

A system simulates another one, over events and answers of another type, when a relation
between their states is kept by every event and the answers show the same.
-/
namespace Lib.Simulation
open Lib.Runs Lib.NonInterference

variable {σ τ ε ε' ο ο' : Type*}

/-- The answers of a run, in order. -/
def answers (sys : System σ ε ο) : σ → List ε → List ο
  | _, [] => []
  | s, e :: es => sys.reply s e :: answers sys (sys.step s e) es

structure Simulates (sys : System σ ε ο) (spec : System τ ε' ο') (related : σ → τ → Prop)
    (ok : σ → ε → Prop) (event : ε → ε') (shown : ο → ο') : Prop where
  step : ∀ s t e, related s t → ok s e → related (sys.step s e) (spec.step t (event e))
  reply : ∀ s t e, related s t → ok s e → shown (sys.reply s e) = spec.reply t (event e)

variable {sys : System σ ε ο} {spec : System τ ε' ο'} {related : σ → τ → Prop}
  {ok : σ → ε → Prop} {event : ε → ε'} {shown : ο → ο'}

/-- A whole run: related states at its end, and the same answers shown on the way. -/
theorem Simulates.run (h : Simulates sys spec related ok event shown) {s s' : σ} {t : τ}
    {es : List ε} (run : Run sys.next ok s es s') (start : related s t) :
    related s' (spec.final t (es.map event)) ∧
      (answers sys s es).map shown = answers spec t (es.map event) := by
  induction run generalizing t with
  | nil s => exact ⟨start, rfl⟩
  | @cons s mid s' e es allowed moved _ ih =>
      obtain rfl := Option.some.inj moved
      obtain ⟨final, rest⟩ := ih (h.step s t e start allowed)
      refine ⟨final, ?_⟩
      simp only [answers, List.map_cons]
      rw [h.reply s t e start allowed, rest]

end Lib.Simulation
