import Mathlib.Tactic.TypeStar

/-!
# Runs of a partial transition function

An event the state does not accept is `none`. A run may be restricted by a
condition on each event and the state it meets; the unrestricted runs are those
of the condition `Always`.
-/
namespace Lib.Runs

variable {σ ε : Type*}

def Always (_ : σ) (_ : ε) : Prop := True

instance (s : σ) (e : ε) : Decidable (Always s e) := inferInstanceAs (Decidable True)

/-- `Run step ok s es t`: every event of `es` meets `ok` in the state before it,
is accepted there, and the last state is `t`. -/
inductive Run (step : σ → ε → Option σ) (ok : σ → ε → Prop) : σ → List ε → σ → Prop
  | nil (s : σ) : Run step ok s [] s
  | cons {s t u : σ} {e : ε} {es : List ε} :
      ok s e → step s e = some t → Run step ok t es u → Run step ok s (e :: es) u

variable {step : σ → ε → Option σ} {ok : σ → ε → Prop}

theorem Run.invariant {I : σ → Prop}
    (keep : ∀ s e t, I s → ok s e → step s e = some t → I t)
    {s t : σ} {es : List ε} (h : Run step ok s es t) (hs : I s) : I t := by
  induction h with
  | nil s => exact hs
  | cons allowed accepted _ ih => exact ih (keep _ _ _ hs allowed accepted)

theorem Run.mono {ok' : σ → ε → Prop} (weaker : ∀ s e, ok s e → ok' s e) {s t : σ} {es : List ε}
    (h : Run step ok s es t) : Run step ok' s es t := by
  induction h with
  | nil s => exact .nil s
  | cons allowed accepted _ ih => exact .cons (weaker _ _ allowed) accepted ih

/-- The events of a run are those it is of. -/
theorem Run.among {s t : σ} {es : List ε} (h : Run step ok s es t) :
    Run step (fun s e => ok s e ∧ e ∈ es) s es t := by
  induction h with
  | nil s => exact .nil s
  | cons allowed accepted _ ih =>
      refine .cons ⟨allowed, List.mem_cons_self⟩ accepted (ih.mono ?_)
      intro s e both
      exact ⟨both.1, List.mem_cons_of_mem _ both.2⟩

def exec (step : σ → ε → Option σ) (ok : σ → ε → Prop) [∀ s e, Decidable (ok s e)] :
    σ → List ε → Option σ
  | s, [] => some s
  | s, e :: es => if ok s e then (step s e).bind (fun t => exec step ok t es) else none

theorem exec_eq_some [∀ s e, Decidable (ok s e)] {s t : σ} {es : List ε} :
    exec step ok s es = some t ↔ Run step ok s es t := by
  induction es generalizing s with
  | nil =>
      constructor
      · intro h
        cases h
        exact .nil _
      · intro h
        cases h
        rfl
  | cons e es ih =>
      constructor
      · intro h
        by_cases allowed : ok s e
        · simp only [exec, if_pos allowed, Option.bind_eq_some_iff] at h
          obtain ⟨mid, accepted, rest⟩ := h
          exact .cons allowed accepted (ih.mp rest)
        · simp only [exec, if_neg allowed, reduceCtorEq] at h
      · intro h
        cases h with
        | cons allowed accepted rest =>
            simp only [exec, if_pos allowed, accepted, Option.bind_some]
            exact ih.mpr rest

/-- Events that are all accepted have a run. -/
theorem run_of_isSome [∀ s e, Decidable (ok s e)] {s : σ} {es : List ε}
    (accepted : (exec step ok s es).isSome) : ∃ t, Run step ok s es t := by
  obtain ⟨t, final⟩ := Option.isSome_iff_exists.mp accepted
  exact ⟨t, exec_eq_some.mp final⟩

theorem run_of_any [∀ s e, Decidable (ok s e)] {p : σ → Bool} {s : σ} {es : List ε}
    (accepted : (exec step ok s es).any p) : ∃ t, Run step ok s es t ∧ p t := by
  obtain ⟨t, final, holds⟩ := (Option.any_eq_true _ _).mp accepted
  exact ⟨t, exec_eq_some.mp final, holds⟩

end Lib.Runs
