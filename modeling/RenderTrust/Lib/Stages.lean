import Mathlib.Data.Nat.Notation
import RenderTrust.Lib.Hoare

/-!
# Programs that remember the states they pass

A program runs in stages and keeps the state before each of them, the newest first. The
same program without the memory is its erasure.
-/
namespace Lib.Stages
open Lib.Hoare

variable {ε σ α β : Type}

abbrev Staged (ε σ α : Type) := EStateM ε (σ × List σ) α

def stage (x : EStateM ε σ α) : Staged ε σ α := fun w =>
  match x.run w.1 with
  | .ok a t => .ok a (t, w.1 :: w.2)
  | .error e t => .error e (t, w.1 :: w.2)

theorem run_stage_ok {x : EStateM ε σ α} {a : α} {w : σ × List σ} {t : σ}
    (h : x.run w.1 = .ok a t) : (stage x).run w = .ok a (t, w.1 :: w.2) := by
  change stage x w = _
  rw [stage, h]

theorem run_stage_error {x : EStateM ε σ α} {e : ε} {w : σ × List σ} {t : σ}
    (h : x.run w.1 = .error e t) : (stage x).run w = .error e (t, w.1 :: w.2) := by
  change stage x w = _
  rw [stage, h]

theorem keeps_stage {I : σ → Prop} {x : EStateM ε σ α} (h : Keeps I x) :
    Keeps (fun w => I w.1) (stage x) := by
  intro w holds
  have ends := h w.1 holds
  cases ran : x.run w.1 with
  | ok a t =>
      rw [ran] at ends
      rw [run_stage_ok ran]
      exact ends
  | error e t =>
      rw [ran] at ends
      rw [run_stage_error ran]
      exact ends

/-! ## Erasure -/

/-- Without what it remembers, `p` does what `x` does. -/
def Erases (p : Staged ε σ α) (x : EStateM ε σ α) : Prop :=
  ∀ w, match p.run w with
    | .ok a w' => x.run w.1 = .ok a w'.1
    | .error e w' => x.run w.1 = .error e w'.1

theorem Erases.stage (x : EStateM ε σ α) : Erases (stage x) x := by
  intro w
  cases ran : x.run w.1 with
  | ok a t => rw [run_stage_ok ran]
  | error e t => rw [run_stage_error ran]

theorem Erases.ret (a : α) : Erases (pure a : Staged ε σ α) (pure a) := fun _ => rfl

theorem Erases.bind {p : Staged ε σ α} {x : EStateM ε σ α} {f : α → Staged ε σ β}
    {g : α → EStateM ε σ β} (first : Erases p x) (rest : ∀ a, Erases (f a) (g a)) :
    Erases (p >>= f) (x >>= g) := by
  intro w
  have here := first w
  rw [EStateM.run_bind, EStateM.run_bind]
  cases ran : p.run w with
  | ok a w' =>
      rw [ran] at here
      rw [here]
      exact rest a w'
  | error e w' =>
      rw [ran] at here
      rw [here]

theorem Erases.ite {c : Prop} [Decidable c] {p q : Staged ε σ α} {x y : EStateM ε σ α}
    (yes : Erases p x) (no : Erases q y) : Erases (if c then p else q) (if c then x else y) := by
  split
  · exact yes
  · exact no

/-! ## Paths -/

/-- From `s` to `t` through `past`, newest first, by steps of `R`. -/
inductive Path (R : σ → σ → Prop) (s : σ) : σ → List σ → Prop
  | start : Path R s s []
  | next {t u : σ} {past : List σ} : Path R s t past → R t u → Path R s u (t :: past)

variable {R : σ → σ → Prop} {s t : σ} {past : List σ}

theorem Path.invariant {I : σ → Prop} (h : Path R s t past) (keep : ∀ u v, R u v → I u → I v)
    (first : I s) : I t := by
  induction h with
  | start => exact first
  | next _ step ih => exact keep _ _ step ih

theorem Path.trans {u : σ} {later : List σ} (first : Path R s t past) (rest : Path R t u later) :
    Path R s u (later ++ past) := by
  induction rest with
  | start => exact first
  | next _ step ih => exact .next ih step

/-- The invariant holds of every state of the path. -/
theorem Path.all {I : σ → Prop} (h : Path R s t past) (keep : ∀ u v, R u v → I u → I v)
    (first : I s) : ∀ u ∈ t :: past, I u := by
  induction h with
  | start =>
      intro u member
      rw [List.mem_singleton.mp member]
      exact first
  | next before step ih =>
      intro u member
      rcases List.mem_cons.mp member with rfl | earlier
      · exact keep _ _ step (before.invariant keep first)
      · exact ih u earlier

/-- What every step keeps, a later state has from each earlier one. -/
theorem Path.pairwise {T : σ → σ → Prop} (h : Path R s t past)
    (trans : ∀ u v w, T u v → T v w → T u w) (step : ∀ u v, R u v → T u v) :
    (t :: past).Pairwise fun later earlier => T earlier later := by
  induction h with
  | start => exact List.pairwise_singleton _ _
  | next before move ih =>
      refine List.pairwise_cons.mpr ⟨fun u member => ?_, ih⟩
      rcases List.mem_cons.mp member with rfl | earlier
      · exact step _ _ move
      · exact trans _ _ _ (List.rel_of_pairwise_cons ih earlier) (step _ _ move)

/-- A weaker relation of the steps, where the invariant helps. -/
theorem Path.weaken {R' : σ → σ → Prop} {I : σ → Prop} (h : Path R s t past)
    (keep : ∀ u v, R u v → I u → I v) (weaker : ∀ u v, I u → R u v → R' u v) (first : I s) :
    Path R' s t past := by
  induction h with
  | start => exact .start
  | next before step ih => exact .next ih (weaker _ _ (before.invariant keep first) step)

theorem Path.mono {R' : σ → σ → Prop} (h : Path R s t past) (weaker : ∀ u v, R u v → R' u v) :
    Path R' s t past :=
  h.weaken (I := fun _ => True) (fun _ _ _ _ => trivial) (fun u v _ => weaker u v) trivial

/-- How many steps of the path are of the kind `p`. -/
def steps (p : σ → σ → Bool) : σ → List σ → ℕ
  | _, [] => 0
  | t, u :: past => steps p u past + if p u t then 1 else 0

/-- A number that goes up by one with each such step, and only then, counts them. -/
theorem Path.counts {f : σ → ℕ} {p : σ → σ → Bool} (h : Path R s t past)
    (counts : ∀ u v, R u v → f v = f u + if p u v then 1 else 0) :
    f t = f s + steps p t past := by
  induction h with
  | start => rfl
  | next _ step ih => rw [counts _ _ step, ih, steps, Nat.add_assoc]

/-- A stage makes one step. -/
theorem along {P : σ → Prop} {x : EStateM ε σ α} {Q : α → σ → Prop} {E : ε → σ → Prop}
    (h : ∀ u, P u → Ends (x.run u) (fun a v => R u v ∧ Q a v) (fun e v => R u v ∧ E e v)) :
    Triple (fun w => P w.1 ∧ Path R s w.1 w.2) (stage x)
      (fun a w => Q a w.1 ∧ Path R s w.1 w.2) (fun e w => E e w.1 ∧ Path R s w.1 w.2) := by
  rintro ⟨u, past⟩ ⟨holds, path⟩
  have ends := h u holds
  cases ran : x.run u with
  | ok a v =>
      rw [ran] at ends
      rw [run_stage_ok (w := (u, past)) ran]
      exact ⟨ends.2, path.next ends.1⟩
  | error e v =>
      rw [ran] at ends
      rw [run_stage_error (w := (u, past)) ran]
      exact ⟨ends.2, path.next ends.1⟩

end Lib.Stages
