/-!
# Triples for programs with a state and exceptions

From every state in `P` the program ends in `Q` with a value, or in `E` with an
exception. The rules follow the shape of a `do` block.
-/
namespace Lib.Hoare

variable {ε σ α β : Type}

theorem run_bind_ok {x : EStateM ε σ α} {f : α → EStateM ε σ β} {a : α} {s t : σ}
    (h : x.run s = .ok a t) : (x >>= f).run s = (f a).run t := by
  rw [EStateM.run_bind, h]

theorem run_bind_error {x : EStateM ε σ α} {f : α → EStateM ε σ β} {e : ε} {s t : σ}
    (h : x.run s = .error e t) : (x >>= f).run s = .error e t := by
  rw [EStateM.run_bind, h]

def Ends (r : EStateM.Result ε σ α) (Q : α → σ → Prop) (E : ε → σ → Prop) : Prop :=
  match r with
  | .ok a t => Q a t
  | .error e t => E e t

instance (r : EStateM.Result ε σ α) (Q : α → σ → Prop) (E : ε → σ → Prop)
    [∀ a s, Decidable (Q a s)] [∀ e s, Decidable (E e s)] : Decidable (Ends r Q E) :=
  match r with
  | .ok a t => inferInstanceAs (Decidable (Q a t))
  | .error e t => inferInstanceAs (Decidable (E e t))

theorem Ends.imp {r : EStateM.Result ε σ α} {Q Q' : α → σ → Prop} {E E' : ε → σ → Prop}
    (h : Ends r Q E) (post : ∀ a t, Q a t → Q' a t) (raised : ∀ e t, E e t → E' e t) :
    Ends r Q' E' := by
  cases r with
  | ok a t => exact post a t h
  | error e t => exact raised e t h

def Triple (P : σ → Prop) (x : EStateM ε σ α) (Q : α → σ → Prop) (E : ε → σ → Prop) : Prop :=
  ∀ s, P s → Ends (x.run s) Q E

/-- The program keeps `I`, whether it raises or not. -/
abbrev Keeps (I : σ → Prop) (x : EStateM ε σ α) : Prop := Triple I x (fun _ => I) (fun _ => I)

namespace Triple
variable {P : σ → Prop} {x : EStateM ε σ α} {Q : α → σ → Prop} {E : ε → σ → Prop}

theorem ok {s t : σ} {a : α} (h : Triple P x Q E) (holds : P s) (ran : x.run s = .ok a t) :
    Q a t := by
  have ends := h s holds
  rwa [ran] at ends

theorem error {s t : σ} {e : ε} (h : Triple P x Q E) (holds : P s) (ran : x.run s = .error e t) :
    E e t := by
  have ends := h s holds
  rwa [ran] at ends

theorem ret {a : α} (h : ∀ s, P s → Q a s) : Triple P (pure a : EStateM ε σ α) Q E := h

theorem raise {e : ε} (h : ∀ s, P s → E e s) : Triple P (throw e : EStateM ε σ α) Q E := h

theorem bind {R : α → σ → Prop} {f : α → EStateM ε σ β} {Q : β → σ → Prop}
    (first : Triple P x R E) (rest : ∀ a, Triple (R a) (f a) Q E) : Triple P (x >>= f) Q E := by
  intro s holds
  have ends := first s holds
  rw [EStateM.run_bind]
  cases ran : x.run s with
  | ok a t =>
      rw [ran] at ends
      exact rest a t ends
  | error e t =>
      rw [ran] at ends
      exact ends

/-- From one state of `P`. -/
theorem start {s : σ} (h : Triple P x Q E) (holds : P s) : Triple (fun t => t = s) x Q E := by
  rintro t rfl
  exact h t holds

/-- What is read is the state the rest starts in. -/
theorem read {f : σ → EStateM ε σ α} (h : ∀ s, P s → Triple (fun t => t = s) (f s) Q E) :
    Triple P (get >>= f) Q E := by
  intro s holds
  rw [EStateM.run_bind, EStateM.run_get]
  exact h s holds s rfl

theorem write {f : σ → σ} {Q : Unit → σ → Prop} (h : ∀ s, P s → Q () (f s)) :
    Triple P (modify f : EStateM ε σ Unit) Q E := by
  intro s holds
  rw [EStateM.run_modify]
  exact h s holds

theorem ite {c : Prop} [Decidable c] {y : EStateM ε σ α} (yes : c → Triple P x Q E)
    (no : ¬ c → Triple P y Q E) : Triple P (if c then x else y) Q E := by
  split
  · rename_i holds
    exact yes holds
  · rename_i fails
    exact no fails

/-- A fact of the precondition that is not about the state. -/
theorem given {p : Prop} (h : p → Triple P x Q E) : Triple (fun s => p ∧ P s) x Q E :=
  fun s both => h both.1 s both.2

theorem weaken {P' : σ → Prop} {Q' : α → σ → Prop} (h : Triple P x Q E) (pre : ∀ s, P' s → P s)
    (post : ∀ a s, Q a s → Q' a s) : Triple P' x Q' E := by
  intro s holds
  have ends := h s (pre s holds)
  unfold Ends at ends ⊢
  split at ends
  · exact post _ _ ends
  · exact ends

theorem imp {E' : ε → σ → Prop} (h : Triple P x Q E) (raised : ∀ e s, E e s → E' e s) :
    Triple P x Q E' :=
  fun s holds => Ends.imp (h s holds) (fun _ _ ended => ended) raised

theorem forget {R : σ → Prop} (h : Triple P x (fun _ => R) E) :
    Triple P (discard x) (fun _ => R) E := by
  intro s holds
  have ends := h s holds
  change Ends (EStateM.map (Function.const α PUnit.unit) x s) (fun _ => R) E
  rw [EStateM.run] at ends
  unfold EStateM.map
  cases ran : x s with
  | ok a t =>
      rw [ran] at ends
      exact ends
  | error e t =>
      rw [ran] at ends
      exact ends

end Triple
end Lib.Hoare
