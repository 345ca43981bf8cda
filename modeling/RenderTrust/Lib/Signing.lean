import Mathlib.Logic.Function.Defs

/-!
# Signatures

Signatures that tell their key and their message, and those that can be formed from keys that are
held and signed messages that were seen.
-/
namespace Lib.Signing

structure Scheme (K P M S : Type*) where
  publicKey : K → P
  sign : K → M → S
  verify : P → S → M → Bool

variable {K P M S : Type*}

namespace Scheme
variable (scheme : Scheme K P M S)

structure Ideal : Prop where
  verify_iff : ∀ p s m,
    scheme.verify p s m = true ↔ ∃ k, scheme.publicKey k = p ∧ scheme.sign k m = s
  sign_injective : ∀ {k k' m m'}, scheme.sign k m = scheme.sign k' m' → k = k' ∧ m = m'
  publicKey_injective : Function.Injective scheme.publicKey

/-- What the holder of `keys` who has seen the signed messages `seen` can pass for a signature. -/
inductive Formed (keys : K → Prop) (seen : M → S → Prop) : S → Prop
  | taken {m : M} {s : S} : seen m s → Formed keys seen s
  | signed {k : K} (m : M) : keys k → Formed keys seen (scheme.sign k m)
  | void {s : S} : (∀ p m, scheme.verify p s m = false) → Formed keys seen s

variable {scheme}

theorem Ideal.verify_publicKey (ideal : scheme.Ideal) {k : K} {s : S} {m : M} :
    scheme.verify (scheme.publicKey k) s m = true ↔ scheme.sign k m = s := by
  rw [ideal.verify_iff]
  constructor
  · rintro ⟨k', same, signed⟩
    rw [← ideal.publicKey_injective same]
    exact signed
  · intro signed
    exact ⟨k, rfl, signed⟩

/-- A message that verifies under a key that is not held was seen with its signature. -/
theorem Formed.seen_of_verify {keys : K → Prop} {seen : M → S → Prop} (ideal : scheme.Ideal)
    (genuine : ∀ m s, seen m s → ∃ k, scheme.sign k m = s) {k : K} (secret : ¬ keys k) {s : S}
    {m : M} (formed : scheme.Formed keys seen s)
    (verified : scheme.verify (scheme.publicKey k) s m = true) : seen m s := by
  have signed := ideal.verify_publicKey.mp verified
  cases formed with
  | taken shown =>
      obtain ⟨k', signed'⟩ := genuine _ _ shown
      have same := ideal.sign_injective (signed.trans signed'.symm)
      rw [same.2]
      exact shown
  | signed m' held =>
      have same := ideal.sign_injective signed
      rw [same.1] at secret
      exact absurd held secret
  | void nowhere =>
      rw [nowhere] at verified
      cases verified

end Scheme
end Lib.Signing
