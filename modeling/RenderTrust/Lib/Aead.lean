import Mathlib.Data.Set.Defs
import RenderTrust.Lib.ByteString

/-!
# Authenticated encryption

A cipher with a key and a nonce whose decryption fails on what is no encryption. The properties are
hypotheses on a cipher; they are not computational, so they are asked of the keys in use only where
they cannot hold of all.
-/
namespace Lib
open ByteString

structure Aead (κ ν : Type*) where
  encrypt : κ → ν → Bytes → Bytes
  decrypt : κ → ν → Bytes → Option Bytes

namespace Aead
variable {κ ν : Type*} {aead : Aead κ ν} {overhead : ℕ} {keys : Set κ} {key key' : κ} {nonce : ν}
  {plain cipher : Bytes}

structure Authentic (aead : Aead κ ν) (overhead : ℕ) : Prop where
  correct : ∀ key nonce plain, aead.decrypt key nonce (aead.encrypt key nonce plain) = some plain
  rejects : ∀ key nonce cipher plain, aead.decrypt key nonce cipher = some plain →
    ∃ plain', cipher = aead.encrypt key nonce plain'
  length : ∀ key nonce plain, (aead.encrypt key nonce plain).length = plain.length + overhead

/-- No ciphertext is valid under two of the keys. -/
def Committing (aead : Aead κ ν) (keys : Set κ) : Prop :=
  ∀ key ∈ keys, ∀ key' ∈ keys, ∀ nonce cipher, (aead.decrypt key nonce cipher).isSome →
    (aead.decrypt key' nonce cipher).isSome → key = key'

theorem Authentic.decrypt_iff (authentic : aead.Authentic overhead) :
    aead.decrypt key nonce cipher = some plain ↔ cipher = aead.encrypt key nonce plain := by
  constructor
  · intro opened
    obtain ⟨plain', made⟩ := authentic.rejects key nonce cipher plain opened
    rw [made, authentic.correct] at opened
    rw [made, Option.some.inj opened]
  · intro made
    rw [made, authentic.correct]

theorem Committing.decrypt_other (committing : aead.Committing keys)
    (authentic : aead.Authentic overhead) (mine : key ∈ keys) (other : key' ∈ keys)
    (differs : key' ≠ key) : aead.decrypt key' nonce (aead.encrypt key nonce plain) = none := by
  cases opened : aead.decrypt key' nonce (aead.encrypt key nonce plain) with
  | none => rfl
  | some plain' =>
      have both := committing key mine key' other nonce (aead.encrypt key nonce plain)
        (by rw [authentic.correct]; rfl) (by rw [opened]; rfl)
      exact absurd both.symm differs

end Aead
end Lib
