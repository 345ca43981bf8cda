import RenderTrust.Lib.Hkdf
import RenderTrust.Lib.Sha256
import RenderTrust.Storage.Encryption

/-!
# The keys of users

The id of a user is the salt of `HKDF`, and so the key of an HMAC: a short id is filled with zeros
to a block, a long one is replaced by its digest. Two ids that come to one block have one key.
-/
namespace RenderTrust.Storage
open Lib Lib.ByteString Lib.Hkdf

def SHA256 : Hash where
  digest := Sha256.sha256
  block := 64
  size := 32
  length_digest := Sha256.length_sha256
  size_pos := by decide
  size_le_block := by decide

theorem length_expand (prk info : Bytes) :
    (SHA256.expand prk info KEY_LENGTH).length = KEY_LENGTH := by
  have block : (SHA256.expandBlock prk info 1).length = KEY_LENGTH := SHA256.length_digest _
  change ((SHA256.expandBlock prk info 1 ++ []).take KEY_LENGTH).length = KEY_LENGTH
  rw [List.append_nil, List.length_take, block, Nat.min_self]

/-- `HKDF` of the library with `SHA256` and `KEY_LENGTH`, and a cipher. -/
def hkdfCryptography (aesgcm : Aead Key Iv) : Cryptography where
  hkdf salt info input := ⟨SHA256.derive salt info input KEY_LENGTH, length_expand _ _⟩
  aesgcm := aesgcm

/-- The salt of a user. -/
def salt (userId : String) : Bytes := userId.toUTF8.toList

/-- What is hashed for the key of a user. -/
def keyInputs (svc : EncryptionService) (userId : String) : List (Option Bytes) :=
  SHA256.deriveInputs (salt userId) HKDF_INFO svc.masterKey.val KEY_LENGTH

theorem toList_loop (bytes : ByteArray) (i : ℕ) (front : Bytes) :
    ByteArray.toList.loop bytes i front = front.reverse ++ bytes.data.toList.drop i := by
  fun_induction ByteArray.toList.loop bytes i front with
  | case1 i front inside ih =>
      have bound : i < bytes.data.toList.length := inside
      rw [ih, List.reverse_cons, List.append_assoc, List.drop_eq_getElem_cons bound]
      simp [ByteArray.get!, inside]
  | case2 i front outside =>
      rw [List.drop_eq_nil_of_le (not_lt.mp outside), List.append_nil]

theorem salt_injective : Function.Injective salt := by
  intro u v same
  have listed : ∀ bytes : ByteArray, bytes.toList = bytes.data.toList := by
    intro bytes
    rw [ByteArray.toList, toList_loop, List.reverse_nil, List.nil_append, List.drop_zero]
  unfold salt at same
  rw [listed, listed] at same
  exact String.toByteArray_inj.mp (ByteArray.ext (Array.toList_inj.mp same))

structure KeySeparation (aesgcm : Aead Key Iv) (svc : EncryptionService) (u v : String) : Prop where
  collides : svc.deriveUserKey (hkdfCryptography aesgcm) u =
      svc.deriveUserKey (hkdfCryptography aesgcm) v →
    Collision Sha256.sha256 (keyInputs svc u) (keyInputs svc v)
  isolated : ¬ Collision Sha256.sha256 (keyInputs svc u) (keyInputs svc v) → ∀ iv data,
    svc.decrypt (hkdfCryptography aesgcm) (svc.encrypt (hkdfCryptography aesgcm) iv data u) v =
        .error .invalidTag ∧
      svc.decrypt (hkdfCryptography aesgcm) (svc.encrypt (hkdfCryptography aesgcm) iv data v) u =
        .error .invalidTag

section Separation
variable {aesgcm : Aead Key Iv} {svc : EncryptionService} {u v : String}

theorem deriveUserKey_eq_iff :
    svc.deriveUserKey (hkdfCryptography aesgcm) u = svc.deriveUserKey (hkdfCryptography aesgcm) v ↔
      SHA256.derive (salt u) HKDF_INFO svc.masterKey.val KEY_LENGTH =
        SHA256.derive (salt v) HKDF_INFO svc.masterKey.val KEY_LENGTH :=
  Subtype.ext_iff

/-- A blob of a user with the same key is opened. -/
theorem decrypt_of_same_key (authentic : aesgcm.Authentic TAG_LENGTH)
    (same : svc.deriveUserKey (hkdfCryptography aesgcm) u =
      svc.deriveUserKey (hkdfCryptography aesgcm) v) (iv : Iv) (data : Bytes) :
    svc.decrypt (hkdfCryptography aesgcm) (svc.encrypt (hkdfCryptography aesgcm) iv data u) v =
      .ok data := by
  have authentic' : (hkdfCryptography aesgcm).aesgcm.Authentic TAG_LENGTH := authentic
  rw [decrypt_encrypt_as authentic', ← same, authentic'.correct]

/-- No blob is opened with another of the keys. -/
theorem decrypt_of_other_key {keys : Set Key} (authentic : aesgcm.Authentic TAG_LENGTH)
    (committing : aesgcm.Committing keys)
    (mine : svc.deriveUserKey (hkdfCryptography aesgcm) u ∈ keys)
    (other : svc.deriveUserKey (hkdfCryptography aesgcm) v ∈ keys)
    (differ : svc.deriveUserKey (hkdfCryptography aesgcm) v ≠
      svc.deriveUserKey (hkdfCryptography aesgcm) u) (iv : Iv) (data : Bytes) :
    svc.decrypt (hkdfCryptography aesgcm) (svc.encrypt (hkdfCryptography aesgcm) iv data u) v =
      .error .invalidTag := by
  have authentic' : (hkdfCryptography aesgcm).aesgcm.Authentic TAG_LENGTH := authentic
  have closed : (hkdfCryptography aesgcm).aesgcm.decrypt
      (svc.deriveUserKey (hkdfCryptography aesgcm) v) iv
      ((hkdfCryptography aesgcm).aesgcm.encrypt
        (svc.deriveUserKey (hkdfCryptography aesgcm) u) iv data) = none :=
    committing.decrypt_other authentic mine other differ
  rw [decrypt_encrypt_as authentic', closed]

end Separation

/-- Two users are kept apart, up to collisions of SHA-256, exactly if both ids are longer than a
block, or what stands for them differs in more than zeros at the end. -/
theorem keySeparation_iff (aesgcm : Aead Key Iv) (svc : EncryptionService) (u v : String)
    (differ : u ≠ v) (authentic : aesgcm.Authentic TAG_LENGTH)
    (committing : aesgcm.Committing {svc.deriveUserKey (hkdfCryptography aesgcm) u,
      svc.deriveUserKey (hkdfCryptography aesgcm) v}) :
    KeySeparation aesgcm svc u v ↔ SHA256.Separated (salt u) (salt v) := by
  have separated : (SHA256.derive (salt u) HKDF_INFO svc.masterKey.val KEY_LENGTH =
      SHA256.derive (salt v) HKDF_INFO svc.masterKey.val KEY_LENGTH →
        Collision SHA256.digest (keyInputs svc u) (keyInputs svc v)) ↔
      SHA256.Separated (salt u) (salt v) :=
    separated_iff (by decide) (salt_injective.ne differ)
  constructor
  · intro apart
    exact separated.mp fun same => apart.collides (deriveUserKey_eq_iff.mpr same)
  · intro apart
    have collides : svc.deriveUserKey (hkdfCryptography aesgcm) u =
        svc.deriveUserKey (hkdfCryptography aesgcm) v →
          Collision Sha256.sha256 (keyInputs svc u) (keyInputs svc v) :=
      fun same => separated.mpr apart (deriveUserKey_eq_iff.mp same)
    refine ⟨collides, fun free iv data => ?_⟩
    have keys : svc.deriveUserKey (hkdfCryptography aesgcm) u ≠
        svc.deriveUserKey (hkdfCryptography aesgcm) v := fun same => free (collides same)
    constructor
    · exact decrypt_of_other_key authentic committing (.inl rfl) (.inr rfl) keys.symm iv data
    · exact decrypt_of_other_key authentic committing (.inr rfl) (.inl rfl) keys iv data

def sampleService : EncryptionService := ⟨⟨List.replicate 32 0x2A, rfl⟩⟩

theorem keySeparation_users :
    KeySeparation markingCryptography.aesgcm sampleService "user-a" "user-b" := by
  have marks : (sampleService.deriveUserKey (hkdfCryptography markingCryptography.aesgcm)
      "user-a").val.take TAG_LENGTH ≠
        (sampleService.deriveUserKey (hkdfCryptography markingCryptography.aesgcm)
          "user-b").val.take TAG_LENGTH := by decide +kernel
  refine (keySeparation_iff _ _ _ _ (by decide) authentic_marking (committing_marking ?_)).mpr
    (by decide +kernel)
  intro key mine key' other same
  obtain rfl | rfl := mine
  · obtain rfl | rfl := other
    · rfl
    · exact absurd same marks
  · obtain rfl | rfl := other
    · exact absurd same.symm marks
    · rfl

/-- The zero at the end of an id is the one that HMAC would have put there: the users have one key,
nothing that was hashed for it collides, and a file of the one is opened as the other. -/
theorem shared_key :
    sampleService.deriveUserKey (hkdfCryptography markingCryptography.aesgcm) "user" =
        sampleService.deriveUserKey (hkdfCryptography markingCryptography.aesgcm) "user\x00" ∧
      ¬ HashTree.Collides Sha256.sha256 ((keyInputs sampleService "user").reduceOption ++
        (keyInputs sampleService "user\x00").reduceOption) ∧
      sampleService.decrypt (hkdfCryptography markingCryptography.aesgcm)
        (sampleService.encrypt (hkdfCryptography markingCryptography.aesgcm)
          ⟨List.replicate 12 7, rfl⟩ [1, 2, 3] "user") "user\x00" = .ok [1, 2, 3] := by
  have block : SHA256.blockKey (salt "user") = SHA256.blockKey (salt "user\x00") := by
    decide +kernel
  have key : sampleService.deriveUserKey (hkdfCryptography markingCryptography.aesgcm) "user" =
      sampleService.deriveUserKey (hkdfCryptography markingCryptography.aesgcm) "user\x00" :=
    deriveUserKey_eq_iff.mpr (derive_congr block)
  refine ⟨key, ?_, decrypt_of_same_key authentic_marking key _ _⟩
  have inputs : keyInputs sampleService "user\x00" = keyInputs sampleService "user" := by
    obtain ⟨rest, made, made'⟩ := deriveInputs_congr block
    have short : ¬ SHA256.block < (salt "user").length := by decide +kernel
    have short' : ¬ SHA256.block < (salt "user\x00").length := by decide +kernel
    rw [keyInputs, keyInputs, made, made', if_neg short, if_neg short']
  have digests : ((keyInputs sampleService "user").reduceOption.map Sha256.sha256).Nodup := by
    decide +kernel
  rw [inputs]
  intro collides
  refine HashTree.not_collides_of_nodup digests (collides.mono ?_)
  exact List.append_subset.mpr ⟨List.Subset.refl _, List.Subset.refl _⟩

end RenderTrust.Storage
