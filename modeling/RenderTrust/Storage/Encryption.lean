import Mathlib.Data.Set.Function
import RenderTrust.Lib.Aead

/-!
# `core/storage/encryption.py`

The payload is `[IV][tag][ciphertext]`, where AES-GCM has the tag behind the ciphertext. The cipher
and the derivation of keys are those of a library, and parameters; the random IV of a call is given.
-/
namespace RenderTrust.Storage
open Lib Lib.ByteString

def IV_LENGTH : ℕ := 12

def TAG_LENGTH : ℕ := 16

def KEY_LENGTH : ℕ := 32

def HKDF_INFO : Bytes := "rendertrust-storage-v1".toUTF8.toList

abbrev Iv := { iv : Bytes // iv.length = IV_LENGTH }

abbrev Key := { key : Bytes // key.length = KEY_LENGTH }

/-- `HKDF` with its salt, its context and the key that it is given, and `AESGCM`. -/
structure Cryptography where
  hkdf : Bytes → Bytes → Bytes → Key
  aesgcm : Aead Key Iv

inductive EncryptionError where
  | valueError (message : String)
  | invalidTag
  deriving DecidableEq, Repr

/-- What `bytes.fromhex` passes over between two bytes. -/
def asciiSpace (c : Char) : Bool := c = ' ' ∨ '\t' ≤ c ∧ c ≤ '\r'

/-- `bytes.fromhex`; `none` is a `ValueError`. -/
def fromHex : List Char → Option Bytes
  | [] => some []
  | [c] => if asciiSpace c then some [] else none
  | c :: d :: rest =>
      if asciiSpace c then fromHex (d :: rest)
      else match hexValue c, hexValue d, fromHex rest with
        | some h, some l, some bytes => some (UInt8.ofNat (h * 16 + l) :: bytes)
        | _, _, _ => none

structure EncryptionService where
  masterKey : Key
  deriving DecidableEq

namespace EncryptionService

def new (masterKey : String) : Except EncryptionError EncryptionService :=
  match fromHex masterKey.toList with
  | none => .error (.valueError "master_key must be a valid hex string")
  | some raw =>
      if size : raw.length = KEY_LENGTH then .ok ⟨⟨raw, size⟩⟩
      else .error (.valueError ("master_key must be " ++ toString KEY_LENGTH ++ " bytes (" ++
        toString (KEY_LENGTH * 2) ++ " hex chars)"))

variable (crypto : Cryptography) (svc : EncryptionService)

def deriveUserKey (userId : String) : Key :=
  crypto.hkdf userId.toUTF8.toList HKDF_INFO svc.masterKey.val

def encrypt (iv : Iv) (data : Bytes) (userId : String) : Bytes :=
  let key := svc.deriveUserKey crypto userId
  let ctWithTag := crypto.aesgcm.encrypt key iv data
  let ciphertext := ctWithTag.take (ctWithTag.length - TAG_LENGTH)
  let tag := ctWithTag.drop (ctWithTag.length - TAG_LENGTH)
  iv.val ++ tag ++ ciphertext

def decrypt (encryptedData : Bytes) (userId : String) : Except EncryptionError Bytes :=
  let minLength := IV_LENGTH + TAG_LENGTH
  if short : encryptedData.length < minLength then
    .error (.valueError ("encrypted_data too short: expected at least " ++ toString minLength ++
      " bytes, got " ++ toString encryptedData.length))
  else
    let iv : Iv := ⟨encryptedData.take IV_LENGTH, by
      rw [List.length_take]
      omega⟩
    let tag := (encryptedData.drop IV_LENGTH).take TAG_LENGTH
    let ciphertext := encryptedData.drop (IV_LENGTH + TAG_LENGTH)
    let key := svc.deriveUserKey crypto userId
    match crypto.aesgcm.decrypt key iv (ciphertext ++ tag) with
    | some data => .ok data
    | none => .error .invalidTag

/-- `self` is not read. -/
def rotateKey (oldMasterKey newMasterKey userId : String) (encryptedData : Bytes) (iv : Iv) :
    Except EncryptionError Bytes := do
  let oldSvc ← new oldMasterKey
  let newSvc ← new newMasterKey
  let plaintext ← oldSvc.decrypt crypto encryptedData userId
  return newSvc.encrypt crypto iv plaintext userId

end EncryptionService

/-! ## One payload -/

section Payload
variable {crypto : Cryptography} {svc : EncryptionService} {iv : Iv} {data blob : Bytes}
  {userId : String}

/-- The parts of a payload are those that are read from it. -/
theorem parts (iv : Iv) {tag : Bytes} (tagged : tag.length = TAG_LENGTH) (ciphertext : Bytes) :
    (iv.val ++ tag ++ ciphertext).take IV_LENGTH = iv.val ∧
      ((iv.val ++ tag ++ ciphertext).drop IV_LENGTH).take TAG_LENGTH = tag ∧
      (iv.val ++ tag ++ ciphertext).drop (IV_LENGTH + TAG_LENGTH) = ciphertext := by
  have first := iv.property
  have front : (iv.val ++ tag).length = IV_LENGTH + TAG_LENGTH := by
    rw [List.length_append, first, tagged]
  refine ⟨?_, ?_, List.drop_left' front⟩
  · rw [List.append_assoc]
    exact List.take_left' first
  · rw [List.append_assoc, List.drop_left' first]
    exact List.take_left' tagged

theorem length_encrypt (authentic : crypto.aesgcm.Authentic TAG_LENGTH) :
    (svc.encrypt crypto iv data userId).length = data.length + 28 := by
  have sealed := authentic.length (svc.deriveUserKey crypto userId) iv data
  have first := iv.property
  simp only [EncryptionService.encrypt, List.length_append, List.length_take, List.length_drop]
  rw [sealed, first]
  simp only [TAG_LENGTH, IV_LENGTH]
  omega

/-- What is decrypted, if the payload is long enough: the tag is put behind the ciphertext. -/
theorem decrypt_parts (iv : Iv) {tag : Bytes} (tagged : tag.length = TAG_LENGTH)
    (ciphertext : Bytes) :
    svc.decrypt crypto (iv.val ++ tag ++ ciphertext) userId =
      match crypto.aesgcm.decrypt (svc.deriveUserKey crypto userId) iv (ciphertext ++ tag) with
      | some data => .ok data
      | none => .error .invalidTag := by
  have long : ¬ (iv.val ++ tag ++ ciphertext).length < IV_LENGTH + TAG_LENGTH := by
    rw [List.length_append, List.length_append, iv.property, tagged]
    omega
  obtain ⟨first, second, third⟩ := parts iv tagged ciphertext
  rw [EncryptionService.decrypt, dif_neg long]
  simp only [first, second, third]

/-- Under any key: the blob is opened as the cipher opens the ciphertext. -/
theorem decrypt_encrypt_as {other : EncryptionService} {user : String}
    (authentic : crypto.aesgcm.Authentic TAG_LENGTH) :
    other.decrypt crypto (svc.encrypt crypto iv data userId) user =
      match crypto.aesgcm.decrypt (other.deriveUserKey crypto user) iv
        (crypto.aesgcm.encrypt (svc.deriveUserKey crypto userId) iv data) with
      | some data => .ok data
      | none => .error .invalidTag := by
  have sealed := authentic.length (svc.deriveUserKey crypto userId) iv data
  rw [EncryptionService.encrypt, decrypt_parts iv (by rw [List.length_drop]; omega),
    List.take_append_drop]

theorem decrypt_encrypt (authentic : crypto.aesgcm.Authentic TAG_LENGTH) :
    svc.decrypt crypto (svc.encrypt crypto iv data userId) userId = .ok data := by
  rw [decrypt_encrypt_as authentic, authentic.correct]

theorem decrypt_valueError_iff :
    (∃ message, svc.decrypt crypto blob userId = .error (.valueError message)) ↔
      blob.length < 28 := by
  have bound : IV_LENGTH + TAG_LENGTH = 28 := rfl
  by_cases short : blob.length < IV_LENGTH + TAG_LENGTH
  · rw [EncryptionService.decrypt, dif_pos short]
    exact iff_of_true ⟨_, rfl⟩ short
  · refine iff_of_false ?_ short
    intro ⟨message, raised⟩
    rw [EncryptionService.decrypt, dif_neg short] at raised
    dsimp only at raised
    split at raised
    · cases raised
    · cases raised

/-- Only what was encrypted is accepted, byte for byte. -/
theorem decrypt_ok_iff (authentic : crypto.aesgcm.Authentic TAG_LENGTH) :
    svc.decrypt crypto blob userId = .ok data ↔
      ∃ iv, blob = svc.encrypt crypto iv data userId := by
  constructor
  · intro accepted
    by_cases short : blob.length < IV_LENGTH + TAG_LENGTH
    · rw [EncryptionService.decrypt, dif_pos short] at accepted
      cases accepted
    · have first : (blob.take IV_LENGTH).length = IV_LENGTH := by
        rw [List.length_take]
        omega
      have tagged : ((blob.drop IV_LENGTH).take TAG_LENGTH).length = TAG_LENGTH := by
        rw [List.length_take, List.length_drop]
        omega
      have whole : blob.take IV_LENGTH ++ (blob.drop IV_LENGTH).take TAG_LENGTH ++
          blob.drop (IV_LENGTH + TAG_LENGTH) = blob := by
        rw [← List.drop_drop, List.append_assoc, List.take_append_drop, List.take_append_drop]
      refine ⟨⟨blob.take IV_LENGTH, first⟩, ?_⟩
      rw [← whole, decrypt_parts ⟨blob.take IV_LENGTH, first⟩ tagged] at accepted
      cases opened : crypto.aesgcm.decrypt (svc.deriveUserKey crypto userId)
          ⟨blob.take IV_LENGTH, first⟩
          (blob.drop (IV_LENGTH + TAG_LENGTH) ++ (blob.drop IV_LENGTH).take TAG_LENGTH) with
      | none =>
          rw [opened] at accepted
          cases accepted
      | some data' =>
          rw [opened] at accepted
          cases accepted
          have made := authentic.decrypt_iff.mp opened
          rw [EncryptionService.encrypt]
          dsimp only
          rw [← made, List.length_append, tagged, Nat.add_sub_cancel, List.take_left,
            List.drop_left, whole]
  · intro ⟨iv, made⟩
    rw [made, decrypt_encrypt authentic]

end Payload

/-! ## Chains of rotations -/

/-- Each rotation is from the key of the one before; with each key comes the IV of its payload. -/
def rotateAll (crypto : Cryptography) (userId : String) :
    String → Bytes → List (String × Iv) → Except EncryptionError Bytes
  | _, blob, [] => .ok blob
  | old, blob, (new, iv) :: rest =>
      match EncryptionService.rotateKey crypto old new userId blob iv with
      | .ok rotated => rotateAll crypto userId new rotated rest
      | .error e => .error e

def lastKey (first : String) (keys : List (String × Iv)) : String :=
  keys.foldl (fun _ key => key.1) first

def valid (masterKey : String) : Bool := (EncryptionService.new masterKey).isOk

section Chains
variable {crypto : Cryptography} {first : String} {keys : List (String × Iv)} {data : Bytes}
  {userId : String} {svc : EncryptionService}

theorem exists_service {masterKey : String} (good : valid masterKey) :
    ∃ svc, EncryptionService.new masterKey = .ok svc := by
  unfold valid at good
  cases made : EncryptionService.new masterKey with
  | ok svc => exact ⟨svc, rfl⟩
  | error e =>
      rw [made] at good
      cases good

/-- A chain leaves an encryption under its last key. -/
theorem rotateAll_eq (authentic : crypto.aesgcm.Authentic TAG_LENGTH) (iv : Iv)
    (made : EncryptionService.new first = .ok svc) (good : ∀ key ∈ keys, valid key.1) :
    ∃ last lastIv, EncryptionService.new (lastKey first keys) = .ok last ∧
      rotateAll crypto userId first (svc.encrypt crypto iv data userId) keys =
        .ok (last.encrypt crypto lastIv data userId) := by
  induction keys generalizing first svc iv with
  | nil => exact ⟨svc, iv, made, rfl⟩
  | cons key keys ih =>
      obtain ⟨new, newIv⟩ := key
      obtain ⟨newSvc, newMade⟩ := exists_service (good (new, newIv) List.mem_cons_self)
      have rotated : EncryptionService.rotateKey crypto first new userId
          (svc.encrypt crypto iv data userId) newIv =
            .ok (newSvc.encrypt crypto newIv data userId) := by
        rw [EncryptionService.rotateKey, made, newMade]
        change Except.bind (svc.decrypt crypto (svc.encrypt crypto iv data userId) userId) _ = _
        rw [decrypt_encrypt authentic]
        rfl
      obtain ⟨last, lastIv, ends, chain⟩ := ih newIv newMade
        fun key member => good key (List.mem_cons_of_mem _ member)
      refine ⟨last, lastIv, ends, ?_⟩
      simp only [rotateAll, rotated]
      exact chain

end Chains

/-- The key of a pair of a master key and a user. -/
def pairKey (crypto : Cryptography) (pair : Key × String) : Key :=
  (EncryptionService.mk pair.1).deriveUserKey crypto pair.2

structure PayloadFormat (crypto : Cryptography) (pairs : Set (Key × String)) : Prop where
  roundTrip : ∀ (svc : EncryptionService) iv data userId,
    svc.decrypt crypto (svc.encrypt crypto iv data userId) userId = .ok data ∧
      (svc.encrypt crypto iv data userId).length = data.length + 28
  rotated : ∀ first (keys : List (String × Iv)) (svc : EncryptionService) iv data userId,
    EncryptionService.new first = .ok svc → (∀ key ∈ keys, valid key.1) →
      ∃ blob last, EncryptionService.new (lastKey first keys) = .ok last ∧
        rotateAll crypto userId first (svc.encrypt crypto iv data userId) keys = .ok blob ∧
        last.decrypt crypto blob userId = .ok data ∧
        ∀ (other : EncryptionService) user, (last.masterKey, userId) ∈ pairs →
          (other.masterKey, user) ∈ pairs →
          (other.masterKey, user) ≠ (last.masterKey, userId) →
            other.decrypt crypto blob user = .error .invalidTag
  tooShort : ∀ (svc : EncryptionService) blob userId,
    (∃ message, svc.decrypt crypto blob userId = .error (.valueError message)) ↔ blob.length < 28
  genuine : ∀ (svc : EncryptionService) blob userId,
    (∃ data, svc.decrypt crypto blob userId = .ok data) ↔
      ∃ data iv, blob = svc.encrypt crypto iv data userId

/-- The cipher is authentic, and the pairs in use have keys of their own, to which it commits. -/
theorem payload_format (crypto : Cryptography) (pairs : Set (Key × String))
    (authentic : crypto.aesgcm.Authentic TAG_LENGTH) (distinct : pairs.InjOn (pairKey crypto))
    (committing : crypto.aesgcm.Committing (pairKey crypto '' pairs)) :
    PayloadFormat crypto pairs where
  roundTrip _ _ _ _ := ⟨decrypt_encrypt authentic, length_encrypt authentic⟩
  rotated first keys svc iv data userId made good := by
    obtain ⟨last, lastIv, ends, chain⟩ := rotateAll_eq authentic iv made good
    refine ⟨_, last, ends, chain, decrypt_encrypt authentic, ?_⟩
    intro other user mine theirs differs
    have apart : other.deriveUserKey crypto user ≠ last.deriveUserKey crypto userId :=
      fun same => differs (distinct theirs mine same)
    have closed : crypto.aesgcm.decrypt (other.deriveUserKey crypto user) lastIv
        (crypto.aesgcm.encrypt (last.deriveUserKey crypto userId) lastIv data) = none :=
      committing.decrypt_other authentic ⟨_, mine, rfl⟩ ⟨_, theirs, rfl⟩ apart
    rw [decrypt_encrypt_as authentic, closed]
  tooShort _ _ _ := decrypt_valueError_iff
  genuine svc blob userId := by
    constructor
    · intro ⟨data, accepted⟩
      obtain ⟨iv, made⟩ := (decrypt_ok_iff authentic).mp accepted
      exact ⟨data, iv, made⟩
    · intro ⟨data, iv, made⟩
      exact ⟨data, (decrypt_ok_iff authentic).mpr ⟨iv, made⟩⟩

/-! ## A cipher that marks its payload with the key -/

/-- The key begins with the salt, and the tag is the beginning of the key. -/
def markingCryptography : Cryptography where
  hkdf salt _ input := ⟨(salt ++ input ++ List.replicate 32 0).take KEY_LENGTH, by
    simp only [List.length_take, List.length_append, List.length_replicate, KEY_LENGTH]
    omega⟩
  aesgcm := {
    encrypt := fun key _ plain => plain ++ key.val.take TAG_LENGTH
    decrypt := fun key _ cipher =>
      if cipher.drop (cipher.length - TAG_LENGTH) = key.val.take TAG_LENGTH then
        some (cipher.take (cipher.length - TAG_LENGTH))
      else none }

theorem length_mark (key : Key) : (key.val.take TAG_LENGTH).length = TAG_LENGTH := by
  rw [List.length_take, key.property]
  rfl

theorem authentic_marking : markingCryptography.aesgcm.Authentic TAG_LENGTH where
  correct key _ plain := by
    have size := length_mark key
    simp only [markingCryptography, List.length_append, size, Nat.add_sub_cancel, List.drop_left,
      List.take_left, if_true]
  rejects key _ cipher plain opened := by
    obtain ⟨tagged, same⟩ := Option.ite_none_right_eq_some.mp opened
    refine ⟨cipher.take (cipher.length - TAG_LENGTH), ?_⟩
    change cipher = cipher.take (cipher.length - TAG_LENGTH) ++ key.val.take TAG_LENGTH
    rw [← tagged, List.take_append_drop]
  length key _ plain := by
    simp only [markingCryptography, List.length_append, length_mark]

/-- The cipher commits to keys with different tags. -/
theorem committing_marking {keys : Set Key}
    (marks : keys.InjOn fun key => key.val.take TAG_LENGTH) :
    markingCryptography.aesgcm.Committing keys := by
  intro key mine key' other iv cipher opened opened'
  obtain ⟨plain, made⟩ := Option.isSome_iff_exists.mp opened
  obtain ⟨plain', made'⟩ := Option.isSome_iff_exists.mp opened'
  obtain ⟨tag, _⟩ := Option.ite_none_right_eq_some.mp made
  obtain ⟨tag', _⟩ := Option.ite_none_right_eq_some.mp made'
  exact marks mine other (tag.symm.trans tag')

/-- Two master keys and two users. -/
def samplePairs : List (Key × String) :=
  [(⟨List.replicate 32 1, rfl⟩, "user-a"), (⟨List.replicate 32 2, rfl⟩, "user-a"),
    (⟨List.replicate 32 1, rfl⟩, "user-b")]

theorem payload_format_marking :
    PayloadFormat markingCryptography { pair | pair ∈ samplePairs } := by
  have marks : ∀ p ∈ samplePairs, ∀ q ∈ samplePairs,
      (pairKey markingCryptography p).val.take TAG_LENGTH =
        (pairKey markingCryptography q).val.take TAG_LENGTH → p = q := by decide +kernel
  refine payload_format _ _ authentic_marking ?_ (committing_marking ?_)
  · intro p mine q other same
    exact marks p mine q other (by rw [same])
  · intro key ⟨p, mine, hp⟩ key' ⟨q, other, hq⟩ same
    rw [← hp, ← hq] at same ⊢
    rw [marks p mine q other same]

end RenderTrust.Storage
