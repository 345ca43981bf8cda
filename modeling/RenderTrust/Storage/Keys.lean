import RenderTrust.Lib.Separators
import RenderTrust.Lib.Unicode

/-!
# The keys of `core/storage/service.py`

The key of an object is `{user_id}/{job_id}/{filename}`. The components are checked when the key is
put together, and the whole key when it is used.
-/
namespace RenderTrust.Storage
open Lib

structure StorageKeyError where
  message : String
  deriving DecidableEq, Repr

/-- `part in text`. -/
def contains (part text : String) : Bool := part.toList <:+: text.toList

/-- `text.startswith(front)`. -/
def startswith (front text : String) : Bool := front.toList <+: text.toList

/-- `text.split(sep)`, at one character. -/
def split (sep : Char) (text : String) : List String := (text.toList.splitOn sep).map String.ofList

namespace StorageService

def validateKey (key : String) : Except StorageKeyError Unit :=
  if key = "" ∨ Unicode.strip key.toList = [] then .error ⟨"Storage key must not be empty"⟩
  else if startswith "/" key then .error ⟨"Storage key must not start with '/'"⟩
  else if contains ".." key then
    .error ⟨"Storage key must not contain '..' path traversal sequences"⟩
  else if contains "\x00" key then .error ⟨"Storage key must not contain null bytes"⟩
  else .ok ()

/-- The body of the loop of `build_key`. -/
def checkComponent (component : String × String) : Except StorageKeyError Unit :=
  let (name, value) := component
  if value = "" then .error ⟨name ++ " must not be empty"⟩
  else if contains "/" value || contains ".." value || contains "\x00" value then
    .error ⟨name ++ " contains invalid characters"⟩
  else .ok ()

/-- The default of `filename`. -/
def defaultFilename : String := "result"

def buildKey (userId jobId filename : String) : Except StorageKeyError String := do
  forM [("user_id", userId), ("job_id", jobId), ("filename", filename)] checkComponent
  return userId ++ "/" ++ jobId ++ "/" ++ filename

/-- What every component of a key is. -/
structure Clean (value : String) : Prop where
  nonempty : value ≠ ""
  separator : '/' ∉ value.toList
  traversal : ¬ ['.', '.'] <:+: value.toList
  null : '\x00' ∉ value.toList

theorem contains_singleton (c : Char) (text : String) :
    contains (String.singleton c) text = true ↔ c ∈ text.toList := by
  simp only [contains, String.toList_singleton, decide_eq_true_eq, List.singleton_infix_iff]

theorem checkComponent_iff (name value : String) :
    checkComponent (name, value) = .ok () ↔ Clean value := by
  have separator : contains "/" value = true ↔ '/' ∈ value.toList := contains_singleton '/' value
  have null : contains "\x00" value = true ↔ '\x00' ∈ value.toList :=
    contains_singleton '\x00' value
  have traversal : contains ".." value = true ↔ ['.', '.'] <:+: value.toList := decide_eq_true_iff
  simp only [checkComponent]
  split
  · next empty => exact ⟨nofun, fun clean => absurd empty clean.nonempty⟩
  · next nonempty =>
      split
      · next invalid =>
          rw [Bool.or_eq_true, Bool.or_eq_true, separator, traversal, null] at invalid
          refine ⟨nofun, fun clean => ?_⟩
          rcases invalid with (slash | dots) | zero
          · exact absurd slash clean.separator
          · exact absurd dots clean.traversal
          · exact absurd zero clean.null
      · next valid =>
          rw [Bool.or_eq_true, Bool.or_eq_true, separator, traversal, null, not_or, not_or] at valid
          exact ⟨fun _ => ⟨nonempty, valid.1.1, valid.1.2, valid.2⟩, fun _ => rfl⟩

/-- The loop passes when every component does. -/
theorem components_iff (components : List (String × String)) :
    forM components checkComponent = .ok () ↔ ∀ component ∈ components, Clean component.2 := by
  induction components with
  | nil => exact ⟨fun _ _ member => absurd member List.not_mem_nil, fun _ => rfl⟩
  | cons component components ih =>
      rw [List.forall_mem_cons, ← ih, ← checkComponent_iff component.1 component.2, List.forM_cons]
      cases checkComponent component with
      | error e => exact ⟨nofun, fun both => nomatch both.1⟩
      | ok _ => exact ⟨fun rest => ⟨rfl, rest⟩, And.right⟩

theorem buildKey_iff (userId jobId filename key : String) :
    buildKey userId jobId filename = .ok key ↔
      (∀ value ∈ [userId, jobId, filename], Clean value) ∧
        userId ++ "/" ++ jobId ++ "/" ++ filename = key := by
  have components := components_iff [("user_id", userId), ("job_id", jobId), ("filename", filename)]
  simp only [List.forall_mem_cons, List.not_mem_nil, false_implies, implies_true] at components ⊢
  rw [← components, buildKey]
  cases forM [("user_id", userId), ("job_id", jobId), ("filename", filename)] checkComponent with
  | error e => exact ⟨nofun, fun both => nomatch both.1⟩
  | ok _ => exact ⟨fun built => ⟨rfl, Except.ok.inj built⟩, fun both => congrArg _ both.2⟩

theorem buildKey_error_iff (userId jobId filename : String) :
    (∃ e, buildKey userId jobId filename = .error e) ↔
      ∃ value ∈ [userId, jobId, filename], ¬ Clean value := by
  constructor
  · rintro ⟨e, refused⟩
    by_contra none
    push Not at none
    rw [(buildKey_iff ..).mpr ⟨none, rfl⟩] at refused
    cases refused
  · rintro ⟨value, member, unclean⟩
    cases built : buildKey userId jobId filename with
    | error e => exact ⟨e, rfl⟩
    | ok key => exact absurd (((buildKey_iff ..).mp built).1 value member) unclean

theorem not_clean_iff (value : String) :
    ¬ Clean value ↔
      value = "" ∨ contains "/" value ∨ contains ".." value ∨ contains "\x00" value := by
  rw [← checkComponent_iff "", checkComponent]
  by_cases empty : value = "" <;> cases contains "/" value <;> cases contains ".." value <;>
    cases contains "\x00" value <;> simp [empty]

theorem validateKey_of {key : String} (black : Unicode.strip key.toList ≠ [])
    (relative : startswith "/" key = false) (straight : contains ".." key = false)
    (null : contains "\x00" key = false) : validateKey key = .ok () := by
  have nonempty : key ≠ "" := by
    rintro rfl
    exact black rfl
  rw [validateKey, if_neg (not_or.mpr ⟨nonempty, black⟩), relative, straight, null]
  rfl

/-- The characters of a key. -/
theorem key_toList (userId jobId filename : String) :
    (userId ++ "/" ++ jobId ++ "/" ++ filename).toList =
      userId.toList ++ '/' :: (jobId.toList ++ '/' :: filename.toList) := by
  simp [String.toList_append]

/-- A text without a slash lies in a key where it lies in a component. -/
theorem contains_key_iff {part : String} (foreign : '/' ∉ part.toList)
    (userId jobId filename : String) :
    contains part (userId ++ "/" ++ jobId ++ "/" ++ filename) ↔
      ∃ value ∈ [userId, jobId, filename], contains part value := by
  simp only [contains, decide_eq_true_eq, key_toList, Separators.infix_iff foreign,
    List.exists_mem_cons_iff, List.not_mem_nil, false_and, exists_false, or_false]

section Keys

variable {userId jobId filename key : String}
  (built : buildKey userId jobId filename = .ok key)
include built

/-- A key starts with the name of a user only where it is this user's. -/
theorem owner_of_startswith {other : String} (named : '/' ∉ other.toList)
    (begins : startswith (other ++ "/") key) : other = userId := by
  obtain ⟨clean, rfl⟩ := (buildKey_iff ..).mp built
  have user : Clean userId := clean userId List.mem_cons_self
  rw [startswith, decide_eq_true_eq, key_toList, String.toList_append] at begins
  exact String.toList_inj.mp (Separators.first_of_prefix named user.separator begins)

theorem validateKey_build : validateKey key = .ok () := by
  have relative : startswith "/" key = false := by
    by_contra begins
    have owner : "" = userId := owner_of_startswith built List.not_mem_nil (by simpa using begins)
    exact (((buildKey_iff ..).mp built).1 userId List.mem_cons_self).nonempty owner.symm
  obtain ⟨clean, rfl⟩ := (buildKey_iff ..).mp built
  have slash : '/' ∈ (userId ++ "/" ++ jobId ++ "/" ++ filename).toList := by
    rw [key_toList]
    exact List.mem_append_right _ List.mem_cons_self
  refine validateKey_of (Unicode.strip_ne_nil slash rfl) relative ?_ ?_
  · rw [Bool.eq_false_iff, Ne, contains_key_iff (by decide)]
    rintro ⟨value, member, dots⟩
    exact (clean value member).traversal (decide_eq_true_iff.mp dots)
  · rw [Bool.eq_false_iff, Ne, contains_key_iff (by decide)]
    rintro ⟨value, member, null⟩
    exact (clean value member).null ((contains_singleton _ _).mp null)

theorem split_build : split '/' key = [userId, jobId, filename] := by
  obtain ⟨clean, rfl⟩ := (buildKey_iff ..).mp built
  simp only [List.forall_mem_cons, List.not_mem_nil, false_implies, implies_true, and_true] at clean
  obtain ⟨user, job, file⟩ := clean
  rw [split, key_toList, List.splitOn_append_cons_self_of_not_mem user.separator,
    List.splitOn_append_cons_self_of_not_mem job.separator,
    List.splitOn_eq_singleton file.separator]
  simp only [List.map_cons, List.map_nil, String.ofList_toList]

end Keys

theorem keys_user_scoped :
    (∀ userId jobId filename key, buildKey userId jobId filename = .ok key →
      validateKey key = .ok () ∧ split '/' key = [userId, jobId, filename]) ∧
    (∀ userId jobId filename userId' jobId' filename' key,
      buildKey userId jobId filename = .ok key → buildKey userId' jobId' filename' = .ok key →
        userId = userId' ∧ jobId = jobId' ∧ filename = filename') ∧
    (∀ userId jobId filename key userId' jobId' filename' key',
      buildKey userId jobId filename = .ok key → buildKey userId' jobId' filename' = .ok key' →
        userId ≠ userId' → startswith (userId' ++ "/") key = false) ∧
    ∀ userId jobId filename, (∃ e, buildKey userId jobId filename = .error e) ↔
      ∃ value ∈ [userId, jobId, filename],
        value = "" ∨ contains "/" value ∨ contains ".." value ∨ contains "\x00" value := by
  refine ⟨fun userId jobId filename key built => ⟨validateKey_build built, split_build built⟩,
    ?_, ?_, ?_⟩
  · intro userId jobId filename userId' jobId' filename' key built built'
    have same : [userId, jobId, filename] = [userId', jobId', filename'] := by
      rw [← split_build built, split_build built']
    simpa using same
  · intro userId jobId filename key userId' jobId' filename' key' built built' distinct
    by_contra begins
    rw [Bool.not_eq_false] at begins
    have other : Clean userId' := ((buildKey_iff ..).mp built').1 userId' List.mem_cons_self
    exact distinct (owner_of_startswith built other.separator begins).symm
  · intro userId jobId filename
    rw [buildKey_error_iff]
    simp only [not_clean_iff]

example : buildKey "user-abc" "job-def" defaultFilename = .ok "user-abc/job-def/result" := by decide

end StorageService
end RenderTrust.Storage
