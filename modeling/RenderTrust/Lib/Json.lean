import Mathlib.Data.Rat.Defs

/-!
# JSON values
-/
namespace Lib

inductive Json where
  | null
  | bool (b : Bool)
  | num (x : ℚ)
  | str (s : String)
  | arr (items : List Json)
  | obj (fields : List (String × Json))

namespace Json

/-- `s == value` for a Python string `s`. -/
def isStr (value : Json) (s : String) : Bool :=
  match value with
  | .str t => t = s
  | _ => false

/-- `bool(value)`. -/
def truthy : Json → Bool
  | .null => false
  | .bool b => b
  | .num x => x ≠ 0
  | .str s => s ≠ ""
  | .arr items => !items.isEmpty
  | .obj fields => !fields.isEmpty

/-- A list and a dictionary have no hash. -/
def hashable : Json → Bool
  | .arr _ => false
  | .obj _ => false
  | _ => true

/-- `isinstance(value, list) and s in value`. -/
def listHas (value : Json) (s : String) : Bool :=
  match value with
  | .arr items => items.any fun item => item.isStr s
  | _ => false

theorem isStr_iff {value : Json} {s : String} : value.isStr s ↔ value = .str s := by
  cases value <;> simp [isStr]

theorem listHas_iff {value : Json} {s : String} :
    value.listHas s ↔ ∃ items, value = .arr items ∧ .str s ∈ items := by
  cases value <;> simp [listHas, isStr_iff]

/-- `value.get(key) == s` of a dictionary. -/
def getIs (fields : List (String × Json)) (key s : String) : Bool :=
  (fields.lookup key).any fun value => value.isStr s

theorem getIs_unique {fields : List (String × Json)} {key s t : String} (first : getIs fields key s)
    (second : getIs fields key t) : s = t := by
  unfold getIs at first second
  cases found : fields.lookup key with
  | none =>
      rw [found] at first
      cases first
  | some value =>
      rw [found] at first second
      cases value with
      | str u => exact (of_decide_eq_true first).symm.trans (of_decide_eq_true second)
      | null | bool | num | arr | obj => cases first

end Json
end Lib
