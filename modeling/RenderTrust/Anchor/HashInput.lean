import RenderTrust.Anchor.Models
import RenderTrust.Lib.Calendar
import RenderTrust.Lib.Decimal
import RenderTrust.Lib.Separators

/-!
# The text of an entry says what the entry is

An account and a timestamp may have the separator in them, an id and a numeral have not: the text is
read from both ends. The timestamp is found by the last `T`.
-/
namespace RenderTrust.Anchor
open Lib Lib.Separators

/-! ## The parts of a text -/

theorem toList_padded (width n : ℕ) : (padded width n).toList = Date.padded width n := by
  unfold padded Date.padded
  rw [String.toList_append, String.toList_ofList, Nat.toString_eq_repr, Nat.toList_repr,
    ← String.length_toList, Nat.toList_repr]

theorem isDigit_of_mem_padded {width n : ℕ} {c : Char} (member : c ∈ (padded width n).toList) :
    c.isDigit := by
  rw [toList_padded] at member
  exact Date.isDigit_padded member

theorem padded_ne_nil (width n : ℕ) : (padded width n).toList ≠ [] := by
  rw [toList_padded]
  exact List.append_ne_nil_of_right_ne_nil _ Nat.toDigits_ne_nil

/-- What a timestamp has in it but for its `T`. -/
def clockChar (c : Char) : Bool := c.isDigit || [':', '.', '+', '-'].contains c

def Clock (chars : List Char) : Prop := ∀ c ∈ chars, clockChar c

instance (chars : List Char) : Decidable (Clock chars) := List.decidableBAll _ chars

def EndsInDigit (chars : List Char) : Prop := ∃ front last, chars = front ++ [last] ∧ last.isDigit

theorem Clock.append {xs ys : List Char} (front : Clock xs) (back : Clock ys) : Clock (xs ++ ys) :=
  fun c member => (List.mem_append.mp member).elim (front c) (back c)

theorem EndsInDigit.append {xs ys : List Char} (back : EndsInDigit ys) :
    EndsInDigit (xs ++ ys) := by
  obtain ⟨front, last, rfl, digit⟩ := back
  exact ⟨xs ++ front, last, (List.append_assoc ..).symm, digit⟩

theorem EndsInDigit.optional {xs ys : List Char} (front : EndsInDigit xs)
    (back : ys = [] ∨ EndsInDigit ys) : EndsInDigit (xs ++ ys) := by
  rcases back with rfl | back
  · rwa [List.append_nil]
  · exact back.append

theorem clock_padded (width n : ℕ) : Clock (padded width n).toList := by
  intro c member
  unfold clockChar
  rw [isDigit_of_mem_padded member]
  rfl

theorem endsInDigit_padded (width n : ℕ) : EndsInDigit (padded width n).toList := by
  have some := padded_ne_nil width n
  refine ⟨_, _, (List.dropLast_append_getLast some).symm, ?_⟩
  exact isDigit_of_mem_padded (List.getLast_mem some)

theorem clock_fraction (microsecond : ℕ) : Clock (fraction microsecond).toList := by
  unfold fraction
  split
  · exact fun _ member => absurd member List.not_mem_nil
  · rw [String.toList_append]
    exact Clock.append (by decide) (clock_padded _ _)

theorem endsInDigit_fraction (microsecond : ℕ) :
    (fraction microsecond).toList = [] ∨ EndsInDigit (fraction microsecond).toList := by
  unfold fraction
  split
  · exact .inl rfl
  · rw [String.toList_append]
    exact .inr (endsInDigit_padded _ _).append

theorem clock_offset (offset : UtcOffset) : Clock offset.isoformat.toList := by
  have sign : Clock (if offset.negative then "-" else "+").toList := by
    cases offset.negative <;> decide
  have minutes := ((sign.append (clock_padded 2 (offset.magnitude.val / 1000000 / 3600))).append
    (by decide : Clock ":".toList)).append
      (clock_padded 2 (offset.magnitude.val / 1000000 / 60 % 60))
  unfold UtcOffset.isoformat
  simp only
  split
  · simpa only [String.toList_append] using minutes
  · simpa only [String.toList_append] using ((minutes.append (by decide : Clock ":".toList)).append
      (clock_padded 2 _)).append (clock_fraction _)

theorem endsInDigit_offset (offset : UtcOffset) : EndsInDigit offset.isoformat.toList := by
  unfold UtcOffset.isoformat
  simp only
  split
  · rw [String.toList_append]
    exact (endsInDigit_padded _ _).append
  · rw [String.toList_append, String.toList_append]
    exact (endsInDigit_padded _ _).append.optional (endsInDigit_fraction _)

/-! ## A timestamp has a date before its last `T` and a clock after it -/

def DateTime.date (t : DateTime) : String :=
  padded 4 t.year ++ "-" ++ padded 2 t.month ++ "-" ++ padded 2 t.day

def DateTime.clock (t : DateTime) : String :=
  padded 2 t.hour ++ ":" ++ padded 2 t.minute ++ ":" ++ padded 2 t.second ++
    fraction t.microsecond ++ (t.utcoffset.map UtcOffset.isoformat).getD ""

theorem toList_isoformat (t : DateTime) :
    t.isoformat.toList = t.date.toList ++ 'T' :: t.clock.toList := by
  simp [DateTime.isoformat, DateTime.date, DateTime.clock, String.toList_append]

theorem length_date (t : DateTime) : t.date.toList.length = 10 := by
  have year : (padded 4 t.year).toList.length = 4 := by
    rw [toList_padded]
    exact Date.length_padded (by decide) t.year.isLt
  have month : (padded 2 t.month).toList.length = 2 := by
    rw [toList_padded]
    exact Date.length_padded (by decide) (t.month.isLt.trans (by decide))
  have day : (padded 2 t.day).toList.length = 2 := by
    rw [toList_padded]
    exact Date.length_padded (by decide) (t.day.isLt.trans (by decide))
  simp only [DateTime.date, String.toList_append, List.length_append, year, month, day]
  rfl

theorem clock_clock (t : DateTime) : Clock t.clock.toList := by
  have zone : Clock ((t.utcoffset.map UtcOffset.isoformat).getD "").toList := by
    cases t.utcoffset with
    | none => exact fun _ member => absurd member List.not_mem_nil
    | some offset => exact clock_offset offset
  have colon : Clock ":".toList := by decide
  simpa only [DateTime.clock, String.toList_append] using
    ((((((clock_padded 2 _).append colon).append (clock_padded 2 _)).append colon).append
      (clock_padded 2 _)).append (clock_fraction _)).append zone

theorem endsInDigit_clock (t : DateTime) : EndsInDigit t.clock.toList := by
  have zone : ((t.utcoffset.map UtcOffset.isoformat).getD "").toList = [] ∨
      EndsInDigit ((t.utcoffset.map UtcOffset.isoformat).getD "").toList := by
    cases t.utcoffset with
    | none => exact .inl rfl
    | some offset => exact .inr (endsInDigit_offset offset)
  simp only [DateTime.clock, String.toList_append]
  exact ((endsInDigit_padded 2 t.second).append.optional (endsInDigit_fraction _)).optional zone

theorem endsInDigit_isoformat (t : DateTime) : EndsInDigit t.isoformat.toList := by
  rw [toList_isoformat, List.append_cons]
  exact (endsInDigit_clock t).append

/-- What stands before a timestamp, and the timestamp, can be told apart. -/
theorem append_isoformat_inj {front front' : List Char} {t t' : DateTime}
    (same : front ++ t.isoformat.toList = front' ++ t'.isoformat.toList) :
    front = front' ∧ t.isoformat = t'.isoformat := by
  have no_T : ∀ u : DateTime, 'T' ∉ u.clock.toList := fun u member =>
    absurd (clock_clock u 'T' member) (by decide)
  rw [toList_isoformat, toList_isoformat, ← List.append_assoc, ← List.append_assoc] at same
  obtain ⟨before, clocks⟩ := last_inj (no_T t) (no_T t') same
  obtain ⟨fronts, dates⟩ := List.append_inj' before ((length_date t).trans (length_date t').symm)
  refine ⟨fronts, String.toList_inj.mp ?_⟩
  rw [toList_isoformat, toList_isoformat, dates, clocks]

/-! ## The text of an entry -/

/-- A finite number, as it is written for the constructor of `Decimal`. -/
def Numeral (text : String) : Prop :=
  ∃ negative coefficient exponent,
    Decimal.ofText text = some (.finite negative coefficient exponent)

theorem Numeral.colon {text : String} (numeral : Numeral text) : ':' ∉ text.toList := by
  obtain ⟨negative, coefficient, exponent, read⟩ := numeral
  exact Decimal.not_mem_of_finite read (by decide +kernel)

theorem not_mem_repr {c : Char} (other : c.isDigit = false) (n : ℕ) : c ∉ n.repr.toList := by
  intro member
  rw [Nat.toList_repr] at member
  rw [Nat.isDigit_of_mem_toDigits (by decide) (by decide) member] at other
  cases other

theorem repr_inj {m n : ℕ} (same : m.repr = n.repr) : m = n := by
  have digits := congrArg String.toList same
  rw [Nat.toList_repr, Nat.toList_repr] at digits
  rw [← Nat.ofDigitChars_ten_toDigits (n := m), digits, Nat.ofDigitChars_ten_toDigits]

theorem repr_ne_negative (m n : ℕ) : m.repr ≠ "-" ++ n.repr := by
  intro same
  have minus : '-' ∈ m.repr.toList := by
    rw [same, String.toList_append]
    exact List.mem_append_left _ (by decide)
  exact not_mem_repr (by decide) m minus

theorem colon_id (id : ℤ) : ':' ∉ (toString id).toList := by
  rw [Int.toString_eq_repr, Int.repr_eq_if]
  split
  · exact not_mem_repr (by decide) _
  · rw [String.toList_append, List.mem_append, not_or]
    exact ⟨by decide, not_mem_repr (by decide) _⟩

theorem id_inj {m n : ℤ} (same : toString m = toString n) : m = n := by
  rw [Int.toString_eq_repr, Int.toString_eq_repr, Int.repr_eq_if, Int.repr_eq_if] at same
  split at same
  · split at same
    · have sizes := repr_inj same
      omega
    · exact absurd same (repr_ne_negative _ _)
  · split at same
    · exact absurd same.symm (repr_ne_negative _ _)
    · have chars := congrArg String.toList same
      rw [String.toList_append, String.toList_append] at chars
      have sizes := repr_inj (String.toList_inj.mp (List.append_cancel_left chars))
      omega

namespace CreditLedgerEntry
variable {e f : CreditLedgerEntry}

/-- The account and the numeral, each with its separator. -/
def middle (e : CreditLedgerEntry) : List Char :=
  e.accountId.toList ++ ':' :: (e.deltaUsd.toList ++ [':'])

def timestamp (e : CreditLedgerEntry) : String := (e.createdAt.map DateTime.isoformat).getD ""

theorem toList_hashInput (e : CreditLedgerEntry) :
    e.hashInput.toList = (toString e.id).toList ++ ':' :: (e.middle ++ e.timestamp.toList) := by
  simp [hashInput, middle, timestamp, String.toList_append]

theorem middle_inj (numeral : Numeral e.deltaUsd) (numeral' : Numeral f.deltaUsd)
    (same : e.middle = f.middle) : e.accountId = f.accountId ∧ e.deltaUsd = f.deltaUsd := by
  unfold middle at same
  rw [← List.cons_append, ← List.cons_append, ← List.append_assoc, ← List.append_assoc] at same
  have fronts := List.append_cancel_right same
  obtain ⟨accounts, deltas⟩ := last_inj numeral.colon numeral'.colon fronts
  exact ⟨String.toList_inj.mp accounts, String.toList_inj.mp deltas⟩

/-- What ends in a separator does not end in a digit. -/
theorem middle_ne_append_digit {chars : List Char} (digits : EndsInDigit chars) :
    e.middle ≠ f.middle ++ chars := by
  intro same
  obtain ⟨front, last, rfl, digit⟩ := digits
  unfold middle at same
  rw [← List.cons_append, ← List.append_assoc, ← List.append_assoc] at same
  have ends := List.append_inj_right' same rfl
  obtain rfl := (List.cons.inj ends).1
  revert digit
  decide

theorem timestamp_inj (same : e.middle ++ e.timestamp.toList = f.middle ++ f.timestamp.toList) :
    e.middle = f.middle ∧
      e.createdAt.map DateTime.isoformat = f.createdAt.map DateTime.isoformat := by
  unfold timestamp at same
  cases first : e.createdAt with
  | none =>
      cases second : f.createdAt with
      | none =>
          rw [first, second] at same
          exact ⟨List.append_cancel_right same, rfl⟩
      | some t =>
          rw [first, second] at same
          change e.middle ++ [] = _ at same
          rw [List.append_nil] at same
          exact absurd same (middle_ne_append_digit (endsInDigit_isoformat t))
  | some t =>
      cases second : f.createdAt with
      | none =>
          rw [first, second] at same
          change _ = f.middle ++ [] at same
          rw [List.append_nil] at same
          exact absurd same.symm (middle_ne_append_digit (endsInDigit_isoformat t))
      | some t' =>
          rw [first, second] at same
          obtain ⟨middles, stamps⟩ := append_isoformat_inj same
          exact ⟨middles, congrArg some stamps⟩

/-- Entries with one text are the same in all that it is made of. -/
theorem hashInput_inj (numeral : Numeral e.deltaUsd) (numeral' : Numeral f.deltaUsd)
    (same : e.hashInput = f.hashInput) :
    e.id = f.id ∧ e.accountId = f.accountId ∧ e.deltaUsd = f.deltaUsd ∧
      e.createdAt.map DateTime.isoformat = f.createdAt.map DateTime.isoformat := by
  have chars := congrArg String.toList same
  rw [toList_hashInput, toList_hashInput] at chars
  obtain ⟨ids, rest⟩ := first_inj (colon_id e.id) (colon_id f.id) chars
  obtain ⟨middles, stamps⟩ := timestamp_inj rest
  obtain ⟨accounts, deltas⟩ := middle_inj numeral numeral' middles
  exact ⟨id_inj (String.toList_inj.mp ids), accounts, deltas, stamps⟩

/-- A usage of a module. -/
def moduleEntry (createdAt : DateTime) : CreditLedgerEntry where
  id := 7
  createdAt := some createdAt
  accountId := "module:2024-05-01T09:30:00"
  deltaUsd := "-0.0100"
  anchorId := none

/-- The entry after it is anchored. -/
theorem hashInput_inj_moduleEntry :
    let entry := moduleEntry ⟨2024, 5, 1, 9, 30, 0, 250, some ⟨true, 19800000000⟩⟩
    let linked := { entry with anchorId := some 3 }
    entry.id = linked.id ∧ entry.accountId = linked.accountId ∧
      entry.deltaUsd = linked.deltaUsd ∧
      entry.createdAt.map DateTime.isoformat = linked.createdAt.map DateTime.isoformat := by
  intro entry linked
  have numeral : Numeral "-0.0100" := ⟨true, 100, -4, by decide +kernel⟩
  have same : entry.hashInput = linked.hashInput := rfl
  exact hashInput_inj numeral numeral same

end CreditLedgerEntry

end RenderTrust.Anchor
