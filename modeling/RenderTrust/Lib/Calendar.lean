import Mathlib.Data.Fin.Basic
import Mathlib.Tactic.Ring

/-!
# Calendar dates

Dates of the years 1 to 9999, their months, their ISO text, and the clock of one time
zone that shows a date and a time of that day.
-/
namespace Lib

def isLeap (year : ℕ) : Bool := year % 4 = 0 ∧ (year % 100 ≠ 0 ∨ year % 400 = 0)

def daysInMonth (year month : ℕ) : ℕ :=
  match month with
  | 2 => if isLeap year then 29 else 28
  | 4 | 6 | 9 | 11 => 30
  | _ => 31

structure Date where
  year : ℕ
  month : ℕ
  day : ℕ
  year_mem : 1 ≤ year ∧ year ≤ 9999
  month_mem : 1 ≤ month ∧ month ≤ 12
  day_mem : 1 ≤ day ∧ day ≤ daysInMonth year month
  deriving DecidableEq

theorem daysInMonth_mem (year month : ℕ) :
    28 ≤ daysInMonth year month ∧ daysInMonth year month ≤ 31 := by
  unfold daysInMonth
  split
  · split <;> decide
  all_goals decide

namespace Date

/-- The date of three numbers, or what is wrong with them. -/
def make (year month day : ℕ) : Except String Date :=
  if hy : 1 ≤ year ∧ year ≤ 9999 then
    if hm : 1 ≤ month ∧ month ≤ 12 then
      if hd : 1 ≤ day ∧ day ≤ daysInMonth year month then .ok ⟨year, month, day, hy, hm, hd⟩
      else .error "day is out of range for month"
    else .error "month must be in 1..12"
  else .error ("year " ++ toString year ++ " is out of range")

theorem make_first {year month : ℕ} (hy : 1 ≤ year ∧ year ≤ 9999) (hm : 1 ≤ month ∧ month ≤ 12) :
    ∃ d, make year month 1 = .ok d ∧ d.year = year ∧ d.month = month ∧ d.day = 1 := by
  have long := (daysInMonth_mem year month).1
  have hd : 1 ≤ 1 ∧ 1 ≤ daysInMonth year month := ⟨le_rfl, by omega⟩
  refine ⟨⟨year, month, 1, hy, hm, hd⟩, ?_, rfl, rfl, rfl⟩
  rw [make, dif_pos hy, dif_pos hm, dif_pos hd]

/-- A number that grows with the date. -/
def serial (d : Date) : ℕ := (d.year * 12 + d.month) * 31 + d.day

def SameMonth (d e : Date) : Prop := d.year = e.year ∧ d.month = e.month

instance (d e : Date) : Decidable (SameMonth d e) := inferInstanceAs (Decidable (_ ∧ _))

def firstDay (d : Date) : Date where
  year := d.year
  month := d.month
  day := 1
  year_mem := d.year_mem
  month_mem := d.month_mem
  day_mem := ⟨le_rfl, d.day_mem.1.trans d.day_mem.2⟩

theorem ext_iff {d e : Date} : d = e ↔ d.year = e.year ∧ d.month = e.month ∧ d.day = e.day := by
  cases d
  cases e
  simp only [mk.injEq]

theorem firstDay_eq_iff {d e : Date} : d.firstDay = e.firstDay ↔ SameMonth d e := by
  rw [ext_iff]
  constructor
  · rintro ⟨year, month, _⟩
    exact ⟨year, month⟩
  · rintro ⟨year, month⟩
    exact ⟨year, month, rfl⟩

theorem SameMonth.symm {d e : Date} (h : SameMonth d e) : SameMonth e d := ⟨h.1.symm, h.2.symm⟩

theorem SameMonth.trans {c d e : Date} (h : SameMonth c d) (k : SameMonth d e) : SameMonth c e :=
  ⟨h.1.trans k.1, h.2.trans k.2⟩

theorem sameMonth_firstDay (d : Date) : SameMonth d.firstDay d := ⟨rfl, rfl⟩

theorem day_le (d : Date) : d.day ≤ 31 := d.day_mem.2.trans (daysInMonth_mem d.year d.month).2

/-! ## ISO text -/

/-- The decimal digits of `n`, filled up with zeros to `width`. -/
def padded (width n : ℕ) : List Char :=
  List.replicate (width - (Nat.toDigits 10 n).length) '0' ++ Nat.toDigits 10 n

theorem length_padded {width n : ℕ} (positive : 0 < width) (small : n < 10 ^ width) :
    (padded width n).length = width := by
  have short := (Nat.length_toDigits_le_iff (by decide) positive).mpr small
  rw [padded, List.length_append, List.length_replicate]
  omega

theorem padded_inj {width m n : ℕ} (h : padded width m = padded width n) : m = n := by
  have read : ∀ k, Nat.ofDigitChars 10 (padded width k) 0 = k := by
    intro k
    rw [padded, Nat.ofDigitChars_append, Nat.ofDigitChars_replicate_zero, Nat.mul_zero,
      Nat.ofDigitChars_ten_toDigits]
  rw [← read m, h, read]

theorem isDigit_padded {width n : ℕ} {c : Char} (h : c ∈ padded width n) : c.isDigit := by
  rcases List.mem_append.mp h with zero | digit
  · rw [List.eq_of_mem_replicate zero]
    decide
  · exact Nat.isDigit_of_mem_toDigits (by decide) (by decide) digit

def isoformat (d : Date) : String :=
  String.ofList (padded 4 d.year ++ '-' :: (padded 2 d.month ++ '-' :: padded 2 d.day))

theorem length_year (d : Date) : (padded 4 d.year).length = 4 := by
  have bound := d.year_mem
  exact length_padded (by decide) (by omega)

theorem length_month (d : Date) : (padded 2 d.month).length = 2 := by
  have bound := d.month_mem
  exact length_padded (by decide) (by omega)

theorem length_isoformat (d : Date) : (isoformat d).length = 10 := by
  have bound := d.day_le
  have day : (padded 2 d.day).length = 2 := length_padded (by decide) (by omega)
  rw [isoformat, String.length_ofList, List.length_append, List.length_cons, List.length_append,
    List.length_cons, length_year, length_month, day]

theorem isoformat_inj {d e : Date} (h : isoformat d = isoformat e) : d = e := by
  have chars := String.ofList_inj.mp h
  obtain ⟨year, rest⟩ := List.append_inj chars (by rw [length_year, length_year])
  obtain ⟨month, rest⟩ :=
    List.append_inj (List.cons.inj rest).2 (by rw [length_month, length_month])
  exact ext_iff.mpr ⟨padded_inj year, padded_inj month, padded_inj (List.cons.inj rest).2⟩

theorem mem_isoformat {d : Date} {c : Char} (h : c ∈ (isoformat d).toList) :
    c.isDigit ∨ c = '-' := by
  simp only [isoformat, String.toList_ofList, List.mem_append, List.mem_cons] at h
  rcases h with digit | dash | digit | dash | digit
  · exact .inl (isDigit_padded digit)
  · exact .inr dash
  · exact .inl (isDigit_padded digit)
  · exact .inr dash
  · exact .inl (isDigit_padded digit)

end Date

/-! ## The clock of a time zone -/

structure Timestamp where
  date : Date
  micros : Fin 86400000000
  deriving DecidableEq

namespace Timestamp

scoped instance : NeZero (86400000000 : ℕ) := ⟨by decide⟩

def midnight (d : Date) : Timestamp := ⟨d, 0⟩

def ticks (t : Timestamp) : ℕ := t.date.serial * 86400000000 + t.micros

instance : LE Timestamp := ⟨fun s t => s.ticks ≤ t.ticks⟩

instance : LT Timestamp := ⟨fun s t => s.ticks < t.ticks⟩

instance (s t : Timestamp) : Decidable (s ≤ t) := inferInstanceAs (Decidable (s.ticks ≤ t.ticks))

instance (s t : Timestamp) : Decidable (s < t) := inferInstanceAs (Decidable (s.ticks < t.ticks))

theorem midnight_le {d : Date} {t : Timestamp} : midnight d ≤ t ↔ d.serial ≤ t.date.serial := by
  change d.serial * 86400000000 + 0 ≤ t.date.serial * 86400000000 + t.micros ↔ _
  omega

theorem lt_midnight {d : Date} {t : Timestamp} : t < midnight d ↔ t.date.serial < d.serial := by
  change t.date.serial * 86400000000 + t.micros < d.serial * 86400000000 + 0 ↔ _
  omega

/-- From the first day of a month up to that of the next one, and nowhere else, the clock
shows a date of the month. -/
theorem sameMonth_iff {first next : Date} {t : Timestamp} (hf : first.day = 1) (hn : next.day = 1)
    (follows : next.year * 12 + next.month = first.year * 12 + first.month + 1) :
    midnight first ≤ t ∧ t < midnight next ↔ t.date.SameMonth first := by
  have day := t.date.day_mem.1
  have last := t.date.day_le
  have month := t.date.month_mem
  have firstMonth := first.month_mem
  rw [midnight_le, lt_midnight, Date.SameMonth]
  unfold Date.serial
  constructor
  · rintro ⟨lower, upper⟩
    omega
  · rintro ⟨sameYear, sameMonth⟩
    omega

end Timestamp
end Lib
