import Mathlib.Data.List.TakeWhile

/-!
# Characters of Unicode

White space and decimal digits as the string methods of Python tell them, of Unicode 14.
-/
namespace Lib.Unicode

def isSpace (c : Char) : Bool :=
  let n := c.toNat
  9 ≤ n && n ≤ 13 || 28 ≤ n && n ≤ 32 || 0x2000 ≤ n && n ≤ 0x200A ||
    [0x85, 0xA0, 0x1680, 0x2028, 0x2029, 0x202F, 0x205F, 0x3000].contains n

/-- `str.strip`. -/
def strip (chars : List Char) : List Char :=
  ((chars.dropWhile isSpace).reverse.dropWhile isSpace).reverse

/-- Where the runs of ten decimal digits begin. -/
def zeros : List Nat :=
  [0x30, 0x660, 0x6F0, 0x7C0, 0x966, 0x9E6, 0xA66, 0xAE6, 0xB66, 0xBE6, 0xC66, 0xCE6, 0xD66,
    0xDE6, 0xE50, 0xED0, 0xF20, 0x1040, 0x1090, 0x17E0, 0x1810, 0x1946, 0x19D0, 0x1A80, 0x1A90,
    0x1B50, 0x1BB0, 0x1C40, 0x1C50, 0xA620, 0xA8D0, 0xA900, 0xA9D0, 0xA9F0, 0xAA50, 0xABF0,
    0xFF10, 0x104A0, 0x10D30, 0x11066, 0x110F0, 0x11136, 0x111D0, 0x112F0, 0x11450, 0x114D0,
    0x11650, 0x116C0, 0x11730, 0x118E0, 0x11950, 0x11C50, 0x11D50, 0x11DA0, 0x16A60, 0x16AC0,
    0x16B50, 0x1D7CE, 0x1D7D8, 0x1D7E2, 0x1D7EC, 0x1D7F6, 0x1E140, 0x1E2F0, 0x1E950, 0x1FBF0]

def decimalValue (c : Char) : Option Nat :=
  (zeros.find? fun first => first ≤ c.toNat && c.toNat ≤ first + 9).map fun first =>
    c.toNat - first

/-- A decimal digit as the one of ASCII. -/
def asciiDigit (c : Char) : Char :=
  match decimalValue c with
  | some digit => Nat.digitChar digit
  | none => c

theorem mem_dropWhile {p : Char → Bool} {chars : List Char} {c : Char} (member : c ∈ chars)
    (kept : p c = false) : c ∈ chars.dropWhile p := by
  induction chars with
  | nil => exact absurd member List.not_mem_nil
  | cons first chars ih =>
      rw [List.dropWhile_cons]
      split
      · rename_i dropped
        rcases List.mem_cons.mp member with rfl | later
        · rw [kept] at dropped
          cases dropped
        · exact ih later
      · exact member

/-- What is no white space stays. -/
theorem mem_strip {chars : List Char} {c : Char} (member : c ∈ chars) (black : isSpace c = false) :
    c ∈ strip chars := by
  have front : c ∈ (chars.dropWhile isSpace).reverse :=
    List.mem_reverse.mpr (mem_dropWhile member black)
  exact List.mem_reverse.mpr (mem_dropWhile front black)

theorem strip_ne_nil {chars : List Char} {c : Char} (member : c ∈ chars)
    (black : isSpace c = false) : strip chars ≠ [] :=
  List.ne_nil_of_mem (mem_strip member black)

/-! ## What is around a text -/

section Blank
variable {c sep : Char} {text blank front back : List Char}

theorem dropWhile_blank (white : ∀ c ∈ blank, isSpace c) : blank.dropWhile isSpace = [] := by
  have whole : (blank ++ []).dropWhile isSpace = [] := List.dropWhile_append_of_pos white
  rwa [List.append_nil] at whole

theorem dropWhile_append_of_black (member : c ∈ front) (black : isSpace c = false) :
    (front ++ back).dropWhile isSpace = front.dropWhile isSpace ++ back := by
  rw [List.dropWhile_append, if_neg]
  rw [List.isEmpty_iff]
  exact List.ne_nil_of_mem (mem_dropWhile member black)

theorem strip_append_left (white : ∀ c ∈ blank, isSpace c) :
    strip (blank ++ text) = strip text := by
  rw [strip, strip, List.dropWhile_append_of_pos white]

theorem strip_append_right (white : ∀ c ∈ blank, isSpace c) :
    strip (text ++ blank) = strip text := by
  have reversed : ∀ c ∈ blank.reverse, isSpace c := by
    intro c member
    exact white c (List.mem_reverse.mp member)
  rw [strip, strip, List.dropWhile_append, dropWhile_blank white]
  split
  · rename_i empty
    rw [List.isEmpty_iff.mp empty]
  · rw [List.reverse_append, List.dropWhile_append_of_pos reversed]

theorem blank_of_strip (stripped : strip text = []) : ∀ c ∈ text, isSpace c := by
  intro c member
  by_contra black
  exact strip_ne_nil member (Bool.eq_false_iff.mpr black) stripped

theorem strip_blank (white : ∀ c ∈ blank, isSpace c) : strip blank = [] := by
  rw [strip, dropWhile_blank white, List.reverse_nil, List.dropWhile_nil, List.reverse_nil]

theorem exists_black (kept : strip text ≠ []) : ∃ c ∈ text, isSpace c = false := by
  by_contra white
  refine kept (strip_blank fun c member => ?_)
  by_contra black
  exact white ⟨c, member, Bool.eq_false_iff.mpr black⟩

/-- White space between characters that are none stays. -/
theorem mem_strip_between (before : strip front ≠ []) (behind : strip back ≠ []) :
    c ∈ strip (front ++ c :: back) := by
  obtain ⟨first, inFront, black⟩ := exists_black before
  obtain ⟨last, inBack, black'⟩ := exists_black behind
  rw [strip, dropWhile_append_of_black inFront black, List.reverse_append, List.reverse_cons,
    List.append_assoc, dropWhile_append_of_black (List.mem_reverse.mpr inBack) black',
    List.mem_reverse]
  exact List.mem_append_right _ (List.mem_append_left _ (List.mem_singleton_self c))

theorem exists_blank (text : List Char) : ∃ front back, text = front ++ strip text ++ back ∧
    (∀ c ∈ front, isSpace c) ∧ ∀ c ∈ back, isSpace c := by
  let rest := text.dropWhile isSpace
  refine ⟨text.takeWhile isSpace, (rest.reverse.takeWhile isSpace).reverse, ?_, ?_, ?_⟩
  · have tail : strip text ++ (rest.reverse.takeWhile isSpace).reverse = rest := by
      rw [strip, ← List.reverse_append, List.takeWhile_append_dropWhile, List.reverse_reverse]
    rw [List.append_assoc, tail, List.takeWhile_append_dropWhile]
  · exact fun c member => List.mem_takeWhile_imp member
  · exact fun c member => List.mem_takeWhile_imp (List.mem_reverse.mp member)

end Blank

/-! ## The fields of a line -/

section Fields
variable {sep : Char} {text rest blank : List Char}

/-- `[p.strip() for p in text.split(sep)]`. -/
def fields (sep : Char) (text : List Char) : List (List Char) := (text.splitOn sep).map strip

theorem fields_append : fields sep (text ++ sep :: rest) = fields sep text ++ fields sep rest := by
  rw [fields, List.splitOn_append_cons_self, List.map_append, fields, fields]

theorem fields_singleton (plain : sep ∉ text) : fields sep text = [strip text] := by
  rw [fields, List.splitOn_eq_singleton plain, List.map_singleton]

theorem fields_cons (plain : sep ∉ text) :
    fields sep (text ++ sep :: rest) = strip text :: fields sep rest := by
  rw [fields_append, fields_singleton plain, List.singleton_append]

theorem not_mem_blank (black : isSpace sep = false) (white : ∀ c ∈ blank, isSpace c) :
    sep ∉ blank := by
  intro member
  rw [white sep member] at black
  cases black

theorem fields_append_left (black : isSpace sep = false) (white : ∀ c ∈ blank, isSpace c) :
    fields sep (blank ++ text) = fields sep text := by
  have foreign := not_mem_blank black white
  by_cases member : sep ∈ text
  · obtain ⟨first, rest, rfl, plain⟩ := List.eq_append_cons_of_mem member
    rw [← List.append_assoc, fields_cons (List.not_mem_append foreign plain), fields_cons plain,
      strip_append_left white]
  · rw [fields_singleton member, fields_singleton (List.not_mem_append foreign member),
      strip_append_left white]

theorem fields_append_right (black : isSpace sep = false) (white : ∀ c ∈ blank, isSpace c) :
    fields sep (text ++ blank) = fields sep text := by
  have foreign := not_mem_blank black white
  have alone {last : List Char} (plain : sep ∉ last) :
      fields sep (last ++ blank) = fields sep last := by
    rw [fields_singleton plain, fields_singleton (List.not_mem_append plain foreign),
      strip_append_right white]
  by_cases member : sep ∈ text
  · obtain ⟨last, front, whole, plain⟩ := List.eq_append_cons_of_mem (List.mem_reverse.mpr member)
    have split : text = front.reverse ++ sep :: last.reverse := by
      rw [← List.reverse_reverse text, whole, List.reverse_append, List.reverse_cons,
        List.append_assoc, List.singleton_append]
    have plain' : sep ∉ last.reverse := fun within => plain (List.mem_reverse.mp within)
    rw [split, List.append_assoc, List.cons_append, fields_append, fields_append, alone plain']
  · exact alone member

/-- White space around the text is around its fields. -/
theorem fields_strip (black : isSpace sep = false) : fields sep (strip text) = fields sep text := by
  obtain ⟨front, back, whole, white, white'⟩ := exists_blank text
  symm
  calc
    fields sep text = fields sep (front ++ strip text ++ back) := congrArg (fields sep) whole
    _ = fields sep (front ++ strip text) := fields_append_right black white'
    _ = fields sep (strip text) := fields_append_left black white

end Fields

end Lib.Unicode
