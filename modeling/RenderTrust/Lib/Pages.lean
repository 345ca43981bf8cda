import Mathlib.Data.List.Basic

/-!
# Reading a growing list page by page

Rows are added at the head of a list. A reader fetches one page after the other, at the offset
of the pages it has; rows that were added in between shift the rest of the list to later pages.
-/
namespace Lib.Pages

variable {α : Type*}

def page (size n : ℕ) (rows : List α) : List α := (rows.drop (n * size)).take size

/-- What the reader has, over the rows there are now. -/
structure Reader (α : Type*) where
  rows : List α
  pages : List (List α)

namespace Reader

def fetch (size : ℕ) (r : Reader α) : Reader α :=
  { r with pages := r.pages ++ [page size r.pages.length r.rows] }

def rest (size : ℕ) (r : Reader α) : List α := r.rows.drop (r.pages.length * size)

/-- Every row of `start` is on a page, or still to come. -/
def Covers (size : ℕ) (start : List α) (r : Reader α) : Prop :=
  ∀ a ∈ start, a ∈ r.pages.flatten ∨ a ∈ r.rest size

/-- A page was not full. -/
def Ended (size : ℕ) (r : Reader α) : Prop := ∃ p ∈ r.pages, p.length < size

instance (size : ℕ) (r : Reader α) : Decidable (r.Ended size) :=
  inferInstanceAs (Decidable (∃ p ∈ r.pages, _))

variable {size : ℕ} {start : List α} {r : Reader α}

theorem page_append_rest (size : ℕ) (r : Reader α) :
    page size r.pages.length r.rows ++ (r.fetch size).rest size = r.rest size := by
  have next : (r.fetch size).rest size = (r.rest size).drop size := by
    unfold rest fetch
    rw [List.drop_drop, List.length_append, List.length_singleton, Nat.add_mul, Nat.one_mul]
  rw [next]
  exact List.take_append_drop size _

theorem mem_fetch_flatten {a : α} : a ∈ (r.fetch size).pages.flatten ↔
    a ∈ r.pages.flatten ∨ a ∈ page size r.pages.length r.rows := by
  unfold fetch
  rw [List.flatten_append, List.flatten_singleton, List.mem_append]

theorem Covers.fetch (h : r.Covers size start) : (r.fetch size).Covers size start := by
  intro a member
  rw [mem_fetch_flatten, or_assoc, ← List.mem_append, page_append_rest]
  exact h a member

theorem drop_suffix {rows rows' : List α} (grown : rows <:+ rows') (n : ℕ) :
    rows.drop n <:+ rows'.drop n := by
  obtain ⟨added, rfl⟩ := grown
  rw [List.drop_append]
  exact (List.drop_suffix_drop_left rows (Nat.sub_le n _)).trans (List.suffix_append _ _)

theorem Covers.grow {rows : List α} (h : r.Covers size start) (grown : r.rows <:+ rows) :
    ({ r with rows := rows } : Reader α).Covers size start := by
  intro a member
  exact (h a member).imp_right fun later => (drop_suffix grown _).subset later

/-- After a page that is not full nothing is to come. -/
theorem rest_of_short (short : (page size r.pages.length r.rows).length < size) :
    (r.fetch size).rest size = [] := by
  have split := congrArg List.length (r.page_append_rest size)
  have taken : (page size r.pages.length r.rows).length = min size (r.rest size).length :=
    List.length_take
  rw [List.length_append] at split
  exact List.length_eq_zero_iff.mp (by omega)

theorem Covers.short (h : r.Covers size start)
    (short : (page size r.pages.length r.rows).length < size) :
    ∀ a ∈ start, a ∈ (r.fetch size).pages.flatten := by
  intro a member
  have covered := h.fetch a member
  rw [rest_of_short short] at covered
  exact covered.resolve_right List.not_mem_nil

/-- The pages are the beginning of the list, and all of it once one was not full. -/
structure Exact (size : ℕ) (r : Reader α) : Prop where
  whole : r.pages.flatten ++ r.rest size = r.rows
  ended : r.Ended size → r.rest size = []

theorem Exact.fetch (h : r.Exact size) : (r.fetch size).Exact size where
  whole := by
    have pages : (r.fetch size).pages.flatten =
        r.pages.flatten ++ page size r.pages.length r.rows := by
      unfold Reader.fetch
      rw [List.flatten_append, List.flatten_singleton]
    rw [pages, List.append_assoc, page_append_rest, h.whole]
    rfl
  ended := by
    rintro ⟨p, member, small⟩
    rcases List.mem_append.mp member with old | new
    · have split := r.page_append_rest size
      rw [h.ended ⟨p, old, small⟩] at split
      exact (List.append_eq_nil_iff.mp split).2
    · rw [List.mem_singleton.mp new] at small
      exact rest_of_short small

theorem Exact.flatten (h : r.Exact size) (ended : r.Ended size) : r.pages.flatten = r.rows := by
  have whole := h.whole
  rwa [h.ended ended, List.append_nil] at whole

end Reader
end Lib.Pages
