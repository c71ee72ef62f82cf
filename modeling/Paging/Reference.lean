import Paging.Strategy
import Paging.Page
import Paging.Request

/-!
# Paging.Reference — the page of a finite list, by arithmetic

The answer to a request over a list whose length is known: the target page is a slice of the list,
and a page past the end is answered as the strategy says.  Nothing here walks the list element by
element; this is what walking it has to agree with.
-/

namespace Paging.Reference

variable {α : Type}

/-- The number of pages of `n` elements: one at least, and only the last may be short. -/
def pageCount (n size : Nat) : Nat := max 1 ((n + size - 1) / size)

/-- The elements of a page of a list. -/
def slice (xs : List α) (number size : Nat) : List α := (xs.drop ((number - 1) * size)).take size

/-- The answer to a request over a list. -/
def page (strategy : Strategy) (r : Request) (xs : List α) : Except Fault (Page α) :=
  let count := pageCount xs.length r.size
  if r.target ≤ count then
    .ok ⟨slice xs r.target r.size, r.target, decide (xs.length ≤ r.reach)⟩
  else match strategy with
    | .returnLastPage => .ok ⟨xs.drop ((count - 1) * r.size), count, true⟩
    | .returnEmptyPage => .ok ⟨[], r.target, true⟩
    | .fail => .error (.outOfBounds ⟨r.target, xs.length, count, r.size⟩)

theorem one_le_pageCount (n size : Nat) : 1 ≤ pageCount n size := Nat.le_max_left _ _

@[simp]
theorem pageCount_zero (size : Nat) : pageCount 0 size = 1 := by
  rcases Nat.eq_zero_or_pos size with h | h
  · simp [pageCount, h]
  · simp [pageCount, Nat.div_eq_of_lt (Nat.sub_lt h Nat.one_pos)]

end Paging.Reference
