import Paging.Value.Display

/-!
# Paging.Page — logical pages
-/

namespace Paging

/-- A logical page of an ordered result: its elements, its number counted from one, and whether
no element follows it. -/
structure Page (α : Type) where
  elements : List α
  number : Int
  isLast : Bool
  deriving DecidableEq

namespace Page

variable {α : Type}

/-- A page that is not the last has a next one. -/
def hasNext (p : Page α) : Bool := !p.isLast

/-- Every page after the first has one before it. -/
def hasPrev (p : Page α) : Bool := decide (1 < p.number)

/-- How many elements the page holds. -/
def size (p : Page α) : Nat := p.elements.length

/-- Equality of pages of values. -/
def same (p q : Page Value) : Bool :=
  Value.sameItems p.elements q.elements && p.number == q.number && p.isLast == q.isLast

/-- A page as diagnostics show it. -/
def display (p : Page Value) : String :=
  "Page(elements=" ++ Value.displayRow p.elements ++ ", page_number=" ++ toString p.number ++
    ", is_last=" ++ Value.displayBool p.isLast ++ ")"

end Page

end Paging
