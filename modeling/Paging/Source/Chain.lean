import Paging.Fault

/-!
# Paging.Source.Chain — a given sequence of protocol pages

The pages of a chain are fixed in advance, together with what each says about a further page and
whether fetching it fails.  What a page says need not be true.
-/

namespace Paging

/-- One protocol page of a chain. -/
structure ChainPage (α : Type) where
  elements : List α
  /-- Whether the page says that more follow; `none` stands for the truth. -/
  more : Option Bool := none
  /-- The fault that fetching this page fails with. -/
  failure : Option Fault := none

/-- A sequence of protocol pages, the first of which has been received. -/
structure Chain (α : Type) where
  pages : List (ChainPage α)
  /-- Whether every fetch waits. -/
  suspends : Bool := false

namespace Chain

variable {α : Type}

/-- The elements of a page. -/
def elements (c : Chain α) (i : Nat) : List α :=
  match c.pages[i]? with
  | some page => page.elements
  | none => []

/-- Whether page `i` says that more follow. -/
def hasMore (c : Chain α) (i : Nat) : Bool :=
  match c.pages[i]? with
  | some page => page.more.getD (decide (i + 1 < c.pages.length))
  | none => false

/-- The outcome of fetching page `i`. -/
def arrival (c : Chain α) (i : Nat) : Except Fault Unit :=
  match c.pages[i]? with
  | none => .error (.raised .lookupError "no such page")
  | some page => match page.failure with
    | some fault => .error fault
    | none => .ok ()

end Chain

end Paging
