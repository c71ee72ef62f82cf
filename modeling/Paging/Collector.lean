import Paging.Strategy
import Paging.Page
import Paging.Request

/-!
# Paging.Collector — forming one logical page out of a run of elements

A collector counts the elements of a forward-only result and keeps those of the page asked for.
Under `Strategy.returnLastPage` it keeps the elements of the page being formed instead, because the
end of the result is only known when it is there.  A new page is begun by the element after a full
page and not by the element that fills it.
-/

namespace Paging

/-- The counters and the kept elements of one pagination call. -/
structure Collector (α : Type) where
  strategy : Strategy
  request : Request
  /-- The number of the page being formed. -/
  pageNumber : Nat
  /-- How many elements belong to the page being formed. -/
  filled : Nat
  /-- The elements kept so far. -/
  elements : List α

namespace Collector

variable {α : Type}

/-- The collector before the first element. -/
def start (strategy : Strategy) (request : Request) : Collector α :=
  ⟨strategy, request, 1, 0, []⟩

/-- The page being formed is the page asked for. -/
def onTarget (c : Collector α) : Bool := c.pageNumber == c.request.target

/-- The elements of the page being formed are kept. -/
def keeps (c : Collector α) : Bool := c.onTarget || c.strategy == .returnLastPage

/-- The page asked for has all its elements. -/
def isFull (c : Collector α) : Bool := c.onTarget && c.filled == c.request.size

/-- How many elements have been accounted for. -/
def count (c : Collector α) : Nat := (c.pageNumber - 1) * c.request.size + c.filled

/-- Makes room for one more element: a full page is followed by a new one. -/
def turn (c : Collector α) : Collector α :=
  if c.filled < c.request.size then { c with filled := c.filled + 1 }
  else
    { c with
      pageNumber := c.pageNumber + 1
      filled := 1
      elements := if c.strategy = .returnLastPage then [] else c.elements }

/-- Accounts for the next element. -/
def add (c : Collector α) (x : α) : Collector α :=
  let c := c.turn
  if c.keeps then { c with elements := c.elements ++ [x] } else c

/-- The page of the elements kept. -/
def page (c : Collector α) (isLast : Bool) : Page α := ⟨c.elements, c.pageNumber, isLast⟩

/-- What is known if the result ends here and the page asked for was not reached. -/
def bounds (c : Collector α) : OutOfBounds :=
  ⟨c.request.target, c.count, c.pageNumber, c.request.size⟩

/-- The answer once the result has ended or the page asked for is full.  `isLast` matters only if
the page kept is the answer. -/
def finish (c : Collector α) (isLast : Bool) : Except Fault (Page α) :=
  if c.onTarget then .ok (c.page isLast)
  else match c.strategy with
    | .returnLastPage => .ok (c.page isLast)
    | .returnEmptyPage => .ok ⟨[], c.request.target, true⟩
    | .fail => .error (.outOfBounds c.bounds)

/-- Accounts for elements until the page asked for is full.  Also tells what was left over then,
and `none` if the elements ran out before. -/
def addAll (c : Collector α) : List α → Collector α × Option (List α)
  | [] => (c, none)
  | x :: xs =>
    let c := c.add x
    if c.isFull then (c, some xs) else c.addAll xs

end Collector

/-! ## Protocol pages -/

/-- What a collector says after it has seen one protocol page. -/
inductive Verdict (α : Type)
  /-- The call is decided. -/
  | resolved (answer : Except Fault (Page α))
  /-- The page asked for ended together with the protocol page; it is the last one exactly when the
  following protocol page is empty. -/
  | probing (c : Collector α)
  /-- More elements are needed. -/
  | wanting (c : Collector α)

/-- Takes in the elements of one protocol page.  Logical and protocol pages are unrelated: either
may span several of the other. -/
def Collector.visit {α : Type} (c : Collector α) (elements : List α) (hasMore : Bool) : Verdict α :=
  match c.addAll elements with
  | (c, some (_ :: _)) => .resolved (.ok (c.page false))
  | (c, some []) => if hasMore then .probing c else .resolved (.ok (c.page true))
  | (c, none) => if hasMore then .wanting c else .resolved (c.finish true)

end Paging
