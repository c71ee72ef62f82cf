import Paging.Source.Feed
import Paging.Tracing.Emission

/-!
# Paging.Pager — logical pages of forward-only results

A pager holds a strategy and nothing else, so it can be shared.  `getPage` reads the page asked for
from a stream, `getPageLater` from a feed of protocol pages.  Both check the request before they
touch the source; `getPageLater` does so when it is called and not when it is run.
-/

namespace Paging

/-- What resolves requests: the strategy for pages past the end. -/
structure Pager where
  strategy : Strategy
  deriving DecidableEq

/-- A result that is read one element at a time. -/
inductive Source
  /-- Each call reads it from the beginning. -/
  | fresh (s : Stream Value)
  /-- Calls share the stream with a given number, and what one has read is gone for the others. -/
  | shared (tap : Nat)

namespace Pager

/-- The pager that the settings ask for. -/
def ofSettings (s : Settings) : Pager := ⟨s.outOfBounds⟩

/-- A pager as diagnostics show it. -/
def display (p : Pager) : String := "Pager(" ++ p.strategy.name ++ ")"

/-- A pager for a value that should be a strategy but is none. -/
def refuse (given : Value) : Fault := .notAStrategy given.display

/-- A request for a page of something that has to be there. -/
def request {α : Type} (source : Option α) (target size : Int) : Except Fault (α × Request) :=
  match source with
  | none => .error .missingSource
  | some s => (Request.check target size).map fun r => (s, r)

/-- A request that is accepted is for the source given, and for the integers given. -/
theorem request_eq_ok {α : Type} {source : Option α} {target size : Int} {found : α}
    {r : Request} (h : request source target size = .ok (found, r)) :
    source = some found ∧ (r.target : Int) = target ∧ (r.size : Int) = size := by
  cases source with
  | none => cases h
  | some s =>
    cases hcheck : Request.check target size with
    | error fault =>
      rw [request, hcheck] at h
      cases h
    | ok checked =>
      rw [request, hcheck] at h
      cases h
      exact ⟨rfl, Request.of_check_eq_ok hcheck⟩

/-! ## Streams -/

/-- Reads the page asked for. -/
def read (p : Pager) (r : Request) : Source → Act (Page Value)
  | .fresh s => Act.ofExcept (s.page p.strategy r).1
  | .shared tap => Service.withTap tap fun s => s.page p.strategy r

/-- The page asked for, from a result that is read one element at a time. -/
def getPage (p : Pager) (source : Option Source) (target size : Int) : Act (Page Value) := do
  let (s, r) ← Act.ofExcept (request source target size)
  serve Tracing.emit p.strategy r (p.read r s)

/-! ## Feeds -/

/-- Whether a page that ended together with its protocol page is the last: it is when the protocol
page that follows is empty. -/
def probe (feed : Feed) (c : Collector Value) : Later (Page Value) := do
  Service.notice .fetchingTrail
  let next ← feed.fetch
  pure (c.page next.elements.isEmpty)

/-- Fetches the next protocol page for a collector that needs more elements. -/
def advance (feed : Feed) (c : Collector Value) : Later Feed := do
  Service.notice (.fetchingNext c.pageNumber c.filled c.request.size)
  feed.fetch

/-- Visits protocol pages until the call is decided.  `limit` bounds the number of pages visited;
when it is used up, the source counts as ended. -/
def collect : (limit : Nat) → Feed → Collector Value → Later (Page Value)
  | 0, _, c => Act.ofExcept (c.finish true)
  | limit + 1, feed, c => do
    match c.visit feed.elements (feed.hasMore (← Service.current)) with
    | .resolved answer => Act.ofExcept answer
    | .probing c => probe feed c
    | .wanting c =>
      let next ← advance feed c
      collect limit next c

/-- Reads the page asked for from protocol pages. -/
def readFeed (p : Pager) (r : Request) (feed : Feed) : Later (Page Value) := do
  collect (feed.horizon (← Service.current) + 1) feed (Collector.start p.strategy r)

/-- The call that resolves a request from a feed. -/
def feedCall (p : Pager) (r : Request) : Call :=
  ⟨"get_page_async", r.target, r.size, p.strategy⟩

/-- Resolves a request from a feed, tells of it and writes it down. -/
def serveFeed (p : Pager) (r : Request) (feed : Feed) : Later (Page Value) := do
  let page ← Tracing.followLater Tracing.emit (p.feedCall r) (p.readFeed r feed)
  logResolved r page
  pure page

/-- The page asked for, from a result received one protocol page at a time.  The request is checked
at once; the outcome is the computation to run. -/
def getPageLater (p : Pager) (source : Option Feed) (target size : Int) :
    Except Fault (Later (Page Value)) :=
  (request source target size).map fun (feed, r) => p.serveFeed r feed

end Pager

end Paging
