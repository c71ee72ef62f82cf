import Paging.Query.Life
import Paging.Source.Chain

/-!
# Paging.Source.Feed — results received one protocol page at a time

A feed is a view on one protocol page, whichever kind of source it comes from.  It holds the
elements of that page, tells whether more may follow, and fetches the next page as a new feed.
`Feed.horizon` bounds how many fetches can succeed one after the other.
-/

namespace Paging

/-- A view on one protocol page of a source. -/
inductive Feed
  /-- Page `i` of a chain. -/
  | chain (c : Chain Value) (i : Nat)
  /-- A chunk of the sequence with a given number. -/
  | chunk (sequence : Nat) (v : ChunkView Value)
  /-- A batch of a query. -/
  | batch (v : BatchView)

namespace Feed

/-- The elements of the protocol page. -/
def elements : Feed → List Value
  | chain c i => c.elements i
  | chunk _ v => v.chunk
  | batch v => v.batch

/-- Whether more protocol pages may follow. -/
def hasMore (w : Service) : Feed → Bool
  | chain c i => c.hasMore i
  | chunk sequence v => (w.sequence sequence).hasMore v
  | batch v => v.hasMore w

/-- Waits, if a chain makes its readers wait. -/
def waitFor (c : Chain Value) (i : Nat) : Later Unit :=
  if c.suspends then Async.wait s!"fetch {i}" else pure ()

/-- Fetches the next protocol page. -/
def fetch : Feed → Later Feed
  | chain c i => do
    Service.contact (.fetch (i + 1))
    waitFor c (i + 1)
    Act.ofExcept (c.arrival (i + 1))
    pure (chain c (i + 1))
  | chunk sequence v => do
    let next ← Service.withSequence sequence fun c => c.fetch v
    pure (chunk sequence next)
  | batch v => do
    let next ← v.fetch
    pure (batch next)

/-- No more than this many fetches can succeed one after the other from a feed on. -/
def horizon (w : Service) : Feed → Nat
  | chain c _ => c.pages.length
  | chunk sequence _ => (w.sequence sequence).elements.length + 1
  | batch v => (w.server (w.query v.query).server).supply.size + 1

end Feed

/-- Serves a sequence in chunks and gives the feed of the first one. -/
def openChunked (elements : List Value) (fetchSize : Int) (trailing : Bool) : Act Feed := do
  let c ← Act.ofExcept (Chunked.make elements fetchSize trailing)
  let sequence ← Service.openSequence c
  pure (.chunk sequence c.first)

/-- Lets the sequence behind a feed grow; other sources do not. -/
def Feed.append (more : List Value) : Feed → Act Unit
  | .chunk sequence _ => Service.withSequence sequence fun c => (.ok (), c.append more)
  | _ => pure ()

end Paging
