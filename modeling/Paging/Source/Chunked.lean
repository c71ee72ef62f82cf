import Paging.Fault
import Paging.Value.Display

/-!
# Paging.Source.Chunked — a sequence served in chunks of one size

A chunked sequence is served one chunk at a time.  A view is one chunk, taken from the sequence when
the view is made; that more follow is decided by the length of the sequence at the time of asking.
With `trailing`, a last chunk that is not empty is followed by an empty one, the way a server answers
that learns of the end only when asked once more.  All views count their fetches together.
-/

namespace Paging

/-- A sequence that is served in chunks. -/
structure Chunked (α : Type) where
  elements : List α
  fetchSize : Nat
  trailing : Bool := false
  /-- How many chunks have been fetched, by all views together. -/
  fetchCount : Nat := 0
  one_le_fetchSize : 1 ≤ fetchSize := by omega

/-- One chunk: where it starts in the sequence and what it holds. -/
structure ChunkView (α : Type) where
  offset : Nat
  chunk : List α

namespace Chunked

variable {α : Type}

/-- The chunk that starts at an offset. -/
def viewAt (c : Chunked α) (offset : Nat) : ChunkView α :=
  ⟨offset, (c.elements.drop offset).take c.fetchSize⟩

/-- The first chunk. -/
def first (c : Chunked α) : ChunkView α := c.viewAt 0

/-- Serves a sequence in chunks, if the size of a chunk is at least one. -/
def make (elements : List α) (fetchSize : Int) (trailing : Bool) : Except Fault (Chunked α) :=
  if h : fetchSize < 1 then .error (.belowOne .fetchSize fetchSize)
  else .ok { elements, fetchSize := fetchSize.toNat, trailing }

/-- Whether another chunk can be fetched after a view. -/
def hasMore (c : Chunked α) (v : ChunkView α) : Bool :=
  decide (v.offset + c.fetchSize < c.elements.length) || (c.trailing && !v.chunk.isEmpty)

/-- Fetches the chunk after a view. -/
def fetch (c : Chunked α) (v : ChunkView α) : Except Fault (ChunkView α) × Chunked α :=
  if c.hasMore v then
    (.ok (c.viewAt (v.offset + c.fetchSize)), { c with fetchCount := c.fetchCount + 1 })
  else (.error .noMorePages, c)

/-- Lets the sequence grow at its end. -/
def append (c : Chunked α) (more : List α) : Chunked α :=
  { c with elements := c.elements ++ more }

/-- A view as diagnostics show it. -/
def display (c : Chunked Value) (v : ChunkView Value) : String :=
  "ChunkedResult(offset=" ++ toString v.offset ++ ", chunk=" ++ Value.display (.list v.chunk) ++
    ", more=" ++ Value.displayBool (c.hasMore v) ++ ")"

instance : Inhabited (Chunked α) := ⟨⟨[], 1, false, 0, Nat.le_refl 1⟩⟩

/-! ## What fetching does -/

theorem fetch_eq_ok (c : Chunked α) (v : ChunkView α) (h : c.hasMore v = true) :
    c.fetch v = (.ok (c.viewAt (v.offset + c.fetchSize)),
      { c with fetchCount := c.fetchCount + 1 }) := by
  simp [fetch, h]

theorem fetch_eq_error (c : Chunked α) (v : ChunkView α) (h : c.hasMore v = false) :
    c.fetch v = (.error .noMorePages, c) := by
  simp [fetch, h]

end Chunked

end Paging
