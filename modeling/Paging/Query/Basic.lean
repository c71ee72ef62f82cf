import Paging.Fault
import Paging.Value

/-!
# Paging.Query.Basic — queries, their batches, and what is asked of them

A query is what all its batches share: the server and the session it runs in, and the cursor last
received.  A batch keeps its documents as the converter of the query has made them.
-/

namespace Paging

/-- A query that has been opened: what all its batches share. -/
structure Query where
  /-- The number of the server it runs on. -/
  server : Nat
  /-- The session it runs in, until it is closed. -/
  session : Option Nat
  /-- The number of the cursor last received; zero means there is nothing left. -/
  cursorId : Int
  /-- How many documents are asked for at a time. -/
  batchSize : Int
  batchesFetched : Nat
  deriving DecidableEq

/-- A query may have more batches as long as its cursor is open. -/
def Query.isAlive (q : Query) : Bool := q.cursorId != 0

instance : Inhabited Query := ⟨⟨0, none, 0, 1, 0⟩⟩

/-- What becomes of a document; it may fail. -/
abbrev Converter : Type := Value → Except Fault Value

namespace Converter

/-- The member of a document called `n`. -/
def number : Converter
  | .object members => match members.lookup "n" with
    | some v => .ok v
    | none => .error (.raised .valueError "document without n")
  | _ => .error (.raised .valueError "document without n")

/-- The names of the members of a document, in order. -/
def names : Converter
  | .object members =>
    .ok (.list ((members.map Prod.fst).mergeSort (fun a b => decide (a ≤ b)) |>.map Value.text))
  | _ => .ok (.list [])

/-- Nothing, whatever the document. -/
def nothing : Converter := fun _ => .ok .null

end Converter

/-- A batch after conversion: the documents in order, or the first failure. -/
def convert (converter : Option Converter) (batch : List Value) : Except Fault (List Value) :=
  match converter with
  | none => .ok batch
  | some f => batch.mapM f

/-- One batch of a query. -/
structure BatchView where
  /-- The number of the query. -/
  query : Nat
  batch : List Value
  converter : Option Converter

/-- What to look for. -/
structure Selection where
  filter : Members := []
  order : List (String × Int) := []
  projection : Members := []
  /-- The documents per batch; the settings decide where it is missing. -/
  batchSize : Option Int := none
  converter : Option Converter := none

end Paging
