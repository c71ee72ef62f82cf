import Paging.Server.Command
import Paging.Fault

/-!
# Paging.Server.Basic — a document server with one collection

A server hands out the documents of its collection batch by batch.  What its answers are is given:
either the documents themselves, cut into batches of the size asked for, or a list of answers.  A
plan of failures says which occurrence of which operation fails.
-/

namespace Paging

/-- The operations of a server that can fail. -/
inductive Occasion
  | startSession
  | find
  | getMore
  | killCursors
  | endSession
  deriving DecidableEq

/-- The operation a command is. -/
def Command.occasion : Command → Occasion
  | find .. => .find
  | getMore .. => .getMore
  | killCursors .. => .killCursors

/-- The answers to commands. -/
inductive Reply
  /-- The cursor, with its number and a batch; number zero means there is nothing left. -/
  | cursor (id : Int) (batch : List Value)
  /-- No cursor. -/
  | bare

/-- Where the answers to `find` and `getMore` come from. -/
inductive Supply
  /-- The documents left, the number of the cursor while there are any, and whether it is kept by
  the batch that takes the last of them. -/
  | documents (rest : List Value) (trailing : Bool) (cursorId : Int)
  /-- The answers left. -/
  | replies (rest : List Reply)

namespace Supply

/-- The number of answers that can still be given, at most. -/
def size : Supply → Nat
  | documents rest _ _ => rest.length
  | replies rest => rest.length

/-- The answer to a request for a batch, and what is left. -/
def next (batchSize : Int) : Supply → Except Fault Reply × Supply
  | documents rest trailing cursorId =>
    let batch := rest.take batchSize.toNat
    let rest := rest.drop batchSize.toNat
    let id := if !rest.isEmpty || (trailing && !batch.isEmpty) then cursorId else 0
    (.ok (.cursor id batch), documents rest trailing cursorId)
  | replies [] => (.error (.raised .lookupError "no more replies"), replies [])
  | replies (reply :: rest) => (.ok reply, replies rest)

end Supply

/-- A planned failure: the `nth` occurrence of an operation fails. -/
structure Failure where
  occasion : Occasion
  nth : Nat := 1
  fault : Fault
  deriving DecidableEq

/-- A document server. -/
structure Server where
  /-- The name of the collection. -/
  collection : String := "items"
  supply : Supply
  failures : List Failure := []
  /-- Whether commands wait for their answers. -/
  suspends : Bool := false
  /-- How many sessions have been started. -/
  sessions : Nat := 0
  /-- The operations that have taken place. -/
  past : List Occasion := []

namespace Server

/-- The fault planned for the next occurrence of an operation. -/
def planned (s : Server) (o : Occasion) : Option Fault :=
  (s.failures.find? fun f => f.occasion == o && f.nth == s.past.count o + 1).map (·.fault)

/-- Lets an operation take place; it may fail as planned. -/
def occur (s : Server) (o : Occasion) : Except Fault Unit × Server :=
  (match s.planned o with
    | some fault => .error fault
    | none => .ok (), { s with past := o :: s.past })

/-- The answer to a command. -/
def answer (s : Server) (c : Command) : Except Fault Reply × Server :=
  match s.occur c.occasion with
  | (.error fault, s) => (.error fault, s)
  | (.ok (), s) => match c with
    | .find _ _ batchSize _ _ | .getMore _ _ batchSize =>
      let (reply, supply) := s.supply.next batchSize
      (reply, { s with supply })
    | .killCursors _ _ => (.ok .bare, s)

instance : Inhabited Server := ⟨{ supply := .replies [] }⟩

end Server

end Paging
