import Paging.Value

/-!
# Paging.Server.Command — what is sent to a document server

A query sends three kinds of command: it asks for a first batch of documents, for the next batch of
an open cursor, and for a cursor to be dropped.  `Command.fields` is the order in which the parts of
a command are sent; the first of them names the command.
-/

namespace Paging

/-- The commands of a query. -/
inductive Command
  /-- Opens a cursor on the documents that pass a filter. -/
  | find (collection : String) (filter : Members) (batchSize : Int)
      (order : List (String × Int)) (projection : Members)
  /-- Asks for the next batch of a cursor. -/
  | getMore (cursor : Int) (collection : String) (batchSize : Int)
  /-- Drops cursors. -/
  | killCursors (collection : String) (cursors : List Int)

/-- A part of a command. -/
inductive Argument
  | value (v : Value)
  /-- A 64-bit integer. -/
  | long (n : Int)
  /-- A list of 64-bit integers. -/
  | longs (ns : List Int)
  /-- Field names with their directions, in order. -/
  | order (fields : List (String × Int))

namespace Command

/-- The name of a command. -/
def name : Command → String
  | find .. => "find"
  | getMore .. => "getMore"
  | killCursors .. => "killCursors"

/-- The parts of a command, in the order they are sent. -/
def fields : Command → List (String × Argument)
  | find collection filter batchSize order projection =>
    [("find", .value (.text collection)), ("filter", .value (.object filter)),
     ("batchSize", .value (.int batchSize))] ++
    (if order.isEmpty then [] else [("sort", .order order)]) ++
    (if projection.isEmpty then [] else [("projection", .value (.object projection))])
  | getMore cursor collection batchSize =>
    [("getMore", .long cursor), ("collection", .value (.text collection)),
     ("batchSize", .value (.int batchSize))]
  | killCursors collection cursors =>
    [("killCursors", .value (.text collection)), ("cursors", .longs cursors)]

end Command

/-- A sort order by names: a minus in front means descending. -/
def parseOrder (names : List String) : List (String × Int) :=
  names.map fun name =>
    match name.toList with
    | '-' :: rest => (String.ofList rest, -1)
    | _ => (name, 1)

end Paging
