import Paging.Issue
import Paging.Text.Quoted

/-!
# Paging.Fault — why an operation fails

A fault is a cause.  The library's own causes have constructors of their own; failures of sources,
servers, converters and listeners come from outside and are carried as they are (`raised`).  Each
fault has a class, a message, and is either an ordinary failure or one that asks the whole program
or task to stop (`isOrdinary`): cancellation, abandonment and interruption are of the second kind.
-/

namespace Paging

/-- The classes of fault. -/
inductive FaultClass
  | pagerError
  | invalidPageRequest
  | pageOutOfBounds
  | typeError
  | valueError
  | runtimeError
  | connectionError
  | timeoutError
  | lookupError
  | keyError
  | frozenError
  | validationError
  | serializationError
  | overflowError
  | cancelled
  | abandoned
  | interrupted
  deriving DecidableEq

namespace FaultClass

/-- The name of a class. -/
def name : FaultClass → String
  | pagerError => "PagerError"
  | invalidPageRequest => "InvalidPageRequest"
  | pageOutOfBounds => "PageOutOfBounds"
  | typeError => "TypeError"
  | valueError => "ValueError"
  | runtimeError => "RuntimeError"
  | connectionError => "ConnectionError"
  | timeoutError => "TimeoutError"
  | lookupError => "LookupError"
  | keyError => "KeyError"
  | frozenError => "FrozenInstanceError"
  | validationError => "ValidationError"
  | serializationError => "PydanticSerializationError"
  | overflowError => "OverflowError"
  | cancelled => "CancelledError"
  | abandoned => "GeneratorExit"
  | interrupted => "KeyboardInterrupt"

/-- Ordinary failures may be caught and reported; what asks for a stop passes through. -/
def isOrdinary : FaultClass → Bool
  | cancelled => false
  | abandoned => false
  | interrupted => false
  | _ => true

end FaultClass

/-- The families a class of fault can belong to, from the narrowest on. -/
inductive FaultFamily
  | pagerError
  | valueError
  | indexError
  | lookupError
  deriving DecidableEq

namespace FaultFamily

/-- The name of a family. -/
def name : FaultFamily → String
  | pagerError => "PagerError"
  | valueError => "ValueError"
  | indexError => "IndexError"
  | lookupError => "LookupError"

end FaultFamily

/-- The families of a class.  The library's own classes are all pager errors; an index error is a
lookup error too. -/
def FaultClass.families : FaultClass → List FaultFamily
  | pagerError => [.pagerError]
  | invalidPageRequest => [.pagerError, .valueError]
  | pageOutOfBounds => [.pagerError, .indexError, .lookupError]
  | valueError | validationError | serializationError => [.valueError]
  | lookupError | keyError => [.lookupError]
  | _ => []

/-- The quantities of a request that have to be at least one. -/
inductive RequestPart
  | targetPage
  | pageSize
  | fetchSize
  | batchSize
  deriving DecidableEq

/-- The name of a quantity in messages. -/
def RequestPart.label : RequestPart → String
  | targetPage => "target_page_number"
  | pageSize => "page_size"
  | fetchSize => "fetch_size"
  | batchSize => "batch_size"

/-- What is known when a page turns out to lie past the end. -/
structure OutOfBounds where
  /-- The page that was asked for. -/
  target : Int
  /-- The number of elements of the whole result. -/
  total : Int
  /-- The number of pages there are. -/
  pages : Int
  pageSize : Int
  deriving DecidableEq

/-- The sentence that reports a page past the end. -/
def OutOfBounds.message (o : OutOfBounds) : String :=
  "Page " ++ toString o.target ++ " out of bounds. The result only contains " ++
    toString o.total ++ " elements (" ++ toString o.pages ++ " pages of " ++
    toString o.pageSize ++ " elements)"

/-- The causes of failure. -/
inductive Fault
  /-- No result set was given. -/
  | missingSource
  /-- A quantity of the request is below one. -/
  | belowOne (part : RequestPart) (got : Int)
  /-- The page asked for lies past the end. -/
  | outOfBounds (bounds : OutOfBounds)
  /-- A protocol page was requested after the last one. -/
  | noMorePages
  /-- Something that is no strategy was given as one; `shown` is its display. -/
  | notAStrategy (shown : String)
  /-- A batch was requested from a query that is exhausted or closed. -/
  | queryOver
  /-- The server answered without a cursor. -/
  | replyWithoutCursor
  /-- A listener was to be removed that is not registered. -/
  | notRegistered
  /-- Something was asked for by a name that nothing has. -/
  | unknownName (name : String)
  /-- A field of a page was to be assigned. -/
  | frozenField (name : String)
  /-- Values did not pass validation. -/
  | invalid (issues : List Issue)
  /-- The items of a response are nested too deeply to be sent. -/
  | nestedTooDeep
  /-- The clock stands at more seconds than a binary number can say. -/
  | readingTooLarge
  /-- An integer is too large to be written with decimal places. -/
  | integerTooLarge
  /-- A failure from outside the library. -/
  | raised (kind : FaultClass) (message : String)
  deriving DecidableEq

namespace Fault

/-- The class of a fault. -/
def kind : Fault → FaultClass
  | missingSource => .typeError
  | belowOne _ _ => .invalidPageRequest
  | outOfBounds _ => .pageOutOfBounds
  | noMorePages => .pagerError
  | notAStrategy _ => .typeError
  | queryOver => .runtimeError
  | replyWithoutCursor => .keyError
  | notRegistered => .valueError
  | unknownName _ => .keyError
  | frozenField _ => .frozenError
  | invalid _ => .validationError
  | nestedTooDeep => .serializationError
  | readingTooLarge => .overflowError
  | integerTooLarge => .overflowError
  | raised k _ => k

/-- The message of a fault.  Failed validation is told by its issues and has none. -/
def message : Fault → String
  | missingSource => "source must not be None"
  | belowOne part got =>
    "Invalid " ++ part.label ++ ", expected >=1, got " ++ toString got
  | outOfBounds o => o.message
  | noMorePages => "No more pages to fetch"
  | notAStrategy shown => "Expected an OutOfBoundsStrategy, got " ++ shown
  | queryOver => "Cursor is exhausted or closed"
  | replyWithoutCursor => "'cursor'"
  | notRegistered => "list.remove(x): x not in list"
  | unknownName name => Text.quoted name
  | frozenField name => "cannot assign to field " ++ Text.quoted name
  | invalid _ => ""
  | nestedTooDeep => "Error serializing to JSON: ValueError: Maximum serialization depth exceeded"
  | readingTooLarge => "integer division result too large for a float"
  | integerTooLarge => "int too large to convert to float"
  | raised _ m => m

/-- Whether a fault is an ordinary failure. -/
def isOrdinary (f : Fault) : Bool := f.kind.isOrdinary

/-- A fault in one line: class and message. -/
def summary (f : Fault) : String := f.kind.name ++ ": " ++ f.message

/-- The fault that a cancelled task is given. -/
def cancellation : Fault := .raised .cancelled ""

/-- The fault that a waiting task is given when it is let go of. -/
def abandonment : Fault := .raised .abandoned ""

end Fault

end Paging
