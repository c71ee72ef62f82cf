import Paging.Number.Millis
import Paging.Strategy
import Paging.Page
import Paging.Fault

/-!
# Paging.Tracing.Event — what is told about a pagination call

An event describes one finished call: what was asked for, and either the page that came of it or the
class of the fault.  The same facts, as named attributes, go into the span for telemetry.
-/

namespace Paging

/-- A pagination call, as far as tracing is concerned. -/
structure Call where
  operation : String
  targetPage : Int
  pageSize : Int
  strategy : Strategy
  deriving DecidableEq

/-- A finished pagination call. -/
structure PageEvent where
  operation : String
  targetPage : Int
  pageSize : Int
  /-- The name of the strategy. -/
  strategy : String
  pageNumber : Option Int := none
  elementCount : Option Int := none
  isLast : Option Bool := none
  duration : Millis := .zero
  /-- The class of the fault. -/
  error : Option String := none
  deriving DecidableEq

namespace PageEvent

/-- The event of a call that took a while, with the page it stored and the fault it ended with. -/
def ofCall (call : Call) (duration : Millis) (page : Option (Page Value)) (fault : Option Fault) :
    PageEvent where
  operation := call.operation
  targetPage := call.targetPage
  pageSize := call.pageSize
  strategy := call.strategy.name
  pageNumber := page.map (·.number)
  elementCount := page.map fun p => p.size
  isLast := page.map (·.isLast)
  duration := duration
  error := fault.map (·.kind.name)

/-- A value that may be missing. -/
def optional {α : Type} (f : α → Value) : Option α → Value
  | some a => f a
  | none => .null

/-- The fields of an event whose duration is written as `duration`. -/
def fieldsWith (event : PageEvent) (duration : String) : Members :=
  [("operation", .text event.operation),
   ("target_page_number", .int event.targetPage),
   ("page_size", .int event.pageSize),
   ("strategy", .text event.strategy),
   ("page_number", optional .int event.pageNumber),
   ("element_count", optional .int event.elementCount),
   ("is_last", optional .bool event.isLast),
   ("duration_ms", .text duration),
   ("error", optional .text event.error)]

/-- The name of the span of an event. -/
def spanName (event : PageEvent) : String := "offsetpager." ++ event.operation

/-- The attributes of the span of an event whose duration is written as `duration`.  Facts about the
page are left out when there is none, and so is the class of the fault. -/
def attributesWith (event : PageEvent) (duration : String) : Members :=
  [("pager.operation", .text event.operation),
   ("pager.target_page_number", .int event.targetPage),
   ("pager.page_size", .int event.pageSize),
   ("pager.strategy", .text event.strategy),
   ("pager.duration_ms", .text duration)] ++
  (match event.pageNumber with
    | some number =>
      [("pager.page_number", .int number),
       ("pager.element_count", optional .int event.elementCount),
       ("pager.is_last", optional .bool event.isLast)]
    | none => []) ++
  (match event.error with
    | some kind => if kind.isEmpty then [] else [("error.type", .text kind)]
    | none => [])

/-- The duration with three places, if it can be written. -/
def durationText? (event : PageEvent) : Option String := event.duration.fixed? 3

/-- The fields of an event, if its duration can be written. -/
def fields? (event : PageEvent) : Option Members := event.durationText?.map event.fieldsWith

/-- The attributes of the span of an event, if its duration can be written. -/
def attributes? (event : PageEvent) : Option Members := event.durationText?.map event.attributesWith

end PageEvent

end Paging
