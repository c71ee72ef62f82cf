import Paging.Service

/-!
# Paging.Tracing.Emission — what happens to an event

An event is kept, compared with the threshold, handed to the listeners that are registered when its
notification begins, and exported as a span.  An ordinary failure of a listener is logged and stops
nothing; any other fault goes on to the caller.  The same holds of the export, except that a failure
to obtain the tracer is not contained.

A listener may ask for a page itself, so resolving a page and telling of it depend on each other.
The knot is tied by `emitWithin`: a listener asks for its page only once, so the number of listeners
that have yet to do so bounds how deep the calls nest.
-/

namespace Paging

/-- What is done with an event. -/
abbrev Emitter : Type := PageEvent → Act Unit

/-- Gives what was written out, unless a duration in it was an integer too large for that. -/
def written {α : Type} : Option α → Act α
  | some a => pure a
  | none => Action.fail .integerTooLarge

/-! ## Listeners -/

namespace Service

/-- The number of the listener last defined under a name. -/
def listenerNamed (w : Service) (name : String) : Option Nat :=
  (List.range w.listeners.length).reverse.find? fun i =>
    w.listeners[i]?.any fun listener => listener.name == name

/-- Defines a listener.  It is not registered by that. -/
def defineListener (listener : Listener) : Act Unit := Action.update fun w =>
  { w with listeners := w.listeners ++ [listener] }

/-- Registers the listener of a name, once more if it is registered already. -/
def addListener (name : String) : Act Unit := fun w =>
  match w.listenerNamed name with
  | some i => (.ok (), { w with tracing := w.tracing.register i })
  | none => (.error (.unknownName name), w)

/-- Removes the earliest registration of the listener of a name. -/
def removeListener (name : String) : Act Unit := fun w =>
  match w.listenerNamed name with
  | some i =>
    if w.tracing.registry.contains i then
      (.ok (), { w with tracing := w.tracing.unregister i })
    else (.error .notRegistered, w)
  | none => (.error (.unknownName name), w)

/-- Marks that a listener asks for its page; tells whether it had done so before. -/
def claimNested (i : Nat) : Act Bool := fun w =>
  match w.listeners[i]? with
  | some listener =>
    (.ok listener.nestedDone,
      { w with listeners := w.listeners.set i { listener with nestedDone := true } })
  | none => (.ok true, w)

end Service

namespace Reaction

/-- What a listener does.  `ask` resolves the page it asks for. -/
def perform (ask : Int → Int → Act Unit) (i : Nat) (name : String) (event : PageEvent) :
    Reaction → Act Unit
  | record => do
    discard (written event.fields?)
    Service.contact (.notified name event)
  | raise fault => Action.fail fault
  | add other => Service.addListener other
  | remove other => Service.removeListener other
  | disable => Service.tracingUpdate fun _ => Tracing.disabled
  | clear => Service.tracingUpdate Tracing.clear
  | events => do Service.contact (.counted name (← Service.current).tracing.events.length)
  | nested page size => do if ← Service.claimNested i then pure () else ask page size

end Reaction

/-- Lets a listener react to an event, up to its first failure. -/
def Listener.react (ask : Int → Int → Act Unit) (i : Nat) (listener : Listener)
    (event : PageEvent) : List Reaction → Act Unit
  | [] => pure ()
  | reaction :: rest => do
    reaction.perform ask i listener.name event
    listener.react ask i event rest

/-! ## Notification and export -/

namespace Tracing

/-- Hands an event to listeners one after the other. -/
def notify (ask : Int → Int → Act Unit) (event : PageEvent) : List Nat → Act Unit
  | [] => pure ()
  | i :: rest => do
    match (← Service.current).listeners[i]? with
    | none => pure ()
    | some listener =>
      match ← Action.attempt (listener.react ask i event listener.reactions) with
      | .ok () => pure ()
      | .error fault =>
        if fault.isOrdinary then Service.notice (.listenerFailed listener.name fault)
        else Action.fail fault
    notify ask event rest

/-- Fails if there is a fault to fail with. -/
def failing : Option Fault → Act Unit
  | none => pure ()
  | some fault => Action.fail fault

/-- Opens a span, gives it the attributes of an event and ends it.  A span that was started is ended
also when its attributes could not be set. -/
def span (exporter : Exporter) (event : PageEvent) : Act Unit := do
  failing exporter.start
  let outcome ← Action.attempt (do
    failing exporter.attributes
    Service.contact (.span event.spanName (← written event.attributes?)))
  failing exporter.finish
  Act.ofExcept outcome

/-- Exports an event as a span, if an exporter is installed. -/
def exportSpan (event : PageEvent) : Act Unit := do
  match (← Service.current).exporter with
  | none => pure ()
  | some exporter =>
    failing exporter.tracer
    match ← Action.attempt (span exporter event) with
    | .ok () => pure ()
    | .error fault =>
      if fault.isOrdinary then Service.notice (.spanFailed event.operation fault)
      else Action.fail fault

/-- Deals with an event.  `ask` resolves the pages that listeners ask for. -/
def emitWith (ask : Int → Int → Act Unit) : Emitter := fun event => do
  let tracing := (← Service.current).tracing
  if tracing.enabled then
    Service.tracingUpdate (capture event)
    if event.duration.longerThan tracing.threshold then
      let duration ← written (event.duration.fixed? 1)
      let threshold ← written (tracing.threshold.fixed? 1)
      Service.notice (.slow event duration threshold)
    notify ask event (← Service.current).tracing.registry
    exportSpan event

/-- The captured events, field by field. -/
def captured : Act (List Members) := do
  (← Service.current).tracing.events.mapM fun event => written event.fields?

/-! ## Following a call -/

/-- The reading of the clock when a call begins, if tracing is on. -/
def begin : Act (Option Rat) := do
  if (← Service.current).tracing.enabled then
    let start ← Service.readClock
    pure (some start)
  else pure none

/-- Tells of a call that is over, if tracing was on when it began. -/
def conclude (emit : Emitter) (call : Call) (page : Option (Page Value)) (fault : Option Fault) :
    Option Rat → Act Unit
  | none => pure ()
  | some start => do
    let stop ← Service.readClock
    emit (.ofCall call (Clock.elapsed start stop) page fault)

/-- Tells of the outcome of a call and gives that outcome. -/
def report (emit : Emitter) (call : Call) (start : Option Rat) (outcome : Except Fault (Page Value)) :
    Act (Page Value) :=
  match outcome with
  | .ok page => do
    conclude emit call (some page) none start
    pure page
  | .error fault => do
    conclude emit call none (some fault) start
    Action.fail fault

/-- Follows a call that does not wait. -/
def follow (emit : Emitter) (call : Call) (body : Act (Page Value)) : Act (Page Value) := do
  let start ← begin
  let outcome ← Action.attempt body
  report emit call start outcome

/-- Follows a call that may wait. -/
def followLater (emit : Emitter) (call : Call) (body : Later (Page Value)) : Later (Page Value) := do
  let start ← begin
  let outcome ← Async.attempt body
  report emit call start outcome

/-- Follows a block of the caller's own, which may store a page and may fail. -/
def followBlock (emit : Emitter) (call : Call) (page : Option (Page Value))
    (fault : Option Fault) : Act Unit := do
  let start ← begin
  conclude emit call page fault start
  failing fault

end Tracing

/-! ## Calls that tell of themselves -/

/-- Writes down that a call has its page. -/
def logResolved (request : Request) (page : Page Value) : Act Unit :=
  Service.notice (.resolved page.number request.size page.size page.isLast)

/-- The call that resolves a request from a stream. -/
def Request.pullCall (request : Request) (strategy : Strategy) : Call :=
  ⟨"get_page", request.target, request.size, strategy⟩

/-- Resolves a request by a given computation, tells of it and writes it down. -/
def serve (emit : Emitter) (strategy : Strategy) (request : Request) (body : Act (Page Value)) :
    Act (Page Value) := do
  let page ← Tracing.follow emit (request.pullCall strategy) body
  logResolved request page
  pure page

namespace Tracing

/-- The list that listeners page through. -/
def nestedList : List Value := [.int 1, .int 2, .int 3]

/-- Resolves a page of the list that listeners page through. -/
def askWith (emit : Emitter) (page size : Int) : Act Unit := do
  let request ← Act.ofExcept (Request.check page size)
  discard (serve emit .fail request
    (Act.ofExcept ((Stream.ofList nestedList).page .fail request).1))

/-- Deals with an event, with nested calls down to a depth. -/
def emitWithin : Nat → Emitter
  | 0 => emitWith fun _ _ => pure ()
  | depth + 1 => emitWith (askWith (emitWithin depth))

/-- The listeners that have yet to ask for their page. -/
def pendingNested (w : Service) : Nat := (w.listeners.filter fun l => !l.nestedDone).length

/-- Deals with an event. -/
def emit : Emitter := fun event w => emitWithin (pendingNested w) event w

end Tracing

end Paging
