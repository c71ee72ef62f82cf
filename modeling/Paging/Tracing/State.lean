import Paging.Tracing.Event

/-!
# Paging.Tracing.State — switches, listeners, clock and exporter

Tracing is off until it is enabled.  While it is on, every event is compared with the slowness
threshold, kept if events are captured, handed to the registered listeners, and exported as a span
if an exporter is installed.  Disabling it also forgets the listeners and the captured events.
-/

namespace Paging

/-! ## Clock -/

/-- The seconds at a count of sixty-fourths, as a binary number if there is one. -/
def sixtyFourths (count : Int) : Option Rat := Binary.round (mkRat count 64)

/-- A clock with a counter that moves on by a fixed amount when it is read. -/
structure Clock where
  now : Int := 0
  tick : Int := 0
  /-- The seconds that are shown at a count, if they can be shown. -/
  face : Int → Option Rat := sixtyFourths

namespace Clock

/-- The reading, in seconds. -/
def seconds? (c : Clock) : Option Rat := c.face c.now

/-- The clock after a reading. -/
def advance (c : Clock) : Clock := { c with now := c.now + c.tick }

/-- The milliseconds between two readings, rounded after the subtraction and after the change of
unit. -/
def elapsed (start stop : Rat) : Millis :=
  match (Binary.round (stop - start)).bind fun seconds => Binary.round (seconds * 1000) with
  | some q => .ofRat q
  | none => .endless (decide (stop < start))

/-- The time between two readings can always be written. -/
theorem isSome_fixed?_elapsed (places : Nat) (start stop : Rat) :
    ((elapsed start stop).fixed? places).isSome = true := by
  unfold elapsed
  split <;> rfl

end Clock

/-! ## Exporter -/

/-- The operations of an installed span exporter, each with the fault it fails with, if it does. -/
structure Exporter where
  /-- Obtaining the tracer. -/
  tracer : Option Fault := none
  /-- Starting a span. -/
  start : Option Fault := none
  /-- Setting the attributes of a span. -/
  attributes : Option Fault := none
  /-- Ending a span. -/
  finish : Option Fault := none
  deriving DecidableEq

/-! ## Listeners -/

/-- What a listener does when it is notified. -/
inductive Reaction
  /-- Notes down that it was notified, and of what. -/
  | record
  /-- Fails. -/
  | raise (fault : Fault)
  /-- Registers the listener of that name. -/
  | add (name : String)
  /-- Removes one registration of the listener of that name. -/
  | remove (name : String)
  /-- Disables tracing. -/
  | disable
  /-- Forgets the captured events. -/
  | clear
  /-- Notes down how many events are captured. -/
  | events
  /-- The first time only, asks for a page of a list of its own. -/
  | nested (page size : Int)
  deriving DecidableEq

/-- A listener: its name, what it does, and whether it has asked for its page. -/
structure Listener where
  name : String
  reactions : List Reaction
  nestedDone : Bool := false
  deriving DecidableEq

/-! ## Tracing -/

/-- The switches of tracing, the registered listeners and the captured events. -/
structure Tracing where
  enabled : Bool := false
  captures : Bool := false
  /-- Calls that take longer are reported. -/
  threshold : Millis := .binary false 100
  /-- The registered listeners, by their place among all that were defined. -/
  registry : List Nat := []
  events : List PageEvent := []
  deriving DecidableEq

namespace Tracing

/-- Turns tracing on. -/
def enable (threshold : Millis) (captures : Bool) (t : Tracing) : Tracing :=
  { t with enabled := true, threshold, captures }

/-- Turns tracing off and forgets listeners and events. -/
def disabled : Tracing := {}

/-- Forgets the captured events. -/
def clear (t : Tracing) : Tracing := { t with events := [] }

/-- Keeps an event, if events are captured. -/
def capture (event : PageEvent) (t : Tracing) : Tracing :=
  if t.captures then { t with events := t.events ++ [event] } else t

@[simp]
theorem enabled_capture (event : PageEvent) (t : Tracing) :
    (capture event t).enabled = t.enabled := by
  unfold capture
  split <;> rfl

@[simp]
theorem captures_capture (event : PageEvent) (t : Tracing) :
    (capture event t).captures = t.captures := by
  unfold capture
  split <;> rfl

@[simp]
theorem threshold_capture (event : PageEvent) (t : Tracing) :
    (capture event t).threshold = t.threshold := by
  unfold capture
  split <;> rfl

theorem events_capture (event : PageEvent) (t : Tracing) :
    (capture event t).events = t.events ++ if t.captures then [event] else [] := by
  unfold capture
  split <;> simp

/-- Registers a listener once more. -/
def register (listener : Nat) (t : Tracing) : Tracing :=
  { t with registry := t.registry ++ [listener] }

/-- Removes the earliest registration of a listener. -/
def unregister (listener : Nat) (t : Tracing) : Tracing :=
  { t with registry := t.registry.erase listener }

end Tracing

end Paging
