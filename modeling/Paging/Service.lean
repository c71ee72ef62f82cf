import Paging.Effect.Suspension
import Paging.Journal
import Paging.Query.Basic
import Paging.Settings
import Paging.Source.Chunked
import Paging.Server.Basic
import Paging.Stream
import Paging.Tracing.State

/-!
# Paging.Service — the state that pagination calls share

Calls share the settings, the tracing state, the clock, the exporter, the journal, and whatever is
open: streams being read, sequences served in chunks, servers and queries.  Open things are known by
their number, which is their place in the list of their kind; none is ever removed.
-/

namespace Paging

/-- A stream that several calls read from; the pulls of a watched one are noted down. -/
structure Tap where
  stream : Stream Value
  watched : Bool := false

instance : Inhabited Tap := ⟨{ stream := Stream.ofPulls [] }⟩

/-- The state that calls share. -/
structure Service where
  settings : Settings := .builtIn
  tracing : Tracing := {}
  /-- All listeners that were defined, registered or not. -/
  listeners : List Listener := []
  clock : Clock := {}
  /-- The exporter of spans, if one is installed. -/
  exporter : Option Exporter := none
  journal : Journal := {}
  taps : List Tap := []
  sequences : List (Chunked Value) := []
  servers : List Server := []
  queries : List Query := []

/-- An action on the shared state. -/
abbrev Act (α : Type) : Type := Action Service Fault α

/-- A computation on the shared state that may wait. -/
abbrev Later (α : Type) : Type := Async Service Fault α

/-- Gives the result of a computation that does not touch the shared state, or its fault. -/
def Act.ofExcept {α : Type} (r : Except Fault α) : Act α := Action.ofExcept r

namespace Service

/-- The shared state as it is. -/
def current : Act Service := Action.state

/-! ## The journal -/

/-- Notes down a contact with the outside. -/
def contact (c : Contact) : Act Unit := Action.update fun w =>
  { w with journal := { w.journal with contacts := w.journal.contacts ++ [c] } }

/-- Writes a notice to the log. -/
def notice (n : Notice) : Act Unit := Action.update fun w =>
  { w with journal := { w.journal with notices := w.journal.notices ++ [n] } }

/-! ## Settings -/

/-- Gives fields of the settings other values and gives the new settings.  If that is refused, the
settings stay as they are. -/
def configure (values : Members) : Act Settings := do
  let settings ← Act.ofExcept ((← current).settings.configure values)
  Action.update fun w => { w with settings }
  pure settings

/-- Restores the built-in settings. -/
def resetSettings : Act Unit := Action.update fun w => { w with settings := .builtIn }

/-! ## Tracing and clock -/

/-- Changes the tracing state. -/
def tracingUpdate (f : Tracing → Tracing) : Act Unit := Action.update fun w =>
  { w with tracing := f w.tracing }

/-- Reads the clock, which moves on.  A clock that cannot show the time stands still. -/
def readClock : Act Rat := fun w =>
  match w.clock.seconds? with
  | some seconds => (.ok seconds, { w with clock := w.clock.advance })
  | none => (.error .readingTooLarge, w)

/-! ## What is open -/

/-- Opens a stream for several calls and gives its number. -/
def openTap (tap : Tap) : Act Nat := fun w =>
  (.ok w.taps.length, { w with taps := w.taps ++ [tap] })

/-- Opens a sequence served in chunks and gives its number. -/
def openSequence (c : Chunked Value) : Act Nat := fun w =>
  (.ok w.sequences.length, { w with sequences := w.sequences ++ [c] })

/-- Puts up a server and gives its number. -/
def openServer (s : Server) : Act Nat := fun w =>
  (.ok w.servers.length, { w with servers := w.servers ++ [s] })

/-- Opens a query and gives its number. -/
def openQuery (q : Query) : Act Nat := fun w =>
  (.ok w.queries.length, { w with queries := w.queries ++ [q] })

/-- A stream by its number. -/
def tap (w : Service) (i : Nat) : Tap := w.taps.getD i default

/-- A sequence by its number. -/
def sequence (w : Service) (i : Nat) : Chunked Value := w.sequences.getD i default

/-- A server by its number. -/
def server (w : Service) (i : Nat) : Server := w.servers.getD i default

/-- A query by its number. -/
def query (w : Service) (i : Nat) : Query := w.queries.getD i default

/-- Changes a query. -/
def queryUpdate (i : Nat) (f : Query → Query) : Act Unit := Action.update fun w =>
  { w with queries := w.queries.modify i f }

/-- Does something with a server that may fail. -/
def withServer {α : Type} (i : Nat) (f : Server → Except Fault α × Server) : Act α := fun w =>
  let (r, s) := f (w.server i)
  (r, { w with servers := w.servers.set i s })

/-- Does something with a sequence that may fail. -/
def withSequence {α : Type} (i : Nat) (f : Chunked Value → Except Fault α × Chunked Value) :
    Act α := fun w =>
  let (r, c) := f (w.sequence i)
  (r, { w with sequences := w.sequences.set i c })

/-- Reads from a stream; the pulls of a watched one are noted down. -/
def withTap {α : Type} (i : Nat) (f : Stream Value → Except Fault α × Stream Value) : Act α :=
  fun w =>
    let tap := w.tap i
    let (r, s) := f tap.stream
    let pulled := s.position - tap.stream.position
    let contacts := if tap.watched then
      (List.range' tap.stream.position pulled).map Contact.pull else []
    (r, { w with
      taps := w.taps.set i { tap with stream := s }
      journal := { w.journal with contacts := w.journal.contacts ++ contacts } })

end Service

end Paging
