import Paging.Tracing.Event
import Paging.Server.Command

/-!
# Paging.Journal — what a run leaves behind

The journal keeps two sequences in the order of events: the contacts with the outside (elements
pulled, protocol pages fetched, sessions and commands, listeners notified, spans exported) and the
notices for the log, each with its level, the logger it belongs to and its text.
-/

namespace Paging

/-- A contact with something outside the library. -/
inductive Contact
  /-- Pull number `i` on a watched stream. -/
  | pull (i : Nat)
  /-- Protocol page `i` of a chain is fetched. -/
  | fetch (i : Nat)
  | startSession (session : Nat)
  /-- A command in a session, or outside all sessions. -/
  | command (session : Option Nat) (command : Command)
  | endSession (session : Nat)
  /-- A listener is notified of an event. -/
  | notified (listener : String) (event : PageEvent)
  /-- A listener counts the captured events. -/
  | counted (listener : String) (events : Nat)
  /-- A span gets its attributes. -/
  | span (name : String) (attributes : Members)

/-- The levels of the log. -/
inductive Level
  | debug
  | warning
  | error
  deriving DecidableEq

/-- The name of a level. -/
def Level.name : Level → String
  | debug => "DEBUG"
  | warning => "WARNING"
  | error => "ERROR"

/-- The notices for the log. -/
inductive Notice
  /-- A call has its page. -/
  | resolved (number size : Int) (count : Nat) (isLast : Bool)
  /-- Another protocol page is fetched to fill the page being formed. -/
  | fetchingNext (pageNumber filled size : Nat)
  /-- Another protocol page is fetched to see whether anything follows. -/
  | fetchingTrail
  | cursorOpened (cursor : Int) (collection : String) (documents : Nat)
  | cursorKilled (cursor : Int) (collection : String)
  /-- A call took longer than the threshold; both are written as texts. -/
  | slow (event : PageEvent) (duration threshold : String)
  /-- A listener failed. -/
  | listenerFailed (listener : String) (fault : Fault)
  /-- The export of a span failed. -/
  | spanFailed (operation : String) (fault : Fault)
  deriving DecidableEq

namespace Notice

/-- The level of a notice. -/
def level : Notice → Level
  | slow .. => .warning
  | listenerFailed .. | spanFailed .. => .error
  | _ => .debug

/-- The logger a notice belongs to. -/
def logger : Notice → String
  | resolved .. | fetchingNext .. | fetchingTrail => "offsetpager.core.pager"
  | cursorOpened .. | cursorKilled .. => "offsetpager.integrations.mongo"
  | slow .. | listenerFailed .. | spanFailed .. => "offsetpager"

/-- The text of a notice. -/
def message : Notice → String
  | resolved number size count isLast =>
    s!"Resolved page {number} of size {size} ({count} elements, last=" ++
      Value.displayBool isLast ++ ")"
  | fetchingNext pageNumber filled size =>
    s!"Fetching next protocol page (logical page {pageNumber}, {filled}/{size} elements)"
  | fetchingTrail => "Fetching next protocol page to check for trailing elements"
  | cursorOpened cursor collection documents =>
    s!"Opened cursor {cursor} on {collection} with {documents} documents in first batch"
  | cursorKilled cursor collection => s!"Killed cursor {cursor} on {collection}"
  | slow event duration threshold =>
    s!"Slow pagination: {event.operation} of page {event.targetPage} (size {event.pageSize})" ++
      s!" took {duration}ms (threshold: {threshold}ms)"
  | listenerFailed listener _ => s!"Page event listener <listener {listener}> failed"
  | spanFailed operation _ => s!"Failed to emit span for {operation}"

/-- The fault a notice reports. -/
def fault? : Notice → Option Fault
  | listenerFailed _ fault | spanFailed _ fault => some fault
  | _ => none

end Notice

/-- Everything a run leaves behind. -/
structure Journal where
  contacts : List Contact := []
  notices : List Notice := []

end Paging
