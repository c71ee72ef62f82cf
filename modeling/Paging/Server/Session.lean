import Paging.Service

/-!
# Paging.Server.Session — sessions and commands

What a query does to a server: it starts a session, sends commands in it and ends it.  Each of these
is written into the journal first; a command then waits, if the server makes its callers wait, and
only after that it fails or is answered.
-/

namespace Paging.Session

/-- The number of the next session of a server. -/
def next (server : Nat) : Act Nat :=
  Service.withServer server fun s => (.ok (s.sessions + 1), { s with sessions := s.sessions + 1 })

/-- Starts a session and gives its number. -/
def start (server : Nat) : Act Nat := do
  let session ← next server
  Service.contact (.startSession session)
  Service.withServer server fun s => s.occur .startSession
  pure session

/-- Ends a session. -/
def finish (server session : Nat) : Act Unit := do
  Service.contact (.endSession session)
  Service.withServer server fun s => s.occur .endSession

/-- Waits for a server, if it makes its callers wait. -/
def waitFor (server : Nat) (c : Command) : Later Unit := do
  if ((← Service.current).server server).suspends then
    Async.wait ("command " ++ c.name)

/-- Sends a command and gives the answer. -/
def send (server : Nat) (session : Option Nat) (c : Command) : Later Reply := do
  Service.contact (.command session c)
  waitFor server c
  Service.withServer server fun s => s.answer c

end Paging.Session
