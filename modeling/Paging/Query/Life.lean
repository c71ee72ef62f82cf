import Paging.Server.Session

/-!
# Paging.Query.Life — from opening a query to closing it

Opening a query starts a session, asks for the first batch and gives a view on it.  Every view of a
query can fetch the batch after the one received last, and can close the query; the number of the
cursor and the session belong to the query and not to the view.  Closing drops the cursor unless the
query was read to the end, and then ends the session in any case.
-/

namespace Paging

/-! ## Views -/

namespace BatchView

/-- The command that opens the cursor of a selection. -/
def command (collection : String) (selection : Selection) (batchSize : Int) : Command :=
  .find collection selection.filter batchSize (Members.ofPairs selection.order) selection.projection

/-- The answer to a first command; a failure ends the session. -/
def firstReply (server session : Nat) (c : Command) : Later Reply :=
  (Session.send server (some session) c).onFailure (Async.ofAction (Session.finish server session))

/-- A view on a batch that was received. -/
def receive (query : Nat) (converter : Option Converter) (batch : List Value) : Act BatchView := do
  let converted ← Act.ofExcept (convert converter batch)
  pure ⟨query, converted, converter⟩

/-- Opens a query and gives the view on its first batch. -/
def openOn (server : Nat) (selection : Selection) : Later BatchView := do
  let w ← Service.current
  let collection := (w.server server).collection
  let batchSize := selection.batchSize.getD w.settings.fetchSize
  if batchSize < 1 then
    Async.fail (.belowOne .batchSize batchSize)
  else
    let session ← Session.start server
    match ← firstReply server session (command collection selection batchSize) with
    | .bare => Async.fail .replyWithoutCursor
    | .cursor id batch =>
      Service.notice (.cursorOpened id collection batch.length)
      let query ← Service.openQuery
        { server, session := some session, cursorId := id, batchSize, batchesFetched := 1 }
      receive query selection.converter batch

/-- Whether the query may have more batches. -/
def hasMore (v : BatchView) (w : Service) : Bool := (w.query v.query).isAlive

/-- Fetches the batch after the one the query received last. -/
def fetch (v : BatchView) : Later BatchView := do
  let w ← Service.current
  let q := w.query v.query
  if q.isAlive then
    let c := Command.getMore q.cursorId (w.server q.server).collection q.batchSize
    match ← Session.send q.server q.session c with
    | .bare => Async.fail .replyWithoutCursor
    | .cursor id batch =>
      Service.queryUpdate v.query fun q =>
        { q with cursorId := id, batchesFetched := q.batchesFetched + 1 }
      receive v.query v.converter batch
  else Async.fail .queryOver

/-- Takes the session away from a query, so that nobody else ends it. -/
def takeSession (v : BatchView) : Act (Option Nat) := do
  let q := (← Service.current).query v.query
  Service.queryUpdate v.query fun q => { q with session := none }
  pure q.session

/-- Drops the cursor of a query, if it is open. -/
def dropCursor (v : BatchView) (session : Nat) : Later Unit := do
  let w ← Service.current
  let q := w.query v.query
  if q.isAlive then
    let collection := (w.server q.server).collection
    Service.queryUpdate v.query fun q => { q with cursorId := 0 }
    discard (Session.send q.server (some session) (.killCursors collection [q.cursorId]))
    Service.notice (.cursorKilled q.cursorId collection)

/-- Closes the query.  Closing it again does nothing. -/
def close (v : BatchView) : Later Unit := do
  match ← takeSession v with
  | none => pure ()
  | some session =>
    let q := (← Service.current).query v.query
    (dropCursor v session).andFinally (Async.ofAction (Session.finish q.server session))

end BatchView

/-! ## A block that closes its query -/

/-- A step inside a block. -/
inductive BlockStep
  | fetch
  | close
  | raise (fault : Fault)

namespace BatchView

/-- One step inside a block. -/
def blockStep (v : BatchView) : BlockStep → Later Unit
  | .fetch => discard v.fetch
  | .close => v.close
  | .raise fault => Async.fail fault

/-- The steps of a block, one after the other. -/
def blockSteps (v : BatchView) : List BlockStep → Later Unit
  | [] => pure ()
  | s :: rest => do
    v.blockStep s
    v.blockSteps rest

/-- Runs a block of steps and closes the query after it, however it ended. -/
def block (v : BatchView) (steps : List BlockStep) : Later Unit :=
  (v.blockSteps steps).andFinally v.close

end BatchView

end Paging
