import Paging.Proofs.Query.Life

/-!
# Paging.Proofs.Query.Opening — how a query is opened

A query is opened by starting a session and sending a first command.  There are four ways in which this
ends (`Opening`): the query is open, or the command has failed and the session was ended, or the query
has not come into being although the command was answered, and its session goes on.
-/

namespace Paging

namespace Server

/-- What is not planned to fail succeeds. -/
theorem occur_of_not_planned {s : Server} {o : Occasion} (h : s.planned o = none) :
    (s.occur o).1 = .ok () := by
  rw [occur, h]

/-- A server on which a session has been started. -/
def started (s : Server) : Server :=
  ({ s with sessions := s.sessions + 1 }.occur .startSession).2

end Server

/-- The conversation that begins when a session is started on a server. -/
def Service.conversation (w : Service) (i : Nat) : Conversation where
  server := i
  session := (w.server i).sessions + 1
  before := w.traffic ++ [.startSession ((w.server i).sessions + 1)]
  opening := (w.server i).started

/-- Before the server lets a session start, it has counted it, and the start has been noted down. -/
theorem Session.start_counted {w : Service} {i : Nat} (hi : i < w.servers.length) : ∃ u,
    Session.start i w = ((Service.withServer i fun s => s.occur .startSession) >>= fun _ =>
      pure (w.conversation i).session) u ∧ i < u.servers.length ∧
      u.server i = { w.server i with sessions := (w.server i).sessions + 1 } ∧
      u.traffic = (w.conversation i).before := by
  have hnext : Session.next i w = (.ok (w.conversation i).session, (Session.next i w).2) := rfl
  have hcounted : (Session.next i w).2.server i =
      { w.server i with sessions := (w.server i).sessions + 1 } := Service.server_withServer _ hi
  obtain ⟨u, hu, htraffic, hservers, _⟩ :=
    Service.contact_apply (c := .startSession (w.conversation i).session) rfl (Session.next i w).2
  refine ⟨u, ?_, ?_, ?_, htraffic⟩
  · rw [Session.start, Action.bind_of_ok hnext, Action.bind_of_ok hu]
  · rw [hservers, Session.next, Service.length_withServer]
    exact hi
  · rw [← hcounted]
    exact Service.server_congr hservers i

/-- A session that starts begins a conversation. -/
theorem Session.start_apply {w : Service} {i : Nat} (hi : i < w.servers.length)
    (hstart : (w.server i).planned .startSession = none) : ∃ v,
    Session.start i w = (.ok (w.conversation i).session, v) ∧ (w.conversation i).At [] [] v := by
  obtain ⟨u, hu, hexists, hserver, htraffic⟩ := start_counted hi
  have hstarted : (Service.withServer i (fun s => s.occur .startSession) u).2.server i =
      (w.conversation i).opening := by
    rw [Service.server_withServer _ hexists, hserver]
    rfl
  have hoccurs : (Service.withServer i (fun s => s.occur .startSession) u).1 = .ok () := by
    show (u.server i |>.occur .startSession).1 = .ok ()
    rw [hserver]
    exact Server.occur_of_not_planned hstart
  refine ⟨(Service.withServer i (fun s => s.occur .startSession) u).2, ?_, ?_, ?_, ?_⟩
  · rw [hu, Action.bind_of_ok (Prod.ext hoccurs rfl)]
    rfl
  · rw [Service.length_withServer]
    exact hexists
  · rw [List.map_nil, List.append_nil]
    exact htraffic
  · show Server.Answers _ [] [] (Service.server _ i)
    rw [hstarted]
    exact .nil _

/-- A session that is planned to fail does not start. -/
theorem Session.start_of_planned {w : Service} {i : Nat} {fault : Fault}
    (hi : i < w.servers.length) (hstart : (w.server i).planned .startSession = some fault) :
    ∃ v, Session.start i w = (.error fault, v) := by
  obtain ⟨u, hu, _, hserver, _⟩ := start_counted hi
  have hfails : (Service.withServer i (fun s => s.occur .startSession) u).1 = .error fault := by
    show (u.server i |>.occur .startSession).1 = .error fault
    have hplanned : (u.server i).planned .startSession = some fault := by
      rw [hserver]
      exact hstart
    rw [Server.occur, hplanned]
  exact ⟨_, hu.trans (Action.bind_of_error (Prod.ext hfails rfl))⟩

/-- The documents that a call asks for at a time. -/
def Selection.batchSizeIn (selection : Selection) (w : Service) : Int :=
  selection.batchSize.getD w.settings.fetchSize

/-- The first command of a call. -/
def Selection.find (selection : Selection) (w : Service) (i : Nat) : Command :=
  BatchView.command (w.server i).collection selection (selection.batchSizeIn w)

namespace BatchView

open Conversation

variable {c : Conversation} {v : Service}

/-- The ways in which the opening of a query ends. -/
inductive Opening (c : Conversation) (find : Command) (batchSize : Int)
    (converter : Option Converter) :
    List (Option Fault) → Except Fault BatchView → Service → Prop
  /-- The query is open, and its first batch has been received. -/
  | opened {used : List (Option Fault)} {view : BatchView} {id : Int} {batch : List Value}
      {v : Service} (converts : convert converter batch = .ok view.batch)
      (converter_eq : view.converter = converter)
      (query_eq : v.query view.query = ⟨c.server, some c.session, id, batchSize, 1⟩)
      (isOpen : c.Open view.query used [⟨find, .ok (.cursor id batch)⟩] v) :
      Opening c find batchSize converter used (.ok view) v
  /-- The first command has failed, and the session was ended. -/
  | refused {used : List (Option Fault)} {fault : Fault} {v : Service}
      (said : c.At used [⟨find, .error fault⟩] v) :
      Opening c find batchSize converter used
        (.error (((v.server c.server).planned .endSession).getD fault))
        (Session.finish c.server c.session v).2
  /-- The answer has no cursor. -/
  | headless {used : List (Option Fault)} {v : Service}
      (said : c.At used [⟨find, .ok .bare⟩] v) :
      Opening c find batchSize converter used (.error .replyWithoutCursor) v
  /-- A document of the first batch does not convert. -/
  | abandoned {used : List (Option Fault)} {id : Int} {batch : List Value} {fault : Fault}
      {v : Service} (fails : convert converter batch = .error fault)
      (said : c.At used [⟨find, .ok (.cursor id batch)⟩] v) :
      Opening c find batchSize converter used (.error fault) v

/-- A first command that is answered leaves a conversation with that one exchange.  If it fails, the
session is ended. -/
theorem always_firstReply (h : c.At [] [] v) (find : Command) :
    (firstReply c.server c.session find v).Always [] fun used r u =>
      (∃ reply, r = .ok reply ∧ c.At used [⟨find, .ok reply⟩] u) ∨
        ∃ fault t, c.At used [⟨find, .error fault⟩] t ∧
          r = .error (((t.server c.server).planned .endSession).getD fault) ∧
          u = (Session.finish c.server c.session t).2 := by
  apply Async.always_onFailure (always_send h find)
  · rintro used reply u ⟨hu, _⟩
    exact .inl ⟨reply, rfl, hu⟩
  · rintro used fault u ⟨hu, _⟩
    exact .inr ⟨fault, u, hu, Server.ending_error _ fault, rfl⟩

/-- Batches without documents are not asked for. -/
theorem openOn_of_batchSize_lt {w : Service} {selection : Selection} (i : Nat)
    (h : selection.batchSizeIn w < 1) : openOn i selection w =
      .done (.error (.belowOne .batchSize (selection.batchSizeIn w))) w := by
  show (if selection.batchSizeIn w < 1 then
    Async.fail (Fault.belowOne .batchSize (selection.batchSizeIn w)) else _) w = _
  rw [if_pos h]
  rfl

/-- A query that is opened has a session and a size for its batches. -/
theorem startable_of_openOn {w u : Service} {i : Nat} {selection : Selection} {view : BatchView}
    {signals : Nat → Option Fault} (hi : i < w.servers.length)
    (h : Async.runWith signals (openOn i selection) w = (.ok view, u)) :
    (w.server i).planned .startSession = none ∧ 1 ≤ selection.batchSizeIn w := by
  have hbatch : 1 ≤ selection.batchSizeIn w := by
    rcases Int.lt_or_le (selection.batchSizeIn w) 1 with hsmall | hlarge
    · rw [Async.runWith, openOn_of_batchSize_lt i hsmall] at h
      cases h
    · exact hlarge
  refine ⟨?_, hbatch⟩
  cases hstart : (w.server i).planned .startSession with
  | none => rfl
  | some fault =>
    obtain ⟨v, hsession⟩ := Session.start_of_planned hi hstart
    have hfails : openOn i selection w = .done (.error fault) v := by
      have hlarge : ¬ selection.batchSize.getD w.settings.fetchSize < 1 := Int.not_lt.2 hbatch
      show (if selection.batchSize.getD w.settings.fetchSize < 1 then _ else _ : Later BatchView) w = _
      rw [if_neg hlarge]
      exact Async.ofAction_bind_of_error hsession _
    rw [Async.runWith, hfails] at h
    cases h

/-- **The four ways in which opening a query ends.** -/
theorem always_openOn {w : Service} {i : Nat} {selection : Selection} (hi : i < w.servers.length)
    (hstart : (w.server i).planned .startSession = none) (hbatch : 1 ≤ selection.batchSizeIn w) :
    (openOn i selection w).Always [] (Opening (w.conversation i) (selection.find w i)
      (selection.batchSizeIn w) selection.converter) := by
  apply Async.always_bind_state
  have hlarge : ¬ selection.batchSize.getD w.settings.fetchSize < 1 := Int.not_lt.2 hbatch
  simp only [hlarge, if_false]
  obtain ⟨v, hsession, hat⟩ := Session.start_apply hi hstart
  refine Async.always_bind_of_ok hsession ?_
  apply Async.always_bind (always_firstReply hat (selection.find w i))
  · rintro used reply u (⟨_, ⟨⟩, hu⟩ | ⟨_, _, _, ⟨⟩, _⟩)
    cases reply with
    | bare => exact .headless hu
    | cursor id batch =>
      apply Async.always_bind_update
      refine Async.always_bind_of_ok (x := Service.openQuery _) rfl ?_
      have hnoticed := hu.of_suppliesLike
        (Service.aside_notice (.cursorOpened id (w.server i).collection batch.length) u)
      have hopen := hnoticed.openQuery
        (n := ⟨i, some (w.conversation i).session, id, selection.batchSizeIn w, 1⟩) rfl rfl rfl rfl
      apply always_receive
      · intro docs hdocs
        exact .opened hdocs rfl (Service.query_openQuery _ _) hopen
      · intro fault hfault
        exact .abandoned hfault hopen.toAt
  · rintro used fault u (⟨_, ⟨⟩, _⟩ | ⟨_, t, ht, ⟨⟩, rfl⟩)
    exact .refused ht

end BatchView

end Paging
