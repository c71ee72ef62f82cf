import Paging.Proofs.Query.Conversation

/-!
# Paging.Proofs.Query.Life — what an open query says until its end

While a query is open it keeps the number of the cursor received last, and has dropped none
(`Conversation.Open`).  A fetch ends in one of five ways (`Fetched`), and keeps this up in all of them
(`always_fetch`).  Closing the query drops the cursor if there is something left to read (`Dropping`),
and ends the session, whatever fails on the way (`always_closing`).
-/

namespace Paging

/-- A query that is opened gets the next number. -/
theorem Service.query_openQuery (n : Query) (v : Service) :
    (openQuery n v).2.query v.queries.length = n := by
  simp [openQuery, query]

namespace Conversation

variable {c : Conversation} {q : Nat} {used later : List (Option Fault)} {es : List Exchange}
  {e : Exchange} {id : Int} {u v : Service}

/-! ## Open queries -/

/-- A query that keeps the number of the cursor received last, before any cursor is dropped. -/
structure Holds (c : Conversation) (q : Nat) (used : List (Option Fault)) (es : List Exchange)
    (v : Service) : Prop extends c.At used es v where
  exists_query : q < v.queries.length
  server_eq : (v.query q).server = c.server
  lastCursor : Exchange.lastCursor es = some (v.query q).cursorId
  dropped : Exchange.dropped es = []

/-- A query that has its session. -/
structure Open (c : Conversation) (q : Nat) (used : List (Option Fault)) (es : List Exchange)
    (v : Service) : Prop extends c.Holds q used es v where
  session_eq : (v.query q).session = some c.session

theorem Open.of_suppliesLike (h : c.Open q used es v) (hu : u.SuppliesLike v) :
    c.Open q used es u where
  toAt := h.toAt.of_suppliesLike hu
  exists_query := by
    rw [hu.queries]
    exact h.exists_query
  server_eq := by
    rw [Service.query_congr hu.queries]
    exact h.server_eq
  lastCursor := by
    rw [Service.query_congr hu.queries]
    exact h.lastCursor
  dropped := h.dropped
  session_eq := by
    rw [Service.query_congr hu.queries]
    exact h.session_eq

/-- A query that is opened on the cursor received last. -/
theorem At.openQuery {n : Query} (h : c.At used es v) (hserver : n.server = c.server)
    (hsession : n.session = some c.session)
    (hlast : Exchange.lastCursor es = some n.cursorId) (hdropped : Exchange.dropped es = []) :
    c.Open v.queries.length used es (Service.openQuery n v).2 := by
  have hquery := Service.query_openQuery n v
  refine ⟨⟨⟨h.exists_server, h.traffic, h.answers⟩, ?_, ?_, ?_, hdropped⟩, ?_⟩
  · simp [Service.openQuery]
  · rw [hquery]
    exact hserver
  · rw [hquery]
    exact hlast
  · rw [hquery]
    exact hsession

/-- An exchange that brings no cursor and drops none leaves a query as it is. -/
theorem Open.unanswered (h : c.Open q used es v) (hu : c.At later (es ++ [e]) u)
    (hqueries : u.queries = v.queries) (hcursor : e.cursor? = none)
    (hdropped : e.dropped? = none) : c.Open q later (es ++ [e]) u := by
  have hquery := Service.query_congr hqueries q
  refine ⟨⟨hu, ?_, ?_, ?_, ?_⟩, ?_⟩
  · rw [hqueries]
    exact h.exists_query
  · rw [hquery]
    exact h.server_eq
  · rw [Exchange.lastCursor_concat_of_none hcursor, hquery]
    exact h.lastCursor
  · rw [Exchange.dropped_concat_of_none hdropped]
    exact h.dropped
  · rw [hquery]
    exact h.session_eq

/-- A cursor that is received takes the place of the one before. -/
theorem Open.received (h : c.Open q used es v) (hu : c.At later (es ++ [e]) u)
    (hqueries : u.queries = v.queries) (hcursor : e.cursor? = some id)
    (hdropped : e.dropped? = none) :
    c.Open q later (es ++ [e]) (Service.queryUpdate q
      (fun q => { q with cursorId := id, batchesFetched := q.batchesFetched + 1 }) u).2 := by
  have hexists : q < u.queries.length := by
    rw [hqueries]
    exact h.exists_query
  have hquery := Service.query_queryUpdate
    (fun q => { q with cursorId := id, batchesFetched := q.batchesFetched + 1 }) hexists
  have hsame := Service.query_congr hqueries q
  refine ⟨⟨hu.queryUpdate _ _, ?_, ?_, ?_, ?_⟩, ?_⟩
  · rw [Service.length_queryUpdate]
    exact hexists
  · rw [hquery, hsame]
    exact h.server_eq
  · rw [hquery]
    exact Exchange.lastCursor_concat hcursor
  · rw [Exchange.dropped_concat_of_none hdropped]
    exact h.dropped
  · rw [hquery, hsame]
    exact h.session_eq

end Conversation

namespace Query

/-- A query that has received one more batch, with the number of a cursor. -/
def received (id : Int) (q : Query) : Query :=
  { q with cursorId := id, batchesFetched := q.batchesFetched + 1 }

/-- A query whose session has been taken away. -/
def withoutSession (q : Query) : Query := { q with session := none }

/-- A query whose cursor is dropped. -/
def withoutCursor (q : Query) : Query := { q with cursorId := 0 }

theorem isAlive_of_ne {q : Query} (h : q.cursorId ≠ 0) : q.isAlive = true := by
  rw [isAlive, bne_iff_ne]
  exact h

theorem isAlive_of_eq {q : Query} (h : q.cursorId = 0) : q.isAlive = false := by
  rw [isAlive, h]
  rfl

end Query

/-- Documents that all convert do so as a batch. -/
theorem convert_eq_ok {converter : Option Converter} {converted : Value → Value}
    {batch : List Value} (h : ∀ d ∈ batch, converter.getD Except.ok d = .ok (converted d)) :
    convert converter batch = .ok (batch.map converted) := by
  cases converter with
  | none =>
    have hsame : batch.map converted = batch.map id :=
      List.map_congr_left fun d hd => (Except.ok.inj (h d hd)).symm
    rw [hsame, List.map_id]
    rfl
  | some f =>
    show batch.mapM f = _
    induction batch with
    | nil => rfl
    | cons d rest ih =>
      have hhead : f d = .ok (converted d) := h d List.mem_cons_self
      rw [List.mapM_cons, hhead, ih fun d hd => h d (List.mem_cons_of_mem _ hd)]
      rfl

/-- If every document converts, a batch of them does. -/
theorem exists_convert {converter : Option Converter} {batch : List Value}
    (h : ∀ d ∈ batch, ∃ v, converter.getD Except.ok d = .ok v) :
    ∃ docs, convert converter batch = .ok docs := by
  let converted : Value → Value := fun d => (converter.getD Except.ok d).toOption.getD d
  have hall : ∀ d ∈ batch, converter.getD Except.ok d = .ok (converted d) := by
    intro d hd
    obtain ⟨v, hv⟩ := h d hd
    show _ = Except.ok ((converter.getD Except.ok d).toOption.getD d)
    rw [hv]
    rfl
  exact ⟨_, convert_eq_ok hall⟩

/-- Ends a session without a pause. -/
def Session.finishNow (server session : Nat) : Later Unit :=
  Async.ofAction (Session.finish server session)

/-- A query that has a session has been opened. -/
theorem Service.exists_query {v : Service} {q session : Nat}
    (h : (v.query q).session = some session) : q < v.queries.length := by
  rcases Nat.lt_or_ge q v.queries.length with hlt | hge
  · exact hlt
  · rw [Service.query, List.getD_eq_getElem?_getD, List.getElem?_eq_none hge] at h
    cases h

namespace BatchView

open Conversation

variable {c : Conversation} {used later : List (Option Fault)} {es : List Exchange}
  {view : BatchView} {v : Service}

/-! ## Fetching -/

/-- The request for the next batch of a query. -/
def nextCommand (view : BatchView) (v : Service) : Command :=
  .getMore (v.query view.query).cursorId (v.server (v.query view.query).server).collection
    (v.query view.query).batchSize

/-- What a fetch does with the answer to its request. -/
def accept (view : BatchView) : Reply → Later BatchView
  | .bare => Async.fail .replyWithoutCursor
  | .cursor id batch => do
    Service.queryUpdate view.query (Query.received id)
    receive view.query view.converter batch

/-- A fetch from an open query sends its request in the session of the query. -/
theorem fetch_of_isAlive (h : (v.query view.query).isAlive = true) :
    view.fetch v = (Session.send (v.query view.query).server (v.query view.query).session
      (view.nextCommand v) >>= view.accept) v := by
  show (if (v.query view.query).isAlive then _ else _ : Later BatchView) v = _
  rw [if_pos h]
  rfl

/-- A fetch from a query that is over sends nothing. -/
theorem fetch_of_not_isAlive (h : (v.query view.query).isAlive = false) :
    view.fetch v = .done (.error .queryOver) v := by
  show (if (v.query view.query).isAlive then _ else _ : Later BatchView) v = _
  rw [h]
  rfl

/-- A batch that is received changes nothing; its documents convert or do not. -/
theorem always_receive {Q : List (Option Fault) → Except Fault BatchView → Service → Prop}
    {query : Nat} {converter : Option Converter} {batch : List Value}
    (hok : ∀ docs, convert converter batch = .ok docs → Q used (.ok ⟨query, docs, converter⟩) v)
    (herror : ∀ fault, convert converter batch = .error fault → Q used (.error fault) v) :
    (Async.ofAction (receive query converter batch) v).Always used Q := by
  rw [Async.always_ofAction, receive, Action.bind_apply, Act.ofExcept, Action.ofExcept_apply]
  cases hconvert : convert converter batch with
  | ok docs => exact hok docs hconvert
  | error fault => exact herror fault hconvert

/-- The ways in which a fetch from an open query ends. -/
inductive Fetched (c : Conversation) (view : BatchView) (used : List (Option Fault))
    (es : List Exchange) (v : Service) :
    List (Option Fault) → Except Fault BatchView → Service → Prop
  /-- There is nothing left, and nothing is sent. -/
  | exhausted (isOver : (v.query view.query).isAlive = false) :
      Fetched c view used es v used (.error .queryOver) v
  /-- A batch has come, and a view on it is given. -/
  | arrived {later : List (Option Fault)} {id : Int} {batch docs : List Value} {u : Service}
      (isAlive : (v.query view.query).isAlive = true)
      (isOpen : c.Open view.query later (es ++ [⟨view.nextCommand v, .ok (.cursor id batch)⟩]) u)
      (received : u.query view.query = (v.query view.query).received id)
      (converts : convert view.converter batch = .ok docs) :
      Fetched c view used es v later (.ok ⟨view.query, docs, view.converter⟩) u
  /-- A batch has come, but a document of it does not convert. -/
  | unconverted {later : List (Option Fault)} {id : Int} {batch : List Value} {fault : Fault}
      {u : Service} (isAlive : (v.query view.query).isAlive = true)
      (isOpen : c.Open view.query later (es ++ [⟨view.nextCommand v, .ok (.cursor id batch)⟩]) u)
      (fails : convert view.converter batch = .error fault) :
      Fetched c view used es v later (.error fault) u
  /-- The answer has no cursor. -/
  | headless {later : List (Option Fault)} {u : Service}
      (isAlive : (v.query view.query).isAlive = true)
      (isOpen : c.Open view.query later (es ++ [⟨view.nextCommand v, .ok .bare⟩]) u)
      (same : u.queries = v.queries) :
      Fetched c view used es v later (.error .replyWithoutCursor) u
  /-- The request has failed. -/
  | failed {later : List (Option Fault)} {fault : Fault} {u : Service}
      (isAlive : (v.query view.query).isAlive = true)
      (isOpen : c.Open view.query later (es ++ [⟨view.nextCommand v, .error fault⟩]) u)
      (same : u.queries = v.queries) : Fetched c view used es v later (.error fault) u

/-- **The five ways in which a fetch ends.** -/
theorem always_fetched (h : c.Open view.query used es v) :
    (view.fetch v).Always used (Fetched c view used es v) := by
  cases halive : (v.query view.query).isAlive with
  | false =>
    rw [fetch_of_not_isAlive halive]
    exact .exhausted halive
  | true =>
    rw [fetch_of_isAlive halive, h.server_eq, h.session_eq]
    apply Async.always_bind (always_send h.toAt _)
    · rintro later reply u ⟨hu, hqueries, _⟩
      cases reply with
      | bare => exact .headless halive (h.unanswered hu hqueries rfl rfl) hqueries
      | cursor id batch =>
        have hopen := h.received hu hqueries rfl rfl
        have hquery := Service.query_queryUpdate (Query.received id)
          (i := view.query) (w := u) (by rw [hqueries]; exact h.exists_query)
        rw [Service.query_congr hqueries] at hquery
        apply Async.always_bind_update
        apply always_receive
        · exact fun docs hdocs => .arrived halive hopen hquery hdocs
        · exact fun fault hfault => .unconverted halive hopen hfault
    · rintro later fault u ⟨hu, hqueries, _⟩
      exact .failed halive (h.unanswered hu hqueries rfl rfl) hqueries

/-- **Fetching keeps a query open**, whether a batch comes or not, and a new view is on the same
query. -/
theorem always_fetch (h : c.Open view.query used es v) :
    (view.fetch v).Always used fun used r u =>
      (∃ all, es <+: all ∧ c.Open view.query used all u) ∧
        ∀ next, r = .ok next → next.query = view.query := by
  apply (always_fetched h).mono
  intro later r u hfetched
  cases hfetched with
  | exhausted isOver => exact ⟨⟨es, List.prefix_rfl, h⟩, nofun⟩
  | arrived isAlive isOpen received converts =>
    refine ⟨⟨_, List.prefix_append _ _, isOpen⟩, fun next hnext => ?_⟩
    cases hnext
    rfl
  | unconverted isAlive isOpen fails => exact ⟨⟨_, List.prefix_append _ _, isOpen⟩, nofun⟩
  | headless isAlive isOpen same => exact ⟨⟨_, List.prefix_append _ _, isOpen⟩, nofun⟩
  | failed isAlive isOpen same => exact ⟨⟨_, List.prefix_append _ _, isOpen⟩, nofun⟩

/-! ## Closing -/

/-- What is sent to drop the cursor of an open query, and noted down when it is dropped. -/
def sendKill (view : BatchView) (session : Nat) (v : Service) : Later Unit := do
  let q := v.query view.query
  let collection := (v.server q.server).collection
  discard (Session.send q.server (some session) (.killCursors collection [q.cursorId]))
  Service.notice (.cursorKilled q.cursorId collection)

/-- The cursor of an open query is forgotten before it is dropped. -/
theorem dropCursor_of_isAlive (session : Nat) (h : (v.query view.query).isAlive = true) :
    view.dropCursor session v =
      view.sendKill session v (Service.queryUpdate view.query Query.withoutCursor v).2 := by
  show (if (v.query view.query).isAlive then _ else _ : Later Unit) v = _
  rw [if_pos h]
  rfl

/-- A query that was read to its end has no cursor to drop. -/
theorem dropCursor_of_not_isAlive (session : Nat) (h : (v.query view.query).isAlive = false) :
    view.dropCursor session v = .done (.ok ()) v := by
  show (if (v.query view.query).isAlive then _ else _ : Later Unit) v = _
  rw [h]
  rfl

/-- Taking the session of a query changes nothing else. -/
theorem takeSession_apply (view : BatchView) (v : Service) : view.takeSession v =
    (.ok (v.query view.query).session,
      (Service.queryUpdate view.query Query.withoutSession v).2) := rfl

/-- Closes a query and ends its session in a given way. -/
def closeWith (ending : Nat → Nat → Later Unit) (view : BatchView) : Later Unit := do
  match ← view.takeSession with
  | none => pure ()
  | some session =>
    let q := (← Service.current).query view.query
    (view.dropCursor session).andFinally (ending q.server session)

/-- A query is closed by ending its session without a pause. -/
theorem closeWith_finishNow (view : BatchView) :
    view.closeWith Session.finishNow = view.close := rfl

variable {ending : Nat → Nat → Later Unit}

/-- Closing a query that has no session sends nothing. -/
theorem closeWith_of_none (h : (v.query view.query).session = none) :
    view.closeWith ending v =
      .done (.ok ()) (Service.queryUpdate view.query Query.withoutSession v).2 := by
  rw [closeWith]
  refine (Async.ofAction_bind_of_ok (takeSession_apply view v) _).trans ?_
  rw [h]
  rfl

/-- Closing a query takes its session away, drops its cursor and ends the session. -/
theorem closeWith_of_some {session : Nat} (h : (v.query view.query).session = some session) :
    view.closeWith ending v = (view.dropCursor session).andFinally
      (ending (v.query view.query).server session)
        (Service.queryUpdate view.query Query.withoutSession v).2 := by
  have hquery := Service.query_queryUpdate Query.withoutSession (Service.exists_query h)
  have hserver : ((Service.queryUpdate view.query Query.withoutSession v).2.query
      view.query).server = (v.query view.query).server := by
    rw [hquery]
    rfl
  rw [closeWith]
  refine (Async.ofAction_bind_of_ok (takeSession_apply view v) _).trans ?_
  rw [h, ← hserver]
  rfl

/-- The command that drops the cursor of a query. -/
def killCommand (view : BatchView) (v : Service) : Command :=
  .killCursors (v.server (v.query view.query).server).collection [(v.query view.query).cursorId]

/-- The ways in which dropping the cursor of a query ends. -/
inductive Dropping (c : Conversation) (view : BatchView) (used : List (Option Fault))
    (es : List Exchange) (v : Service) : List (Option Fault) → Except Fault Unit → Service → Prop
  /-- The query was read to its end, and nothing is sent. -/
  | nothing (isOver : (v.query view.query).cursorId = 0) :
      Dropping c view used es v used (.ok ()) v
  /-- The one command that is due was sent. -/
  | sent {later : List (Option Fault)} {answer : Except Fault Reply} {u : Service}
      (isOpen : (v.query view.query).cursorId ≠ 0)
      (said : c.At later (es ++ [⟨view.killCommand v, answer⟩]) u)
      (noCursor : Exchange.cursor? ⟨view.killCommand v, answer⟩ = none)
      (forgotten : u.query view.query = (v.query view.query).withoutCursor) :
      Dropping c view used es v later (answer.map fun _ => ()) u

/-- Dropping the cursor sends the one command that is due, and nothing if the query was read to its
end. -/
theorem always_dropCursor (h : c.Holds view.query used es v) :
    (view.dropCursor c.session v).Always used (Dropping c view used es v) := by
  by_cases hover : (v.query view.query).cursorId = 0
  · rw [dropCursor_of_not_isAlive _ (Query.isAlive_of_eq hover)]
    exact .nothing hover
  · rw [dropCursor_of_isAlive _ (Query.isAlive_of_ne hover), sendKill, h.server_eq]
    have hforgotten := Service.query_queryUpdate Query.withoutCursor h.exists_query
    have hsent := always_kill (h.toAt.queryUpdate view.query Query.withoutCursor)
      (v.server c.server).collection [(v.query view.query).cursorId]
    have hcommand : view.killCommand v = .killCursors (v.server c.server).collection
        [(v.query view.query).cursorId] := by
      rw [killCommand, h.server_eq]
    rw [← hcommand] at hsent ⊢
    -- the note that is made after it is no part of what is said
    have hdropping : ∀ (later : List (Option Fault)) (r : Except Fault Reply) (u t : Service),
        c.At later (es ++ [⟨view.killCommand v, r⟩]) u → u.queries =
          (Service.queryUpdate view.query Query.withoutCursor v).2.queries →
        Exchange.cursor? ⟨view.killCommand v, r⟩ = none → t.SuppliesLike u →
        Dropping c view used es v later (r.map fun _ => ()) t := by
      intro later r u t hu hqueries hcursor ht
      refine .sent hover (hu.of_suppliesLike ht) hcursor ?_
      rw [Service.query_congr ht.queries, Service.query_congr hqueries, hforgotten]
    apply Async.always_bind (P := fun later r u => Dropping c view used es v later r u ∧
      ∀ n, Dropping c view used es v later r (Service.notice n u).2)
    · apply Async.always_discard
      apply hsent.mono
      rintro later r u ⟨hu, hqueries, hcursor⟩
      exact ⟨hdropping later r u u hu hqueries hcursor (.refl u), fun n =>
        hdropping later r u _ hu hqueries hcursor (Service.aside_notice n u)⟩
    · rintro later _ u ⟨_, hnoted⟩
      exact hnoted _
    · rintro later fault u ⟨hu, _⟩
      exact hu

/-- Once the cursor is dropped, everything is that was to be dropped, and what has come of it is what
was answered. -/
theorem Dropping.exists_said {u : Service} {r : Except Fault Unit}
    (h : c.Holds view.query used es v) (hdrop : Dropping c view used es v later r u) :
    ∃ all, es <+: all ∧ c.At later all u ∧ Exchange.dropped all = Exchange.due all ∧
      r = Exchange.dropOutcome all := by
  cases hdrop with
  | nothing isOver =>
    -- the cursor says that there is nothing left
    have hlast := h.lastCursor
    rw [isOver] at hlast
    refine ⟨es, List.prefix_rfl, h.toAt, ?_, (Exchange.dropOutcome_of_nil h.dropped).symm⟩
    rw [h.dropped, Exchange.due_of_over hlast]
  | sent isOpen said noCursor forgotten =>
    refine ⟨_, List.prefix_append _ _, said,
      Exchange.dropped_concat_eq_due h.lastCursor isOpen h.dropped noCursor rfl, ?_⟩
    rw [Exchange.dropOutcome_concat h.dropped rfl]

/-- A query whose session has been taken away still holds its cursor. -/
theorem holds_withoutSession (h : c.Open view.query used es v) :
    c.Holds view.query used es (Service.queryUpdate view.query Query.withoutSession v).2 := by
  have hquery := Service.query_queryUpdate Query.withoutSession h.exists_query
  refine ⟨h.toAt.queryUpdate view.query _, ?_, ?_, ?_, h.dropped⟩
  · rw [Service.length_queryUpdate]
    exact h.exists_query
  · rw [hquery]
    exact h.server_eq
  · rw [hquery]
    exact h.lastCursor

/-- **What closing a query comes to**: the session is taken away and the cursor dropped, and then the
session is ended, whatever has failed. -/
theorem always_closing (h : c.Open view.query used es v) :
    (view.close v).Always used fun later r u => ∃ dropped t,
      Dropping c view used es (Service.queryUpdate view.query Query.withoutSession v).2 later
          dropped t ∧
        r = (t.server c.server).ending dropped ∧ u = (Session.finish c.server c.session t).2 := by
  rw [← closeWith_finishNow, closeWith_of_some h.session_eq, h.server_eq]
  apply Async.always_andFinally_outcome (always_dropCursor (holds_withoutSession h))
  intro later dropped t ht
  exact ⟨dropped, t, ht, rfl, rfl⟩

/-- **Closing a query ends its session**, after the command that is due, whatever fails. -/
theorem always_close (h : c.Open view.query used es v) :
    (view.close v).Always used fun used _ u => ∃ all, es <+: all ∧ c.Ended used all u ∧
      Exchange.dropped all = Exchange.due all := by
  apply (always_closing h).mono
  rintro later _ u ⟨dropped, t, hdrop, _, rfl⟩
  obtain ⟨all, hall, ht, hdropped, _⟩ := hdrop.exists_said (holds_withoutSession h)
  exact ⟨all, hall, ht.finish, hdropped⟩

end BatchView

end Paging
