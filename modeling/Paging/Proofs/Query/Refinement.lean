import Paging.Proofs.Query.Script

/-!
# Paging.Proofs.Query.Refinement — one page of a query is one page of the chain of its batches

A server that follows a script answers the one command that opens a query with the first batch, and
what is fetched after it are the pages of a chain fixed in advance.  So a page of a query is that page
of the chain, or the same refusal, and the commands that are sent are known when the fetches from the
chain are (`fetchPage_eq_awaitPage`).
-/

namespace Paging

open Tracing

/-! ## Opening -/

/-- The documents of a script are converted, and none fails. -/
def Selection.Converts (selection : Selection) (converted : Value → Value) (script : List Batch) :
    Prop :=
  ∀ b ∈ script, ∀ d ∈ b.documents, selection.converter.getD Except.ok d = .ok (converted d)

/-- The course of a query that is opened on a server. -/
def Selection.course (selection : Selection) (w : Service) (i : Nat) (converted : Value → Value)
    (script : List Batch) (h : selection.Converts converted script) : Course where
  server := i
  session := (w.server i).sessions + 1
  collection := (w.server i).collection
  batchSize := selection.batchSizeIn w
  converter := selection.converter
  converted := converted
  script := script
  before := w.traffic ++ [.startSession ((w.server i).sessions + 1)] ++
    [.command (some ((w.server i).sessions + 1)) (selection.find w i)]
  converts b hb := convert_eq_ok (h b hb)

namespace Course

variable {c : Course} {u v w : Service} {left : List Batch} {said : List Contact} {q n : Nat}
  {b : Batch}

/-- A session starts. -/
theorem At.start (h : c.At w left said v) :
    ∃ u, Session.start c.server v = (.ok ((v.server c.server).sessions + 1), u) ∧
      c.At w left (said ++ [.startSession ((v.server c.server).sessions + 1)]) u := by
  have hnext : Session.next c.server v =
      (.ok ((v.server c.server).sessions + 1), (Session.next c.server v).2) := rfl
  have hcounted : c.At w left said (Session.next c.server v).2 :=
    h.withServer (f := fun s => (.ok (s.sessions + 1), { s with sessions := s.sessions + 1 }))
      ⟨h.follows.supply, h.follows.settled⟩ fun s => rfl
  obtain ⟨u, hrun, hu⟩ := hcounted.occur
    (.startSession ((v.server c.server).sessions + 1)) rfl .startSession
  refine ⟨u, ?_, hu⟩
  rw [Session.start, Action.bind_of_ok hnext, ← Action.bind_assoc, Action.bind_of_ok hrun]
  rfl

/-- A query that is opened keeps the cursor of the first batch. -/
theorem At.told (h : c.At w (c.script.drop 1) c.before v) (hb : c.script[0]? = some b) :
    c.Told w v.queries.length 0
      (Service.openQuery ⟨c.server, some c.session, b.cursor, c.batchSize, 1⟩ v).2 := by
  have hquery : (Service.openQuery ⟨c.server, some c.session, b.cursor, c.batchSize, 1⟩ v).2.query
      v.queries.length = ⟨c.server, some c.session, b.cursor, c.batchSize, 1⟩ := by
    simp [Service.openQuery, Service.query]
  have hsaid : c.before ++ c.requests 0 = c.before := List.append_nil _
  refine ⟨⟨⟨h.tells.tracing, h.tells.listeners, h.tells.exporter, h.tells.clock⟩, h.exists_server,
    h.collection, h.follows, ?_⟩, ?_, ?_, ?_, ?_, ?_⟩
  · rw [hsaid]
    exact h.traffic
  · simp [Service.openQuery]
  · rw [hquery]
  · rw [hquery]
  · rw [hquery, Batch.lastCursor_of_getElem? hb]
  · rw [hquery]

end Course

section Opening

variable {w : Service} {i : Nat} {selection : Selection} {converted : Value → Value}
  {first : Batch} {rest : List Batch}

/-- **A query is opened on the first batch of the script.** -/
theorem run_openOn (hi : i < w.servers.length) (hfollows : (w.server i).Follows (first :: rest))
    (hconverts : selection.Converts converted (first :: rest))
    (hbatch : 1 ≤ selection.batchSizeIn w) :
    ∃ q u, Async.run (BatchView.openOn i selection) w =
        (.ok ((selection.course w i converted (first :: rest) hconverts).view q first), u) ∧
      (selection.course w i converted (first :: rest) hconverts).Told w q 0 u := by
  let c := selection.course w i converted (first :: rest) hconverts
  have hlarge : ¬ selection.batchSize.getD w.settings.fetchSize < 1 := Int.not_lt.2 hbatch
  have hat : c.At w (first :: rest) w.traffic w := ⟨.refl w, hi, rfl, hfollows, rfl⟩
  obtain ⟨s, hstart, hs⟩ := hat.start
  obtain ⟨t, hsend, ht, _⟩ := hs.send_cons (selection.find w i) trivial
  have hreply : Async.run (BatchView.firstReply i c.session (selection.find w i)) s =
      (.ok first.reply, t) := Async.run_onFailure_of_ok _ hsend
  -- noting down that the cursor is open leaves the server alone
  have hnoted : c.At w rest c.before (t.noted (.cursorOpened first.cursor c.collection
      first.documents.length)) := ht.notice _
  have htold := hnoted.told (b := first) rfl
  refine ⟨_, _, ?_, htold⟩
  have hreceive := c.converts first List.mem_cons_self
  show Async.run (if selection.batchSize.getD w.settings.fetchSize < 1 then _ else _) w = _
  rw [if_neg hlarge, Async.run_bind]
  refine (Action.bind_of_ok hstart).trans ?_
  rw [Async.run_bind]
  refine (Action.bind_of_ok hreply).trans ?_
  show BatchView.receive _ c.converter first.documents _ = _
  rw [BatchView.receive, hreceive]
  rfl

end Opening

/-! ## Reading and closing -/

namespace Course

variable {c : Course} {u v w : Service} {left : List Batch} {said : List Contact} {q n : Nat}
  {b : Batch}

/-- The command that drops a cursor, if the cursor is open. -/
def drops (c : Course) (cursor : Int) : List Contact :=
  if cursor = 0 then []
  else [.command (some c.session) (.killCursors c.collection [cursor])]

/-- What a page of a query comes to is what its chain delivers, and the fetches are made one after
the other. -/
theorem Told.awaitPage (h : c.Told w q 0 w) (hw : w.Discreet) (hb : c.script[0]? = some b)
    (p : Pager) (r : Request) :
    ∃ u, p.awaitPage (some (.batch (c.view q b))) r.target r.size w =
        ((c.chain.delivery 0).resolve (.start p.strategy r), u) ∧
      c.Told u q ((c.chain.delivery 0).fetches (.start p.strategy r)) u := by
  have htold : c.Told (begin w).2 q 0 (begin w).2 := h.of_suppliesLike (aside_begin w) (.refl _)
  have hserves : (c.simulation (begin w).2 q).serves 0 (begin w).2 (.batch (c.view q b))
      (c.chain.delivery 0) := ⟨b, hb, rfl, rfl, htold⟩
  -- the horizon of a feed on a query is what its server has to give, so no visit is cut short
  have hlimit : (c.chain.delivery 0).size ≤
      (Feed.batch (c.view q b)).horizon (begin w).2 + 1 := by
    have hserver : ((begin w).2.query (c.view q b).query).server = c.server := htold.server_eq
    rw [c.size_delivery (List.getElem?_eq_some_iff.1 hb).1, Feed.horizon, hserver,
      htold.follows.supply, Supply.size, List.length_map, List.length_drop]
    omega
  obtain ⟨t, hrun, ht⟩ := (c.simulation (begin w).2 q).run_collect hserves hlimit
    (.start p.strategy r)
  rw [← Pager.run_readFeed, Nat.zero_add] at *
  obtain ⟨start, hbegin⟩ := exists_begin_of_discreet hw
  have hleaves := p.suppliesLike_awaitPage r (.batch (c.view q b)) w hbegin
  rw [hrun] at hleaves
  have hpage := Pager.fst_awaitPage p r hw (c.simulation (begin w).2 q) hserves hlimit
    fun n v hv => hv.tells
  exact ⟨_, Prod.ext hpage rfl, ht.of_suppliesLike hleaves (.refl _)⟩

/-- Dropping the cursor of a query sends the one command that is due. -/
theorem At.run_dropCursor {view : BatchView} (h : c.At w left said v)
    (hserver : (v.query view.query).server = c.server) :
    ∃ u, Async.run (view.dropCursor c.session) v = (.ok (), u) ∧
      c.At w left (said ++ c.drops (v.query view.query).cursorId) u := by
  rw [Async.run_apply]
  by_cases hopen : (v.query view.query).cursorId = 0
  · rw [BatchView.dropCursor_of_not_isAlive _ (Query.isAlive_of_eq hopen), drops, if_pos hopen,
      List.append_nil]
    exact ⟨v, rfl, h⟩
  · rw [BatchView.dropCursor_of_isAlive _ (Query.isAlive_of_ne hopen), drops, if_neg hopen]
    have hforgotten := h.queryUpdate view.query Query.withoutCursor
    obtain ⟨hok, hleft⟩ := hforgotten.follows.answer_killCursors c.collection
      [(v.query view.query).cursorId]
    obtain ⟨t, hsend, ht, _⟩ := hforgotten.send _ hok hleft
    have hdiscard : Async.run (discard (Session.send c.server (some c.session)
        (.killCursors c.collection [(v.query view.query).cursorId])))
          (Service.queryUpdate view.query Query.withoutCursor v).2 = (.ok (), t) :=
      (congrFun (Async.run_bind _ _) _).trans (Action.bind_of_ok hsend)
    refine ⟨_, ?_, ht.notice (.cursorKilled (v.query view.query).cursorId c.collection)⟩
    rw [← Async.run_apply, BatchView.sendKill, hserver, h.collection, Async.run_bind]
    exact (Action.bind_of_ok hdiscard).trans rfl

/-- Closing a query drops its cursor if it is open, and ends its session. -/
theorem Told.run_close (view : BatchView) (h : c.Told w view.query n v) :
    ∃ u, Async.run view.close v = (.ok (), u) ∧
      u.traffic = c.before ++ c.requests n ++ c.drops (Batch.lastCursor c.script n) ++
        [.endSession c.session] := by
  have hquery := Service.query_queryUpdate Query.withoutSession h.exists_query
  have hserver : ((Service.queryUpdate view.query Query.withoutSession v).2.query
      view.query).server = c.server := by
    rw [hquery]
    exact h.server_eq
  have hcursor : ((Service.queryUpdate view.query Query.withoutSession v).2.query
      view.query).cursorId = Batch.lastCursor c.script n := by
    rw [hquery]
    exact h.cursorId_eq
  obtain ⟨t, hdrop, ht⟩ := (h.toAt.queryUpdate view.query Query.withoutSession).run_dropCursor
    hserver
  obtain ⟨u, hfinish, hu⟩ := ht.occur (.endSession c.session) rfl .endSession
  refine ⟨u, ?_, ?_⟩
  · rw [Async.run_apply, ← BatchView.closeWith_finishNow, BatchView.closeWith_of_some h.session_eq,
      h.server_eq, ← Async.run_apply, Async.run_andFinally, Action.bind_apply,
      Action.attempt_apply, hdrop]
    exact Action.bind_of_ok hfinish
  · rw [hu.traffic, hcursor]

end Course

/-! ## One page -/

/-- A call whose query is opened reads its page and closes the query. -/
theorem run_fetchPage {w t : Service} {i : Nat} {selection : Selection} {view : BatchView}
    {pager : Option Pager} (r : Request)
    (hopen : Async.run (BatchView.openOn i selection) w = (.ok view, t)) :
    Async.run (fetchPage (some i) pager r.target r.size selection) w =
      Async.run (view.servePage (pager.getD (.ofSettings w.settings)) r) t := by
  rw [Async.run_apply, fetchPage_apply, ← Async.run_apply, Async.run_bind]
  exact Action.bind_of_ok hopen

/-- **One page of a query is one page of the chain of its batches.**  On a server that follows a
script a call has the outcome that it has on the chain of the batches of the script, although all
views of the query read the one cursor that the query keeps.  It sends the command that opens the
query, then one request for each fetch from the chain, with the cursor that came with the batch
before, and then drops the cursor received last unless that says that nothing is left. -/
theorem fetchPage_eq_awaitPage {w v : Service} (hw : w.Discreet) (hv : v.Discreet) {i : Nat}
    (hi : i < w.servers.length) {first : Batch} {rest : List Batch}
    (hfollows : (w.server i).Follows (first :: rest)) {selection : Selection}
    {converted : Value → Value} (hconverts : selection.Converts converted (first :: rest))
    (hbatch : 1 ≤ selection.batchSizeIn w) (pager : Option Pager) (r : Request) :
    let p := pager.getD (.ofSettings w.settings)
    let chain := Batch.chain converted (first :: rest)
    let c := selection.course w i converted (first :: rest) hconverts
    (Async.run (fetchPage (some i) pager r.target r.size selection) w).1 =
        (p.awaitPage (some (.chain chain 0)) r.target r.size v).1 ∧
      ∃ n, (p.awaitPage (some (.chain chain 0)) r.target r.size v).2.traffic =
          v.traffic ++ (List.range' 1 n).map Contact.fetch ∧
        (Async.run (fetchPage (some i) pager r.target r.size selection) w).2.traffic =
          w.traffic ++ [.startSession c.session] ++
            [.command (some c.session) (selection.find w i)] ++ c.requests n ++
            c.drops (Batch.lastCursor (first :: rest) n) ++ [.endSession c.session] := by
  intro p chain c
  -- open the query, read the page, close it
  obtain ⟨q, t, hopen, ht⟩ := run_openOn hi hfollows hconverts hbatch
  obtain ⟨u, hcall, hu⟩ := (ht.of_suppliesLike (.refl t) (.refl t)).awaitPage
    (ht.tells.discreet hw) (b := first) rfl p r
  obtain ⟨s, hclose, hs⟩ := hu.run_close (c.view q first)
  have hrun : Async.run (fetchPage (some i) pager r.target r.size selection) w =
      ((chain.delivery 0).resolve (.start p.strategy r), s) := by
    rw [run_fetchPage r hopen, BatchView.servePage, Async.run_andFinally, Action.bind_apply,
      Action.attempt_apply, ← Pager.awaitPage_eq_run, hcall]
    exact Action.bind_of_ok hclose
  obtain ⟨start, hbegin⟩ := exists_begin_of_discreet hv
  refine ⟨?_, _, Pager.traffic_awaitPage_chain p r chain hbegin, ?_⟩
  · rw [hrun, Pager.fst_awaitPage_chain p r chain hv]
  · rw [hrun]
    exact hs

/-- The number that a document has, if it has one. -/
def numberOf (d : Value) : Value :=
  match Converter.number d with
  | .ok n => n
  | .error _ => .null

/-- Two batches of one number each, after which more are announced. -/
def twoNumbers : List Batch :=
  [⟨7, [.object [("n", .int 1)]]⟩, ⟨9, [.object [("n", .int 2)]]⟩]

/-- A server that makes its callers wait and gives them two numbers. -/
def numbered : Service where
  servers := [{ supply := .replies (twoNumbers.map Batch.reply), suspends := true }]

/-- The first page of one number: the batch after it is fetched to see whether anything follows, and
its cursor is dropped. -/
theorem fetchPage_eq_awaitPage_of_numbered :
    numbered.Discreet ∧ Service.Discreet {} ∧ 0 < numbered.servers.length ∧
    (numbered.server 0).Follows twoNumbers ∧ numbers.Converts numberOf twoNumbers ∧
    1 ≤ numbers.batchSizeIn numbered ∧
    (Async.run (fetchPage (some 0) none 1 1 numbers) numbered).1 = .ok ⟨[.int 1], 1, false⟩ ∧
    (Async.run (fetchPage (some 0) none 1 1 numbers) numbered).2.traffic =
      [.startSession 1, .command (some 1) (.find "items" [] 2 [] []),
        .command (some 1) (.getMore 7 "items" 2), .command (some 1) (.killCursors "items" [9]),
        .endSession 1] := by
  have hfollows : (numbered.server 0).Follows twoNumbers :=
    ⟨rfl, fun _ hf => absurd hf List.not_mem_nil⟩
  have hconverts : numbers.Converts numberOf twoNumbers := by
    intro b hb d hd
    simp only [twoNumbers, List.mem_cons, List.not_mem_nil, or_false] at hb
    rcases hb with rfl | rfl
    · obtain rfl := List.mem_singleton.1 hd
      rfl
    · obtain rfl := List.mem_singleton.1 hd
      rfl
  obtain ⟨hpage, n, hfetches, htraffic⟩ := fetchPage_eq_awaitPage (w := numbered) (v := {})
    (.inl rfl) (.inl rfl) (by decide) hfollows hconverts (by decide) none
    ⟨1, 1, by decide, by decide⟩
  have hone : n = 1 := by
    have hlength : ([.fetch 1] : List Contact).length =
        ([] ++ (List.range' 1 n).map Contact.fetch).length := congrArg List.length hfetches
    simpa using hlength.symm
  subst hone
  exact ⟨.inl rfl, .inl rfl, by decide, hfollows, hconverts, by decide,
    hpage.trans rfl, htraffic⟩

end Paging
