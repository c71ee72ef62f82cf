import Paging.Proofs.Chain.Fetches
import Paging.Proofs.Query.Release

/-!
# Paging.Proofs.Query.Script — a query on a server that gives what is asked of it

A server that follows a script answers the first command with the first batch of the script and each
request for more with the next one.  Every view of a query reads the cursor that all views share, and
so one may ask whether it is the cursor that came with the batch of the view.  While the batches are
read one after the other it is (`Course.Told`), so that the query delivers what the chain of its
batches does, each of which announces more when its cursor is open (`Course.simulation`).
-/

namespace Paging

/-! ## Scripts -/

/-- A batch as a server sends it. -/
structure Batch where
  /-- The number of the cursor that comes with it. -/
  cursor : Int
  documents : List Value

namespace Batch

/-- The answer that a batch is sent with. -/
def reply (b : Batch) : Reply := .cursor b.cursor b.documents

/-- The protocol page that a batch is. -/
def page (converted : Value → Value) (b : Batch) : ChainPage Value where
  elements := b.documents.map converted
  more := some (b.cursor != 0)

/-- What a request for a batch fails with when the script is over. -/
def exhausted : Fault := .raised .lookupError "no more replies"

/-- The chain of the batches of a script, after which nothing can be fetched. -/
def chain (converted : Value → Value) (script : List Batch) : Chain Value where
  pages := script.map (page converted) ++ [{ elements := [], failure := some exhausted }]

/-- The cursor received last when so many batches have been asked for after the first. -/
def lastCursor (script : List Batch) (n : Nat) : Int :=
  match (script.take (n + 1)).getLast? with
  | some b => b.cursor
  | none => 0

variable {converted : Value → Value} {script : List Batch} {n : Nat} {b : Batch}

theorem getElem?_pages_chain (h : script[n]? = some b) :
    (chain converted script).pages[n]? = some (b.page converted) := by
  have hn := (List.getElem?_eq_some_iff.1 h).1
  rw [chain, List.getElem?_append_left (by rw [List.length_map]; exact hn), List.getElem?_map, h]
  rfl

theorem elements_chain (h : script[n]? = some b) :
    (chain converted script).elements n = b.documents.map converted := by
  rw [Chain.elements, getElem?_pages_chain h]
  rfl

theorem hasMore_chain (h : script[n]? = some b) :
    (chain converted script).hasMore n = (b.cursor != 0) := by
  rw [Chain.hasMore, getElem?_pages_chain h]
  rfl

/-- A batch of the script arrives. -/
theorem arrival_chain (h : script[n]? = some b) : (chain converted script).arrival n = .ok () := by
  rw [Chain.arrival, getElem?_pages_chain h]
  rfl

/-- After the last batch none arrives. -/
theorem arrival_chain_length :
    (chain converted script).arrival script.length = .error exhausted := by
  have hpage : (chain converted script).pages[script.length]? =
      some { elements := [], failure := some exhausted } := by
    rw [chain, List.getElem?_append_right (Nat.le_of_eq (List.length_map _)),
      List.length_map, Nat.sub_self]
    rfl
  rw [Chain.arrival, hpage]

theorem lastCursor_of_getElem? (h : script[n]? = some b) : lastCursor script n = b.cursor := by
  rw [lastCursor, List.take_add_one, h, Option.toList_some, List.getLast?_concat]

/-- What cannot be received does not change the cursor. -/
theorem lastCursor_succ_of_none (h : script[n + 1]? = none) :
    lastCursor script (n + 1) = lastCursor script n := by
  have hlength := List.getElem?_eq_none_iff.1 h
  rw [lastCursor, lastCursor, List.take_of_length_le hlength, List.take_of_length_le (by omega)]

end Batch

/-! ## Servers that follow a script -/

namespace Server

/-- A server that has the batches of a script to give, and no failure before it: those that were
planned have come to pass. -/
structure Follows (s : Server) (script : List Batch) : Prop where
  supply : s.supply = .replies (script.map Batch.reply)
  settled : ∀ f ∈ s.failures, f.nth ≤ s.past.count f.occasion

variable {s : Server} {script : List Batch} {b : Batch}

theorem Follows.planned (h : s.Follows script) (o : Occasion) : s.planned o = none := by
  have hnone : s.failures.find? (fun f => f.occasion == o && f.nth == s.past.count o + 1) = none := by
    rw [List.find?_eq_none]
    intro f hf
    have hsettled := h.settled f hf
    simp only [Bool.and_eq_true, beq_iff_eq, not_and]
    rintro rfl
    omega
  rw [Server.planned, hnone]
  rfl

theorem Follows.occur (h : s.Follows script) (o : Occasion) :
    (s.occur o).1 = .ok () ∧ (s.occur o).2.Follows script := by
  refine ⟨occur_of_not_planned (h.planned o), h.supply, ?_⟩
  intro f hf
  exact Nat.le_trans (h.settled f hf) List.count_le_count_cons

/-- The commands that ask for a batch. -/
def Asks : Command → Prop
  | .find .. | .getMore .. => True
  | .killCursors .. => False

/-- A request is answered with the next batch of the script. -/
theorem Follows.answer_cons (h : s.Follows (b :: script)) {c : Command} (hc : Asks c) :
    (s.answer c).1 = .ok b.reply ∧ (s.answer c).2.Follows script := by
  obtain ⟨hok, hnext⟩ := h.occur c.occasion
  have hoccur : s.occur c.occasion = (.ok (), (s.occur c.occasion).2) := Prod.ext hok rfl
  cases c with
  | killCursors => cases hc
  | find | getMore =>
    rw [answer, hoccur]
    simp only [hnext.supply, List.map_cons, Supply.next, true_and]
    exact ⟨rfl, hnext.settled⟩

theorem Follows.answer_nil (h : s.Follows []) {c : Command} (hc : Asks c) :
    (s.answer c).1 = .error Batch.exhausted ∧ (s.answer c).2.Follows [] := by
  obtain ⟨hok, hnext⟩ := h.occur c.occasion
  have hoccur : s.occur c.occasion = (.ok (), (s.occur c.occasion).2) := Prod.ext hok rfl
  cases c with
  | killCursors => cases hc
  | find | getMore =>
    rw [answer, hoccur]
    simp only [hnext.supply, List.map_nil, Supply.next]
    exact ⟨rfl, rfl, hnext.settled⟩

theorem Follows.answer_killCursors (h : s.Follows script) (collection : String)
    (cursors : List Int) : (s.answer (.killCursors collection cursors)).1 = .ok .bare ∧
      (s.answer (.killCursors collection cursors)).2.Follows script := by
  obtain ⟨hok, hnext⟩ := h.occur .killCursors
  have hoccur : s.occur (Command.killCursors collection cursors).occasion =
      (.ok (), (s.occur .killCursors).2) := Prod.ext hok rfl
  rw [answer, hoccur]
  exact ⟨rfl, hnext⟩

end Server

/-! ## Sending without a pause -/

/-- A command that is not interrupted is answered, whether the server makes its callers wait or
not. -/
theorem Session.run_send (server : Nat) (session : Option Nat) (c : Command) :
    Async.run (send server session c) = (do
      Service.contact (.command session c)
      Service.withServer server fun s => s.answer c) := by
  have hwait : Async.run (waitFor server c) = pure () := by
    funext v
    rw [waitFor, Async.run_bind]
    show Async.run (if (v.server server).suspends then Async.wait _ else pure ()) v = _
    split <;> rfl
  rw [send, Async.run_bind, Async.run_bind, hwait]
  rfl

/-! ## The course of a query -/

/-- A query on a server that follows a script, all of whose documents convert. -/
structure Course where
  server : Nat
  session : Nat
  collection : String
  batchSize : Int
  converter : Option Converter
  converted : Value → Value
  script : List Batch
  /-- What has been said when the first batch is received. -/
  before : List Contact
  converts : ∀ b ∈ script, convert converter b.documents = .ok (b.documents.map converted)

namespace Course

variable (c : Course) {u v w w' : Service} {left : List Batch} {said : List Contact}

/-- The server of a course stands at a place in its script, and so much has been said to it. -/
structure At (w : Service) (left : List Batch) (said : List Contact) (v : Service) : Prop where
  tells : v.TellsLike w
  exists_server : c.server < v.servers.length
  collection : (v.server c.server).collection = c.collection
  follows : (v.server c.server).Follows left
  traffic : v.traffic = said

variable {c}

theorem At.of_suppliesLike (h : c.At w left said v) (hu : u.SuppliesLike v) (hw : u.TellsLike w') :
    c.At w' left said u where
  tells := hw
  exists_server := by
    rw [hu.servers]
    exact h.exists_server
  collection := by
    rw [Service.server_congr hu.servers]
    exact h.collection
  follows := by
    rw [Service.server_congr hu.servers]
    exact h.follows
  traffic := hu.traffic.trans h.traffic

theorem At.notice (h : c.At w left said v) (n : Notice) : c.At w left said (v.noted n) :=
  h.of_suppliesLike (Service.aside_notice n v) (h.tells.noted n)

theorem At.queryUpdate (h : c.At w left said v) (q : Nat) (f : Query → Query) :
    c.At w left said (Service.queryUpdate q f v).2 :=
  ⟨⟨h.tells.tracing, h.tells.listeners, h.tells.exporter, h.tells.clock⟩, h.exists_server,
    h.collection, h.follows, h.traffic⟩

/-- Something is said to the server. -/
theorem At.contact (h : c.At w left said v) (contact : Contact)
    (hcontact : contact.isTelling = false) :
    c.At w left (said ++ [contact]) (Service.contact contact v).2 :=
  ⟨h.tells.contact contact, h.exists_server, h.collection, h.follows, by
    rw [Service.traffic_contact hcontact, h.traffic]⟩

/-- The server deals with something, and keeps its collection. -/
theorem At.withServer {α : Type} (h : c.At w left said v) {f : Server → Except Fault α × Server}
    {left' : List Batch} (hfollows : (f (v.server c.server)).2.Follows left')
    (hcollection : ∀ s, (f s).2.collection = s.collection) :
    c.At w left' said (Service.withServer c.server f v).2 := by
  have hserver := Service.server_withServer f h.exists_server
  refine ⟨⟨h.tells.tracing, h.tells.listeners, h.tells.exporter, h.tells.clock⟩, ?_, ?_, ?_,
    h.traffic⟩
  · rw [Service.length_withServer]
    exact h.exists_server
  · rw [hserver, hcollection]
    exact h.collection
  · rw [hserver]
    exact hfollows

/-- A command is sent and answered as the server answers it. -/
theorem At.send {r : Except Fault Reply} {left' : List Batch} (h : c.At w left said v)
    (command : Command) (hr : ((v.server c.server).answer command).1 = r)
    (hleft : ((v.server c.server).answer command).2.Follows left') :
    ∃ u, Async.run (Session.send c.server (some c.session) command) v = (r, u) ∧
      c.At w left' (said ++ [.command (some c.session) command]) u ∧ u.queries = v.queries := by
  have hsaid := h.contact (.command (some c.session) command) rfl
  refine ⟨_, ?_, hsaid.withServer hleft fun s => s.collection_answer command, rfl⟩
  rw [Session.run_send, ← hr]
  rfl

/-- A request is answered with the next batch of the script. -/
theorem At.send_cons {b : Batch} (h : c.At w (b :: left) said v) (command : Command)
    (hcommand : Server.Asks command) :
    ∃ u, Async.run (Session.send c.server (some c.session) command) v = (.ok b.reply, u) ∧
      c.At w left (said ++ [.command (some c.session) command]) u ∧ u.queries = v.queries :=
  h.send command (h.follows.answer_cons hcommand).1 (h.follows.answer_cons hcommand).2

theorem At.send_nil (h : c.At w [] said v) (command : Command) (hcommand : Server.Asks command) :
    ∃ u, Async.run (Session.send c.server (some c.session) command) v =
        (.error Batch.exhausted, u) ∧
      c.At w [] (said ++ [.command (some c.session) command]) u ∧ u.queries = v.queries :=
  h.send command (h.follows.answer_nil hcommand).1 (h.follows.answer_nil hcommand).2

/-- A session starts and ends without a failure. -/
theorem At.occur (h : c.At w left said v) (contact : Contact) (hcontact : contact.isTelling = false)
    (o : Occasion) :
    ∃ u, (Service.contact contact >>= fun _ => Service.withServer c.server fun s => s.occur o) v =
        (.ok (), u) ∧ c.At w left (said ++ [contact]) u := by
  obtain ⟨hok, hleft⟩ := h.follows.occur o
  refine ⟨_, ?_, (h.contact contact hcontact).withServer (f := fun s => s.occur o) hleft fun s => rfl⟩
  rw [← hok]
  rfl

/-! ## Fetching -/

/-- The first requests for more: each carries the cursor that came with the batch before. -/
def requests (c : Course) (n : Nat) : List Contact :=
  (c.script.take n).map fun b =>
    .command (some c.session) (.getMore b.cursor c.collection c.batchSize)

/-- The query of a course when so many batches have been asked for after the first: it keeps the
cursor received last, and the server stands where the script goes on. -/
structure Told (c : Course) (w : Service) (q n : Nat) (v : Service) : Prop
    extends c.At w (c.script.drop (n + 1)) (c.before ++ c.requests n) v where
  exists_query : q < v.queries.length
  server_eq : (v.query q).server = c.server
  session_eq : (v.query q).session = some c.session
  cursorId_eq : (v.query q).cursorId = Batch.lastCursor c.script n
  batchSize_eq : (v.query q).batchSize = c.batchSize

/-- The view on a batch of a course. -/
def view (c : Course) (q : Nat) (b : Batch) : BatchView :=
  ⟨q, b.documents.map c.converted, c.converter⟩

variable {q n : Nat} {b next : Batch}

theorem requests_succ (h : c.script[n]? = some b) : c.requests (n + 1) =
    c.requests n ++ [.command (some c.session) (.getMore b.cursor c.collection c.batchSize)] := by
  rw [requests, List.take_add_one, h, Option.toList_some, List.map_append]
  rfl

theorem Told.of_suppliesLike (h : c.Told w q n v) (hu : u.SuppliesLike v)
    (hw : u.TellsLike w') : c.Told w' q n u where
  toAt := h.toAt.of_suppliesLike hu hw
  exists_query := by
    rw [hu.queries]
    exact h.exists_query
  server_eq := by
    rw [Service.query_congr hu.queries]
    exact h.server_eq
  session_eq := by
    rw [Service.query_congr hu.queries]
    exact h.session_eq
  cursorId_eq := by
    rw [Service.query_congr hu.queries]
    exact h.cursorId_eq
  batchSize_eq := by
    rw [Service.query_congr hu.queries]
    exact h.batchSize_eq

/-- A view on the batch received last sends a request with the cursor that came with it. -/
theorem Told.run_fetch (h : c.Told w q n v) (hb : c.script[n]? = some b) (hopen : b.cursor ≠ 0) :
    Async.run (c.view q b).fetch v = (Async.run (Session.send c.server (some c.session)
        (.getMore b.cursor c.collection c.batchSize)) >>= fun reply =>
      Async.run ((c.view q b).accept reply)) v := by
  have hcursor : (v.query q).cursorId = b.cursor := by
    rw [h.cursorId_eq, Batch.lastCursor_of_getElem? hb]
  have halive : (v.query q).isAlive = true := by
    rw [Query.isAlive, hcursor, bne_iff_ne]
    exact hopen
  have hcommand : (c.view q b).nextCommand v = .getMore b.cursor c.collection c.batchSize := by
    show Command.getMore (v.query q).cursorId (v.server (v.query q).server).collection
      (v.query q).batchSize = _
    rw [hcursor, h.server_eq, h.collection, h.batchSize_eq]
  have hserver : (v.query (c.view q b).query).server = c.server := h.server_eq
  have hsession : (v.query (c.view q b).query).session = some c.session := h.session_eq
  rw [← Async.run_bind, Async.run_apply, BatchView.fetch_of_isAlive halive, hcommand, hserver,
    hsession]
  rfl

/-- The query after the next batch has come. -/
theorem Told.received (h : c.Told w q n v) (hb : c.script[n]? = some b)
    (hnext : c.script[n + 1]? = some next) {t : Service} (hqueries : t.queries = v.queries)
    (ht : c.At w (c.script.drop (n + 1 + 1)) (c.before ++ c.requests n ++
      [.command (some c.session) (.getMore b.cursor c.collection c.batchSize)]) t) :
    c.Told w q (n + 1) (Service.queryUpdate q (Query.received next.cursor) t).2 := by
  have hexists : q < t.queries.length := by
    rw [hqueries]
    exact h.exists_query
  have hquery := Service.query_queryUpdate (Query.received next.cursor) hexists
  rw [Service.query_congr hqueries q] at hquery
  rw [List.append_assoc, ← requests_succ hb] at ht
  refine ⟨ht.queryUpdate q _, ?_, ?_, ?_, ?_, ?_⟩
  · rw [Service.length_queryUpdate]
    exact hexists
  · rw [hquery]
    exact h.server_eq
  · rw [hquery]
    exact h.session_eq
  · rw [hquery, Batch.lastCursor_of_getElem? hnext]
    rfl
  · rw [hquery]
    exact h.batchSize_eq

/-- **The next batch of the script is received.** -/
theorem Told.run_fetch_of_next (h : c.Told w q n v) (hb : c.script[n]? = some b)
    (hopen : b.cursor ≠ 0) (hnext : c.script[n + 1]? = some next) :
    ∃ u, Async.run (c.view q b).fetch v = (.ok (c.view q next), u) ∧ c.Told w q (n + 1) u := by
  obtain ⟨hlt, heq⟩ := List.getElem?_eq_some_iff.1 hnext
  have hat := h.toAt
  rw [List.drop_eq_getElem_cons hlt, heq] at hat
  obtain ⟨t, hsend, ht, hqueries⟩ := hat.send_cons
    (.getMore b.cursor c.collection c.batchSize) trivial
  have hconverts := c.converts next (List.mem_of_getElem? hnext)
  refine ⟨_, ?_, h.received hb hnext hqueries ht⟩
  rw [h.run_fetch hb hopen, Action.bind_of_ok hsend, Async.run_apply]
  show (BatchView.receive q c.converter next.documents _ : _ × _) = _
  rw [BatchView.receive, hconverts]
  rfl

/-- After the last batch of the script the request fails, and the query stays as it is. -/
theorem Told.run_fetch_of_none (h : c.Told w q n v) (hb : c.script[n]? = some b)
    (hopen : b.cursor ≠ 0) (hnone : c.script[n + 1]? = none) :
    ∃ u, Async.run (c.view q b).fetch v = (.error Batch.exhausted, u) ∧
      c.Told w q (n + 1) u := by
  -- nothing is left of the script, so nothing is received and the last cursor stays
  have hlength := List.getElem?_eq_none_iff.1 hnone
  have hat := h.toAt
  rw [List.drop_eq_nil_of_le hlength] at hat
  obtain ⟨t, hsend, ht, hqueries⟩ := hat.send_nil
    (.getMore b.cursor c.collection c.batchSize) trivial
  have hquery := Service.query_congr hqueries q
  rw [List.append_assoc, ← requests_succ hb] at ht
  refine ⟨t, ?_, ?_, ?_, ?_, ?_, ?_, ?_⟩
  · rw [h.run_fetch hb hopen, Action.bind_of_error hsend]
  · rw [List.drop_eq_nil_of_le (Nat.le_succ_of_le hlength)]
    exact ht
  · rw [hqueries]
    exact h.exists_query
  · rw [hquery]
    exact h.server_eq
  · rw [hquery]
    exact h.session_eq
  · rw [hquery, Batch.lastCursor_succ_of_none hnone]
    exact h.cursorId_eq
  · rw [hquery]
    exact h.batchSize_eq

/-! ## Reading -/

/-- The chain of the batches of a course. -/
def chain (c : Course) : Chain Value := Batch.chain c.converted c.script

theorem length_of_last (hb : c.script[n]? = some b) (hnone : c.script[n + 1]? = none) :
    n + 1 = c.script.length := by
  have hlt := (List.getElem?_eq_some_iff.1 hb).1
  have hle := List.getElem?_eq_none_iff.1 hnone
  omega

/-- What the chain delivers from a batch on, when another follows. -/
theorem delivery_of_next (hb : c.script[n]? = some b) (hnext : c.script[n + 1]? = some next) :
    c.chain.delivery n =
      .page (b.documents.map c.converted) (b.cursor != 0) (c.chain.delivery (n + 1)) := by
  have harrival : c.chain.arrival (n + 1) = .ok () := Batch.arrival_chain hnext
  rw [Chain.delivery_of_ok _ harrival, chain, Batch.elements_chain hb, Batch.hasMore_chain hb]

/-- What the chain delivers from its last batch on. -/
theorem delivery_of_last (hb : c.script[n]? = some b) (hnone : c.script[n + 1]? = none) :
    c.chain.delivery n =
      .page (b.documents.map c.converted) (b.cursor != 0) (.failure Batch.exhausted) := by
  have harrival : c.chain.arrival (n + 1) = .error Batch.exhausted := by
    rw [length_of_last hb hnone]
    exact Batch.arrival_chain_length
  rw [Chain.delivery_of_error _ harrival, chain, Batch.elements_chain hb, Batch.hasMore_chain hb]

/-- The chain delivers no more pages than the script has batches. -/
theorem size_delivery (c : Course) (hn : n < c.script.length) :
    (c.chain.delivery n).size = c.script.length - n := by
  -- by induction on how many batches follow
  induction hleft : c.script.length - n generalizing n with
  | zero => omega
  | succ left ih =>
    have hb := List.getElem?_eq_getElem hn
    cases hnext : c.script[n + 1]? with
    | none =>
      have hlength := length_of_last hb hnext
      rw [delivery_of_last hb hnext, Delivery.size, Delivery.size]
      omega
    | some next =>
      have hlt := (List.getElem?_eq_some_iff.1 hnext).1
      rw [delivery_of_next hb hnext, Delivery.size, ih hlt (by omega)]

/-- **The view that is held is the one that the query describes.**  A course serves its chain. -/
def simulation (c : Course) (w : Service) (q : Nat) : Simulation where
  serves n v feed d := ∃ b, c.script[n]? = some b ∧ feed = .batch (c.view q b) ∧
    d = c.chain.delivery n ∧ c.Told w q n v
  leaves n v := c.Told w q n v
  view := by
    rintro n v feed d ⟨b, hb, rfl, rfl, htold⟩
    refine ⟨htold, ?_⟩
    have hmore : (Feed.batch (c.view q b)).hasMore v = (b.cursor != 0) := by
      show ((v.query q).cursorId != 0) = _
      rw [htold.cursorId_eq, Batch.lastCursor_of_getElem? hb]
    rw [hmore]
    cases hnext : c.script[n + 1]? with
    | none => exact ⟨_, delivery_of_last hb hnext⟩
    | some next => exact ⟨_, delivery_of_next hb hnext⟩
  noted := by
    rintro n v feed d notice ⟨b, hb, hfeed, hd, htold⟩
    exact ⟨b, hb, hfeed, hd,
      htold.of_suppliesLike (Service.aside_notice notice v) (htold.tells.noted notice)⟩
  fetch_ok := by
    rintro n v feed elements more elements' more' following ⟨b, hb, rfl, hd, htold⟩ rfl
    cases hnext : c.script[n + 1]? with
    | none =>
      -- the script is over, so no page is delivered next
      rw [delivery_of_last hb hnext] at hd
      injection hd with _ _ hd
      cases hd
    | some next =>
      rw [delivery_of_next hb hnext] at hd
      injection hd with _ hopen hd
      obtain ⟨u, hrun, hu⟩ := htold.run_fetch_of_next hb (bne_iff_ne.1 hopen.symm) hnext
      refine ⟨.batch (c.view q next), u, ?_, next, rfl, rfl, hd, hu⟩
      rw [Feed.fetch, Async.run_bind]
      exact Action.bind_of_ok hrun
  fetch_error := by
    rintro n v feed elements more fault ⟨b, hb, rfl, hd, htold⟩ rfl
    cases hnext : c.script[n + 1]? with
    | none =>
      rw [delivery_of_last hb hnext] at hd
      injection hd with _ hopen hd
      injection hd with hfault
      obtain ⟨u, hrun, hu⟩ := htold.run_fetch_of_none hb (bne_iff_ne.1 hopen.symm) hnext
      refine ⟨u, ?_, hu⟩
      rw [hfault, Feed.fetch, Async.run_bind]
      exact Action.bind_of_error hrun
    | some next =>
      -- a page of the chain is delivered next, and no fault
      obtain ⟨following, hfollowing⟩ := c.chain.exists_delivery_eq (n + 1)
      rw [delivery_of_next hb hnext, hfollowing] at hd
      injection hd with _ _ hd
      cases hd

end Course

end Paging
