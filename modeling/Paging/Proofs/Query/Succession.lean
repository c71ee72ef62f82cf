import Paging.Proofs.Query.Draw
import Paging.Proofs.Query.Opening

/-!
# Paging.Proofs.Query.Succession — the calls on a query, one after the other

All views of a query read and change the one cursor that the query keeps.  A `Succession` is what a
query has come to when calls have been made on its views one after the other: the views that were
handed out, whether the query has been closed, and the state of the service.  Each call may be made on
any view, old or new, and may fail or be cancelled wherever it waits.

While the query is open, the cursor that it keeps is the one received last (`Running`).  A fetch keeps
this up.  A closing ends it, and afterwards nothing changes any more (`Over`).  What has been said and
received is the same account in both cases, and `sequential_life` is what it comes to.
-/

namespace Paging

/-! ## What is said -/

namespace Exchange

/-- What is said while a query is open: a first command that brings a cursor, and requests each of
which carries the cursor received last before it, which says that there is more. -/
inductive Proceeds (find : Command) (collection : String) (batchSize : Int) :
    List Exchange → Prop
  | first (id : Int) (batch : List Value) :
      Proceeds find collection batchSize [⟨find, .ok (.cursor id batch)⟩]
  | more {es : List Exchange} {id : Int} (answer : Except Fault Reply)
      (said : Proceeds find collection batchSize es) (last : lastCursor es = some id)
      (isOpen : id ≠ 0) :
      Proceeds find collection batchSize (es ++ [⟨.getMore id collection batchSize, answer⟩])

/-- Whether a request for more has brought a batch. -/
def brings (e : Exchange) : Bool :=
  match e.command, e.answer with
  | .getMore .., .ok (.cursor ..) => true
  | _, _ => false

/-- What is said to give back what a query holds: its cursor, unless it was read to its end, and then
its session. -/
def releases (session : Nat) (collection : String) (es : List Exchange) : List Contact :=
  (due es).map (fun ids => .command (some session) (.killCursors collection ids)) ++
    [.endSession session]

variable {find : Command} {collection : String} {b : Int} {es : List Exchange}

/-- All batches that are asked for have the same size. -/
theorem Proceeds.asked (h : Proceeds find collection b es) (hfind : find.asked = some b) :
    ∀ e ∈ es, e.command.asked = some b := by
  induction h with
  | first id batch =>
    intro e he
    rw [List.mem_singleton.1 he]
    exact hfind
  | more answer _ _ _ ih =>
    intro e he
    rcases List.mem_append.1 he with hold | hnew
    · exact ih e hold
    · rw [List.mem_singleton.1 hnew]
      rfl

theorem due_of_open {id : Int} (hlast : lastCursor es = some id) (hopen : id ≠ 0) :
    due es = [[id]] := by
  simp [due, hlast, hopen]

end Exchange

/-! ## Calls, one after the other -/

/-- A call on a view of a query, by the number of the view: a fetch or a closing.  Each time it waits
it is resumed with the next signal. -/
structure Use where
  view : Nat
  closes : Bool
  signals : Nat → Option Fault

/-- What a query has come to. -/
structure Succession where
  /-- The views that were handed out, the first of them first. -/
  views : List BatchView
  /-- Whether a closing has been called for. -/
  closed : Bool
  state : Service

namespace Succession

/-- A query that was just opened has handed out one view. -/
def start (view : BatchView) (u : Service) : Succession := ⟨[view], false, u⟩

/-- One call is made.  A fetch that succeeds hands out one more view. -/
def step (x : Succession) (use : Use) : Succession :=
  match x.views[use.view]? with
  | none => x
  | some view =>
    if use.closes then
      { x with closed := true, state := (Async.runWith use.signals view.close x.state).2 }
    else
      let r := Async.runWith use.signals view.fetch x.state
      { x with views := x.views ++ r.1.toOption.toList, state := r.2 }

/-- Calls are made one after the other. -/
def run (x : Succession) (uses : List Use) : Succession := uses.foldl step x

/-- What was said and received since a query was opened on a server. -/
structure Account (w : Service) (i : Nat) (selection : Selection) (q : Nat) (es : List Exchange)
    (x : Succession) : Prop where
  proceeds : Exchange.Proceeds (selection.find w i) (w.server i).collection
    (selection.batchSizeIn w) es
  drawn : ∃ n, (w.server i).supply.draw (selection.batchSizeIn w) n =
    (es.filterMap Exchange.given?, (x.state.server i).supply)
  batches : x.views.map (fun v => .ok v.batch) =
    (es.filterMap Exchange.batch?).map (convert selection.converter)
  views : ∀ v ∈ x.views, v.query = q ∧ v.converter = selection.converter
  fetched : (x.state.query q).batchesFetched = 1 + es.countP Exchange.brings

/-- The query is open. -/
structure Running (w : Service) (i : Nat) (selection : Selection) (q : Nat)
    (used : List (Option Fault)) (es : List Exchange) (x : Succession) : Prop
    extends Account w i selection q es x where
  isOpen : (w.conversation i).Open q used es x.state
  batchSize : (x.state.query q).batchSize = selection.batchSizeIn w
  unclosed : x.closed = false

/-- The query has been closed, and what it held was given back. -/
structure Over (w : Service) (i : Nat) (selection : Selection) (q : Nat) (es : List Exchange)
    (x : Succession) : Prop extends Account w i selection q es x where
  traffic : x.state.traffic = (w.conversation i).before ++
    es.map (Exchange.contact (w.conversation i).session) ++
    Exchange.releases (w.conversation i).session (w.server i).collection es
  noSession : (x.state.query q).session = none
  noCursor : (x.state.query q).cursorId = 0
  closed : x.closed = true

variable {w u : Service} {i q : Nat} {selection : Selection} {used later : List (Option Fault)}
  {es : List Exchange} {x : Succession} {view : BatchView}

/-! ## Opening -/

/-- What a conversation has drawn from the supply of its server. -/
theorem drawn_of_answers {s : Server} {all : List Exchange}
    (h : (w.conversation i).opening.Answers used all s)
    (hasked : ∀ e ∈ all, e.command.asked = some (selection.batchSizeIn w) ∨
      e.command.asked = none) :
    ∃ n, (w.server i).supply.draw (selection.batchSizeIn w) n =
      (all.filterMap Exchange.given?, s.supply) :=
  -- starting the session has left the supply alone
  h.draw hasked

/-- A query that was just opened is running. -/
theorem running_start {signals : Nat → Option Fault} (hi : i < w.servers.length)
    (hopen : Async.runWith signals (BatchView.openOn i selection) w = (.ok view, u)) :
    ∃ used es, Running w i selection view.query used es (start view u) := by
  obtain ⟨hstart, hbatch⟩ := BatchView.startable_of_openOn hi hopen
  have hopening := Async.runWith_of_always (BatchView.always_openOn hi hstart hbatch) signals
  rw [hopen] at hopening
  cases hopening with
  | @opened _ id batch _ converts converter_eq query_eq isOpen =>
    have hproceeds : Exchange.Proceeds (selection.find w i) (w.server i).collection
      (selection.batchSizeIn w) _ := .first id batch
    refine ⟨_, _, ⟨hproceeds, ?_, ?_, ?_, ?_⟩, isOpen, ?_, rfl⟩
    · exact drawn_of_answers isOpen.answers fun e he => .inl (hproceeds.asked rfl e he)
    · exact congrArg (fun r => [r]) converts.symm
    · intro v hv
      rw [List.mem_singleton.1 hv]
      exact ⟨rfl, converter_eq⟩
    · exact congrArg Query.batchesFetched query_eq
    · exact congrArg Query.batchSize query_eq

/-! ## Fetching -/

/-- An open query asks for more with the cursor received last. -/
theorem Running.nextCommand_eq (h : Running w i selection q used es x) (hview : view.query = q) :
    view.nextCommand x.state = .getMore (x.state.query q).cursorId (w.server i).collection
      (selection.batchSizeIn w) := by
  rw [BatchView.nextCommand, hview, h.isOpen.server_eq, h.batchSize]
  exact congrArg (Command.getMore _ · _) h.isOpen.answers.collection

/-- What is said while a query is open goes on as it should when one more request is made. -/
theorem Running.proceeds_more (h : Running w i selection q used es x)
    (halive : (x.state.query q).isAlive = true) (answer : Except Fault Reply) :
    Exchange.Proceeds (selection.find w i) (w.server i).collection (selection.batchSizeIn w)
      (es ++ [⟨.getMore (x.state.query q).cursorId (w.server i).collection
        (selection.batchSizeIn w), answer⟩]) :=
  .more answer h.proceeds h.isOpen.lastCursor (bne_iff_ne.1 halive)

/-- A batch has come, and a view on it is handed out. -/
theorem Running.arrived (h : Running w i selection q used es x) {id : Int} {batch docs : List Value}
    {v : Service} (halive : (x.state.query q).isAlive = true)
    (hopen : (w.conversation i).Open q later (es ++ [⟨.getMore (x.state.query q).cursorId
      (w.server i).collection (selection.batchSizeIn w), .ok (.cursor id batch)⟩]) v)
    (hreceived : v.query q = (x.state.query q).received id)
    (hconverts : convert selection.converter batch = .ok docs) :
    ∃ es', Running w i selection q later es'
      ⟨x.views ++ [⟨q, docs, selection.converter⟩], x.closed, v⟩ := by
  have hproceeds := h.proceeds_more halive (.ok (.cursor id batch))
  refine ⟨_, ⟨hproceeds, ?_, ?_, ?_, ?_⟩, hopen, ?_, h.unclosed⟩
  · exact drawn_of_answers hopen.answers fun e he => .inl (hproceeds.asked rfl e he)
  · rw [List.map_append, h.batches, List.filterMap_append, List.map_append]
    exact congrArg (fun r => _ ++ [r]) hconverts.symm
  · intro v hv
    rcases List.mem_append.1 hv with hold | hnew
    · exact h.views v hold
    · rw [List.mem_singleton.1 hnew]
      exact ⟨rfl, rfl⟩
  · rw [hreceived, List.countP_append, ← Nat.add_assoc, ← h.fetched]
    rfl
  · rw [hreceived]
    exact h.batchSize

/-- A request has brought no batch, and the query is as it was. -/
theorem Running.missed (h : Running w i selection q used es x) {answer : Except Fault Reply}
    {v : Service} (halive : (x.state.query q).isAlive = true)
    (hopen : (w.conversation i).Open q later (es ++ [⟨.getMore (x.state.query q).cursorId
      (w.server i).collection (selection.batchSizeIn w), answer⟩]) v)
    (hsame : v.queries = x.state.queries)
    (hnone : ∀ id batch, answer ≠ .ok (.cursor id batch)) :
    ∃ es', Running w i selection q later es' ⟨x.views, x.closed, v⟩ := by
  have hproceeds := h.proceeds_more halive answer
  have hquery := Service.query_congr hsame q
  have hbatch : Exchange.batch? ⟨.getMore (x.state.query q).cursorId (w.server i).collection
      (selection.batchSizeIn w), answer⟩ = none ∧ Exchange.brings ⟨.getMore
      (x.state.query q).cursorId (w.server i).collection (selection.batchSizeIn w), answer⟩ =
        false := by
    rcases answer with fault | (⟨id, batch⟩ | _)
    · exact ⟨rfl, rfl⟩
    · exact absurd rfl (hnone id batch)
    · exact ⟨rfl, rfl⟩
  refine ⟨_, ⟨hproceeds, ?_, ?_, h.views, ?_⟩, hopen, ?_, h.unclosed⟩
  · exact drawn_of_answers hopen.answers fun e he => .inl (hproceeds.asked rfl e he)
  · rw [List.filterMap_append, List.filterMap_cons_none hbatch.1, List.filterMap_nil,
      List.append_nil]
    exact h.batches
  · rw [hquery, h.fetched, List.countP_append, List.countP_singleton, hbatch.2]
    rfl
  · rw [hquery]
    exact h.batchSize

/-- Every document that the server has to give converts. -/
def Gives (w : Service) (i : Nat) (selection : Selection) : Prop :=
  ∀ d ∈ (w.server i).supply.left, ∃ v, selection.converter.getD Except.ok d = .ok v

/-- A batch that has come from a server converts, if every document does that it has to give. -/
theorem Gives.exists_convert (h : Gives w i selection) {all : List Exchange} {s : Server}
    {c : Command} {id : Int} {batch : List Value} (hanswers : (w.conversation i).opening.Answers used
      (all ++ [⟨c, .ok (.cursor id batch)⟩]) s)
    (hasked : ∀ e ∈ all ++ [(⟨c, .ok (.cursor id batch)⟩ : Exchange)],
      e.command.asked = some (selection.batchSizeIn w)) :
    ∃ docs, convert selection.converter batch = .ok docs := by
  obtain ⟨n, hn⟩ := drawn_of_answers hanswers fun e he => .inl (hasked e he)
  have hgiven : Reply.cursor id batch ∈ ((w.server i).supply.draw (selection.batchSizeIn w) n).1 := by
    have hlast : Exchange.given? ⟨c, .ok (.cursor id batch)⟩ = some (.cursor id batch) :=
      Exchange.given?_of_ok (hasked _ (List.mem_append_right _ (List.mem_singleton_self _)))
    rw [hn, List.filterMap_append, List.filterMap_cons_some hlast]
    exact List.mem_append_right _ List.mem_cons_self
  apply Paging.exists_convert
  intro d hd
  exact h d (Supply.mem_left_of_draw hgiven hd)

/-- **A fetch from an open query.**  The query stays open.  If the fetch fails, the query is as it
was, and if the cursor received last says that nothing is left, nothing is sent. -/
theorem Running.fetch (h : Running w i selection q used es x) (hgives : Gives w i selection)
    (hview : view ∈ x.views) (signals : Nat → Option Fault) :
    let r := Async.runWith signals view.fetch x.state
    (∃ later es', Running w i selection q later es'
        ⟨x.views ++ r.1.toOption.toList, x.closed, r.2⟩) ∧
      (∀ fault, r.1 = .error fault → r.2.query q = x.state.query q) := by
  intro r
  obtain ⟨hquery, hconverter⟩ := h.views view hview
  subst hquery
  have hcommand := h.nextCommand_eq rfl
  have hfetched := Async.runWith_of_always_append (BatchView.always_fetched h.isOpen) signals
  generalize used ++ Async.used signals view.fetch x.state = later at hfetched
  generalize hr : Async.runWith signals view.fetch x.state = outcome at hfetched
  have hr' : r = outcome := hr
  rw [hr']
  rcases outcome with ⟨result, v⟩
  cases hfetched with
  | exhausted isOver => exact ⟨⟨_, es, by simpa [Except.toOption] using h⟩, fun _ _ => rfl⟩
  | arrived isAlive isOpen received converts =>
    rw [hcommand] at isOpen
    rw [hconverter] at converts ⊢
    exact ⟨⟨_, h.arrived isAlive isOpen received converts⟩, nofun⟩
  | unconverted isAlive isOpen fails =>
    rw [hcommand] at isOpen
    obtain ⟨docs, hdocs⟩ := hgives.exists_convert isOpen.answers
      ((h.proceeds_more isAlive _).asked rfl)
    rw [hconverter, hdocs] at fails
    cases fails
  | headless isAlive isOpen same =>
    rw [hcommand] at isOpen
    obtain ⟨es', hrunning⟩ := h.missed isAlive isOpen same nofun
    exact ⟨⟨_, es', by simpa [Except.toOption] using hrunning⟩, fun _ _ => Service.query_congr same _⟩
  | failed isAlive isOpen same =>
    rw [hcommand] at isOpen
    obtain ⟨es', hrunning⟩ := h.missed isAlive isOpen same nofun
    exact ⟨⟨_, es', by simpa [Except.toOption] using hrunning⟩, fun _ _ => Service.query_congr same _⟩

/-! ## Closing -/

/-- A query is over when what it held was given back: all that was said after the last fetch is what
had to be said for that, and the server had no more to give for it. -/
theorem Running.ended (h : Running w i selection q used es x) {all : List Exchange} {t : Service}
    (hat : (w.conversation i).At later all t)
    (hquery : t.query q = (x.state.query q).withoutSession.withoutCursor)
    (hsaid : all.map (Exchange.contact (w.conversation i).session) ++
      [.endSession (w.conversation i).session] =
        es.map (Exchange.contact (w.conversation i).session) ++
          Exchange.releases (w.conversation i).session (w.server i).collection es)
    (hasked : ∀ e ∈ all, e.command.asked = some (selection.batchSizeIn w) ∨
      e.command.asked = none)
    (hgiven : all.filterMap Exchange.given? = es.filterMap Exchange.given?) :
    Over w i selection q es { x with
      closed := true
      state := (Session.finish i (w.conversation i).session t).2 } := by
  have hend := hat.finish
  have hserver : (Session.finish i (w.conversation i).session t).2.server i =
      ((t.server i).occur .endSession).2 :=
    Service.server_withServer (fun s => s.occur .endSession) hat.exists_server
  have hsame : (Session.finish i (w.conversation i).session t).2.query q = t.query q := rfl
  refine ⟨⟨h.proceeds, ?_, h.batches, h.views, ?_⟩, ?_, ?_, ?_, rfl⟩
  · have hdrawn := drawn_of_answers hat.answers hasked
    rw [hgiven] at hdrawn
    rw [hserver]
    exact hdrawn
  · rw [hsame, hquery]
    exact h.fetched
  · rw [List.append_assoc, ← hsaid, ← List.append_assoc]
    exact hend.traffic
  · rw [hsame, hquery]
    rfl
  · rw [hsame, hquery]
    rfl

/-- **A closing of an open query** gives back what the query holds, whatever fails. -/
theorem Running.close (h : Running w i selection q used es x) (hview : view ∈ x.views)
    (signals : Nat → Option Fault) :
    Over w i selection q es
      { x with closed := true, state := (Async.runWith signals view.close x.state).2 } := by
  obtain ⟨rfl, _⟩ := h.views view hview
  obtain ⟨dropped, t, hdrop, _, hend⟩ :=
    Async.runWith_of_always_append (BatchView.always_closing h.isOpen) signals
  have htaken := Service.query_queryUpdate Query.withoutSession h.isOpen.exists_query
  have hlast := h.isOpen.lastCursor
  have hasked := h.proceeds.asked rfl
  rw [hend]
  generalize used ++ Async.used signals view.close x.state = later at hdrop
  cases hdrop with
  | nothing isOver =>
    rw [htaken] at isOver
    have hzero : (x.state.query view.query).cursorId = 0 := isOver
    rw [hzero] at hlast
    refine h.ended (h.isOpen.toAt.queryUpdate _ _) ?_ ?_ (fun e he => .inl (hasked e he)) rfl
    · rw [htaken, Query.withoutCursor, ← isOver]
    · rw [Exchange.releases, Exchange.due_of_over hlast]
      rfl
  | sent isOpen said noCursor forgotten =>
    rw [htaken] at isOpen forgotten
    have hserver : view.killCommand (Service.queryUpdate view.query Query.withoutSession
        x.state).2 = .killCursors (w.server i).collection [(x.state.query view.query).cursorId] := by
      rw [BatchView.killCommand, htaken]
      show Command.killCursors (x.state.server (x.state.query view.query).server).collection _ = _
      rw [h.isOpen.server_eq]
      exact congrArg (Command.killCursors · _) h.isOpen.answers.collection
    rw [hserver] at said
    refine h.ended said forgotten ?_ ?_ ?_
    · rw [Exchange.releases, Exchange.due_of_open hlast isOpen, List.map_append, List.append_assoc]
      rfl
    · intro e he
      rcases List.mem_append.1 he with hold | hnew
      · exact .inl (hasked e hold)
      · rw [List.mem_singleton.1 hnew]
        exact .inr rfl
    · rw [List.filterMap_append,
        List.filterMap_cons_none (Exchange.given?_of_asked_none rfl), List.filterMap_nil,
        List.append_nil]

/-! ## After a closing -/

/-- Taking the session from a query that has none changes nothing. -/
theorem queryUpdate_of_noSession {v : Service} (h : (v.query q).session = none) :
    (Service.queryUpdate q Query.withoutSession v).2 = v := by
  have hqueries : v.queries.modify q Query.withoutSession = v.queries := by
    apply List.ext_getElem?
    intro k
    rw [List.getElem?_modify]
    cases hk : v.queries[k]? with
    | none => rfl
    | some n =>
      show some (if q = k then n.withoutSession else n) = some n
      split
      · next hq =>
        have hn : v.query q = n := by
          rw [Service.query, List.getD_eq_getElem?_getD, hq, hk]
          rfl
        rw [hn] at h
        rw [Query.withoutSession, ← h]
      · rfl
  show { v with queries := v.queries.modify q Query.withoutSession } = v
  rw [hqueries]

/-- A query that was closed fetches nothing. -/
theorem Over.fetch (h : Over w i selection q es x) (hview : view ∈ x.views)
    (signals : Nat → Option Fault) :
    Async.runWith signals view.fetch x.state = (.error .queryOver, x.state) := by
  obtain ⟨rfl, _⟩ := h.views view hview
  rw [Async.runWith, BatchView.fetch_of_not_isAlive (Query.isAlive_of_eq h.noCursor)]
  rfl

/-- A query that was closed is not closed again. -/
theorem Over.close (h : Over w i selection q es x) (hview : view ∈ x.views)
    (signals : Nat → Option Fault) :
    Async.runWith signals view.close x.state = (.ok (), x.state) := by
  obtain ⟨rfl, _⟩ := h.views view hview
  rw [Async.runWith, ← BatchView.closeWith_finishNow, BatchView.closeWith_of_none h.noSession,
    queryUpdate_of_noSession h.noSession]
  rfl

/-- **Once a query was closed nothing changes any more.** -/
theorem Over.step (h : Over w i selection q es x) (use : Use) : x.step use = x := by
  unfold Succession.step
  cases hview : x.views[use.view]? with
  | none => rfl
  | some view =>
    have hmem := List.mem_of_getElem? hview
    simp only [h.fetch hmem, h.close hmem, Except.toOption, Option.toList_none, List.append_nil]
    have hclosed := h.closed
    cases use.closes <;> (cases x; subst hclosed; rfl)

theorem Over.run (h : Over w i selection q es x) (uses : List Use) : x.run uses = x := by
  induction uses with
  | nil => rfl
  | cons use rest ih => rw [Succession.run, List.foldl_cons, h.step use]; exact ih

/-! ## The whole life -/

theorem Running.step (h : Running w i selection q used es x) (hgives : Gives w i selection)
    (use : Use) : (∃ later es', Running w i selection q later es' (x.step use)) ∨
      ∃ es', Over w i selection q es' (x.step use) := by
  unfold Succession.step
  cases hview : x.views[use.view]? with
  | none => exact .inl ⟨used, es, h⟩
  | some view =>
    have hmem := List.mem_of_getElem? hview
    cases hcloses : use.closes with
    | true => exact .inr ⟨es, h.close hmem use.signals⟩
    | false => exact .inl (h.fetch hgives hmem use.signals).1

/-- A query is open or over, whatever calls have been made on it. -/
theorem Running.run (h : Running w i selection q used es x) (hgives : Gives w i selection)
    (uses : List Use) : (∃ later es', Running w i selection q later es' (x.run uses)) ∨
      ∃ es', Over w i selection q es' (x.run uses) := by
  induction uses generalizing used es x with
  | nil => exact .inl ⟨used, es, h⟩
  | cons use rest ih =>
    obtain ⟨_, _, hrunning⟩ | ⟨es', hover⟩ := h.step hgives use
    · exact ih hrunning
    · refine .inr ⟨es', ?_⟩
      have hlater := hover.run rest
      rw [Succession.run, List.foldl_cons]
      rw [Succession.run] at hlater
      rw [hlater]
      exact hover

/-- What holds at every moment in the life of a query. -/
structure Life (w : Service) (i : Nat) (selection : Selection) (q : Nat) (es : List Exchange)
    (x : Succession) : Prop extends Account w i selection q es x where
  /-- Everything is said in one session, and nothing after it has ended. -/
  traffic : x.state.traffic = (w.conversation i).before ++
    es.map (Exchange.contact (w.conversation i).session) ++
    if x.closed then Exchange.releases (w.conversation i).session (w.server i).collection es else []
  hasMore : ∀ v ∈ x.views,
    (v.hasMore x.state = true ↔ x.closed = false ∧ Exchange.lastCursor es ≠ some 0)
  /-- Fetching from a query that is over or was closed is refused, and nothing is sent. -/
  fetch_of_over : x.closed = true ∨ Exchange.lastCursor es = some 0 → ∀ v ∈ x.views, ∀ signals,
    Async.runWith signals v.fetch x.state = (.error .queryOver, x.state)
  /-- A fetch that fails leaves the query as it is: its cursor, its session and the count. -/
  fetch_of_error : ∀ v ∈ x.views, ∀ signals fault,
    (Async.runWith signals v.fetch x.state).1 = .error fault →
      (Async.runWith signals v.fetch x.state).2.query q = x.state.query q
  /-- The first closing gives back what the query holds, even where it fails. -/
  close_of_open : x.closed = false → ∀ v ∈ x.views, ∀ signals,
    (Async.runWith signals v.close x.state).2.traffic = x.state.traffic ++
      Exchange.releases (w.conversation i).session (w.server i).collection es
  close_of_closed : x.closed = true → ∀ v ∈ x.views, ∀ signals,
    Async.runWith signals v.close x.state = (.ok (), x.state)
  /-- Once the query was closed nothing changes any more. -/
  final : x.closed = true → ∀ uses, x.run uses = x

theorem Running.life (h : Running w i selection q used es x) (hgives : Gives w i selection) :
    Life w i selection q es x where
  toAccount := h.toAccount
  traffic := by
    rw [h.unclosed]
    exact h.isOpen.traffic.trans (List.append_nil _).symm
  hasMore := by
    intro v hv
    rw [BatchView.hasMore, (h.views v hv).1, Query.isAlive, bne_iff_ne, h.unclosed,
      h.isOpen.lastCursor]
    simp
  fetch_of_over := by
    rintro (hclosed | hover) v hv signals
    · rw [h.unclosed] at hclosed
      cases hclosed
    · obtain ⟨rfl, _⟩ := h.views v hv
      have hlast := h.isOpen.lastCursor
      rw [hover, Option.some_inj] at hlast
      rw [Async.runWith, BatchView.fetch_of_not_isAlive (Query.isAlive_of_eq hlast.symm)]
      rfl
  fetch_of_error v hv signals := (h.fetch hgives hv signals).2
  close_of_open := by
    intro _ v hv signals
    have htraffic := (h.close hv signals).traffic
    rw [← h.isOpen.traffic] at htraffic
    exact htraffic
  close_of_closed := by
    intro hclosed
    rw [h.unclosed] at hclosed
    cases hclosed
  final := by
    intro hclosed
    rw [h.unclosed] at hclosed
    cases hclosed

theorem Over.life (h : Over w i selection q es x) : Life w i selection q es x where
  toAccount := h.toAccount
  traffic := by
    rw [h.closed]
    exact h.traffic
  hasMore := by
    intro v hv
    rw [BatchView.hasMore, (h.views v hv).1, Query.isAlive_of_eq h.noCursor, h.closed]
    exact ⟨nofun, nofun⟩
  fetch_of_over := fun _ _ hv signals => h.fetch hv signals
  fetch_of_error := by
    intro v hv signals fault _
    rw [h.fetch hv signals]
  close_of_open := by
    intro hclosed
    rw [h.closed] at hclosed
    cases hclosed
  close_of_closed := fun _ _ hv signals => h.close hv signals
  final := fun _ uses => h.run uses

/-- **The life of a query on which calls are made one after the other.**  Whatever calls are made on
whichever of its views, and however they fail, the batches that were handed out are the ones that the
server had to give, in order and each of them once, and the views agree with the one cursor that was
received last.  That cursor is the one with which more is asked for and which the first closing drops.
All that is asked for is that documents convert. -/
theorem sequential_life {signals : Nat → Option Fault} (hi : i < w.servers.length)
    (hopen : Async.runWith signals (BatchView.openOn i selection) w = (.ok view, u))
    (hgives : Gives w i selection) (uses : List Use) :
    ∃ es, Life w i selection view.query es ((start view u).run uses) := by
  obtain ⟨_, _, hrunning⟩ := running_start hi hopen
  obtain ⟨_, es', hlater⟩ | ⟨es', hover⟩ := hrunning.run hgives uses
  · exact ⟨es', hlater.life hgives⟩
  · exact ⟨es', hover.life⟩

/-- A server with three batches of one number each.  The second request for more fails. -/
def faltering : Service where
  servers := [{
    supply := .replies [.cursor 7 [.object [("n", .int 1)]], .cursor 9 [.object [("n", .int 2)]],
      .cursor 11 [.object [("n", .int 3)]]]
    failures := [{ occasion := .getMore, nth := 2, fault := .raised .connectionError "connection lost" }]
    suspends := true }]

/-- Its numbers are asked for one by one. -/
def singly : Selection where
  batchSize := some 1
  converter := some Converter.number

/-- The first number of it, and the query it was received by. -/
def firstNumber : BatchView := ⟨0, [.int 1], some Converter.number⟩

/-- What the query has come to when it is opened. -/
def handedOut : Succession :=
  start firstNumber (Async.runWith (fun _ => none) (BatchView.openOn 0 singly) faltering).2

/-- All fetches are made on the first view.  The query is closed by the last one; that closing is
cancelled where it waits.  Then it is closed again, and one more batch is asked for. -/
def troubled : List Use :=
  [⟨0, false, fun _ => none⟩, ⟨0, false, fun _ => none⟩, ⟨0, false, fun _ => none⟩,
    ⟨2, true, fun _ => some .cancellation⟩, ⟨1, true, fun _ => none⟩, ⟨0, false, fun _ => none⟩]

/-- Every number is handed out once although one request fails, and the cursor received last is
dropped. -/
theorem sequential_life_of_faltering :
    0 < faltering.servers.length ∧
    Async.runWith (fun _ => none) (BatchView.openOn 0 singly) faltering =
      (.ok firstNumber, handedOut.state) ∧
    Gives faltering 0 singly ∧
    (∃ es, Life faltering 0 singly firstNumber.query es (handedOut.run troubled)) ∧
    (handedOut.run troubled).views.map BatchView.batch = [[.int 1], [.int 2], [.int 3]] ∧
    (handedOut.run troubled).state.traffic =
      [.startSession 1, .command (some 1) (.find "items" [] 1 [] []),
        .command (some 1) (.getMore 7 "items" 1), .command (some 1) (.getMore 9 "items" 1),
        .command (some 1) (.getMore 9 "items" 1),
        .command (some 1) (.killCursors "items" [11]), .endSession 1] := by
  have hopen : Async.runWith (fun _ => none) (BatchView.openOn 0 singly) faltering =
      (.ok firstNumber, handedOut.state) := rfl
  have hgives : Gives faltering 0 singly := by
    intro d hd
    have hd' : d ∈ [Value.object [("n", .int 1)], .object [("n", .int 2)],
      .object [("n", .int 3)]] := hd
    simp only [List.mem_cons, List.not_mem_nil, or_false] at hd'
    rcases hd' with rfl | rfl | rfl
    · exact ⟨.int 1, rfl⟩
    · exact ⟨.int 2, rfl⟩
    · exact ⟨.int 3, rfl⟩
  exact ⟨by decide, hopen, hgives, sequential_life (by decide) hopen hgives troubled, rfl, rfl⟩

end Succession

end Paging
