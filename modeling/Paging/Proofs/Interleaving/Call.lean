import Paging.Proofs.Interleaving.Alike
import Paging.Proofs.Query.Life

/-!
# Paging.Proofs.Interleaving.Call — two runs of a call on a feed

Fetching from a feed reads what stands at its place and nothing else, so two runs of a fetch are
alike whenever they begin in states that agree on that place (`alike_fetch`).  A call adds to its
fetches only what is counted in the call itself and what is told of it, and so two runs of a call
are alike, too (`alike_serveFeed`).
-/

namespace Paging

open Tracing

/-- Where a feed gets its pages from is a matter of the feed, and of the servers that make callers
wait. -/
def Feed.At : Place → Feed → Prop
  | .nowhere waits, .chain c _ => c.suspends = waits
  | .sequence i, .chunk j _ => i = j
  | .query q _ _, .batch view => q = view.query
  | _, _ => False

/-- An answered command does not change whether callers wait. -/
theorem Server.suspends_answer (s : Server) (c : Command) : (s.answer c).2.suspends = s.suspends := by
  unfold answer occur
  cases s.planned c.occasion with
  | some fault => rfl
  | none => cases c <;> rfl

namespace Chunked.SameElements

variable {c d : Chunked Value}

theorem hasMore_eq (h : c.SameElements d) (view : ChunkView Value) :
    c.hasMore view = d.hasMore view := by
  rw [hasMore, hasMore, h.elements, h.fetchSize, h.trailing]

theorem viewAt_eq (h : c.SameElements d) (offset : Nat) : c.viewAt offset = d.viewAt offset := by
  rw [viewAt, viewAt, h.elements, h.fetchSize]

theorem fst_fetch_eq (h : c.SameElements d) (view : ChunkView Value) :
    (c.fetch view).1 = (d.fetch view).1 := by
  have hfetch : ∀ c : Chunked Value, (c.fetch view).1 =
      if c.hasMore view then .ok (c.viewAt (view.offset + c.fetchSize)) else .error .noMorePages := by
    intro c
    rw [fetch]
    cases c.hasMore view <;> rfl
  rw [hfetch, hfetch, h.hasMore_eq, h.viewAt_eq, h.fetchSize]

end Chunked.SameElements

/-- A batch that is received changes nothing. -/
theorem BatchView.receive_apply (query : Nat) (converter : Option Converter) (batch : List Value)
    (s : Service) : receive query converter batch s =
      ((convert converter batch).map fun docs => ⟨query, docs, converter⟩, s) := by
  rw [receive, Action.bind_apply, Act.ofExcept, Action.ofExcept_apply]
  cases convert converter batch <;> rfl

/-- A batch that arrives is received by its query, whether its documents convert or not. -/
theorem BatchView.accept_cursor (view : BatchView) (id : Int) (batch : List Value) (s : Service) :
    view.accept (.cursor id batch) s =
      .done ((convert view.converter batch).map fun docs => ⟨view.query, docs, view.converter⟩)
        (Service.queryUpdate view.query (Query.received id) s).2 := by
  have haccept : view.accept (.cursor id batch) s =
      Async.ofAction (receive view.query view.converter batch)
        (Service.queryUpdate view.query (Query.received id) s).2 :=
    Async.ofAction_bind_of_ok (Action.update_apply _ s) _
  rw [haccept, Async.ofAction_apply, receive_apply]

namespace Place

variable {K : Service → Prop} {Starts : Option Rat → Prop} {p : Place} {u v u' v' : Service}

/-- Two pieces of calls that do not touch what is read at a place. -/
theorem Meets.does (h : Meets K p u v) {q : Place} {said said' : List Contact}
    {fetched fetched' : Nat} (hu : q.Does said fetched u u') (hv : q.Does said' fetched' v v')
    (hku : K u') (hkv : K v') (hapart : q.Apart p) : Meets K p u' v' where
  left := hku
  right := hkv
  stands_left := h.stands_left.of_agree (hu.spares p hapart) hu.length_sequences hu.length_servers
    hu.length_queries
  stands_right := h.stands_right.of_agree (hv.spares p hapart) hv.length_sequences
    hv.length_servers hv.length_queries
  agree := (hu.spares p hapart).symm.trans (h.agree.trans (hv.spares p hapart))

/-- Whether more pages may follow is read at the place of a feed. -/
theorem Meets.hasMore_eq {feed : Feed} (h : Meets K p u v) (hfeed : feed.At p) :
    feed.hasMore u = feed.hasMore v := by
  cases feed with
  | chain => rfl
  | chunk i view =>
    cases p with
    | sequence j =>
      obtain rfl : j = i := hfeed
      exact Chunked.SameElements.hasMore_eq h.agree view
    | nowhere => exact hfeed.elim
    | query => exact hfeed.elim
  | batch view =>
    cases p with
    | query q server =>
      obtain rfl : q = view.query := hfeed
      exact congrArg Query.isAlive h.agree.1
    | nowhere => exact hfeed.elim
    | sequence => exact hfeed.elim

/-- So is how many of them there can be. -/
theorem Meets.horizon_eq {feed : Feed} (h : Meets K p u v) (hfeed : feed.At p) :
    feed.horizon u = feed.horizon v := by
  cases feed with
  | chain => rfl
  | chunk i view =>
    cases p with
    | sequence j =>
      obtain rfl : j = i := hfeed
      have helements := Chunked.SameElements.elements h.agree
      rw [Feed.horizon, Feed.horizon, helements]
    | nowhere => exact hfeed.elim
    | query => exact hfeed.elim
  | batch view =>
    cases p with
    | query q server =>
      obtain rfl : q = view.query := hfeed
      rw [Feed.horizon, Feed.horizon, h.stands_left.2.2.1, h.stands_right.2.2.1, h.agree.2]
    | nowhere => exact hfeed.elim
    | sequence => exact hfeed.elim

/-! ## Telling and asking -/

/-- Two states in which sources and servers stand as before. -/
theorem Meets.aside (h : Meets K p u v) (hu : u'.SuppliesLike u) (hv : v'.SuppliesLike v)
    (hku : K u') (hkv : K v') : Idles K p u v u' v' :=
  ⟨h.does (does_of_suppliesLike (.nowhere false) hu) (does_of_suppliesLike (.nowhere false) hv)
    hku hkv trivial, does_of_suppliesLike p hu, does_of_suppliesLike p hv⟩

section Tells

variable (htells : Tells K Starts)

include htells

theorem Meets.notice (h : Meets K p u v) (n : Notice) :
    Idles K p u v (Service.notice n u).2 (Service.notice n v).2 :=
  h.aside (Service.aside_notice n u) (Service.aside_notice n v)
    (htells.tellsLike u _ h.left (.noted (.refl u) n))
    (htells.tellsLike v _ h.right (.noted (.refl v) n))

/-- Asking for a page changes nothing but the traffic. -/
theorem Meets.contact (h : Meets K p u v) {c : Contact} (hc : c.isTelling = false) :
    Both K p [c] 0 u v (Service.contact c u).2 (Service.contact c v).2 :=
  ⟨h.does (does_contact (.nowhere false) hc u) (does_contact (.nowhere false) hc v)
    (htells.tellsLike u _ h.left ⟨rfl, rfl, rfl, rfl⟩)
    (htells.tellsLike v _ h.right ⟨rfl, rfl, rfl, rfl⟩) trivial,
    does_contact p hc u, does_contact p hc v⟩

/-- A page is asked for and, where callers wait, waited for.  What comes then comes after. -/
theorem alike_ask {α : Type} {Q : α → Prop} {f g : Unit → Later α} {c : Contact} {label : String}
    (h : Meets K p u v) (hc : c.isTelling = false)
    (hfg : ∀ u v, Meets K p u v → Alike K p Q u v (f () u) (g () v)) :
    Alike K p Q u v
      (((if p.waits then Async.wait label else pure ()) >>= f) (Service.contact c u).2)
      (((if p.waits then Async.wait label else pure ()) >>= g) (Service.contact c v).2) := by
  have hboth := h.contact htells hc
  cases hwaits : p.waits with
  | false =>
    exact (hfg _ _ hboth.meets).after ⟨[c], 0, fun h => absurd (hwaits.symm.trans h) nofun, hboth⟩
  | true =>
    -- the page is asked for before the wait, so a cancelled wait has nothing more to do
    refine ⟨rfl, ⟨hwaits, c, 0, hboth⟩, fun u v hmeets => ⟨hfg u v hmeets, fun e => ?_⟩⟩
    exact ⟨u, v, rfl, rfl, hmeets.idles⟩

/-! ## Fetching -/

theorem alike_fetch_chain {c : Chain Value} {i : Nat} (h : Meets K (.nowhere c.suspends) u v) :
    Alike K (.nowhere c.suspends) (Feed.At (.nowhere c.suspends)) u v
      ((Feed.chain c i).fetch u) ((Feed.chain c i).fetch v) := by
  apply alike_ask htells h (c := .fetch (i + 1)) rfl
  intro u v hmeets
  show Alike K _ _ u v ((Async.ofAction (Act.ofExcept (c.arrival (i + 1))) >>= fun _ =>
    pure (Feed.chain c (i + 1))) u) _
  cases harrival : c.arrival (i + 1) with
  | ok _ =>
    exact alike_done (fun next hnext => by cases hnext; rfl) hmeets.idles.rests
  | error fault => exact alike_done nofun hmeets.idles.rests

theorem alike_fetch_chunk {i : Nat} {view : ChunkView Value} (h : Meets K (.sequence i) u v) :
    Alike K (.sequence i) (Feed.At (.sequence i)) u v
      ((Feed.chunk i view).fetch u) ((Feed.chunk i view).fetch v) := by
  -- the runs may differ in how many chunks have been fetched, which no fetch reads
  have hsame : (u.sequence i).SameElements (v.sequence i) := h.agree
  have hleft := does_fetchChunk h.stands_left view
  have hright := does_fetchChunk h.stands_right view
  rw [← hsame.hasMore_eq] at hright
  have hboth : Both K (.sequence i) [] (if (u.sequence i).hasMore view then 1 else 0) u v
      (Service.withSequence i (fun c => c.fetch view) u).2
      (Service.withSequence i (fun c => c.fetch view) v).2 :=
    ⟨h.does hleft hright (htells.tellsLike u _ h.left ⟨rfl, rfl, rfl, rfl⟩)
      (htells.tellsLike v _ h.right ⟨rfl, rfl, rfl, rfl⟩) trivial, hleft, hright⟩
  refine alike_bind (x := Async.ofAction _) (y := Async.ofAction _)
    (Q := fun _ => True) ⟨?_, fun _ _ => trivial, _, _, fun _ => rfl, hboth⟩ ?_
  · exact hsame.fst_fetch_eq view
  · intro next u v hmeets _
    exact alike_done (fun feed hfeed => by cases hfeed; rfl) hmeets.idles.rests

/-! ## Fetching a batch -/

section Query

variable {q server : Nat} {waits : Bool}

omit htells in
theorem stands_answer (h : (query q server waits).Stands u) (c : Command) :
    (query q server waits).Stands (Service.withServer server (fun s => s.answer c) u).2 := by
  obtain ⟨hq, hserver, hon, hwaits⟩ := h
  refine ⟨hq, Nat.lt_of_lt_of_eq hserver (Service.length_withServer server _ u).symm, hon, ?_⟩
  rw [Service.server_withServer _ hserver, Server.suspends_answer]
  exact hwaits

omit htells in
theorem stands_received (h : (query q server waits).Stands u) (id : Int) :
    (query q server waits).Stands (Service.queryUpdate q (Query.received id) u).2 := by
  obtain ⟨hq, hserver, hon, hwaits⟩ := h
  refine ⟨Nat.lt_of_lt_of_eq hq (Service.length_queryUpdate q _ u).symm, hserver, ?_, hwaits⟩
  rw [Service.query_queryUpdate _ hq]
  exact hon

/-- A server deals with a command in two runs. -/
theorem Meets.answer (h : Meets K (.query q server waits) u v) (c : Command) :
    Idles K (.query q server waits) u v (Service.withServer server (fun s => s.answer c) u).2
      (Service.withServer server (fun s => s.answer c) v).2 where
  left := does_withServer _ u
  right := does_withServer _ v
  meets := {
    left := htells.tellsLike u _ h.left ⟨rfl, rfl, rfl, rfl⟩
    right := htells.tellsLike v _ h.right ⟨rfl, rfl, rfl, rfl⟩
    stands_left := stands_answer h.stands_left c
    stands_right := stands_answer h.stands_right c
    agree := by
      refine ⟨h.agree.1, ?_⟩
      rw [Service.server_withServer _ h.stands_left.2.1,
        Service.server_withServer _ h.stands_right.2.1, h.agree.2] }

/-- A query receives a batch in two runs. -/
theorem Meets.received (h : Meets K (.query q server waits) u v) (id : Int) :
    Idles K (.query q server waits) u v (Service.queryUpdate q (Query.received id) u).2
      (Service.queryUpdate q (Query.received id) v).2 where
  left := does_queryUpdate _ u
  right := does_queryUpdate _ v
  meets := {
    left := htells.tellsLike u _ h.left ⟨rfl, rfl, rfl, rfl⟩
    right := htells.tellsLike v _ h.right ⟨rfl, rfl, rfl, rfl⟩
    stands_left := stands_received h.stands_left id
    stands_right := stands_received h.stands_right id
    agree := by
      refine ⟨?_, h.agree.2⟩
      rw [Service.query_queryUpdate _ h.stands_left.1, Service.query_queryUpdate _ h.stands_right.1,
        h.agree.1] }

/-- A command is sent, and waited for where the server makes its callers wait. -/
theorem alike_send (h : Meets K (.query q server waits) u v) (session : Option Nat) (c : Command) :
    Alike K (.query q server waits) (fun _ => True) u v
      (Session.send server session c u) (Session.send server session c v) := by
  have hwait : ∀ w : Service, (w.server server).suspends = waits →
      Session.send server session c w =
        ((if waits then Async.wait ("command " ++ c.name) else pure ()) >>= fun _ =>
          Async.ofAction (Service.withServer server fun s => s.answer c))
          (Service.contact (.command session c) w).2 := by
    rintro w rfl
    rfl
  rw [hwait u h.stands_left.2.2.2, hwait v h.stands_right.2.2.2]
  apply alike_ask htells h rfl
  intro u v hmeets
  have hanswer : ((u.server server).answer c).1 = ((v.server server).answer c).1 := by
    rw [hmeets.agree.2]
  exact ⟨hanswer, fun _ _ => trivial, (hmeets.answer htells c).rests⟩

theorem alike_accept {view : BatchView} (hview : view.query = q)
    (h : Meets K (.query q server waits) u v) (reply : Reply) :
    Alike K (.query q server waits) (fun next : BatchView => next.query = q) u v
      (view.accept reply u) (view.accept reply v) := by
  subst hview
  cases reply with
  | bare => exact alike_done nofun h.idles.rests
  | cursor id batch =>
    rw [BatchView.accept_cursor, BatchView.accept_cursor]
    refine alike_done ?_ (h.received htells id).rests
    intro next hnext
    cases hconvert : convert view.converter batch with
    | ok docs =>
      rw [hconvert] at hnext
      cases hnext
      rfl
    | error fault =>
      rw [hconvert] at hnext
      cases hnext

theorem alike_fetch_batch {view : BatchView} (hview : view.query = q)
    (h : Meets K (.query q server waits) u v) :
    Alike K (.query q server waits) (Feed.At (.query q server waits)) u v
      ((Feed.batch view).fetch u) ((Feed.batch view).fetch v) := by
  subst hview
  have hsame : u.query view.query = v.query view.query := h.agree.1
  have hserver : u.server server = v.server server := h.agree.2
  have hfetch : Alike K (.query view.query server waits)
      (fun next : BatchView => next.query = view.query) u v (view.fetch u) (view.fetch v) := by
    cases halive : (u.query view.query).isAlive with
    | false =>
      rw [BatchView.fetch_of_not_isAlive halive, BatchView.fetch_of_not_isAlive (hsame ▸ halive)]
      exact alike_done nofun h.idles.rests
    | true =>
      have hcommand : view.nextCommand u = view.nextCommand v := by
        rw [BatchView.nextCommand, BatchView.nextCommand, h.stands_left.2.2.1,
          h.stands_right.2.2.1, hsame, hserver]
      rw [BatchView.fetch_of_isAlive halive, BatchView.fetch_of_isAlive (hsame ▸ halive), hcommand,
        h.stands_left.2.2.1, h.stands_right.2.2.1, hsame]
      exact alike_bind (alike_send htells h _ _) fun reply u v hmeets _ =>
        alike_accept htells rfl hmeets reply
  apply alike_bind hfetch
  intro next u v hmeets hnext
  exact alike_done (fun feed hfeed => by cases hfeed; exact hnext.symm) hmeets.idles.rests

end Query

/-- **Two runs of a fetch are alike** if they begin in states that agree on the place of the feed. -/
theorem alike_fetch {feed : Feed} (hfeed : feed.At p) (h : Meets K p u v) :
    Alike K p (Feed.At p) u v (feed.fetch u) (feed.fetch v) := by
  cases p with
  | nowhere waits =>
    cases feed with
    | chain c i =>
      obtain rfl : c.suspends = waits := hfeed
      exact alike_fetch_chain htells h
    | chunk => exact hfeed.elim
    | batch => exact hfeed.elim
  | sequence i =>
    cases feed with
    | chain => exact hfeed.elim
    | chunk j view =>
      obtain rfl : i = j := hfeed
      exact alike_fetch_chunk htells h
    | batch => exact hfeed.elim
  | query q server waits =>
    cases feed with
    | chain => exact hfeed.elim
    | chunk => exact hfeed.elim
    | batch view => exact alike_fetch_batch htells (Eq.symm hfeed) h

/-! ## Calls -/

omit htells in
/-- Two runs that read the state first. -/
theorem alike_current {α : Type} {Q : α → Prop} {f g : Service → Later α}
    (h : Alike K p Q u v (f u u) (g v v)) :
    Alike K p Q u v ((Async.ofAction Service.current >>= f) u)
      ((Async.ofAction Service.current >>= g) v) := h

theorem alike_probe {feed : Feed} (hfeed : feed.At p) (h : Meets K p u v) (c : Collector Value) :
    Alike K p (fun _ => True) u v (Pager.probe feed c u) (Pager.probe feed c v) := by
  have hnoted := h.notice htells .fetchingTrail
  apply alike_of_idles (x := Service.notice _) (y := Service.notice _) rfl rfl hnoted
  apply alike_bind (alike_fetch htells hfeed hnoted.meets)
  intro next u v hmeets _
  exact alike_done (fun _ _ => trivial) hmeets.idles.rests

theorem alike_advance {feed : Feed} (hfeed : feed.At p) (h : Meets K p u v) (c : Collector Value) :
    Alike K p (Feed.At p) u v (Pager.advance feed c u) (Pager.advance feed c v) := by
  have hnoted := h.notice htells (.fetchingNext c.pageNumber c.filled c.request.size)
  exact alike_of_idles (x := Service.notice _) (y := Service.notice _) rfl rfl hnoted
    (alike_fetch htells hfeed hnoted.meets)

theorem alike_collect (limit : Nat) {feed : Feed} (hfeed : feed.At p) (h : Meets K p u v)
    (c : Collector Value) : Alike K p (fun _ => True) u v (Pager.collect limit feed c u)
      (Pager.collect limit feed c v) := by
  -- the feed, the states and what is collected change from page to page; their place does not
  induction limit generalizing feed u v c with
  | zero => exact alike_done (fun _ _ => trivial) h.idles.rests
  | succ limit ih =>
    apply alike_current
    rw [h.hasMore_eq hfeed]
    cases c.visit feed.elements (feed.hasMore v) with
    | resolved answer => exact alike_done (fun _ _ => trivial) h.idles.rests
    | probing c => exact alike_probe htells hfeed h c
    | wanting c =>
      apply alike_bind (alike_advance htells hfeed h c)
      intro next u v hmeets hnext
      exact ih hnext hmeets c

theorem alike_readFeed (pager : Pager) (r : Request) {feed : Feed} (hfeed : feed.At p)
    (h : Meets K p u v) : Alike K p (fun _ => True) u v (pager.readFeed r feed u)
      (pager.readFeed r feed v) := by
  apply alike_current
  rw [h.horizon_eq hfeed]
  exact alike_collect htells _ hfeed h _

/-- Telling of a call does not change its outcome and asks for nothing. -/
theorem Meets.report (h : Meets K p u v) (call : Call) {start start' : Option Rat}
    (hstart : Starts start) (hstart' : Starts start') (outcome : Except Fault (Page Value)) :
    ∃ u' v', report emit call start outcome u = (outcome, u') ∧
      report emit call start' outcome v = (outcome, v') ∧ Idles K p u v u' v' := by
  obtain ⟨u', hleft, hku⟩ := htells.reports u call start outcome h.left hstart
  obtain ⟨v', hright, hkv⟩ := htells.reports v call start' outcome h.right hstart'
  have hu := aside_report aside_emit call start outcome u
  have hv := aside_report aside_emit call start' outcome v
  rw [hleft] at hu
  rw [hright] at hv
  exact ⟨u', v', hleft, hright, h.aside hu hv hku hkv⟩

/-- Two runs of a computation that is told of.  Where they are cancelled they are over, because what
tells of it hands the fault on. -/
theorem alike_followLater (call : Call) {x : Later (Page Value)} (h : Meets K p u v)
    (hx : ∀ u v, Meets K p u v → Alike K p (fun _ => True) u v (x u) (x v)) :
    Alike K p (fun _ => True) u v (followLater emit call x u) (followLater emit call x v) := by
  obtain ⟨start, u', hleft, hstart, hku⟩ := htells.begins u h.left
  obtain ⟨start', v', hright, hstart', hkv⟩ := htells.begins v h.right
  have hu := aside_begin u
  have hv := aside_begin v
  rw [hleft] at hu
  rw [hright] at hv
  have hidles := h.aside hu hv hku hkv
  -- what begins a call and what reports it are not waited for, so only `x` can be cancelled
  have hfollow : ∀ {start : Option Rat} {u u' : Service}, begin u = (.ok start, u') →
      followLater emit call x u = (x u').andThen fun r t =>
        .done (report emit call start r t).1 (report emit call start r t).2 := by
    intro start u u' hbegin
    refine (Async.ofAction_bind_of_ok hbegin _).trans ?_
    rw [Async.bind_apply, Async.attempt_apply, Suspension.andThen_assoc]
    rfl
  rw [hfollow hleft, hfollow hright]
  refine Alike.after ?_ hidles.rests
  apply (hx u' v' hidles.meets).andThen
  · intro r u v hmeets _
    obtain ⟨u', v', hleft, hright, hidles⟩ := hmeets.report htells call hstart hstart' r
    rw [hleft, hright]
    exact alike_done (fun _ _ => trivial) hidles.rests
  · intro e u v hmeets
    obtain ⟨u', v', hleft, hright, hidles⟩ := hmeets.report htells call hstart hstart' (.error e)
    refine ⟨u', v', ?_, ?_, hidles⟩
    · rw [hleft]
    · rw [hright]

/-- **Two runs of a call are alike** when they begin in states that agree on the place of its feed,
whatever else stands in them and whatever has been told in the meantime. -/
theorem alike_serveFeed (pager : Pager) (r : Request) {feed : Feed} (hfeed : feed.At p)
    (h : Meets K p u v) :
    Alike K p (fun _ => True) u v (pager.serveFeed r feed u) (pager.serveFeed r feed v) := by
  apply alike_bind (alike_followLater htells (pager.feedCall r) h fun u v hmeets =>
    alike_readFeed htells pager r hfeed hmeets)
  intro page u v hmeets _
  apply alike_of_idles (x := Service.notice _) (y := Service.notice _) rfl rfl
    (hmeets.notice htells _)
  exact alike_done (fun _ _ => trivial) (hmeets.notice htells _).meets.idles.rests

end Tells

end Place

end Paging
