import Paging.Proofs.Query.Release
import Paging.Proofs.Tracing.History

/-!
# Paging.Proofs.Query.Precedence — which failure a call on a query reports

Between the outcome of a page that is read from a query and what the caller sees stand the cursor that
is dropped and the session that is ended, and both may fail.  A failure to end the session comes before
a failure to drop the cursor, and either before what has come of the page; where both succeed the caller
sees exactly that (`Server.reported`).  If the first command fails there is no page, and ending the
session is all that can come before its failure.  A command fails as the server has planned, or with the
signal that ends the wait for its answer (`Server.hear`).

Cleanup has nothing to do with telling.  So the one event of a call, which is told when the page has
been read, is of what has come of the page, whatever is reported in the end, and a call whose first
command fails tells of nothing (`reported_fetchPage`).
-/

namespace Paging

open Later Tracing

/-! ## Cleanup and telling -/

/-- Ending a session has nothing to do with telling. -/
theorem Service.TellsLike.finish {v w : Service} (h : v.TellsLike w) (server session : Nat) :
    (Session.finish server session v).2.TellsLike w :=
  ⟨h.tracing, h.listeners, h.exporter, h.clock⟩

/-- Starting a session has nothing to do with telling. -/
theorem Session.reads_start (i : Nat) : Reads (Async.ofAction (Session.start i)) := by
  have hnext : Act.Reads (Session.next i) := Service.reads_withServer i _
  have hoccurs := Service.reads_withServer i fun s => s.occur .startSession
  rw [Session.start, Async.ofAction_bind]
  apply (reads_ofAction hnext).bind
  intro session
  rw [Async.ofAction_bind]
  apply (reads_ofAction (Service.reads_contact _)).bind
  intro _
  rw [Async.ofAction_bind]
  exact (reads_ofAction hoccurs).bind fun _ => reads_pure session

namespace BatchView

/-- Dropping the cursor of a query has nothing to do with telling. -/
theorem reads_dropCursor (view : BatchView) (session : Nat) : Reads (view.dropCursor session) := by
  apply reads_current_bind
  · intro u v h
    simp only [Service.query_congr h.queries, Service.server_congr h.servers]
  · intro u
    simp only
    cases (u.query view.query).isAlive with
    | false => exact reads_pure ()
    | true =>
      apply (reads_ofAction (Service.reads_queryUpdate view.query _)).bind
      intro _
      apply ((Session.reads_send _ _ _).bind fun _ => reads_pure ()).bind
      exact fun _ => reads_ofAction (Service.reads_notice _)

/-- Closing a query leaves alone what telling needs. -/
theorem always_tellsLike_close (view : BatchView) (used : List (Option Fault)) (v : Service) :
    (view.close v).Always used fun _ _ u => u.TellsLike v := by
  rw [← closeWith_finishNow]
  cases hsession : (v.query view.query).session with
  | none =>
    rw [closeWith_of_none hsession]
    exact ⟨rfl, rfl, rfl, rfl⟩
  | some session =>
    rw [closeWith_of_some hsession]
    apply Async.always_andFinally ((view.reads_dropCursor session).always_tellsLike _)
    intro used t ht
    have htells : t.TellsLike v := ⟨ht.tracing, ht.listeners, ht.exporter, ht.clock⟩
    exact htells.finish _ session

/-- The session that is ended when there is no first reply has nothing to do with it either. -/
theorem always_tellsLike_firstReply (i session : Nat) (c : Command) (used : List (Option Fault))
    (v : Service) : (firstReply i session c v).Always used fun _ _ u => u.TellsLike v := by
  apply Async.always_onFailure ((Session.reads_send i (some session) c).always_tellsLike v)
  · exact fun _ _ _ hu => hu
  · exact fun _ _ _ hu => hu.finish i session

/-- So opening a query leaves alone what telling needs, too. -/
theorem always_tellsLike_openOn (i : Nat) (selection : Selection) (w : Service) :
    (openOn i selection w).Always [] fun _ _ u => u.TellsLike w := by
  apply Async.always_bind_state
  by_cases hsmall : selection.batchSize.getD w.settings.fetchSize < 1
  · simp only [hsmall, if_true]
    exact .refl w
  simp only [hsmall, if_false]
  apply Async.always_bind ((Session.reads_start i).always_tellsLike w)
  · intro used session t ht
    apply Async.always_bind (always_tellsLike_firstReply i session _ used t)
    · intro used reply v hv
      have hu := hv.trans ht
      cases reply with
      | bare => exact hu
      | cursor id batch =>
        apply Async.always_bind_update
        refine Async.always_bind_of_ok (x := Service.openQuery _) rfl ?_
        apply always_receive
        · exact fun _ _ => ⟨hu.tracing, hu.listeners, hu.exporter, hu.clock⟩
        · exact fun _ _ => ⟨hu.tracing, hu.listeners, hu.exporter, hu.clock⟩
    · exact fun _ _ _ hv => hv.trans ht
  · exact fun _ _ _ ht => ht

end BatchView

/-! ## Ranking failures -/

/-- What a call reports that has read its page: a failure to end the session before one to drop the
cursor, and either before what has come of the page. -/
def Server.reported {α : Type} (s : Server) (es : List Exchange) (own : Except Fault α) :
    Except Fault α :=
  match (s.planned .endSession).or (es.findSome? Exchange.dropFault?) with
  | some fault => .error fault
  | none => own

/-- This is what is left of an outcome when the cursor is dropped and the session ended after it. -/
theorem Server.reported_eq {α : Type} (s : Server) (es : List Exchange) (own : Except Fault α) :
    s.reported es own = (s.ending (Exchange.dropOutcome es)).bind fun _ => own := by
  rw [ending_eq, reported, Exchange.dropOutcome]
  cases s.planned .endSession with
  | some fault => rfl
  | none => cases es.findSome? Exchange.dropFault? <;> rfl

namespace BatchView

open Conversation

variable {c : Conversation} {used : List (Option Fault)} {es : List Exchange} {view : BatchView}

/-- **What becomes of a page when its query is closed.** -/
theorem reported_servePage {w : Service} (p : Pager) (r : Request)
    (h : c.Open view.query used es w) (signals : Nat → Option Fault) :
    let own := Async.runWith signals (p.serveFeed r (.batch view)) w
    let run := Async.runWith signals (view.servePage p r) w
    ∃ all s, es <+: all ∧
      c.opening.Answers (used ++ Async.used signals (view.servePage p r) w) all s ∧
      run.2.server c.server = (s.occur .endSession).2 ∧
      c.Ended (used ++ Async.used signals (view.servePage p r) w) all run.2 ∧
      Exchange.dropped all = Exchange.due all ∧ run.1 = s.reported all own.1 ∧
      run.2.TellsLike own.2 := by
  intro own run
  obtain ⟨read, hread, hopen⟩ :=
    Async.runWith_of_always_append ((c.keeps_open view.query es).always_serveFeed p r
      ⟨view, rfl, rfl⟩ ⟨es, List.prefix_rfl, h⟩) signals
  -- the query is closed with the signals that reading its page has left
  obtain ⟨left, hrun, hused⟩ : ∃ left,
      run = ((Async.runWith left view.close own.2).1.bind fun _ => own.1,
        (Async.runWith left view.close own.2).2) ∧
      Async.used signals (view.servePage p r) w =
        Async.used signals (p.serveFeed r (.batch view)) w ++ Async.used left view.close own.2 :=
    ⟨_, Async.runWith_andFinally signals _ _ w, Async.used_andFinally signals _ _ w⟩
  obtain ⟨hclosing, htells⟩ := Async.runWith_of_always_append
    ((always_closing hopen).and (view.always_tellsLike_close _ own.2)) left
  obtain ⟨dropped, t, hdrop, hresult, hend⟩ := hclosing
  obtain ⟨all, hall, hat, hdropped, rfl⟩ := hdrop.exists_said (holds_withoutSession hopen)
  rw [List.append_assoc, ← hused] at hat
  have hserver : run.2.server c.server = ((t.server c.server).occur .endSession).2 := by
    rw [hrun, hend]
    exact Service.server_withServer (fun s => s.occur .endSession) hat.exists_server
  refine ⟨all, _, hread.trans hall, hat.answers, hserver, ?_, hdropped, ?_, ?_⟩
  · rw [hrun, hend]
    exact hat.finish
  · rw [hrun, Server.reported_eq, ← hresult]
  · rw [hrun]
    exact htells

/-- **What is heard of the first command decides how an opening ends**, while documents convert.  If it
fails, the session is ended, and the opening fails as that does, or else as the command did. -/
theorem Opening.of_heard {signals : Nat → Option Fault} {n : Nat} {find : Command}
    {batchSize : Int} {converter : Option Converter} {result : Except Fault BatchView} {u : Service}
    (h : Opening c find batchSize converter used result u)
    (hused : used = (List.range n).map signals)
    (hconverts : ∀ id batch, c.At used [⟨find, .ok (.cursor id batch)⟩] u →
      ∃ docs, convert converter batch = .ok docs) :
    let found := c.opening.hear (signals 0) find
    (∀ fault, found.1 = .error fault →
      result = .error ((found.2.planned .endSession).getD fault) ∧
        c.Ended used [⟨find, .error fault⟩] u) ∧
    (found.1 = .ok .bare →
      result = .error .replyWithoutCursor ∧ c.At used [⟨find, .ok .bare⟩] u) ∧
    ∀ id batch, found.1 = .ok (.cursor id batch) → ∃ view, result = .ok view ∧
      c.Open view.query used [⟨find, .ok (.cursor id batch)⟩] u := by
  subst hused
  intro found
  cases h with
  | opened _ _ _ isOpen =>
    have hfound : found = _ := isOpen.answers.hear_eq
    rw [hfound]
    refine ⟨nofun, nofun, ?_⟩
    rintro _ _ ⟨⟩
    exact ⟨_, rfl, isOpen⟩
  | refused said =>
    have hfound : found = _ := said.answers.hear_eq
    rw [hfound]
    refine ⟨?_, nofun, nofun⟩
    rintro _ ⟨⟩
    exact ⟨rfl, said.finish⟩
  | headless said =>
    have hfound : found = _ := said.answers.hear_eq
    rw [hfound]
    exact ⟨nofun, fun _ => ⟨rfl, said⟩, nofun⟩
  | abandoned fails said =>
    obtain ⟨docs, hdocs⟩ := hconverts _ _ said
    rw [fails] at hdocs
    cases hdocs

/-! ## The event of a page -/

/-- What is read of a query and told of it. -/
def reading (view : BatchView) (p : Pager) (r : Request) : Reading :=
  ⟨p.feedCall r, r, p.readFeed r (.batch view)⟩

/-- In a contained state one event is dealt with when a page has been read, and it is of what has come
of the page. -/
theorem exists_event (view : BatchView) (p : Pager) (r : Request) {u : Service} (hu : u.Contained)
    (hon : u.tracing.enabled = true) (signals : Nat → Option Fault) :
    let own := Async.runWith signals (p.serveFeed r (.batch view)) u
    ∃ duration v, v.tracing = u.tracing ∧
      own = (emit ((view.reading p r).event duration own.1) >>= fun _ =>
        (view.reading p r).note own.1) v := by
  obtain ⟨_, _, duration, v, _, hkept, _, hevent⟩ := Reading.exists_event (a := view.reading p r)
    (p.reads_readFeed r (.batch view)) hu hon signals
  exact ⟨duration, v, hkept, hevent⟩

/-- In a quiet state it is the one that is added. -/
theorem exists_captured (view : BatchView) (p : Pager) (r : Request) {u : Service} (hu : u.Quiet)
    (hon : u.tracing.enabled = true) (hcaptures : u.tracing.captures = true)
    (signals : Nat → Option Fault) :
    let own := Async.runWith signals (p.serveFeed r (.batch view)) u
    ∃ event : PageEvent, event.Tells (p.feedCall r, own.1) ∧
      own.2.tracing.events = u.tracing.events ++ [event] := by
  intro own
  obtain ⟨duration, hevents⟩ := Reading.captured_of_quiet (a := view.reading p r)
    (p.reads_readFeed r (.batch view)) hu hon hcaptures signals
  have htold : ((view.reading p r).event duration own.1).Tells (p.feedCall r, own.1) :=
    (view.reading p r).tells_event duration own.1
  exact ⟨_, htold, hevents⟩

end BatchView

/-! ## One page -/

section

variable {signals : Nat → Option Fault} {w u : Service} {i : Nat} {selection : Selection}

/-- A call whose query is not opened is over. -/
theorem fetchPage_of_error {fault : Fault} (pager : Option Pager) (r : Request)
    (h : Async.runWith signals (BatchView.openOn i selection) w = (.error fault, u)) :
    Async.runWith signals (fetchPage (some i) pager r.target r.size selection) w =
        (.error fault, u) ∧
      Async.used signals (fetchPage (some i) pager r.target r.size selection) w =
        Async.used signals (BatchView.openOn i selection) w := by
  rw [Async.runWith, Async.used, fetchPage_apply]
  exact ⟨Async.runWith_bind_of_error h _, Async.used_bind_of_error h _⟩

/-- A call whose query is opened serves its page, with the signals that the opening has left. -/
theorem fetchPage_of_ok {view : BatchView} (pager : Option Pager) (r : Request)
    (h : Async.runWith signals (BatchView.openOn i selection) w = (.ok view, u)) :
    let left := Async.signalsAfter (BatchView.openOn i selection) w signals
    let serving := view.servePage (pager.getD (.ofSettings w.settings)) r
    Async.runWith signals (fetchPage (some i) pager r.target r.size selection) w =
        Async.runWith left serving u ∧
      Async.used signals (fetchPage (some i) pager r.target r.size selection) w =
        Async.used signals (BatchView.openOn i selection) w ++ Async.used left serving u := by
  rw [Async.runWith, Async.used, fetchPage_apply]
  exact ⟨Async.runWith_bind_of_ok h _, Async.used_bind_of_ok h _⟩

end

/-- **Which failure a call reports.**  If the first command fails, as planned or because the wait for its
answer is ended with a fault, the call has done no more than try and end the session: it tells of
nothing, and what it reports is the failure of ending the session, if there is one, or else that of the
command.  If the answer has no cursor, it reports that.  If it has one, the query is opened, and the
call reports what has come of its page, unless ending the session or dropping the cursor fails.  In a
contained state in which tracing is on, the one event that is dealt with is of what has come of the page,
and in a quiet one, if events are captured, it is the one that is added. -/
theorem reported_fetchPage (signals : Nat → Option Fault) (pager : Option Pager) (r : Request)
    {selection : Selection} {w : Service} {i : Nat} (hi : i < w.servers.length)
    (hstart : (w.server i).planned .startSession = none) (hbatch : 1 ≤ selection.batchSizeIn w)
    (hconverts : ∀ id batch, selection.firstAnswer w i = .ok (.cursor id batch) →
      ∃ docs, convert selection.converter batch = .ok docs) :
    let c := w.conversation i
    let find := selection.find w i
    let found := c.opening.hear (signals 0) find
    let p := pager.getD (.ofSettings w.settings)
    let opening := Async.runWith signals (BatchView.openOn i selection) w
    let call := fetchPage (some i) pager r.target r.size selection
    let run := Async.runWith signals call w
    let used := Async.used signals call w
    (∀ fault, found.1 = .error fault →
      run = (.error ((found.2.planned .endSession).getD fault), opening.2) ∧ run.2.TellsLike w ∧
        c.Ended used [⟨find, .error fault⟩] run.2) ∧
    (found.1 = .ok .bare →
      run = (.error .replyWithoutCursor, opening.2) ∧ run.2.TellsLike w ∧
        c.At used [⟨find, .ok .bare⟩] run.2) ∧
    ∀ id batch, found.1 = .ok (.cursor id batch) →
      ∃ view, opening.1 = .ok view ∧ opening.2.TellsLike w ∧
      let own := Async.runWith (Async.signalsAfter (BatchView.openOn i selection) w signals)
        (p.serveFeed r (.batch view)) opening.2
      (∃ es s, [⟨find, .ok (.cursor id batch)⟩] <+: es ∧ c.opening.Answers used es s ∧
        run.2.server i = (s.occur .endSession).2 ∧ c.Released find used es run.2 ∧
        run.1 = s.reported es own.1 ∧ run.2.TellsLike own.2) ∧
      (w.Contained → w.tracing.enabled = true → ∃ duration v, v.tracing = w.tracing ∧
        own = (emit ((view.reading p r).event duration own.1) >>= fun _ =>
          (view.reading p r).note own.1) v) ∧
      (w.Quiet → w.tracing.enabled = true → w.tracing.captures = true →
        ∃ event : PageEvent, event.Tells (p.feedCall r, own.1) ∧
          run.2.tracing.events = w.tracing.events ++ [event]) := by
  intro c find found p opening call run used
  obtain ⟨hopening, htells⟩ := Async.runWith_of_always
    ((BatchView.always_openOn hi hstart hbatch).and
      (BatchView.always_tellsLike_openOn i selection w)) signals
  obtain ⟨hfails, hheadless, hopens⟩ := hopening.of_heard rfl
    fun id batch said => hconverts id batch said.firstAnswer
  refine ⟨?_, ?_, ?_⟩
  · intro fault hfault
    obtain ⟨hresult, hended⟩ := hfails fault hfault
    obtain ⟨hrun, hused⟩ : run = _ ∧ used = _ := fetchPage_of_error pager r (Prod.ext hresult rfl)
    rw [hrun, hused]
    exact ⟨rfl, htells, hended⟩
  · intro hbare
    obtain ⟨hresult, hsaid⟩ := hheadless hbare
    obtain ⟨hrun, hused⟩ : run = _ ∧ used = _ := fetchPage_of_error pager r (Prod.ext hresult rfl)
    rw [hrun, hused]
    exact ⟨rfl, htells, hsaid⟩
  · intro id batch hcursor
    obtain ⟨view, hresult, isOpen⟩ := hopens id batch hcursor
    obtain ⟨hrun, hused⟩ := fetchPage_of_ok pager r (Prod.ext hresult rfl)
    refine ⟨view, hresult, htells, ?_⟩
    intro own
    obtain ⟨es, s, ⟨rest, rfl⟩, hanswers, hserver, hended, hdropped, hreported, hlike⟩ :=
      view.reported_servePage p r isOpen (Async.signalsAfter _ w signals)
    rw [← hrun] at hserver hended hreported hlike
    rw [← hused] at hanswers hended
    refine ⟨⟨_, s, ⟨rest, rfl⟩, hanswers, hserver, hended.released_of_answered hdropped, hreported,
      hlike⟩, ?_, ?_⟩
    · -- telling finds what it needs as it was before the query was opened
      rw [← htells.tracing]
      exact fun hw hon => view.exists_event p r (htells.contained hw) hon _
    · rw [← htells.tracing, hlike.tracing]
      exact fun hw hon hcaptures => view.exists_captured p r (htells.quiet hw) hon hcaptures _

/-- The server that makes its callers wait, when calls are followed and events captured. -/
def overheard : Service :=
  { unhurried with
    tracing := { enabled := true, captures := true }
    clock := { face := fun count => some count } }

/-- The first page of one number. -/
def oneNumber : Later (Page Value) := fetchPage (some 0) none 1 1 oneByOne

/-- A cancellation where a call waits for the third time. -/
def thirdTime (n : Nat) : Option Fault := if n = 2 then some .cancellation else none

/-- The page is read, and the call is cancelled where it waits for its cursor to be dropped.  It reports
the cancellation, and the one event is of the page.  A call that is cancelled where it waits for the
first batch reports this as well, and tells of nothing. -/
theorem reported_fetchPage_of_overheard :
    0 < overheard.servers.length ∧ (overheard.server 0).planned .startSession = none ∧
    1 ≤ oneByOne.batchSizeIn overheard ∧
    oneByOne.firstAnswer overheard 0 = .ok (.cursor 7 [.int 1]) ∧ overheard.Quiet ∧
    (∃ es, (overheard.conversation 0).Released (oneByOne.find overheard 0)
      (Async.used thirdTime oneNumber overheard) es
      (Async.runWith thirdTime oneNumber overheard).2) ∧
    Async.used thirdTime oneNumber overheard = [none, none, some .cancellation] ∧
    (Async.runWith thirdTime oneNumber overheard).1 = .error .cancellation ∧
    (Async.runWith thirdTime oneNumber overheard).2.tracing.events.map
      (fun event => (event.pageNumber, event.error)) = [(some 1, none)] ∧
    (Async.runWith (fun _ => some .cancellation) oneNumber overheard).1 = .error .cancellation ∧
    (Async.runWith (fun _ => some .cancellation) oneNumber overheard).2.tracing.events = [] := by
  have hquiet : overheard.Quiet :=
    ⟨⟨by rintro l ⟨⟩, by rintro e ⟨⟩, fun _ => rfl, by decide +kernel⟩, by rintro l ⟨⟩⟩
  have hstart : (overheard.server 0).planned .startSession = none := rfl
  obtain ⟨-, -, hserved⟩ := @reported_fetchPage thirdTime none ⟨1, 1, by decide, by decide⟩
    oneByOne overheard 0 (by decide) hstart (by decide) fun _ batch _ => ⟨batch, rfl⟩
  obtain ⟨view, -, -, ⟨es, _, -, -, -, hreleased, -, -⟩, -⟩ := hserved 7 [.int 1] rfl
  -- the first wait is for the first batch
  obtain ⟨hrefused, -, -⟩ := @reported_fetchPage (fun _ => some .cancellation) none
    ⟨1, 1, by decide, by decide⟩ oneByOne overheard 0 (by decide) hstart (by decide)
    fun _ batch _ => ⟨batch, rfl⟩
  obtain ⟨hinterrupted, htells, -⟩ := hrefused .cancellation rfl
  have hnumber : (Async.runWith thirdTime oneNumber overheard).1.map Page.number =
      .error .cancellation := by decide +kernel
  refine ⟨by decide, hstart, by decide, rfl, hquiet, ⟨es, hreleased⟩, by decide +kernel, ?_,
    by decide +kernel, congrArg Prod.fst hinterrupted, congrArg (·.events) htells.tracing⟩
  cases hresult : (Async.runWith thirdTime oneNumber overheard).1 with
  | ok page =>
    rw [hresult] at hnumber
    cases hnumber
  | error fault =>
    rw [hresult] at hnumber
    cases hnumber
    rfl

end Paging
