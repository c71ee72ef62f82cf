import Mathlib.Logic.Basic
import Paging.Proofs.Query.Opening
import Paging.Proofs.Traffic
import Paging.Query.FetchPage

/-!
# Paging.Proofs.Query.Release — what one page of a query leaves behind

Reading one page of a query starts a session.  When the call is over, whichever command has failed
and wherever it was cancelled, the session has been ended and the cursor dropped if there was
something left to read (`released_fetchPage`).  There is one exception: if a document of the first
batch does not convert, nobody ends the session or drops the cursor (`settled_fetchPage`).
-/

namespace Paging

namespace Conversation

variable {c : Conversation} {q : Nat} {used used' : List (Option Fault)} {es : List Exchange}
  {find : Command} {v : Service}

/-! ## What is left -/

/-- What has been said in a session when everything is released: the first command and nothing more
if it failed, the one command that drops the cursor if it is due, and the end of the session. -/
structure Released (c : Conversation) (find : Command) (used : List (Option Fault))
    (es : List Exchange) (v : Service) : Prop extends c.Ended used es v where
  first : ∃ answer rest, es = ⟨find, answer⟩ :: rest ∧ ∀ fault, answer = .error fault → rest = []
  dropped : Exchange.dropped es = Exchange.due es

/-- What is left of a session whose first batch does not convert: it goes on, and after the first
command there was none. -/
def Abandoned (c : Conversation) (find : Command) (converter : Option Converter)
    (used : List (Option Fault)) (fault : Fault) (v : Service) : Prop :=
  ∃ id batch, convert converter batch = .error fault ∧ c.At used [⟨find, .ok (.cursor id batch)⟩] v

/-- A call that has released everything or has failed and was abandoned, but not both. -/
def Settled {α : Type} (c : Conversation) (find : Command) (converter : Option Converter)
    (used : List (Option Fault)) (outcome : Except Fault α × Service) : Prop :=
  Xor (∃ es, c.Released find used es outcome.2)
    (∃ fault, outcome.1 = .error fault ∧ c.Abandoned find converter used fault outcome.2)

/-- A session that is over does not go on. -/
theorem Released.not_abandoned {converter : Option Converter} {fault : Fault}
    (h : c.Released find used es v) : ¬ c.Abandoned find converter used' fault v := by
  rintro ⟨id, batch, _, hat⟩
  have hsame := h.traffic.symm.trans hat.traffic
  rw [List.append_assoc, List.append_cancel_left_eq] at hsame
  have hlast := congrArg List.getLast? hsame
  rw [List.getLast?_append] at hlast
  cases hlast

theorem settled_of_left {α : Type} {converter : Option Converter}
    {outcome : Except Fault α × Service} (h : (∃ es, c.Released find used es outcome.2) ∨
      ∃ fault, outcome.1 = .error fault ∧ c.Abandoned find converter used fault outcome.2) :
    c.Settled find converter used outcome := by
  rcases h with ⟨es, hreleased⟩ | habandoned
  · left
    refine ⟨⟨es, hreleased⟩, ?_⟩
    rintro ⟨fault, _, habandoned⟩
    exact hreleased.not_abandoned habandoned
  · right
    refine ⟨habandoned, ?_⟩
    rintro ⟨es, hreleased⟩
    obtain ⟨fault, _, habandoned⟩ := habandoned
    exact hreleased.not_abandoned habandoned

/-- The fetches of a call keep its query open. -/
theorem keeps_open (c : Conversation) (q : Nat) (es : List Exchange) :
    Feed.Keeps (fun feed => ∃ view, feed = .batch view ∧ view.query = q)
      (fun used v => ∃ all, es <+: all ∧ c.Open q used all v) where
  aside := by
    rintro used u v ⟨all, hall, hv⟩ hu
    exact ⟨all, hall, hv.of_suppliesLike hu⟩
  fetch := by
    rintro used _ v ⟨view, rfl, rfl⟩ ⟨all, hall, hv⟩
    apply Async.always_bind (BatchView.always_fetch hv)
    · rintro used next u ⟨⟨all', hall', hu⟩, hnext⟩
      refine ⟨⟨all', hall.trans hall', hu⟩, ?_⟩
      rintro _ ⟨⟩
      exact ⟨next, rfl, hnext next rfl⟩
    · rintro used fault u ⟨⟨all', hall', hu⟩, _⟩
      exact ⟨⟨all', hall.trans hall', hu⟩, nofun⟩

end Conversation

open Conversation

variable {w v : Service} {i : Nat} {selection : Selection} {used : List (Option Fault)}

/-! ## One page -/

/-- A page is read from an open query, and the query is closed. -/
theorem BatchView.always_servePage {c : Conversation} {es : List Exchange} {view : BatchView}
    (p : Pager) (r : Request) (h : c.Open view.query used es v) :
    (view.servePage p r v).Always used fun used _ u => ∃ all, es <+: all ∧ c.Ended used all u ∧
      Exchange.dropped all = Exchange.due all := by
  have hread := (c.keeps_open view.query es).always_serveFeed p r ⟨view, rfl, rfl⟩
    ⟨es, List.prefix_rfl, h⟩
  apply Async.always_andFinally hread
  rintro used t ⟨all, hall, ht⟩
  apply (always_close ht).mono
  rintro used _ u ⟨all', hall', hu⟩
  exact ⟨all', hall.trans hall', hu⟩

/-- After a first command that was answered everything is released once what is due is dropped. -/
theorem Conversation.Ended.released_of_answered {c : Conversation} {find : Command} {reply : Reply}
    {rest : List Exchange} (h : c.Ended used (⟨find, .ok reply⟩ :: rest) v)
    (hdropped : Exchange.dropped (⟨find, .ok reply⟩ :: rest) =
      Exchange.due (⟨find, .ok reply⟩ :: rest)) :
    c.Released find used (⟨find, .ok reply⟩ :: rest) v := by
  refine ⟨h, ⟨.ok reply, rest, rfl, ?_⟩, hdropped⟩
  intro fault hfault
  cases hfault

/-- A first command that failed leaves nothing to drop. -/
theorem Conversation.Ended.released {c : Conversation} {fault : Fault}
    (h : c.Ended used [⟨selection.find w i, .error fault⟩] v) :
    c.Released (selection.find w i) used [⟨selection.find w i, .error fault⟩] v :=
  ⟨h, ⟨_, _, rfl, fun _ _ => rfl⟩, rfl⟩

/-- The first answer that a server has for a selection. -/
def Selection.firstAnswer (selection : Selection) (w : Service) (i : Nat) : Except Fault Reply :=
  ((w.server i).supply.next (selection.batchSizeIn w)).1

/-- What was answered to the first command is the first answer of the server. -/
theorem Conversation.At.firstAnswer {reply : Reply}
    (h : (w.conversation i).At used [⟨selection.find w i, .ok reply⟩] v) :
    selection.firstAnswer w i = .ok reply := by
  -- starting a session does not touch what the server has to give
  show ((w.conversation i).opening.supply.next (selection.batchSizeIn w)).1 = .ok reply
  exact Server.next_of_answer_find h.answers.answer_eq

/-- An opening that fails releases everything or is abandoned. -/
theorem BatchView.Opening.left {fault : Fault} (hhead : selection.firstAnswer w i ≠ .ok .bare)
    (h : Opening (w.conversation i) (selection.find w i) (selection.batchSizeIn w)
      selection.converter used (.error fault) v) :
    (∃ es, (w.conversation i).Released (selection.find w i) used es v) ∨
      (w.conversation i).Abandoned (selection.find w i) selection.converter used fault v := by
  cases h with
  | refused hsaid => exact .inl ⟨_, hsaid.finish.released⟩
  | headless hsaid => exact absurd hsaid.firstAnswer hhead
  | abandoned hfails hsaid => exact .inr ⟨_, _, hfails, hsaid⟩

theorem Act.ofExcept_of_eq {α : Type} {r r' : Except Fault α} (h : r = r') (w : Service) :
    Act.ofExcept r w = (r', w) := by
  rw [h]
  rfl

/-- A call that is not refused opens its query and serves its page. -/
theorem fetchPage_apply (pager : Option Pager) (r : Request) (i : Nat) (selection : Selection)
    (w : Service) : fetchPage (some i) pager r.target r.size selection w =
      (BatchView.openOn i selection >>= fun view =>
        view.servePage (pager.getD (.ofSettings w.settings)) r) w := by
  have hrequest : Pager.request (some i) r.target r.size = .ok (i, r) := by
    rw [Pager.request, Request.check_self]
    rfl
  refine (Async.ofAction_bind_of_ok (Act.ofExcept_of_eq hrequest w) _).trans ?_
  exact Async.ofAction_bind_of_ok (Action.state_apply w) _

/-- **What one page leaves behind.** -/
theorem always_fetchPage (pager : Option Pager) {target size : Int} (hi : i < w.servers.length)
    (hstart : (w.server i).planned .startSession = none)
    (hhead : selection.firstAnswer w i ≠ .ok .bare)
    (htarget : 1 ≤ target) (hsize : 1 ≤ size) (hbatch : 1 ≤ selection.batchSizeIn w) :
    (fetchPage (some i) pager target size selection w).Always [] fun used r u =>
      (∃ es, (w.conversation i).Released (selection.find w i) used es u) ∨
        ∃ fault, r = .error fault ∧
          (w.conversation i).Abandoned (selection.find w i) selection.converter used fault u := by
  obtain ⟨r, _, rfl, rfl⟩ := Request.check_eq_ok htarget hsize
  rw [fetchPage_apply]
  apply Async.always_bind (BatchView.always_openOn hi hstart hbatch)
  · intro used view t hopening
    cases hopening with
    | opened _ _ _ hopen =>
      apply (BatchView.always_servePage _ r hopen).mono
      rintro used _ u ⟨_, ⟨rest, rfl⟩, hended, hdropped⟩
      exact .inl ⟨_, hended.released_of_answered hdropped⟩
  · intro used fault t hopening
    rcases hopening.left hhead with hreleased | habandoned
    · exact .inl hreleased
    · exact .inr ⟨fault, rfl, habandoned⟩

/-! ## Calls that are refused -/

/-- A call that is refused touches nothing. -/
theorem always_fetchPage_of_refused {server : Option Nat} {pager : Option Pager} {target size : Int}
    (hrefused : server = none ∨ target < 1 ∨ size < 1 ∨ selection.batchSizeIn w < 1) :
    (fetchPage server pager target size selection w).Always [] fun _ _ u => u = w := by
  cases hrequest : Pager.request server target size with
  | error fault => exact Async.always_bind_of_error (Act.ofExcept_of_eq hrequest w) rfl
  | ok found =>
    obtain ⟨i, r⟩ := found
    obtain ⟨rfl, htarget, hsize⟩ := Pager.request_eq_ok hrequest
    -- only the size of the batches is left to be refused
    have hsmall : selection.batchSizeIn w < 1 := by
      have htarget' := r.one_le_target
      have hsize' := r.one_le_size
      rcases hrefused with hnone | hrefused | hrefused | hrefused
      · cases hnone
      · omega
      · omega
      · exact hrefused
    refine Async.always_bind_of_ok (Act.ofExcept_of_eq hrequest w) ?_
    apply Async.always_bind_state
    rw [Async.bind_apply, BatchView.openOn_of_batchSize_lt i hsmall]
    exact rfl

/-! ## What every call leaves -/

/-- **One page of a query releases what it takes.**  A call with an argument below one, or without a
server, touches nothing.  Any other starts one session, says all it has to say in it, and ends it,
whichever commands fail and wherever the call is cancelled; the cursor received last is dropped
exactly if it says that something is left.  What is answered is what the server answers under the
signals that the call uses up.  All that is asked for is that the first answer has a
cursor, and documents that convert. -/
theorem released_fetchPage (signals : Nat → Option Fault) (server : Option Nat)
    (pager : Option Pager) (target size : Int) (selection : Selection) (w : Service) :
    (server = none ∨ target < 1 ∨ size < 1 ∨ selection.batchSizeIn w < 1 →
      (Async.runWith signals (fetchPage server pager target size selection) w).2 = w) ∧
    ∀ i, server = some i → i < w.servers.length → (w.server i).planned .startSession = none →
      selection.firstAnswer w i ≠ .ok .bare →
      (∀ id batch, selection.firstAnswer w i = .ok (.cursor id batch) →
        ∃ docs, convert selection.converter batch = .ok docs) →
      1 ≤ target → 1 ≤ size → 1 ≤ selection.batchSizeIn w →
      ∃ es, (w.conversation i).Released (selection.find w i)
        (Async.used signals (fetchPage server pager target size selection) w) es
        (Async.runWith signals (fetchPage server pager target size selection) w).2 := by
  constructor
  · intro hrefused
    exact Async.runWith_of_always (always_fetchPage_of_refused hrefused) signals
  · rintro i rfl hi hstart hhead hconverts htarget hsize hbatch
    have hleft := Async.runWith_of_always
      (always_fetchPage pager hi hstart hhead htarget hsize hbatch) signals
    rcases hleft with hreleased | ⟨fault, _, id, batch, hfails, hsaid⟩
    · exact hreleased
    · obtain ⟨docs, hdocs⟩ := hconverts id batch hsaid.firstAnswer
      rw [hfails] at hdocs
      cases hdocs

/-- A server that makes its callers wait and has two batches to give. -/
def unhurried : Service where
  servers := [{ supply := .replies [.cursor 7 [.int 1], .cursor 9 [.int 2]], suspends := true }]

/-- Its documents are asked for one by one. -/
def oneByOne : Selection where
  batchSize := some 1

/-- A cancellation where a call waits for the second time. -/
def secondTime (n : Nat) : Option Fault := if n = 1 then some .cancellation else none

/-- The third page of one, cancelled where it waits for the second batch: the cursor that came with
the first batch is dropped and the session ended. -/
theorem released_fetchPage_of_unhurried :
    0 < unhurried.servers.length ∧ (unhurried.server 0).planned .startSession = none ∧
    oneByOne.firstAnswer unhurried 0 = .ok (.cursor 7 [.int 1]) ∧
    (∃ es, (unhurried.conversation 0).Released (oneByOne.find unhurried 0)
      (Async.used secondTime (fetchPage (some 0) none 3 1 oneByOne) unhurried) es
      (Async.runWith secondTime (fetchPage (some 0) none 3 1 oneByOne) unhurried).2) ∧
    Async.used secondTime (fetchPage (some 0) none 3 1 oneByOne) unhurried =
      [none, some .cancellation, none] ∧
    (Async.runWith secondTime (fetchPage (some 0) none 3 1 oneByOne) unhurried).2.traffic =
      [.startSession 1, .command (some 1) (.find "items" [] 1 [] []),
        .command (some 1) (.getMore 7 "items" 1), .command (some 1) (.killCursors "items" [7]),
        .endSession 1] := by
  have hfirst : oneByOne.firstAnswer unhurried 0 = .ok (.cursor 7 [.int 1]) := rfl
  have hhead : oneByOne.firstAnswer unhurried 0 ≠ .ok .bare := by
    rw [hfirst]
    nofun
  have hreleased := (released_fetchPage secondTime (some 0) none 3 1 oneByOne unhurried).2 0 rfl
    (by decide) rfl hhead (fun _ batch _ => ⟨batch, rfl⟩) (by decide) (by decide) (by decide)
  exact ⟨by decide, rfl, hfirst, hreleased, rfl, rfl⟩

/-- **Everything is released, unless the first batch does not convert.**  An opening that fails, and
a page that is read, have either released everything or been abandoned.  They are abandoned when the
first command was answered and one of the documents does not convert: the fault of the converter is
the outcome, no cursor is dropped, and the session goes on. -/
theorem settled_fetchPage (signals : Nat → Option Fault) (pager : Option Pager)
    {target size : Int} {selection : Selection} {w : Service} {i : Nat} (hi : i < w.servers.length)
    (hstart : (w.server i).planned .startSession = none)
    (hhead : selection.firstAnswer w i ≠ .ok .bare)
    (htarget : 1 ≤ target) (hsize : 1 ≤ size) (hbatch : 1 ≤ selection.batchSizeIn w) :
    (∀ fault, (Async.runWith signals (BatchView.openOn i selection) w).1 = .error fault →
      (w.conversation i).Settled (selection.find w i) selection.converter
        (Async.used signals (BatchView.openOn i selection) w)
        (Async.runWith signals (BatchView.openOn i selection) w)) ∧
    (w.conversation i).Settled (selection.find w i) selection.converter
      (Async.used signals (fetchPage (some i) pager target size selection) w)
      (Async.runWith signals (fetchPage (some i) pager target size selection) w) := by
  constructor
  · intro fault hfault
    have hopening := Async.runWith_of_always (BatchView.always_openOn hi hstart hbatch) signals
    rw [hfault] at hopening
    apply settled_of_left
    rcases hopening.left hhead with hreleased | habandoned
    · exact .inl hreleased
    · exact .inr ⟨fault, hfault, habandoned⟩
  · apply settled_of_left
    exact Async.runWith_of_always
      (always_fetchPage pager hi hstart hhead htarget hsize hbatch) signals

/-- A server whose first batch has a document without a number. -/
def unnumbered : Service where
  servers := [{ supply := .replies [.cursor 7 [.object [("m", .int 1)]]] }]

/-- The numbers of its documents are asked for. -/
def numbers : Selection where
  batchSize := some 2
  converter := some Converter.number

/-- The call ends with the fault of the converter.  Cursor seven is not dropped, and session one is
not ended. -/
theorem abandoned_of_unnumbered :
    (Async.runWith (fun _ => none) (BatchView.openOn 0 numbers) unnumbered).1 =
      .error (.raised .valueError "document without n") ∧
    (Async.runWith (fun _ => none) (BatchView.openOn 0 numbers) unnumbered).2.traffic =
      [.startSession 1, .command (some 1) (.find "items" [] 2 [] [])] ∧
    (Async.runWith (fun _ => none) (fetchPage (some 0) (some ⟨.fail⟩) 1 1 numbers) unnumbered).1 =
      .error (.raised .valueError "document without n") ∧
    (Async.runWith (fun _ => none) (fetchPage (some 0) (some ⟨.fail⟩) 1 1 numbers)
        unnumbered).2.traffic =
      [.startSession 1, .command (some 1) (.find "items" [] 2 [] [])] :=
  ⟨rfl, rfl, rfl, rfl⟩

/-- A page of such numbers is settled: it is abandoned. -/
theorem settled_fetchPage_of_unnumbered :
    0 < unnumbered.servers.length ∧ (unnumbered.server 0).planned .startSession = none ∧
    numbers.firstAnswer unnumbered 0 = .ok (.cursor 7 [.object [("m", .int 1)]]) ∧
    (unnumbered.conversation 0).Settled (numbers.find unnumbered 0) numbers.converter
      (Async.used (fun _ => none) (fetchPage (some 0) (some ⟨.fail⟩) 1 1 numbers) unnumbered)
      (Async.runWith (fun _ => none) (fetchPage (some 0) (some ⟨.fail⟩) 1 1 numbers)
        unnumbered) := by
  have hfirst : numbers.firstAnswer unnumbered 0 = .ok (.cursor 7 [.object [("m", .int 1)]]) := rfl
  refine ⟨by decide, rfl, hfirst, ?_⟩
  apply (settled_fetchPage _ _ (by decide) rfl _ (by decide) (by decide) (by decide)).2
  rw [hfirst]
  nofun

end Paging
