import Paging.Proofs.Tracing.Reading

/-!
# Paging.Proofs.Tracing.Inquiry — calls for a page, of either kind

A page is asked for from a stream or from a feed.  Either call checks its request, and what comes of
that is a refusal or something to read (`Inquiry.accepted`).  Whatever is read, the call is made of
three parts: it begins, it reads, and once the reading is over, which is where alone a call waits, it
tells of the outcome and writes it down (`Reading.traced_apply`).  So what holds of calls is known
from their readings and from `Reading.close`, for both kinds together.
-/

namespace Paging

open Tracing

/-- A call for a page, as its caller makes it. -/
inductive Inquiry
  | stream (pager : Pager) (source : Option Source) (target size : Int)
  | feed (pager : Pager) (source : Option Feed) (target size : Int)

/-- What an accepted call reads, and how it tells of itself. -/
structure Reading where
  call : Call
  request : Request
  read : Later (Page Value)

namespace Inquiry

/-- The computation that a call is. -/
def body : Inquiry → Later (Page Value)
  | stream pager source target size => Async.ofAction (pager.getPage source target size)
  | feed pager source target size =>
    match pager.getPageLater source target size with
    | .ok body => body
    | .error fault => Async.fail fault

/-- What a call asks for, as its caller made it. -/
def call : Inquiry → Call
  | stream pager _ target size => ⟨"get_page", target, size, pager.strategy⟩
  | feed pager _ target size => ⟨"get_page_async", target, size, pager.strategy⟩

/-- What comes of checking a call. -/
def accepted : Inquiry → Except Fault Reading
  | stream pager source target size =>
    (Pager.request source target size).map fun (given, r) =>
      ⟨r.pullCall pager.strategy, r, Async.ofAction (pager.read r given)⟩
  | feed pager source target size =>
    (Pager.request source target size).map fun (given, r) =>
      ⟨pager.feedCall r, r, pager.readFeed r given⟩

end Inquiry

namespace Reading

variable {a : Reading}

/-- Reads, tells of it and writes it down. -/
def traced (a : Reading) : Later (Page Value) := do
  let page ← followLater emit a.call a.read
  logResolved a.request page
  pure page

/-- What is left to do once a reading is over. -/
def close (a : Reading) (start : Option Rat) (outcome : Except Fault (Page Value)) :
    Act (Page Value) := do
  let page ← report emit a.call start outcome
  logResolved a.request page
  pure page

/-- How a call goes on where its reading ends: it is closed, and does not wait any more. -/
def closing (a : Reading) (start : Option Rat) (outcome : Except Fault (Page Value)) (t : Service) :
    Suspension Service Fault (Page Value) :=
  .done (a.close start outcome t).1 (a.close start outcome t).2

theorem closing_of_close {start : Option Rat} {outcome result : Except Fault (Page Value)}
    {t v : Service} (h : a.close start outcome t = (result, v)) :
    a.closing start outcome t = .done result v := by
  rw [closing, h]

/-- **The parts of a call.**  A call that can begin reads, and is closed where the reading ends. -/
theorem traced_apply {w u : Service} {start : Option Rat} (h : begin w = (.ok start, u)) :
    a.traced w = (a.read u).andThen (a.closing start) := by
  have hfollow : followLater emit a.call a.read w = (a.read u).andThen fun outcome t =>
      .done (report emit a.call start outcome t).1 (report emit a.call start outcome t).2 := by
    refine (Async.ofAction_bind_of_ok h _).trans ?_
    rw [Async.bind_apply, Async.attempt_apply, Suspension.andThen_assoc]
    rfl
  rw [traced, Async.bind_apply, hfollow, Suspension.andThen_assoc]
  congr
  funext outcome t
  rw [Suspension.andThen_done, closing, close, Action.bind_apply]
  rcases report emit a.call start outcome t with ⟨result, v⟩
  cases result <;> rfl

/-- A call that can begin is closed where its reading ends, under whatever signals. -/
theorem runWith_traced {w u : Service} {start : Option Rat} (h : begin w = (.ok start, u))
    (signals : Nat → Option Fault) : Async.runWith signals a.traced w =
      a.close start (Async.runWith signals a.read u).1 (Async.runWith signals a.read u).2 := by
  rw [Async.runWith, traced_apply h, Suspension.drive_andThen]
  rfl

/-! ## What is done with an outcome -/

/-- The event of a call that took a while and came to an outcome. -/
def event (a : Reading) (duration : Millis) : Except Fault (Page Value) → PageEvent
  | .ok page => .ofCall a.call duration (some page) none
  | .error fault => .ofCall a.call duration none (some fault)

/-- Writes an outcome down and gives it. -/
def note (a : Reading) (outcome : Except Fault (Page Value)) : Act (Page Value) := do
  let page ← Act.ofExcept outcome
  logResolved a.request page
  pure page

variable {w v : Service} {start stop : Rat} {outcome : Except Fault (Page Value)}

/-- Nothing is told of a call that began while tracing was off. -/
theorem close_none (a : Reading) (outcome : Except Fault (Page Value)) :
    a.close none outcome = a.note outcome := by
  cases outcome <;> rfl

/-- A call that began while tracing was on is told of before its outcome is written down. -/
theorem close_some (h : Service.readClock w = (.ok stop, v)) :
    a.close (some start) outcome w =
      (emit (a.event (Clock.elapsed start stop) outcome) >>= fun _ => a.note outcome) v := by
  cases outcome with
  | ok page =>
    rw [close, report, conclude, Action.bind_assoc, Action.bind_assoc, Action.bind_of_ok h]
    rfl
  | error fault =>
    rw [close, report, conclude, Action.bind_assoc, Action.bind_assoc, Action.bind_of_ok h]
    rfl

@[simp]
theorem fst_note (a : Reading) (outcome : Except Fault (Page Value)) (w : Service) :
    (a.note outcome w).1 = outcome := by
  cases outcome <;> rfl

theorem tellsLike_note (a : Reading) (outcome : Except Fault (Page Value)) (w : Service) :
    (a.note outcome w).2.TellsLike w := by
  cases outcome <;> exact ⟨rfl, rfl, rfl, rfl⟩

/-- **The event of a call is of its outcome.**  In a contained state in which tracing is on, a call is
over when one event has been dealt with, which is of the outcome that the call has, and that is the
outcome of its reading. -/
theorem exists_event (hread : Later.Reads a.read) {w : Service} (hw : w.Contained)
    (hon : w.tracing.enabled = true) (signals : Nat → Option Fault) :
    ∃ start u duration v, begin w = (.ok start, u) ∧ v.tracing = w.tracing ∧
      (Async.runWith signals a.traced w).1 = (Async.runWith signals a.read u).1 ∧
      Async.runWith signals a.traced w =
        (emit (a.event duration (Async.runWith signals a.traced w).1) >>= fun _ =>
          a.note (Async.runWith signals a.traced w).1) v := by
  obtain ⟨begun, u, hstart, hu⟩ := calm_readClock w hw
  have hbegin : begin w = (.ok (some begun), u) := by
    rw [begin, Act.current_bind]
    simp only [hon, if_true]
    rw [Action.bind_of_ok hstart]
    rfl
  have htells := Async.runWith_of_always (hread.always_tellsLike u) signals
  obtain ⟨ended, v, hstop, hv⟩ := calm_readClock _ (htells.contained hu)
  have hwritten : ∀ places, ((a.event (Clock.elapsed begun ended)
      (Async.runWith signals a.read u).1).duration.fixed? places).isSome = true := by
    cases (Async.runWith signals a.read u).1 <;>
      exact fun places => Clock.isSome_fixed?_elapsed places begun ended
  obtain ⟨_, t, hemit, _⟩ := calm_emit _ hwritten v hv
  have hrun := (runWith_traced hbegin signals).trans (close_some hstop)
  have hown : (Async.runWith signals a.traced w).1 = (Async.runWith signals a.read u).1 := by
    rw [hrun, Action.bind_of_ok hemit, fst_note]
  have hkept : v.tracing = w.tracing := by
    rw [Service.readClock_eq_ok hstop, htells.tracing, Service.readClock_eq_ok hstart]
  refine ⟨some begun, u, Clock.elapsed begun ended, v, hbegin, hkept, hown, ?_⟩
  rw [hown]
  exact hrun

end Reading

namespace Inquiry

/-- A call is refused, and touches nothing, or it reads something and tells of it. -/
theorem accepted_cases (c : Inquiry) :
    (∃ fault, c.accepted = .error fault ∧ c.body = Async.fail fault) ∨
    ∃ a, c.accepted = .ok a ∧ c.body = a.traced ∧ Later.Reads a.read := by
  cases c with
  | stream pager source target size =>
    rw [accepted, body, Pager.getPage]
    cases Pager.request source target size with
    | error fault => exact .inl ⟨fault, rfl, rfl⟩
    | ok request =>
      refine .inr ⟨_, rfl, ?_, pager.reads_read request.2 request.1⟩
      show Async.ofAction (serve emit pager.strategy request.2 (pager.read request.2 request.1)) = _
      rw [serve, follow, Async.ofAction_bind, Async.ofAction_bind]
      rfl
  | feed pager source target size =>
    rw [accepted, body, Pager.getPageLater]
    cases Pager.request source target size with
    | error fault => exact .inl ⟨fault, rfl, rfl⟩
    | ok request => exact .inr ⟨_, rfl, rfl, pager.reads_readFeed request.2 request.1⟩

variable {c : Inquiry} {a : Reading}

/-- An accepted call reads and tells of it. -/
theorem body_of_accepted (h : c.accepted = .ok a) : c.body = a.traced ∧ Later.Reads a.read := by
  rcases c.accepted_cases with ⟨fault, herror, _⟩ | ⟨a', hok, hbody⟩
  · cases herror.symm.trans h
  · cases hok.symm.trans h
    exact hbody

/-- What comes of a request that is accepted comes of the integers given. -/
theorem of_map_request {α β : Type} {source : Option α} {target size : Int}
    {f : α × Request → β} {b : β} (h : (Pager.request source target size).map f = .ok b) :
    ∃ given r, f (given, r) = b ∧ (r.target : Int) = target ∧ (r.size : Int) = size := by
  cases hrequest : Pager.request source target size with
  | error fault =>
    rw [hrequest] at h
    cases h
  | ok request =>
    rw [hrequest] at h
    cases h
    exact ⟨request.1, request.2, rfl, (Pager.request_eq_ok hrequest).2⟩

/-- An accepted call tells of itself as its caller made it. -/
theorem call_of_accepted (h : c.accepted = .ok a) : a.call = c.call := by
  cases c with
  | stream pager source target size =>
    obtain ⟨_, r, rfl, htarget, hsize⟩ := of_map_request h
    simp only [Request.pullCall, call, htarget, hsize]
  | feed pager source target size =>
    obtain ⟨_, r, rfl, htarget, hsize⟩ := of_map_request h
    simp only [Pager.feedCall, call, htarget, hsize]

/-- A call that is refused touches nothing. -/
theorem body_of_refused {fault : Fault} (h : c.accepted = .error fault) :
    c.body = Async.fail fault := by
  rcases c.accepted_cases with ⟨fault', herror, hbody⟩ | ⟨a, hok, _⟩
  · cases herror.symm.trans h
    exact hbody
  · cases hok.symm.trans h

end Inquiry

end Paging
