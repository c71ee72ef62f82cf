import Paging.Proofs.Tracing.Changes

/-!
# Paging.Proofs.Tracing.Snapshot — an event is for those who are registered when it is told

An event that is emitted while tracing is on is kept first and then delivered, once per registration and
in order, to the listeners that are registered at that moment.  Whatever they do meanwhile, to the
registry, to the events or by calls of their own, has no influence on who is served; only a listener
that asks for a stop has one, as it is the last.  An ordinary failure is recorded once and stops nothing.
A stop takes the place of the page or the fault of the call that is told of, and the event is not
exported.  Registry and events afterwards are what the listeners have made of them, change by change.
All of this is `Served`, and it holds of every event that can be announced (`emitted_to_snapshot`).
-/

namespace Paging

open Tracing

/-- A call that reads something and then deals with an event in a state, which is of the outcome of what
it has read. -/
structure Inquiry.Emits (c : Inquiry) (signals : Nat → Option Fault) (t : Service) (a : Reading)
    (outcome : Except Fault (Page Value)) (event : PageEvent) (w : Service) : Prop where
  accepted : c.accepted = .ok a
  emits : ∃ start u stop, begin t = (.ok (some start), u) ∧
    (Async.runWith signals a.read u).1 = outcome ∧
    Service.readClock (Async.runWith signals a.read u).2 = (.ok stop, w) ∧
    event = a.event (Clock.elapsed start stop) outcome

/-- What such a call comes to. -/
theorem Inquiry.Emits.run {c : Inquiry} {signals : Nat → Option Fault} {t w : Service} {a : Reading}
    {outcome : Except Fault (Page Value)} {event : PageEvent}
    (h : c.Emits signals t a outcome event w) :
    Async.runWith signals c.body t = (emit event >>= fun _ => a.note outcome) w := by
  obtain ⟨start, u, stop, hbegin, rfl, hclock, rfl⟩ := h.emits
  rw [(Inquiry.body_of_accepted h.accepted).1, Reading.runWith_traced hbegin,
    Reading.close_some hclock]

namespace Tracing

open Change

/-- What comes of an event that is emitted in `w`, with the state in which its notification begins and
the deliveries that are made. -/
structure Served (event : PageEvent) (w u : Service) (ds : List Delivery) : Prop where
  /-- The event is kept, and no listener has been notified. -/
  announced : Announced event w u
  /-- The listeners that are registered are served in order, up to one that asks for a stop. -/
  notified : Notified (askWith emit) event u.tracing.registry u ds
  /-- An ordinary failure leaves one record, of an error, and the notification goes on. -/
  recorded : ∀ d ∈ ds, ∀ fault, d.outcome = .error fault → fault.isOrdinary = true →
    ∃ listener n, d.before.listeners[d.entry]? = some listener ∧ d.stop? = none ∧
      n = Notice.listenerFailed listener.name fault ∧ n.level = .error ∧
      d.resumed = (Service.notice n d.after).2
  /-- Nothing else leaves a record. -/
  unrecorded : ∀ d ∈ ds, (∀ fault, d.outcome = .error fault → fault.isOrdinary = false) →
    d.resumed = d.after
  /-- A stop is all that comes of the event, and of the call that it is of. -/
  stopped : ∀ fault, outcomeOf ds = .error fault →
    fault.isOrdinary = false ∧ emit event w = (.error fault, stateOf u ds) ∧
    ∀ c signals t a outcome, Inquiry.Emits c signals t a outcome event w →
      Async.runWith signals c.body t = (.error fault, stateOf u ds)
  /-- If nobody asks for a stop, the event is exported next. -/
  exported : outcomeOf ds = .ok () →
    emit event w = exportSpan event (stateOf u ds) ∧
    ∀ c signals t a outcome, Inquiry.Emits c signals t a outcome event w →
      Async.runWith signals c.body t =
        (exportSpan event >>= fun _ => a.note outcome) (stateOf u ds)
  /-- Registry and events are what the listeners have made of them. -/
  changed : (emit event w).2.tracing =
    applyAll (kept event :: ds.flatMap (Delivery.changes event)) w.tracing
  /-- If no listener forgets events, the event is followed by those of the calls that listeners have
  made. -/
  followed : w.tracing.captures = true →
    (∀ c ∈ ds.flatMap (Delivery.changes event), c.forgets = false) →
    (emit event w).2.tracing.events = w.tracing.events ++
      event :: (ds.flatMap (Delivery.changes event)).filterMap kept?

/-- **An event is delivered to the snapshot of the registry**, and all that comes of it is what its
deliveries come to.  An event that should be named in a warning and cannot be is kept, and delivered to
nobody. -/
theorem emitted_to_snapshot (event : PageEvent) {w : Service} (hon : w.tracing.enabled = true) :
    (CanWarn event w.tracing → ∃ u ds, Served event w u ds) ∧
    (¬ CanWarn event w.tracing →
      emit event w = (.error .integerTooLarge, { w with tracing := capture event w.tracing })) := by
  constructor
  · intro hwarn
    obtain ⟨u, hannounce, hannounced⟩ := announce_of_canWarn hwarn
    refine ⟨u, deliveries (askWith emit) event u.tracing.registry u, ?_⟩
    generalize hds : deliveries (askWith emit) event u.tracing.registry u = ds
    have hnotified : Notified (askWith emit) event u.tracing.registry u ds :=
      hds ▸ notified_deliveries _ u
    have hemit : emit event w =
        (Act.ofExcept (outcomeOf ds) >>= fun _ => exportSpan event) (stateOf u ds) := by
      rw [emit_nested, emitWith_eq hon hannounce, hds]
    have hchanged : (emit event w).2.tracing =
        applyAll (kept event :: ds.flatMap (Delivery.changes event)) w.tracing := by
      rw [tracing_emit, changes_of_announced hon hannounce, hds]
    exact {
      announced := hannounced
      notified := hnotified
      recorded := by
        intro d hd fault hfailed hordinary
        obtain ⟨listener, hlistener, hgoes, hresumed⟩ :=
          Delivery.resumed_of_ordinary (hnotified.happened d hd) hfailed hordinary
        exact ⟨listener, _, hlistener, hgoes, rfl, rfl, hresumed⟩
      unrecorded := fun d _ => Delivery.resumed_of_not_ordinary
      stopped := by
        intro fault hstop
        obtain ⟨d, _, hd⟩ := outcomeOf_eq_error hstop
        rw [hstop] at hemit
        refine ⟨(Delivery.stop?_eq_some hd).2, hemit, ?_⟩
        intro c signals t a outcome hcall
        rw [hcall.run, Action.bind_of_error hemit]
      exported := by
        intro hgoes
        rw [hgoes] at hemit
        refine ⟨hemit, ?_⟩
        intro c signals t a outcome hcall
        rw [hcall.run, Action.bind_apply, hemit]
        rfl
      changed := hchanged
      followed := by
        intro hcaptures hkept
        rw [hchanged]
        exact events_applyAll (List.forall_mem_cons.2 ⟨rfl, hkept⟩) hcaptures }
  · intro hunwritten
    rw [emit_nested]
    exact emitWith_of_not_canWarn hon hunwritten

/-- A state in which the first listener changes the registry and fails, the second one asks for a page of
its own and is cancelled, and the third one would only look. -/
def unruly : Service where
  tracing := { enabled := true, captures := true, registry := [0, 1, 0, 2] }
  listeners := [
    ⟨"audit", [.record, .remove "late", .add "audit", .raise (.raised .valueError "full")], false⟩,
    ⟨"guard", [.nested 2 1, .raise .cancellation], false⟩,
    ⟨"late", [.record], false⟩]
  clock := { face := fun count => some count }

/-- The event of a first page. -/
def firstPage : PageEvent := .ofCall ⟨"get_page", 1, 1, .fail⟩ .zero (some ⟨[.int 1], 1, true⟩) none

/-- The first listener is recorded twice, as it is notified of the page that the second one has asked
for as well, and its second registration and the third listener are never reached. -/
theorem emitted_to_snapshot_of_unruly :
    unruly.tracing.enabled = true ∧ CanWarn firstPage unruly.tracing ∧
    (∃ u ds, Served firstPage unruly u ds) ∧
    (emit firstPage unruly).1 = .error .cancellation ∧
    ((emit firstPage unruly).2.journal.notices.filter fun n => n.level = .error) =
      [.listenerFailed "audit" (.raised .valueError "full"),
        .listenerFailed "audit" .notRegistered] ∧
    (emit firstPage unruly).2.tracing.registry = [0, 1, 0, 0] ∧
    (emit firstPage unruly).2.tracing.events.map (·.targetPage) = [1, 2] := by
  have hwarn : CanWarn firstPage unruly.tracing := by
    intro hslow
    exact absurd hslow (by decide +kernel)
  exact ⟨rfl, hwarn, (emitted_to_snapshot firstPage rfl).1 hwarn, by decide +kernel, by decide +kernel,
    by decide +kernel, by decide +kernel⟩

end Tracing

end Paging
