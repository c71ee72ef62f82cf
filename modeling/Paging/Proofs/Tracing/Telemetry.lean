import Paging.Proofs.Tracing.Bystander
import Paging.Proofs.Tracing.Inquiry

/-!
# Paging.Proofs.Tracing.Telemetry — what becomes of a failing export

The last thing that happens to an event is its export as a span: a tracer is obtained, a span is
started, given its attributes and ended.  What fails there, other than obtaining the tracer, is
contained: the call has the outcome of its reading, and the failure is logged once.  A failure to
obtain the tracer leaves the call in place of that outcome and is not logged
(`answers_own_iff_tracer`).

An event is dealt with in two parts, telling listeners of it (`tell`) and exporting it, so that what is
logged of the export can be kept apart from what listeners fail with and from the spans of pages that
they ask for themselves.
-/

namespace Paging

/-! ## Failures of an exporter -/

namespace Exporter

/-- The fault that a span fails with.  A failure to end it hides one to set its attributes. -/
def spanFailure? (e : Exporter) : Option Fault := e.start.or (e.finish.or e.attributes)

/-- The fault that an export fails with. -/
def failure? (e : Exporter) : Option Fault := e.tracer.or e.spanFailure?

/-- An exporter whose operations fail, if at all, as ordinary things do. -/
def Ordinary (e : Exporter) : Prop := ∀ fault, e.failure? = some fault → fault.isOrdinary = true

end Exporter

/-- The failures in the log. -/
def Service.errors (w : Service) : List Notice :=
  w.journal.notices.filter fun n => n.level = .error

namespace Tracing

variable {e : Exporter} {event : PageEvent} {w : Service}

/-- A span fails as its exporter says and writes no notice. -/
theorem exists_span (hwritten : event.attributes?.isSome = true) (e : Exporter) (w : Service) :
    ∃ v, span e event w = (match e.spanFailure? with
        | none => .ok ()
        | some fault => .error fault, v) ∧ v.journal.notices = w.journal.notices := by
  obtain ⟨attributes, hattributes⟩ := Option.isSome_iff_exists.1 hwritten
  obtain ⟨tracer, start, failing, finish⟩ := e
  unfold span
  rw [hattributes]
  cases start with
  | some fault => exact ⟨w, rfl, rfl⟩
  | none =>
    cases failing with
    | some fault => cases finish <;> exact ⟨w, rfl, rfl⟩
    | none => cases finish <;> exact ⟨_, rfl, rfl⟩

/-- A failure to obtain the tracer is not contained. -/
theorem exportSpan_of_tracer {fault : Fault} (he : w.exporter = some e)
    (htracer : e.tracer = some fault) (event : PageEvent) :
    exportSpan event w = (.error fault, w) := by
  rw [exportSpan, Act.current_bind]
  simp only [he, htracer]
  rfl

/-- Any other failure is contained and logged once. -/
theorem exportSpan_of_no_tracer (he : w.exporter = some e) (htracer : e.tracer = none)
    (hordinary : e.Ordinary) (hwritten : event.attributes?.isSome = true) :
    ∃ v, exportSpan event w = (.ok (), v) ∧
      v.errors = w.errors ++ (e.failure?.map (Notice.spanFailed event.operation)).toList := by
  obtain ⟨v, hspan, hnotices⟩ := exists_span hwritten e w
  have hfailure : e.failure? = e.spanFailure? := by
    rw [Exporter.failure?, htracer]
    rfl
  have htraced : failing none w = (.ok (), w) := rfl
  rw [exportSpan, Act.current_bind, hfailure]
  simp only [he, htracer]
  rw [Action.bind_of_ok htraced, Action.bind_of_ok (Action.attempt_apply _ w), hspan]
  cases hfault : e.spanFailure? with
  | none =>
    refine ⟨v, rfl, ?_⟩
    rw [Service.errors, hnotices]
    simp [Service.errors]
  | some fault =>
    have hcontained : fault.isOrdinary = true := hordinary fault (hfailure.trans hfault)
    simp only [hcontained, if_true]
    refine ⟨_, rfl, ?_⟩
    show (v.journal.notices ++ [Notice.spanFailed event.operation fault]).filter _ = _
    rw [hnotices, List.filter_append]
    rfl

end Tracing

/-! ## Calls -/

open Tracing

namespace Reading

variable {a : Reading} {start stop : Rat} {outcome : Except Fault (Page Value)}
  {t v told : Service} {e : Exporter}

/-- The event of an outcome can be written out as attributes. -/
theorem isSome_attributes_event (a : Reading) (start stop : Rat)
    (outcome : Except Fault (Page Value)) :
    (a.event (Clock.elapsed start stop) outcome).attributes?.isSome = true := by
  have hwritten := Clock.isSome_fixed?_elapsed 3 start stop
  cases outcome <;>
    simpa only [event, PageEvent.attributes?, PageEvent.durationText?, Option.isSome_map,
      PageEvent.ofCall] using hwritten

theorem operation_event (a : Reading) (duration : Millis) (outcome : Except Fault (Page Value)) :
    (a.event duration outcome).operation = a.call.operation := by
  cases outcome <;> rfl

theorem errors_note (a : Reading) (outcome : Except Fault (Page Value)) (w : Service) :
    (a.note outcome w).2.errors = w.errors := by
  cases outcome with
  | error fault => rfl
  | ok page =>
    show (w.journal.notices ++ [_]).filter _ = _
    rw [List.filter_append]
    exact List.append_nil _

/-- A call that began at `start` is over in `t`, while tracing is on, and listeners have been told of
its outcome, which led to `told`. -/
def Tells (a : Reading) (start : Rat) (outcome : Except Fault (Page Value)) (t told : Service) :
    Prop :=
  ∃ stop v, Service.readClock t = (.ok stop, v) ∧ v.tracing.enabled = true ∧
    tell (a.event (Clock.elapsed start stop) outcome) v = (.ok (), told)

/-- Telling does not change which exporter is installed. -/
theorem onlooker_exporter : Onlooker fun v w : Service => v.exporter = w.exporter where
  refl _ := rfl
  trans := Eq.trans
  notice _ _ := rfl
  contact _ _ := rfl
  clock _ := rfl
  registry _ _ := rfl
  tracing _ _ := rfl
  claim := Service.within_claimNested (fun _ => rfl) fun _ _ => rfl

theorem Tells.exporter (h : a.Tells start outcome t told) : told.exporter = t.exporter := by
  obtain ⟨stop, v, hclock, _, htold⟩ := h
  have hread := onlooker_exporter.within_readClock t
  have htell := onlooker_exporter.within_tell (a.event (Clock.elapsed start stop) outcome) v
  rw [hclock] at hread
  rw [htold] at htell
  exact htell.trans hread

/-- What is left to do when listeners have been told. -/
theorem close_of_tells (h : a.Tells start outcome t told) :
    ∃ event : PageEvent, event.operation = a.call.operation ∧ event.attributes?.isSome = true ∧
      a.close (some start) outcome t =
        (exportSpan event >>= fun _ => a.note outcome) told := by
  obtain ⟨stop, v, hclock, hon, htold⟩ := h
  refine ⟨_, a.operation_event _ outcome, a.isSome_attributes_event start stop outcome, ?_⟩
  rw [close_some hclock, Action.bind_apply, emit_of_on hon, Action.bind_of_ok htold]
  rfl

/-- An exporter that has a tracer leaves the outcome as it is, and its failure is logged once. -/
theorem close_of_no_tracer (h : a.Tells start outcome t told) (he : t.exporter = some e)
    (hordinary : e.Ordinary) (htracer : e.tracer = none) :
    (a.close (some start) outcome t).1 = outcome ∧
      (a.close (some start) outcome t).2.errors =
        told.errors ++ (e.failure?.map (Notice.spanFailed a.call.operation)).toList := by
  obtain ⟨event, hoperation, hwritten, hclose⟩ := close_of_tells h
  obtain ⟨v, hexport, herrors⟩ :=
    exportSpan_of_no_tracer (h.exporter.trans he) htracer hordinary hwritten
  rw [hclose, Action.bind_of_ok hexport]
  exact ⟨a.fst_note outcome v, (a.errors_note outcome v).trans (hoperation ▸ herrors)⟩

/-- Where the tracer cannot be obtained that failure takes the place of the outcome. -/
theorem close_of_tracer (h : a.Tells start outcome t told) (he : t.exporter = some e)
    {fault : Fault} (htracer : e.tracer = some fault) :
    a.close (some start) outcome t = (.error fault, told) := by
  obtain ⟨event, _, _, hclose⟩ := close_of_tells h
  rw [hclose, Action.bind_of_error (exportSpan_of_tracer (h.exporter.trans he) htracer event)]

/-- In a contained state listeners can be told of every outcome. -/
theorem exists_tells (ht : t.Contained) (hon : t.tracing.enabled = true) (a : Reading)
    (start : Rat) (outcome : Except Fault (Page Value)) :
    ∃ told, a.Tells start outcome t told := by
  obtain ⟨stop, v, hclock, hv⟩ := calm_readClock t ht
  have hkept : v.tracing = t.tracing := by rw [Service.readClock_eq_ok hclock]
  obtain ⟨_, told, htold, _⟩ := calm_tell (a.event (Clock.elapsed start stop) outcome)
    (by cases outcome <;> exact fun places => Clock.isSome_fixed?_elapsed places start stop) v hv
  exact ⟨told, stop, v, hclock, hkept ▸ hon, htold⟩

end Reading

namespace Inquiry

/-- **The failures of an export that do not leave a call.**  A call that begins while tracing is on is
its reading, which is all that waits, and what is left to do where the reading ends.  If listeners have
been told and an exporter is installed, the call has the outcome of its reading, and the failure of
the export, if there is one, is logged once, exactly if the exporter has a tracer.  If it has none, the
failure to obtain it is what the call ends with.  In a contained state listeners are always told. -/
theorem answers_own_iff_tracer {c : Inquiry} {a : Reading} (hc : c.accepted = .ok a) {w : Service}
    (hon : w.tracing.enabled = true) {start : Rat} (hstart : w.clock.seconds? = some start) :
    (c.body w = (a.read { w with clock := w.clock.advance }).andThen fun own t =>
      .done (a.close (some start) own t).1 (a.close (some start) own t).2) ∧
    (∀ own t told e, a.Tells start own t told → t.exporter = some e → e.Ordinary →
      ((a.close (some start) own t).1 = own ∧
        (a.close (some start) own t).2.errors =
          told.errors ++ (e.failure?.map (Notice.spanFailed a.call.operation)).toList ↔
        e.tracer = none) ∧
      ∀ fault, e.tracer = some fault → a.close (some start) own t = (.error fault, told)) ∧
    ∀ own t, t.Contained → t.tracing.enabled = true → ∃ told, a.Tells start own t told := by
  refine ⟨?_, ?_, fun own t ht hon => Reading.exists_tells ht hon a start own⟩
  · have hbegin : begin w = (.ok (some start), { w with clock := w.clock.advance }) := by
      rw [begin, Act.current_bind]
      simp only [hon, if_true]
      rw [Action.bind_apply, Service.readClock, hstart]
      rfl
    rw [(body_of_accepted hc).1, Reading.traced_apply hbegin]
    rfl
  · intro own t told e htells he hordinary
    refine ⟨⟨?_, Reading.close_of_no_tracer htells he hordinary⟩, ?_⟩
    · rintro ⟨_, herrors⟩
      cases htracer : e.tracer with
      | none => rfl
      | some fault =>
        -- the failure to obtain the tracer should have been logged
        have hfailure : e.failure? = some fault := by
          rw [Exporter.failure?, htracer]
          rfl
        rw [Reading.close_of_tracer htells he htracer, hfailure] at herrors
        simp at herrors
    · intro fault htracer
      exact Reading.close_of_tracer htells he htracer

end Inquiry

/-! ## Exporters that fail -/

/-- A state in which tracing is on and spans are exported. -/
def Service.exporting (e : Exporter) : Service where
  tracing := { enabled := true }
  clock := { face := fun count => some count }
  exporter := some e

/-- The first page of a stream of one element. -/
def Inquiry.single : Inquiry := .stream ⟨.fail⟩ (some (.fresh (.ofList [.int 1]))) 1 1

/-- What a request for a page of that stream reads. -/
def Reading.single (r : Request) : Reading :=
  ⟨r.pullCall .fail, r, Async.ofAction (Pager.read ⟨.fail⟩ r (.fresh (.ofList [.int 1])))⟩

/-- No time passes and nobody listens, so telling of the call changes nothing. -/
theorem Reading.tells_exporting (r : Request) (e : Exporter) :
    (single r).Tells 0 (.ok ⟨[.int 1], 1, true⟩) (.exporting e) (.exporting e) := by
  have hnow : Clock.elapsed 0 0 = .zero := by decide +kernel
  refine ⟨0, .exporting e, rfl, rfl, ?_⟩
  rw [hnow]
  rfl

/-- An exporter that cannot obtain a tracer. -/
def Exporter.tracerless : Exporter :=
  { tracer := some (.raised .runtimeError "no tracer for offsetpager") }

/-- The call fails with what is an ordinary failure of the exporter, and no failure is logged.  With
tracing off it has its page. -/
theorem fails_without_tracer :
    Exporter.tracerless.Ordinary ∧
    (Async.run Inquiry.single.body (Service.exporting .tracerless)).1 =
      .error (.raised .runtimeError "no tracer for offsetpager") ∧
    (Async.run Inquiry.single.body (Service.exporting .tracerless)).2.errors = [] ∧
    (Async.run Inquiry.single.body
      { Service.exporting .tracerless with tracing := .disabled }).1 = .ok ⟨[.int 1], 1, true⟩ := by
  have hrun : Async.run Inquiry.single.body (Service.exporting .tracerless) =
      (Reading.single ⟨1, 1, by decide, by decide⟩).close (some 0) (.ok ⟨[.int 1], 1, true⟩)
        (Service.exporting .tracerless) := rfl
  have hclose := Reading.close_of_tracer
    (Reading.tells_exporting ⟨1, 1, by decide, by decide⟩ .tracerless) rfl rfl
  refine ⟨?_, ?_, ?_, rfl⟩
  · rintro fault ⟨⟩
    rfl
  · rw [hrun, hclose]
  · rw [hrun, hclose]
    rfl

/-- An exporter whose spans can neither be given attributes nor be ended. -/
def Exporter.clumsy : Exporter where
  attributes := some (.raised .runtimeError "exporter down")
  finish := some (.raised .valueError "no end")

/-- The call has its page and one failure is logged, that to end the span. -/
theorem answers_own_iff_tracer_of_clumsy :
    (Service.exporting .clumsy).tracing.enabled = true ∧ Exporter.clumsy.Ordinary ∧
    Exporter.clumsy.tracer = none ∧
    (Async.run Inquiry.single.body (Service.exporting .clumsy)).1 = .ok ⟨[.int 1], 1, true⟩ ∧
    (Async.run Inquiry.single.body (Service.exporting .clumsy)).2.errors =
      [.spanFailed "get_page" (.raised .valueError "no end")] := by
  have hordinary : Exporter.clumsy.Ordinary := by
    rintro fault ⟨⟩
    rfl
  obtain ⟨hbody, hclose, _⟩ := @Inquiry.answers_own_iff_tracer .single
    (.single ⟨1, 1, by decide, by decide⟩) rfl (Service.exporting .clumsy) rfl 0 rfl
  obtain ⟨hown, herrors⟩ := (hclose _ _ _ .clumsy
    (Reading.tells_exporting ⟨1, 1, by decide, by decide⟩ .clumsy) rfl hordinary).1.2 rfl
  refine ⟨rfl, hordinary, rfl, ?_, ?_⟩
  · rw [Async.run_apply, hbody]
    exact hown
  · rw [Async.run_apply, hbody]
    exact herrors

end Paging
