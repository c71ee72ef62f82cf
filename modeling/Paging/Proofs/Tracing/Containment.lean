import Paging.Proofs.Stream
import Paging.Proofs.Tracing.Emission

/-!
# Paging.Proofs.Tracing.Containment — tracing does not change what a call answers

Telling of a call runs code that is not the library's: listeners and an exporter.  What they fail
with is contained when it is an ordinary failure, and passes through when it asks for a stop.  In a
state where all of it is contained (`Service.Contained`), and in every state in which tracing is off,
a call has the outcome of its body (`fst_follow`), whether it may wait or not (`run_followLater`).

The proof is a small logic of two kinds of action.  A calm action does not fail; a mild one fails
only as ordinary things do; both keep the state contained.  Reactions of listeners are mild, so
notifying is calm, so telling of a call is calm.
-/

namespace Paging

/-! ## Contained states -/

/-- A listener that fails only as ordinary things do. -/
def Listener.Contained (l : Listener) : Prop :=
  ∀ fault, .raise fault ∈ l.reactions → fault.isOrdinary = true

/-- An exporter that has a tracer and whose spans fail only as ordinary things do. -/
structure Exporter.Contained (e : Exporter) : Prop where
  tracer : e.tracer = none
  start : ∀ fault, e.start = some fault → fault.isOrdinary = true
  attributes : ∀ fault, e.attributes = some fault → fault.isOrdinary = true
  finish : ∀ fault, e.finish = some fault → fault.isOrdinary = true

/-- A state in which nothing that telling of a call runs into can leave it. -/
structure Service.Contained (w : Service) : Prop where
  listeners : ∀ l ∈ w.listeners, l.Contained
  exporter : ∀ e, w.exporter = some e → e.Contained
  /-- The clock can show every time that it will come to. -/
  clock : ∀ k : Nat, (w.clock.face (w.clock.now + k * w.clock.tick)).isSome = true
  /-- The threshold can be written into a notice. -/
  threshold : (w.tracing.threshold.fixed? 1).isSome = true

/-- A state in which telling of a call cannot change what the call answers. -/
def Service.Discreet (w : Service) : Prop := w.tracing.enabled = false ∨ w.Contained

/-- A state that is told of in the same way as another. -/
structure Service.TellsLike (w v : Service) : Prop where
  tracing : w.tracing = v.tracing
  listeners : w.listeners = v.listeners
  exporter : w.exporter = v.exporter
  clock : w.clock = v.clock

theorem Service.TellsLike.refl (w : Service) : w.TellsLike w := ⟨rfl, rfl, rfl, rfl⟩

theorem Service.TellsLike.trans {u v w : Service} (h : u.TellsLike v) (h' : v.TellsLike w) :
    u.TellsLike w :=
  ⟨h.tracing.trans h'.tracing, h.listeners.trans h'.listeners, h.exporter.trans h'.exporter,
    h.clock.trans h'.clock⟩

theorem Service.TellsLike.contained {w v : Service} (h : w.TellsLike v) (hv : v.Contained) :
    w.Contained where
  listeners := by rw [h.listeners]; exact hv.listeners
  exporter := by rw [h.exporter]; exact hv.exporter
  clock := by rw [h.clock]; exact hv.clock
  threshold := by rw [h.tracing]; exact hv.threshold

theorem Service.TellsLike.discreet {w v : Service} (h : w.TellsLike v) (hv : v.Discreet) :
    w.Discreet := by
  rcases hv with hoff | hcontained
  · left
    rw [h.tracing]
    exact hoff
  · right
    exact h.contained hcontained

/-- A state in which tracing is on and the listener that is registered fails every time. -/
def Service.complaining : Service where
  tracing := { enabled := true, registry := [0] }
  listeners := [⟨"audit", [.record, .raise (.raised .valueError "full")], false⟩]
  clock := { tick := 1, face := fun count => some count }

theorem Service.discreet_complaining : complaining.Discreet := by
  right
  refine ⟨?_, ?_, ?_, rfl⟩
  · intro l hl fault hfault
    obtain rfl := List.mem_singleton.1 hl
    simp only [List.mem_cons, reduceCtorEq, false_or, List.not_mem_nil, or_false,
      Reaction.raise.injEq] at hfault
    rw [hfault]
    rfl
  · intro e he
    cases he
  · intro k
    rfl

/-! ## Calm and mild actions -/

namespace Act

variable {α β : Type}

/-- An action that does not fail, and keeps the state contained. -/
def Calm (x : Act α) : Prop := ∀ w, w.Contained → ∃ a v, x w = (.ok a, v) ∧ v.Contained

/-- An outcome that fails only as ordinary things do. -/
def MildOutcome (outcome : Except Fault α) : Prop :=
  ∀ fault, outcome = .error fault → fault.isOrdinary = true

theorem mildOutcome_ok (a : α) : MildOutcome (.ok a) := by
  intro fault hfault
  cases hfault

theorem mildOutcome_error {fault : Fault} (h : fault.isOrdinary = true) :
    MildOutcome (.error fault : Except Fault α) := by
  intro other hother
  cases hother
  exact h

/-- An action that fails only as ordinary things do, and keeps the state contained. -/
def Mild (x : Act α) : Prop := ∀ w, w.Contained → (x w).2.Contained ∧ MildOutcome (x w).1

theorem Calm.mild {x : Act α} (h : Calm x) : Mild x := by
  intro w hw
  obtain ⟨a, v, hx, hv⟩ := h w hw
  rw [hx]
  exact ⟨hv, mildOutcome_ok a⟩

theorem calm_pure (a : α) : Calm (pure a : Act α) := fun w hw => ⟨a, w, rfl, hw⟩

theorem mild_fail {fault : Fault} (h : fault.isOrdinary = true) :
    Mild (Action.fail fault : Act α) :=
  fun _ hw => ⟨hw, mildOutcome_error h⟩

theorem calm_update {f : Service → Service} (h : ∀ w, w.Contained → (f w).Contained) :
    Calm (Action.update f : Act Unit) :=
  fun w hw => ⟨(), f w, rfl, h w hw⟩

theorem Calm.bind {x : Act α} {f : α → Act β} (hx : Calm x) (hf : ∀ a, Calm (f a)) :
    Calm (x >>= f) := by
  intro w hw
  obtain ⟨a, v, hxw, hv⟩ := hx w hw
  rw [Action.bind_of_ok hxw]
  exact hf a v hv

theorem Mild.bind {x : Act α} {f : α → Act β} (hx : Mild x) (hf : ∀ a, Mild (f a)) :
    Mild (x >>= f) := by
  intro w hw
  obtain ⟨hv, hfault⟩ := hx w hw
  rcases hxw : x w with ⟨result, v⟩
  rw [hxw] at hv hfault
  cases result with
  | ok a =>
    rw [Action.bind_of_ok hxw]
    exact hf a v hv
  | error fault =>
    rw [Action.bind_of_error hxw]
    exact ⟨hv, mildOutcome_error (hfault fault rfl)⟩

/-- What an action does with the current state may rest on its being contained. -/
theorem calm_current_bind {f : Service → Act β} (hf : ∀ v, v.Contained → Calm (f v)) :
    Calm (Service.current >>= f) :=
  fun w hw => hf w hw w hw

theorem mild_current_bind {f : Service → Act β} (hf : ∀ v, v.Contained → Mild (f v)) :
    Mild (Service.current >>= f) :=
  fun w hw => hf w hw w hw

/-- A mild failure that is looked at can be dealt with calmly. -/
theorem Mild.attempt_bind {x : Act α} {f : Except Fault α → Act β} (hx : Mild x)
    (hok : ∀ a, Calm (f (.ok a)))
    (herror : ∀ fault, fault.isOrdinary = true → Calm (f (.error fault))) :
    Calm (Action.attempt x >>= f) := by
  intro w hw
  obtain ⟨hv, hfault⟩ := hx w hw
  rw [Action.bind_of_ok (Action.attempt_apply x w)]
  -- what comes next starts in the state in which the attempt was given up
  rcases hxw : (x w).1 with fault | a
  · exact herror fault (hfault fault hxw) _ hv
  · exact hok a _ hv

theorem mild_ofExcept {outcome : Except Fault α} (h : MildOutcome outcome) :
    Mild (Act.ofExcept outcome) :=
  fun _ hw => ⟨hw, h⟩

/-- A mild failure may also be put off until something else is done. -/
theorem Mild.attempt_bind_mild {x : Act α} {f : Except Fault α → Act β} (hx : Mild x)
    (hf : ∀ outcome, MildOutcome outcome → Mild (f outcome)) : Mild (Action.attempt x >>= f) := by
  intro w hw
  obtain ⟨hv, hfault⟩ := hx w hw
  rw [Action.bind_of_ok (Action.attempt_apply x w)]
  exact hf _ hfault _ hv

end Act

open Act

/-! ## Reactions of listeners -/

theorem mild_written {α : Type} (o : Option α) : Mild (written o) := by
  cases o with
  | none => exact mild_fail rfl
  | some a => exact (calm_pure a).mild

theorem calm_written {α : Type} {o : Option α} (h : o.isSome = true) : Calm (written o) := by
  cases o with
  | none => cases h
  | some a => exact calm_pure a

namespace Service

theorem calm_contact (c : Contact) : Calm (contact c) :=
  calm_update fun _ hw => ⟨hw.listeners, hw.exporter, hw.clock, hw.threshold⟩

theorem calm_notice (n : Notice) : Calm (notice n) :=
  calm_update fun _ hw => ⟨hw.listeners, hw.exporter, hw.clock, hw.threshold⟩

/-- A change of the tracing state that keeps the threshold, or goes back to the first one. -/
theorem calm_tracingUpdate {f : Tracing → Tracing}
    (h : ∀ t, (f t).threshold = t.threshold ∨ (f t).threshold = Tracing.disabled.threshold) :
    Calm (tracingUpdate f) := by
  apply calm_update
  intro w hw
  refine ⟨hw.listeners, hw.exporter, hw.clock, ?_⟩
  show ((f w.tracing).threshold.fixed? 1).isSome = true
  rcases h w.tracing with hsame | hfirst
  · rw [hsame]
    exact hw.threshold
  · rw [hfirst]
    rfl

theorem mild_addListener (name : String) : Mild (addListener name) := by
  intro w hw
  unfold addListener
  split
  · exact ⟨⟨hw.listeners, hw.exporter, hw.clock, hw.threshold⟩, mildOutcome_ok ()⟩
  · exact ⟨hw, mildOutcome_error rfl⟩

theorem mild_removeListener (name : String) : Mild (removeListener name) := by
  intro w hw
  unfold removeListener
  split
  · split
    · exact ⟨⟨hw.listeners, hw.exporter, hw.clock, hw.threshold⟩, mildOutcome_ok ()⟩
    · -- it is defined, but not registered
      exact ⟨hw, mildOutcome_error rfl⟩
  · exact ⟨hw, mildOutcome_error rfl⟩

theorem calm_claimNested (i : Nat) : Calm (claimNested i) := by
  intro w hw
  unfold claimNested
  split
  · next listener hlistener =>
    refine ⟨_, _, rfl, ?_, hw.exporter, hw.clock, hw.threshold⟩
    -- the listener is put back with the same reactions
    intro l hl
    rcases List.mem_or_eq_of_mem_set hl with hl | rfl
    · exact hw.listeners l hl
    · exact hw.listeners listener (List.mem_of_getElem? hlistener)
  · exact ⟨_, _, rfl, hw⟩

end Service

variable {ask : Int → Int → Act Unit}

/-- One reaction of a listener, if it does not ask for a stop. -/
theorem Reaction.mild_perform (hask : ∀ page size, Mild (ask page size)) (i : Nat) (name : String)
    (event : PageEvent) (reaction : Reaction)
    (h : ∀ fault, reaction = .raise fault → fault.isOrdinary = true) :
    Mild (reaction.perform ask i name event) := by
  cases reaction with
  | record =>
    refine Mild.bind ?_ fun _ => (Service.calm_contact _).mild
    exact (mild_written _).bind fun _ => (calm_pure _).mild
  | raise fault => exact mild_fail (h fault rfl)
  | add other => exact Service.mild_addListener other
  | remove other => exact Service.mild_removeListener other
  | disable => exact (Service.calm_tracingUpdate fun _ => Or.inr rfl).mild
  | clear =>
    have hclear : Calm (Service.tracingUpdate Tracing.clear) :=
      Service.calm_tracingUpdate fun _ => Or.inl rfl
    exact hclear.mild
  | events => exact mild_current_bind fun _ _ => (Service.calm_contact _).mild
  | nested page size =>
    refine (Service.calm_claimNested i).mild.bind fun done => ?_
    cases done with
    | true => exact (calm_pure ()).mild
    | false => exact hask page size

/-- All reactions of a contained listener. -/
theorem Listener.mild_react (hask : ∀ page size, Mild (ask page size)) (i : Nat)
    (listener : Listener) (event : PageEvent) (reactions : List Reaction)
    (h : ∀ fault, .raise fault ∈ reactions → fault.isOrdinary = true) :
    Mild (listener.react ask i event reactions) := by
  induction reactions with
  | nil => exact (calm_pure ()).mild
  | cons reaction rest ih =>
    refine Mild.bind ?_ fun _ => ih fun fault hfault => h fault (List.mem_cons_of_mem _ hfault)
    exact Reaction.mild_perform hask i listener.name event reaction fun fault hfault =>
      h fault (by rw [hfault]; exact List.mem_cons_self)

/-! ## Emission -/

namespace Tracing

theorem calm_notify (hask : ∀ page size, Mild (ask page size)) (event : PageEvent)
    (registry : List Nat) : Calm (notify ask event registry) := by
  induction registry with
  | nil => exact calm_pure ()
  | cons i rest ih =>
    refine calm_current_bind fun v hv => ?_
    cases hlistener : v.listeners[i]? with
    | none => exact (calm_pure ()).bind fun _ => ih
    | some listener =>
      have hcontained : listener.Contained := hv.listeners listener (List.mem_of_getElem? hlistener)
      refine (Listener.mild_react hask i listener event _ hcontained).attempt_bind ?_ ?_
      · intro _
        exact (calm_pure ()).bind fun _ => ih
      · intro fault hfault
        simp only [hfault, if_true]
        exact (Service.calm_notice _).bind fun _ => ih

theorem mild_failing {failure : Option Fault}
    (h : ∀ fault, failure = some fault → fault.isOrdinary = true) : Mild (failing failure) := by
  cases failure with
  | none => exact (calm_pure ()).mild
  | some fault => exact mild_fail (h fault rfl)

theorem mild_span {exporter : Exporter} (h : exporter.Contained) (event : PageEvent) :
    Mild (span exporter event) := by
  refine (mild_failing h.start).bind fun _ => ?_
  have hattributes : Mild (do
      failing exporter.attributes
      Service.contact (.span event.spanName (← written event.attributes?))) := by
    refine (mild_failing h.attributes).bind fun _ => ?_
    exact (mild_written _).bind fun _ => (Service.calm_contact _).mild
  refine hattributes.attempt_bind_mild fun outcome houtcome => ?_
  exact (mild_failing h.finish).bind fun _ => mild_ofExcept houtcome

theorem calm_exportSpan (event : PageEvent) : Calm (exportSpan event) := by
  refine calm_current_bind fun v hv => ?_
  cases hexporter : v.exporter with
  | none => exact calm_pure ()
  | some exporter =>
    have hcontained := hv.exporter exporter hexporter
    simp only [hcontained.tracer]
    refine (calm_pure ()).bind fun _ => (mild_span hcontained event).attempt_bind ?_ ?_
    · intro _
      exact calm_pure ()
    · intro fault hfault
      simp only [hfault, if_true]
      exact Service.calm_notice _

/-- An emitter that deals calmly with every event whose duration can be written. -/
def CalmEmitter (emit : Emitter) : Prop :=
  ∀ event : PageEvent, (∀ places, (event.duration.fixed? places).isSome = true) → Calm (emit event)

theorem calm_tellWith (hask : ∀ page size, Mild (ask page size)) : CalmEmitter (tellWith ask) := by
  intro event hevent
  refine calm_current_bind fun v hv => ?_
  have hnotify : Calm (do notify ask event (← Service.current).tracing.registry) :=
    calm_current_bind fun u _ => calm_notify hask event u.tracing.registry
  have hcapture : Calm (Service.tracingUpdate (capture event)) :=
    Service.calm_tracingUpdate fun t => Or.inl (threshold_capture event t)
  refine hcapture.bind fun _ => ?_
  by_cases hslow : event.duration.longerThan v.tracing.threshold = true
  · simp only [hslow, if_true]
    refine (calm_written (hevent 1)).bind fun _ => ?_
    refine (calm_written hv.threshold).bind fun _ => ?_
    exact (Service.calm_notice _).bind fun _ => hnotify
  · simp only [hslow]
    exact (calm_pure ()).bind fun _ => hnotify

theorem calm_emitWith (hask : ∀ page size, Mild (ask page size)) : CalmEmitter (emitWith ask) := by
  intro event hevent w hw
  cases henabled : w.tracing.enabled with
  | true =>
    rw [emitWith_of_on henabled]
    exact ((calm_tellWith hask event hevent).bind fun _ => calm_exportSpan event) w hw
  | false =>
    rw [emitWith_of_off henabled]
    exact ⟨(), w, rfl, hw⟩

/-! ## Following a call -/

theorem calm_readClock : Calm Service.readClock := by
  intro w hw
  obtain ⟨seconds, hseconds⟩ := Option.isSome_iff_exists.1 (hw.clock 0)
  have hshown : w.clock.seconds? = some seconds := by
    rw [← hseconds, Int.natCast_zero, Int.zero_mul, Int.add_zero]
    rfl
  refine ⟨seconds, { w with clock := w.clock.advance }, ?_, hw.listeners, hw.exporter, ?_,
    hw.threshold⟩
  · simp only [Service.readClock, hshown]
  · -- what the clock comes to after a reading it came to before, one tick later
    intro k
    have hlater := hw.clock (k + 1)
    show (w.clock.face (w.clock.now + w.clock.tick + k * w.clock.tick)).isSome = true
    rw [Int.natCast_add, Int.natCast_one, Int.add_mul, Int.one_mul, Int.add_comm (k * _)] at hlater
    rw [Int.add_assoc]
    exact hlater

theorem calm_begin : Calm begin := by
  refine calm_current_bind fun v _ => ?_
  by_cases henabled : v.tracing.enabled = true
  · simp only [henabled, if_true]
    exact calm_readClock.bind fun _ => calm_pure _
  · simp only [henabled]
    exact calm_pure none

/-- Beginning to follow a call changes nothing but the clock. -/
theorem snd_begin (w : Service) : (begin w).2 = { w with clock := (begin w).2.clock } := by
  rw [begin, current_bind]
  split
  · rw [Action.bind_apply, Service.readClock]
    cases w.clock.seconds? <;> rfl
  · rfl

theorem calm_conclude {emit : Emitter} (hemit : CalmEmitter emit) (call : Call)
    (page : Option (Page Value)) (fault : Option Fault) (start : Option Rat) :
    Calm (conclude emit call page fault start) := by
  cases start with
  | none => exact calm_pure ()
  | some start =>
    refine calm_readClock.bind fun stop => hemit _ ?_
    intro places
    exact Clock.isSome_fixed?_elapsed places start stop

/-- A report that does not fail gives the outcome it reports. -/
theorem fst_report {emit : Emitter} {call : Call} {start : Option Rat} {w : Service}
    (h : ∀ page fault, ∃ v, conclude emit call page fault start w = (.ok (), v))
    (outcome : Except Fault (Page Value)) : (report emit call start outcome w).1 = outcome := by
  cases outcome with
  | ok page =>
    obtain ⟨v, hv⟩ := h (some page) none
    rw [report, Action.bind_of_ok hv]
    rfl
  | error fault =>
    obtain ⟨v, hv⟩ := h none (some fault)
    rw [report, Action.bind_of_ok hv]
    rfl

/-- While tracing is off a call begins without a reading. -/
theorem begin_of_off {w : Service} (h : w.tracing.enabled = false) : begin w = (.ok none, w) := by
  rw [begin, current_bind]
  simp only [h]
  rfl

/-- In a discreet state a call that has begun can be concluded whatever came of it, as long as its
body has left alone what telling of it needs. -/
theorem conclude_of_discreet {emit : Emitter} (hemit : CalmEmitter emit) {w : Service}
    (hw : w.Discreet) (call : Call) :
    ∃ start, (begin w).1 = .ok start ∧ ∀ v, v.TellsLike (begin w).2 →
      ∀ page fault, ∃ u, conclude emit call page fault start v = (.ok (), u) := by
  rcases hw with hoff | hcontained
  · -- nothing is told of a call that began while tracing was off
    rw [begin_of_off hoff]
    refine ⟨none, rfl, ?_⟩
    intro v _ page fault
    exact ⟨v, rfl⟩
  · obtain ⟨start, v, hbegin, hv⟩ := calm_begin w hcontained
    rw [hbegin]
    refine ⟨start, rfl, ?_⟩
    intro u hu page fault
    obtain ⟨_, t, ht, _⟩ := calm_conclude hemit call page fault start u (hu.contained hv)
    exact ⟨t, ht⟩

/-- **Following a call does not change its outcome.** -/
theorem fst_follow {emit : Emitter} (hemit : CalmEmitter emit) {w : Service} (hw : w.Discreet)
    (call : Call) {body : Act (Page Value)}
    (hbody : (body (begin w).2).2.TellsLike (begin w).2) :
    (follow emit call body w).1 = (body (begin w).2).1 := by
  obtain ⟨start, hstart, hconclude⟩ := conclude_of_discreet hemit hw call
  have hbegin : begin w = (.ok start, (begin w).2) := Prod.ext hstart rfl
  rw [follow, Action.bind_of_ok hbegin, Action.bind_of_ok (Action.attempt_apply body _)]
  exact fst_report (hconclude _ hbody) _

/-- Reporting a call keeps a contained state contained, also when the call has failed. -/
theorem contained_report {emit : Emitter} (hemit : CalmEmitter emit) (call : Call)
    (start : Option Rat) (outcome : Except Fault (Page Value)) {w : Service} (hw : w.Contained) :
    (report emit call start outcome w).2.Contained := by
  cases outcome with
  | ok page =>
    obtain ⟨_, v, hconclude, hv⟩ := calm_conclude hemit call (some page) none start w hw
    rw [report, Action.bind_of_ok hconclude]
    exact hv
  | error fault =>
    obtain ⟨_, v, hconclude, hv⟩ := calm_conclude hemit call none (some fault) start w hw
    rw [report, Action.bind_of_ok hconclude]
    exact hv

/-- Following a call leaves a discreet state behind. -/
theorem discreet_follow {emit : Emitter} (hemit : CalmEmitter emit) {w : Service} (hw : w.Discreet)
    (call : Call) {body : Act (Page Value)}
    (hbody : (body (begin w).2).2.TellsLike (begin w).2) : (follow emit call body w).2.Discreet := by
  rcases hw with hoff | hcontained
  · -- nothing is told, so the state is the one that the body leaves
    rw [begin_of_off hoff] at hbody
    have hreport : follow emit call body w = report emit call none (body w).1 (body w).2 := by
      rw [follow, Action.bind_of_ok (begin_of_off hoff),
        Action.bind_of_ok (Action.attempt_apply body w)]
    have hstate : (follow emit call body w).2 = (body w).2 := by
      rw [hreport]
      cases (body w).1 <;> rfl
    rw [hstate]
    exact hbody.discreet (.inl hoff)
  · obtain ⟨start, v, hbegin, hv⟩ := calm_begin w hcontained
    rw [hbegin] at hbody
    rw [follow, Action.bind_of_ok hbegin, Action.bind_of_ok (Action.attempt_apply body v)]
    right
    exact contained_report hemit call start _ (hbody.contained hv)

/-- Following a call that may wait is, once it is run to its end, following one that does not. -/
theorem run_followLater (emit : Emitter) (call : Call) (body : Later (Page Value)) :
    Async.run (followLater emit call body) = follow emit call (Async.run body) := by
  rw [followLater, Async.run_bind, follow]
  congr 1
  funext start
  rw [Async.run_bind, Async.run_attempt]
  rfl

end Tracing

/-! ## Calls that tell of themselves -/

/-- Writing down that a call has its page does not change the outcome. -/
theorem fst_logResolved (request : Request) (x : Act (Page Value)) (w : Service) :
    ((x >>= fun page => do
      logResolved request page
      pure page) w).1 = (x w).1 := by
  rw [Action.bind_apply]
  rcases x w with ⟨result, v⟩
  cases result <;> rfl

/-- Nor does it matter for telling of the next call. -/
theorem tellsLike_logResolved (request : Request) (x : Act (Page Value)) (w : Service) :
    ((x >>= fun page => do
      logResolved request page
      pure page) w).2.TellsLike (x w).2 := by
  rw [Action.bind_apply]
  rcases x w with ⟨result, v⟩
  cases result <;> exact ⟨rfl, rfl, rfl, rfl⟩

/-- Resolving a request leaves a discreet state behind. -/
theorem discreet_serve {emit : Emitter} (hemit : Tracing.CalmEmitter emit) {w : Service}
    (hw : w.Discreet) (strategy : Strategy) (request : Request) {body : Act (Page Value)}
    (hbody : (body (Tracing.begin w).2).2.TellsLike (Tracing.begin w).2) :
    (serve emit strategy request body w).2.Discreet :=
  (tellsLike_logResolved request _ w).discreet (Tracing.discreet_follow hemit hw _ hbody)

/-- Resolving a request has the outcome of its body. -/
theorem fst_serve {emit : Emitter} (hemit : Tracing.CalmEmitter emit) {w : Service}
    (hw : w.Discreet) (strategy : Strategy) (request : Request) {body : Act (Page Value)}
    (hbody : (body (Tracing.begin w).2).2.TellsLike (Tracing.begin w).2) :
    (serve emit strategy request body w).1 = (body (Tracing.begin w).2).1 :=
  (fst_logResolved request _ w).trans (Tracing.fst_follow hemit hw (request.pullCall strategy) hbody)

namespace Tracing

theorem mild_serve {emit : Emitter} (hemit : CalmEmitter emit) (strategy : Strategy)
    (request : Request) {body : Act (Page Value)} (hbody : Mild body) :
    Mild (serve emit strategy request body) := by
  have hfollow : Mild (follow emit (request.pullCall strategy) body) := by
    refine calm_begin.mild.bind fun start => hbody.attempt_bind_mild fun outcome houtcome => ?_
    cases outcome with
    | ok page => exact (calm_conclude hemit _ _ _ start).mild.bind fun _ => (calm_pure page).mild
    | error fault =>
      exact (calm_conclude hemit _ _ _ start).mild.bind fun _ => mild_fail (houtcome fault rfl)
  refine hfollow.bind fun page => ?_
  exact (Service.calm_notice _).mild.bind fun _ => (calm_pure page).mild

/-- A listener that asks for a page is refused at most as any caller is. -/
theorem mild_askWith {emit : Emitter} (hemit : CalmEmitter emit) (page size : Int) :
    Mild (askWith emit page size) := by
  have hcheck : MildOutcome (Request.check page size) := by
    intro fault hfault
    unfold Request.check at hfault
    split at hfault
    · cases hfault
      rfl
    · split at hfault <;> cases hfault
      rfl
  refine (mild_ofExcept hcheck).bind fun request => Mild.bind ?_ fun _ => (calm_pure ()).mild
  refine mild_serve hemit .fail request (mild_ofExcept ?_)
  intro fault hfault
  rw [Stream.page_of_lists (Stream.lists_ofList nestedList)] at hfault
  obtain ⟨bounds, rfl⟩ := Reference.page_eq_error hfault
  rfl

/-- Events are dealt with calmly, however deep the calls of listeners nest. -/
theorem calm_emitWithin (depth : Nat) : CalmEmitter (emitWithin depth) := by
  induction depth with
  | zero => exact calm_emitWith fun _ _ => (calm_pure ()).mild
  | succ depth ih => exact calm_emitWith fun page size => mild_askWith ih page size

theorem calm_emit : CalmEmitter emit := by
  intro event hevent w hw
  -- the depth may depend on the state, because every depth is calm
  exact calm_emitWithin (pendingNested w) event hevent w hw

theorem mild_askWithin (depth : Nat) (page size : Int) : Mild (askWithin depth page size) := by
  cases depth with
  | zero => exact (calm_pure ()).mild
  | succ depth => exact mild_askWith (calm_emitWithin depth) page size

theorem calm_tell : CalmEmitter tell := by
  intro event hevent w hw
  exact calm_tellWith (mild_askWithin (pendingNested w)) event hevent w hw

end Tracing

end Paging
