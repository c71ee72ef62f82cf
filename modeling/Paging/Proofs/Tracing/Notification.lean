import Mathlib.Data.List.Chain
import Paging.Proofs.Tracing.Emission

/-!
# Paging.Proofs.Tracing.Notification — an event is delivered to the listeners of a snapshot

The listeners that an event is delivered to are those that are registered when its notification begins,
whatever they do to the registry while they are notified.  A notification is the list of its deliveries
(`deliveries`): each entry of the registry is served once and in order, up to a listener that asks for a
stop, and each delivery begins where the one before has led (`Notified`).  The state in which the last
one ends, and the fault with which it asks for a stop, are all that a notification comes to
(`notify_eq`), so an event that is emitted is kept, delivered, and exported unless a listener asks for a
stop (`emitWith_eq`).
-/

namespace Paging.Tracing

variable {ask : Int → Int → Act Unit} {event : PageEvent} {u w : Service} {fault : Fault}

/-! ## Deliveries -/

/-- What the listener that an entry stands for does with an event. -/
def handle (ask : Int → Int → Act Unit) (event : PageEvent) (i : Nat) : Act Unit := fun w =>
  match w.listeners[i]? with
  | none => (.ok (), w)
  | some listener => listener.react ask i event listener.reactions w

/-- An event in the hands of the listener that an entry of the registry stands for: the states before
and after, and what has come of it. -/
structure Delivery where
  entry : Nat
  before : Service
  outcome : Except Fault Unit
  after : Service

namespace Delivery

/-- The delivery to the listener of an entry, in a state. -/
def of (ask : Int → Int → Act Unit) (event : PageEvent) (i : Nat) (w : Service) : Delivery :=
  ⟨i, w, (handle ask event i w).1, (handle ask event i w).2⟩

/-- The fault with which a listener asks for a stop. -/
def stop? (d : Delivery) : Option Fault :=
  match d.outcome with
  | .ok () => none
  | .error fault => if fault.isOrdinary then none else some fault

/-- The record of an ordinary failure of a listener. -/
def record? (d : Delivery) : Option Notice :=
  match d.before.listeners[d.entry]?, d.outcome with
  | some listener, .error fault =>
    if fault.isOrdinary then some (.listenerFailed listener.name fault) else none
  | _, _ => none

/-- The state that a delivery leaves behind, with the record of its failure. -/
def resumed (d : Delivery) : Service :=
  match d.record? with
  | none => d.after
  | some n => (Service.notice n d.after).2

end Delivery

/-- The deliveries of an event to the listeners of a list of entries. -/
def deliveries (ask : Int → Int → Act Unit) (event : PageEvent) : List Nat → Service → List Delivery
  | [], _ => []
  | i :: rest, w =>
    let d := Delivery.of ask event i w
    d :: match d.stop? with
      | none => deliveries ask event rest d.resumed
      | some _ => []

/-- What deliveries come to: the last listener may ask for a stop. -/
def outcomeOf (ds : List Delivery) : Except Fault Unit :=
  match ds.getLast?.bind Delivery.stop? with
  | none => .ok ()
  | some fault => .error fault

/-- The state that deliveries lead to. -/
def stateOf (w : Service) (ds : List Delivery) : Service := (ds.getLast?.map Delivery.resumed).getD w

theorem outcomeOf_eq_error {ds : List Delivery} (h : outcomeOf ds = .error fault) :
    ∃ d ∈ ds.getLast?, d.stop? = some fault := by
  rw [outcomeOf] at h
  split at h
  · cases h
  · rename_i other hstop
    cases h
    exact Option.bind_eq_some_iff.1 hstop

theorem outcomeOf_cons {d : Delivery} (h : d.stop? = none) (ds : List Delivery) :
    outcomeOf (d :: ds) = outcomeOf ds := by
  cases ds with
  | nil => simp [outcomeOf, h]
  | cons e ds => simp [outcomeOf, List.getLast?_cons]

theorem stateOf_cons (d : Delivery) (ds : List Delivery) :
    stateOf w (d :: ds) = stateOf d.resumed ds := by
  cases ds with
  | nil => rfl
  | cons e ds => simp [stateOf, List.getLast?_cons]

/-! ## Notifications -/

/-- A notification makes the first delivery and, unless that asks for a stop, goes on where it has led. -/
theorem notify_cons (i : Nat) (rest : List Nat) (w : Service) :
    notify ask event (i :: rest) w =
      match (Delivery.of ask event i w).stop? with
      | none => notify ask event rest (Delivery.of ask event i w).resumed
      | some fault => (.error fault, (Delivery.of ask event i w).resumed) := by
  rw [notify, Act.current_bind]
  cases hlistener : w.listeners[i]? with
  | none =>
    simp only [Delivery.of, Delivery.stop?, Delivery.resumed, Delivery.record?, handle, hlistener]
  | some listener =>
    simp only [Delivery.of, Delivery.stop?, Delivery.resumed, Delivery.record?, handle, hlistener]
    rw [Action.bind_of_ok (Action.attempt_apply _ w)]
    rcases listener.react ask i event listener.reactions w with ⟨fault | _, v⟩
    · cases hordinary : fault.isOrdinary with
      | true =>
        simp only [hordinary, if_true]
        rfl
      | false =>
        simp only [hordinary]
        rfl
    · rfl

/-- **What a notification comes to** is what its deliveries come to. -/
theorem notify_eq (registry : List Nat) (w : Service) :
    notify ask event registry w =
      (outcomeOf (deliveries ask event registry w), stateOf w (deliveries ask event registry w)) := by
  induction registry generalizing w with
  | nil => rfl
  | cons i rest ih =>
    rw [notify_cons, deliveries]
    cases hstop : (Delivery.of ask event i w).stop? with
    | none =>
      simp only
      rw [ih, outcomeOf_cons hstop, stateOf_cons]
    | some fault =>
      simp [outcomeOf, stateOf, hstop]

/-- The deliveries of a notification: what each listener does with the event in the state in which the
notification has come to it, for the entries of a registry in order, up to a listener that asks for a
stop. -/
structure Notified (ask : Int → Int → Act Unit) (event : PageEvent) (registry : List Nat)
    (w : Service) (ds : List Delivery) : Prop where
  happened : ∀ d ∈ ds, d = .of ask event d.entry d.before
  start : ∀ d ∈ ds.head?, d.before = w
  linked : ds.IsChain fun d e => d.stop? = none ∧ e.before = d.resumed
  served : ds.map Delivery.entry <+: registry
  complete : (∀ d ∈ ds, d.stop? = none) → ds.map Delivery.entry = registry

/-- **Each listener of the snapshot is notified once and in order**, until one asks for a stop. -/
theorem notified_deliveries (registry : List Nat) (w : Service) :
    Notified ask event registry w (deliveries ask event registry w) := by
  induction registry generalizing w with
  | nil =>
    rw [deliveries]
    exact ⟨by simp, by simp, .nil, List.nil_prefix, fun _ => rfl⟩
  | cons i rest ih =>
    rw [deliveries]
    cases hstop : (Delivery.of ask event i w).stop? with
    | none =>
      simp only
      obtain ⟨happened, start, linked, served, complete⟩ := ih (Delivery.of ask event i w).resumed
      refine ⟨?_, ?_, ?_, ?_, ?_⟩
      · intro d hd
        rcases List.mem_cons.1 hd with rfl | hd
        · rfl
        · exact happened d hd
      · rintro d ⟨⟩
        rfl
      · exact List.isChain_cons.2 ⟨fun e he => ⟨hstop, start e he⟩, linked⟩
      · exact List.cons_prefix_cons.2 ⟨rfl, served⟩
      · intro hgoes
        exact congrArg (i :: ·) (complete fun d hd => hgoes d (List.mem_cons_of_mem _ hd))
    | some fault =>
      simp only
      refine ⟨?_, ?_, .singleton _, List.cons_prefix_cons.2 ⟨rfl, List.nil_prefix⟩, ?_⟩
      · intro d hd
        obtain rfl := List.mem_singleton.1 hd
        rfl
      · rintro d ⟨⟩
        rfl
      · intro hgoes
        have hnone := hgoes _ (List.mem_singleton_self _)
        rw [hstop] at hnone
        cases hnone

/-! ## Failures of listeners -/

namespace Delivery

variable {d : Delivery}

/-- A listener that fails as ordinary things do is one whose failure is recorded, once, as an error, and
the notification goes on. -/
theorem resumed_of_ordinary (hd : d = .of ask event d.entry d.before)
    (hfailed : d.outcome = .error fault) (hordinary : fault.isOrdinary = true) :
    ∃ listener, d.before.listeners[d.entry]? = some listener ∧ d.stop? = none ∧
      d.resumed = (Service.notice (.listenerFailed listener.name fault) d.after).2 := by
  cases hlistener : d.before.listeners[d.entry]? with
  | none =>
    -- nobody fails where there is no listener
    rw [hd, of, handle, hlistener] at hfailed
    cases hfailed
  | some listener =>
    refine ⟨listener, rfl, ?_, ?_⟩
    · rw [stop?, hfailed]
      simp [hordinary]
    · rw [resumed, record?, hlistener, hfailed]
      simp [hordinary]

/-- Nothing is recorded of a listener that does not fail, or that asks for a stop. -/
theorem resumed_of_not_ordinary
    (h : ∀ fault, d.outcome = .error fault → fault.isOrdinary = false) : d.resumed = d.after := by
  have hrecord : d.record? = none := by
    rw [record?]
    split
    · rename_i listener fault _ hfailed
      simp [h fault hfailed]
    · rfl
  rw [resumed, hrecord]

theorem stop?_eq_some (h : d.stop? = some fault) :
    d.outcome = .error fault ∧ fault.isOrdinary = false := by
  rw [stop?] at h
  split at h
  · cases h
  · rename_i other hfailed
    cases hordinary : other.isOrdinary with
    | true => simp [hordinary] at h
    | false =>
      simp [hordinary] at h
      exact h ▸ ⟨hfailed, hordinary⟩

end Delivery

/-! ## Emission -/

/-- Keeps an event and compares it with the threshold. -/
def announce : Emitter := fun event => do
  let tracing := (← Service.current).tracing
  Service.tracingUpdate (capture event)
  if event.duration.longerThan tracing.threshold then
    let duration ← written (event.duration.fixed? 1)
    let threshold ← written (tracing.threshold.fixed? 1)
    Service.notice (.slow event duration threshold)

/-- An event that can be named in a warning, if the call took so long that there is one. -/
def CanWarn (event : PageEvent) (t : Tracing) : Prop :=
  event.duration.longerThan t.threshold = true →
    (event.duration.fixed? 1).isSome = true ∧ (t.threshold.fixed? 1).isSome = true

/-- However announcing an event ends, the event has been kept, and the listeners are as they were. -/
theorem of_announce_eq {result : Except Fault Unit} (h : announce event w = (result, u)) :
    u.tracing = capture event w.tracing ∧ u.listeners = w.listeners := by
  obtain rfl : (announce event w).2 = u := congrArg Prod.snd h
  rw [announce, Act.current_bind]
  split
  · cases event.duration.fixed? 1 with
    | none => exact ⟨rfl, rfl⟩
    | some duration => cases w.tracing.threshold.fixed? 1 <;> exact ⟨rfl, rfl⟩
  · exact ⟨rfl, rfl⟩

/-- A state in which an event has been announced: it is kept, and there may be a warning in the log. -/
def Announced (event : PageEvent) (w u : Service) : Prop :=
  ∃ warnings : List Notice, (∀ n ∈ warnings, n.level = .warning) ∧
    u = { w with
      tracing := capture event w.tracing
      journal := { w.journal with notices := w.journal.notices ++ warnings } }

theorem announce_of_canWarn (h : CanWarn event w.tracing) :
    ∃ u, announce event w = (.ok (), u) ∧ Announced event w u := by
  rw [announce, Act.current_bind]
  by_cases hslow : event.duration.longerThan w.tracing.threshold = true
  · obtain ⟨hduration, hthreshold⟩ := h hslow
    obtain ⟨duration, hduration⟩ := Option.isSome_iff_exists.1 hduration
    obtain ⟨threshold, hthreshold⟩ := Option.isSome_iff_exists.1 hthreshold
    simp only [hslow, if_true, hduration, hthreshold]
    refine ⟨_, rfl, [.slow event duration threshold], ?_, rfl⟩
    intro n hn
    obtain rfl := List.mem_singleton.1 hn
    rfl
  · simp only [hslow]
    refine ⟨_, rfl, [], by simp, ?_⟩
    rw [List.append_nil]

/-- An event that should be named in a warning and cannot be is kept, and that is all. -/
theorem emitWith_of_not_canWarn (hon : w.tracing.enabled = true) (h : ¬ CanWarn event w.tracing) :
    emitWith ask event w =
      (.error .integerTooLarge, { w with tracing := capture event w.tracing }) := by
  obtain ⟨hslow, hunwritten⟩ := Classical.not_imp.1 h
  rw [emitWith, Act.current_bind]
  simp only [hon, hslow, if_true]
  cases hduration : event.duration.fixed? 1 with
  | none => rfl
  | some duration =>
    cases hthreshold : w.tracing.threshold.fixed? 1 with
    | none => rfl
    | some threshold => simp [hduration, hthreshold] at hunwritten

/-- An event is told by announcing it and delivering it to whoever is registered then. -/
theorem tellWith_apply (ask : Int → Int → Act Unit) (event : PageEvent) (w : Service) :
    tellWith ask event w = (announce event >>= fun _ => do
      notify ask event (← Service.current).tracing.registry) w := by
  rw [tellWith, announce, Action.bind_assoc, Act.current_bind, Act.current_bind]
  by_cases hslow : event.duration.longerThan w.tracing.threshold = true
  · simp only [hslow, if_true, Action.bind_assoc]
  · simp only [hslow, Action.bind_assoc]
    rfl

theorem tellWith_of_announced (h : announce event w = (.ok (), u)) :
    tellWith ask event w = notify ask event u.tracing.registry u := by
  rw [tellWith_apply, Action.bind_of_ok h, Act.current_bind]

/-- **What comes of an event that is emitted.** -/
theorem emitWith_eq (hon : w.tracing.enabled = true) (h : announce event w = (.ok (), u)) :
    emitWith ask event w =
      (Act.ofExcept (outcomeOf (deliveries ask event u.tracing.registry u)) >>= fun _ =>
        exportSpan event) (stateOf u (deliveries ask event u.tracing.registry u)) := by
  rw [emitWith_of_on hon, Action.bind_apply, tellWith_of_announced h, notify_eq, Action.bind_apply]
  rfl

end Paging.Tracing
