import Paging.Proofs.Interleaving.Alike
import Paging.Proofs.Tracing.Inquiry

/-!
# Paging.Proofs.Tracing.Quiet — what telling of a call does to the captured events

Listeners may themselves forget the captured events, switch tracing off or ask for pages.  Where none
of them does (`Service.Quiet`), telling of a call keeps its event, if events are captured, and
otherwise leaves events and switches alone, whatever listeners and exporter fail with
(`logsLike_emit`).  So a call that is closed in a quiet state adds its event, or none
(`Reading.close_of_quiet`).
-/

namespace Paging

open Tracing Act

/-! ## Quiet states -/

/-- A listener of which no reaction gets in the way of the events. -/
def Listener.Quiet (l : Listener) : Prop := ∀ reaction ∈ l.reactions, reaction.Quiet

/-- A contained state in which listeners do not get in the way of the events. -/
structure Service.Quiet (w : Service) : Prop extends w.Contained where
  quiet : ∀ l ∈ w.listeners, l.Quiet

/-- A state with the events, the switches and the listeners of another. -/
structure Service.LogsLike (w v : Service) : Prop where
  events : w.tracing.events = v.tracing.events
  enabled : w.tracing.enabled = v.tracing.enabled
  captures : w.tracing.captures = v.tracing.captures
  listeners : w.listeners = v.listeners

namespace Service

theorem LogsLike.refl (w : Service) : w.LogsLike w := ⟨rfl, rfl, rfl, rfl⟩

theorem LogsLike.trans {u v w : Service} (h : u.LogsLike v) (h' : v.LogsLike w) : u.LogsLike w :=
  ⟨h.events.trans h'.events, h.enabled.trans h'.enabled, h.captures.trans h'.captures,
    h.listeners.trans h'.listeners⟩

theorem TellsLike.logsLike {u v : Service} (h : u.TellsLike v) : u.LogsLike v :=
  ⟨by rw [h.tracing], by rw [h.tracing], by rw [h.tracing], h.listeners⟩

theorem TellsLike.quiet {u v : Service} (h : u.TellsLike v) (hv : v.Quiet) : u.Quiet where
  toContained := h.contained hv.toContained
  quiet := by
    rw [h.listeners]
    exact hv.quiet

/-- A state with the events, the switches and the listeners of another in which listeners are
quiet. -/
def FollowsQuietly (v w : Service) : Prop := (∀ l ∈ w.listeners, l.Quiet) → v.LogsLike w

end Service

/-! ## Telling of an event -/

theorem bystander_logsLike : Bystander Service.LogsLike where
  refl := .refl
  trans := .trans
  notice _ _ := ⟨rfl, rfl, rfl, rfl⟩
  contact _ _ := ⟨rfl, rfl, rfl, rfl⟩
  clock _ := ⟨rfl, rfl, rfl, rfl⟩
  registry _ _ := ⟨rfl, rfl, rfl, rfl⟩

theorem bystander_followsQuietly : Bystander Service.FollowsQuietly where
  refl w _ := .refl w
  trans h h' := fun hw => (h (by rw [(h' hw).listeners]; exact hw)).trans (h' hw)
  notice n w _ := bystander_logsLike.notice n w
  contact hc w _ := bystander_logsLike.contact hc w
  clock w _ := bystander_logsLike.clock w
  registry registry w _ := bystander_logsLike.registry registry w

/-- Quiet listeners that are notified leave events and switches alone. -/
theorem within_notify_quietly (ask : Int → Int → Act Unit) (event : PageEvent)
    (registry : List Nat) : Within Service.FollowsQuietly (notify ask event registry) := by
  apply bystander_followsQuietly.within_notify
  intro w i listener hlistener hquiet
  have hlistener : listener.Quiet := hquiet listener (List.mem_of_getElem? hlistener)
  apply bystander_logsLike.within_react
  intro reaction hreaction
  exact bystander_logsLike.within_perform_of_quiet (hlistener reaction hreaction) i _ event

/-- **Telling of an event keeps it, if events are captured**, and otherwise leaves events and switches
alone. -/
theorem logsLike_emit {w : Service} (hw : ∀ l ∈ w.listeners, l.Quiet) (event : PageEvent) :
    (emit event w).2.LogsLike
      (if w.tracing.enabled then { w with tracing := capture event w.tracing } else w) := by
  cases hon : w.tracing.enabled with
  | false =>
    rw [emit_of_off hon]
    exact .refl w
  | true =>
    have hS := bystander_followsQuietly
    have hnotify : Within Service.FollowsQuietly (do
        notify (askWithin (pendingNested w)) event (← Service.current).tracing.registry) :=
      hS.within_bind hS.within_current fun u => within_notify_quietly _ event u.tracing.registry
    have hrest : Within Service.FollowsQuietly (do
        if event.duration.longerThan w.tracing.threshold then
          let duration ← written (event.duration.fixed? 1)
          let threshold ← written (w.tracing.threshold.fixed? 1)
          Service.notice (.slow event duration threshold)
        notify (askWithin (pendingNested w)) event (← Service.current).tracing.registry) := by
      by_cases hslow : event.duration.longerThan w.tracing.threshold = true
      · simp only [hslow, if_true]
        apply hS.within_bind (hS.within_written _)
        intro _
        apply hS.within_bind (hS.within_written _)
        intro _
        exact hS.within_bind (hS.notice _) fun _ => hnotify
      · simp only [hslow]
        exact hnotify
    rw [emit_of_on hon]
    -- what comes after the capture begins in the state that it leaves
    exact hS.within_bind hrest (fun _ => hS.within_exportSpan event)
      { w with tracing := capture event w.tracing } hw

/-! ## Calls -/

theorem Service.LogsLike.quiet {u v : Service} (h : u.LogsLike v) (hv : v.Quiet)
    (hu : u.Contained) : u.Quiet where
  toContained := hu
  quiet := by
    rw [h.listeners]
    exact hv.quiet

/-- A quiet state that comes of another one in which more events have been captured. -/
structure Service.Appends (events : List PageEvent) (w v : Service) : Prop where
  quiet : v.Quiet
  enabled : v.tracing.enabled = w.tracing.enabled
  captures : v.tracing.captures = w.tracing.captures
  events : v.tracing.events = w.tracing.events ++ events

namespace Service

variable {events : List PageEvent} {u v w : Service}

theorem Quiet.appends_nil (hw : w.Quiet) : w.Appends [] w := ⟨hw, rfl, rfl, by simp⟩

/-- What is done before, without touching the events, does not count. -/
theorem Appends.after (h : u.Appends events v) (hu : u.LogsLike w) : w.Appends events v :=
  ⟨h.quiet, h.enabled.trans hu.enabled, h.captures.trans hu.captures, hu.events ▸ h.events⟩

end Service

/-- In a quiet state every call can begin, with a reading if tracing is on and without one if it is
off. -/
theorem begin_of_quiet {w : Service} (hw : w.Quiet) :
    ∃ start u, begin w = (.ok start, u) ∧ start.isSome = w.tracing.enabled ∧ u.Quiet ∧
      u.LogsLike w := by
  obtain ⟨start, u, hbegin, hu⟩ := calm_begin w hw.toContained
  have hlogs := bystander_logsLike.within_begin w
  rw [hbegin] at hlogs
  refine ⟨start, u, hbegin, ?_, hlogs.quiet hw hu, hlogs⟩
  rw [begin, current_bind] at hbegin
  cases hon : w.tracing.enabled with
  | false =>
    simp only [hon, Bool.false_eq_true, if_false, Action.pure_apply, Prod.mk.injEq,
      Except.ok.injEq] at hbegin
    rw [← hbegin.1]
    rfl
  | true =>
    simp only [hon, if_true] at hbegin
    obtain ⟨seconds, v, hclock, _⟩ := calm_readClock w hw.toContained
    rw [Action.bind_of_ok hclock] at hbegin
    cases hbegin
    rfl

/-- **A call that is closed in a quiet state** has the outcome of its reading.  It adds its event, if it
began while tracing was on and events are captured now, and otherwise none. -/
theorem Reading.close_of_quiet (a : Reading) (start : Option Rat)
    (outcome : Except Fault (Page Value)) {t : Service} (ht : t.Quiet) :
    ∃ duration v, a.close start outcome t = (outcome, v) ∧
      t.Appends (if start.isSome && t.tracing.enabled && t.tracing.captures
        then [a.event duration outcome] else []) v := by
  -- what is written down in the end does not matter for telling
  have hnote : ∀ v : Service, v.Quiet → ∃ u, a.note outcome v = (outcome, u) ∧ u.Quiet ∧
      u.tracing = v.tracing := fun v hv =>
    ⟨_, Prod.ext (a.fst_note outcome v) rfl, (a.tellsLike_note outcome v).quiet hv,
      (a.tellsLike_note outcome v).tracing⟩
  cases start with
  | none =>
    obtain ⟨u, hclose, hu, htracing⟩ := hnote t ht
    rw [close_none]
    exact ⟨.zero, u, hclose, hu, by rw [htracing], by rw [htracing], by rw [htracing]; simp⟩
  | some start =>
    obtain ⟨stop, u, hclock, hu⟩ := calm_readClock t ht.toContained
    have hread := bystander_logsLike.within_readClock t
    rw [hclock] at hread
    have hquiet := hread.quiet ht hu
    have hwritten : ∀ places,
        ((a.event (Clock.elapsed start stop) outcome).duration.fixed? places).isSome = true := by
      cases outcome <;> exact fun places => Clock.isSome_fixed?_elapsed places start stop
    obtain ⟨_, v, hemit, hv⟩ := calm_emit _ hwritten u hu
    have hlogs := logsLike_emit hquiet.quiet (a.event (Clock.elapsed start stop) outcome)
    rw [hemit] at hlogs
    have hlisteners : v.listeners = u.listeners := by
      rw [hlogs.listeners]
      split <;> rfl
    obtain ⟨v', hclose, hv', htracing⟩ := hnote v ⟨hv, hlisteners ▸ hquiet.quiet⟩
    refine ⟨Clock.elapsed start stop, v', ?_, hv', ?_, ?_, ?_⟩
    · rw [close_some hclock, Action.bind_of_ok hemit, hclose]
    · rw [htracing, hlogs.enabled, ← hread.enabled]
      split <;> simp
    · rw [htracing, hlogs.captures, ← hread.captures]
      split <;> simp
    · rw [htracing, hlogs.events, ← hread.events, ← hread.enabled, ← hread.captures]
      cases u.tracing.enabled with
      | false => simp
      | true => simp [events_capture]

/-- **A call in a quiet state adds its event**, which is of the outcome that the call has, if tracing is
on and events are captured. -/
theorem Reading.captured_of_quiet {a : Reading} (hread : Later.Reads a.read) {w : Service}
    (hw : w.Quiet) (hon : w.tracing.enabled = true) (hcaptures : w.tracing.captures = true)
    (signals : Nat → Option Fault) :
    ∃ duration, (Async.runWith signals a.traced w).2.tracing.events =
      w.tracing.events ++ [a.event duration (Async.runWith signals a.traced w).1] := by
  obtain ⟨start, u, hbegin, hstart, hu, hlogs⟩ := begin_of_quiet hw
  have htells := Async.runWith_of_always (hread.always_tellsLike u) signals
  obtain ⟨duration, v, hclose, hv⟩ := a.close_of_quiet start (Async.runWith signals a.read u).1
    (htells.quiet hu)
  have hkept := htells.logsLike.trans hlogs
  rw [runWith_traced hbegin, hclose, hv.events, hkept.events, hkept.enabled, hkept.captures, hstart,
    hon, hcaptures]
  exact ⟨duration, rfl⟩

end Paging
