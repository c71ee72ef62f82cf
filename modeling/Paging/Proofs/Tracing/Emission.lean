import Paging.Tracing.Emission

/-!
# Paging.Proofs.Tracing.Emission — an event is told and then exported

While tracing is on, an event is dealt with in two parts: it is kept, compared with the threshold and
handed to listeners (`tell`), and then it is exported.  While tracing is off nothing is done with it.
-/

namespace Paging

theorem Act.current_bind {β : Type} (f : Service → Act β) (w : Service) :
    (Service.current >>= f) w = f w w := rfl

/-- Reading the clock changes nothing else. -/
theorem Service.readClock_eq_ok {w v : Service} {seconds : Rat}
    (h : Service.readClock w = (.ok seconds, v)) : v = { w with clock := w.clock.advance } := by
  unfold Service.readClock at h
  split at h <;> cases h
  rfl

theorem Service.tracing_readClock (w : Service) : (Service.readClock w).2.tracing = w.tracing := by
  unfold Service.readClock
  split <;> rfl

namespace Tracing

open Act

variable {ask : Int → Int → Act Unit} {w : Service}

/-- Deals with an event up to its export. -/
def tellWith (ask : Int → Int → Act Unit) : Emitter := fun event => do
  let tracing := (← Service.current).tracing
  Service.tracingUpdate (capture event)
  if event.duration.longerThan tracing.threshold then
    let duration ← written (event.duration.fixed? 1)
    let threshold ← written (tracing.threshold.fixed? 1)
    Service.notice (.slow event duration threshold)
  notify ask event (← Service.current).tracing.registry

theorem emitWith_of_on (h : w.tracing.enabled = true) (event : PageEvent) :
    emitWith ask event w = (tellWith ask event >>= fun _ => exportSpan event) w := by
  rw [emitWith, tellWith, current_bind, Action.bind_assoc, current_bind]
  simp only [h, if_true]
  by_cases hslow : event.duration.longerThan w.tracing.threshold = true
  · simp only [hslow, if_true, Action.bind_assoc]
  · simp only [hslow, Action.bind_assoc]
    rfl

theorem emitWith_of_off (h : w.tracing.enabled = false) (event : PageEvent) :
    emitWith ask event w = (.ok (), w) := by
  rw [emitWith, current_bind]
  simp only [h]
  rfl

/-- What listeners do that ask for a page, with nested calls down to a depth. -/
def askWithin : Nat → Int → Int → Act Unit
  | 0 => fun _ _ => pure ()
  | depth + 1 => askWith (emitWithin depth)

theorem emitWithin_eq (depth : Nat) : emitWithin depth = emitWith (askWithin depth) := by
  cases depth <;> rfl

/-- Deals with an event up to its export, with calls of listeners as deep as they nest. -/
def tell : Emitter := fun event w => tellWith (askWithin (pendingNested w)) event w

theorem emit_eq (event : PageEvent) (w : Service) :
    emit event w = emitWith (askWithin (pendingNested w)) event w := by
  rw [emit, emitWithin_eq]

/-- While tracing is on an event is told and then exported. -/
theorem emit_of_on (h : w.tracing.enabled = true) (event : PageEvent) :
    emit event w = (tell event >>= fun _ => exportSpan event) w := by
  rw [emit_eq, emitWith_of_on h]
  rfl

/-- While tracing is off nothing is done with an event. -/
theorem emit_of_off (h : w.tracing.enabled = false) (event : PageEvent) :
    emit event w = (.ok (), w) := by
  rw [emit_eq, emitWith_of_off h]

end Tracing

end Paging
