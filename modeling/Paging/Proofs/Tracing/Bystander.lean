import Paging.Proofs.Tracing.Emission

/-!
# Paging.Proofs.Tracing.Bystander — what telling of a call leaves as it was

Telling of a call reads the clock, runs listeners and exports spans.  What it leaves as it was is said
by relations between the state after and the state before.  A relation that notices and contacts of
telling keep to is kept to by every export, however it fails (`Scribe`).  If readings of the clock and
registrations keep to it too, so does everything that a listener does which is none of its own calls or
switches (`Bystander`).  A relation that changes of the switches keep to as well, and the marks of the
listeners that have asked for their page, is kept to by all of telling, nested calls included
(`Onlooker`).
-/

namespace Paging

open Tracing

variable {S : Service → Service → Prop} {α β : Type}

/-- A contact that comes of telling: a listener is notified or counts, or a span is exported. -/
def Contact.isTelling : Contact → Bool
  | notified .. | counted .. | span .. => true
  | _ => false

/-- A reaction that neither forgets events, nor switches tracing off, nor asks for a page. -/
def Reaction.Quiet : Reaction → Prop
  | disable | clear | nested .. => False
  | record | raise _ | add _ | remove _ | events => True

/-- An action that leads from every state to a related one, whatever its outcome. -/
def Act.Within (S : Service → Service → Prop) (x : Act α) : Prop := ∀ w, S (x w).2 w

open Act

/-- A relation that whatever is only written down keeps to. -/
structure Scribe (S : Service → Service → Prop) : Prop where
  refl : ∀ w, S w w
  trans : ∀ {u v w}, S u v → S v w → S u w
  notice : ∀ n, Within S (Service.notice n)
  contact : ∀ {c : Contact}, c.isTelling = true → Within S (Service.contact c)

/-- A relation that what surrounds a call keeps to, as long as no switch is changed. -/
structure Bystander (S : Service → Service → Prop) : Prop extends Scribe S where
  clock : ∀ w, S { w with clock := w.clock.advance } w
  registry : ∀ (registry : List Nat) (w : Service),
    S { w with tracing := { w.tracing with registry } } w

/-- A relation that changes of switches keep to as well, and that a listener asks for its page. -/
structure Onlooker (S : Service → Service → Prop) : Prop extends Bystander S where
  tracing : ∀ f, Within S (Service.tracingUpdate f)
  claim : ∀ i, Within S (Service.claimNested i)

/-- Whatever changes of the listeners keep to is kept to when one asks for its page. -/
theorem Service.within_claimNested (hrefl : ∀ w, S w w)
    (hlisteners : ∀ (listeners : List Listener) (w : Service), S { w with listeners } w) (i : Nat) :
    Within S (claimNested i) := by
  intro w
  unfold claimNested
  split
  · exact hlisteners _ w
  · exact hrefl w

namespace Scribe

variable (hS : Scribe S)

include hS

/-! ## Sequences -/

theorem within_pure (a : α) : Within S (pure a : Act α) := hS.refl

theorem within_fail (fault : Fault) : Within S (Action.fail fault : Act α) := hS.refl

theorem within_ofExcept (outcome : Except Fault α) : Within S (Act.ofExcept outcome) := hS.refl

theorem within_current : Within S Service.current := hS.refl

/-- What is done after an action begins where that has led. -/
theorem bind_apply {x : Act α} {f : α → Act β} {w : Service} (hx : S (x w).2 w)
    (hf : ∀ a, S (f a (x w).2).2 (x w).2) : S ((x >>= f) w).2 w := by
  rw [Action.bind_apply]
  rcases hxw : x w with ⟨result, v⟩
  rw [hxw] at hx hf
  cases result with
  | ok a => exact hS.trans (hf a) hx
  | error fault => exact hx

theorem within_bind {x : Act α} {f : α → Act β} (hx : Within S x) (hf : ∀ a, Within S (f a)) :
    Within S (x >>= f) := fun w => hS.bind_apply (hx w) fun a => hf a _

theorem within_written (o : Option α) : Within S (written o) := by
  cases o with
  | none => exact hS.within_fail _
  | some a => exact hS.within_pure a

/-! ## Spans -/

theorem within_failing (failure : Option Fault) : Within S (failing failure) := by
  cases failure with
  | none => exact hS.within_pure ()
  | some fault => exact hS.within_fail fault

theorem within_span (exporter : Exporter) (event : PageEvent) : Within S (span exporter event) := by
  have hattributes : Within S (do
      failing exporter.attributes
      Service.contact (.span event.spanName (← written event.attributes?))) := by
    apply hS.within_bind (hS.within_failing _)
    intro _
    exact hS.within_bind (hS.within_written _) fun _ => hS.contact rfl
  apply hS.within_bind (hS.within_failing _)
  intro _
  apply hS.within_bind (x := Action.attempt _) hattributes
  intro outcome
  exact hS.within_bind (hS.within_failing _) fun _ => hS.within_ofExcept outcome

theorem within_exportSpan (event : PageEvent) : Within S (exportSpan event) := by
  apply hS.within_bind hS.within_current
  intro v
  cases v.exporter with
  | none => exact hS.within_pure ()
  | some exporter =>
    apply hS.within_bind (hS.within_failing _)
    intro _
    apply hS.within_bind (x := Action.attempt _) (hS.within_span exporter event)
    intro outcome
    rcases outcome with fault | _
    · cases hordinary : fault.isOrdinary with
      | true =>
        simp only [hordinary, if_true]
        exact hS.notice _
      | false =>
        simp only [hordinary]
        exact hS.within_fail fault
    · exact hS.within_pure ()

end Scribe

namespace Bystander

variable (hS : Bystander S)

include hS

/-! ## Clock and registrations -/

theorem within_readClock : Within S Service.readClock := by
  intro w
  unfold Service.readClock
  split
  · exact hS.clock w
  · exact hS.refl w

theorem within_addListener (name : String) : Within S (Service.addListener name) := by
  intro w
  unfold Service.addListener
  split
  · exact hS.registry _ w
  · exact hS.refl w

theorem within_removeListener (name : String) : Within S (Service.removeListener name) := by
  intro w
  unfold Service.removeListener
  split
  · split
    · exact hS.registry _ w
    · exact hS.refl w
  · exact hS.refl w

/-! ## Listeners -/

variable {ask : Int → Int → Act Unit}

theorem within_perform_of_quiet {reaction : Reaction} (h : reaction.Quiet) (i : Nat) (name : String)
    (event : PageEvent) : Within S (reaction.perform ask i name event) := by
  cases reaction with
  | record =>
    have hwritten : Within S (discard (written event.fields?)) :=
      hS.within_bind (hS.within_written _) fun _ => hS.within_pure ()
    exact hS.within_bind hwritten fun _ => hS.contact rfl
  | raise fault => exact hS.within_fail fault
  | add other => exact hS.within_addListener other
  | remove other => exact hS.within_removeListener other
  | events => exact hS.within_bind hS.within_current fun _ => hS.contact rfl
  | disable => exact h.elim
  | clear => exact h.elim
  | nested page size => exact h.elim

/-- A listener keeps to what each of its reactions keeps to. -/
theorem within_react {i : Nat} {listener : Listener} {event : PageEvent}
    {reactions : List Reaction}
    (h : ∀ reaction ∈ reactions, Within S (reaction.perform ask i listener.name event)) :
    Within S (listener.react ask i event reactions) := by
  induction reactions with
  | nil => exact hS.within_pure ()
  | cons reaction rest ih =>
    apply hS.within_bind (h reaction List.mem_cons_self)
    intro _
    exact ih fun other hother => h other (List.mem_cons_of_mem _ hother)

/-- A notification keeps to what each listener keeps to in the state in which it is notified. -/
theorem within_notify {event : PageEvent}
    (h : ∀ (w : Service) (i : Nat) (listener : Listener), w.listeners[i]? = some listener →
      S (listener.react ask i event listener.reactions w).2 w)
    (registry : List Nat) : Within S (notify ask event registry) := by
  induction registry with
  | nil => exact hS.within_pure ()
  | cons i rest ih =>
    intro w
    rw [notify, current_bind]
    cases hlistener : w.listeners[i]? with
    | none => exact hS.within_bind (hS.within_pure ()) (fun _ => ih) w
    | some listener =>
      apply hS.bind_apply (x := Action.attempt _) (h w i listener hlistener)
      intro outcome
      rcases outcome with fault | _
      · -- an ordinary failure is logged, any other ends the notification
        cases hordinary : fault.isOrdinary with
        | true =>
          simp only [hordinary, if_true]
          exact hS.within_bind (hS.notice _) (fun _ => ih) _
        | false =>
          simp only [hordinary]
          exact hS.within_bind (hS.within_fail fault) (fun _ => ih) _
      · exact hS.within_bind (hS.within_pure ()) (fun _ => ih) _

/-! ## Calls -/

theorem within_begin : Within S begin := by
  apply hS.within_bind hS.within_current
  intro v
  by_cases henabled : v.tracing.enabled = true
  · simp only [henabled, if_true]
    exact hS.within_bind hS.within_readClock fun _ => hS.within_pure _
  · simp only [henabled]
    exact hS.within_pure none

theorem within_conclude {emit : Emitter} (hemit : ∀ event, Within S (emit event)) (call : Call)
    (page : Option (Page Value)) (fault : Option Fault) (start : Option Rat) :
    Within S (conclude emit call page fault start) := by
  cases start with
  | none => exact hS.within_pure ()
  | some start => exact hS.within_bind hS.within_readClock fun _ => hemit _

theorem within_report {emit : Emitter} (hemit : ∀ event, Within S (emit event)) (call : Call)
    (start : Option Rat) (outcome : Except Fault (Page Value)) :
    Within S (report emit call start outcome) := by
  cases outcome with
  | ok page =>
    exact hS.within_bind (hS.within_conclude hemit call _ _ start) fun _ => hS.within_pure page
  | error fault =>
    exact hS.within_bind (hS.within_conclude hemit call _ _ start) fun _ => hS.within_fail fault

theorem within_serve {emit : Emitter} (hemit : ∀ event, Within S (emit event)) (strategy : Strategy)
    (request : Request) {body : Act (Page Value)} (hbody : Within S body) :
    Within S (serve emit strategy request body) := by
  have hfollow : Within S (follow emit (request.pullCall strategy) body) := by
    apply hS.within_bind hS.within_begin
    intro start
    exact hS.within_bind (x := Action.attempt _) hbody fun outcome =>
      hS.within_report hemit _ start outcome
  apply hS.within_bind hfollow
  intro page
  exact hS.within_bind (hS.notice _) fun _ => hS.within_pure page

/-- The page that a listener asks for comes from a list of its own. -/
theorem within_askWith {emit : Emitter} (hemit : ∀ event, Within S (emit event)) (page size : Int) :
    Within S (askWith emit page size) := by
  apply hS.within_bind (hS.within_ofExcept _)
  intro request
  exact hS.within_bind (hS.within_serve hemit .fail request (hS.within_ofExcept _)) fun _ =>
    hS.within_pure ()

end Bystander

/-! ## All of telling -/

namespace Onlooker

variable (hS : Onlooker S) {ask : Int → Int → Act Unit}

include hS

theorem within_perform (hask : ∀ page size, Within S (ask page size)) (i : Nat) (name : String)
    (event : PageEvent) (reaction : Reaction) : Within S (reaction.perform ask i name event) := by
  cases reaction with
  | disable => exact hS.tracing _
  | clear => exact hS.tracing _
  | nested page size =>
    apply hS.within_bind (hS.claim i)
    intro done
    cases done with
    | true => exact hS.within_pure ()
    | false => exact hask page size
  | _ =>
    apply hS.within_perform_of_quiet
    trivial

theorem within_tellWith (hask : ∀ page size, Within S (ask page size)) (event : PageEvent) :
    Within S (tellWith ask event) := by
  have hnotify : Within S (do notify ask event (← Service.current).tracing.registry) := by
    apply hS.within_bind hS.within_current
    intro u
    apply hS.within_notify
    intro w i listener _
    exact hS.within_react (fun reaction _ => hS.within_perform hask i listener.name event reaction) w
  apply hS.within_bind hS.within_current
  intro v
  apply hS.within_bind (hS.tracing _)
  intro _
  by_cases hslow : event.duration.longerThan v.tracing.threshold = true
  · simp only [hslow, if_true]
    apply hS.within_bind (hS.within_written _)
    intro _
    apply hS.within_bind (hS.within_written _)
    intro _
    exact hS.within_bind (hS.notice _) fun _ => hnotify
  · simp only [hslow]
    exact hnotify

theorem within_emitWith (hask : ∀ page size, Within S (ask page size)) (event : PageEvent) :
    Within S (emitWith ask event) := by
  intro w
  cases hon : w.tracing.enabled with
  | false =>
    rw [emitWith_of_off hon]
    exact hS.refl w
  | true =>
    rw [emitWith_of_on hon]
    exact hS.within_bind (hS.within_tellWith hask event) (fun _ => hS.within_exportSpan event) w

theorem within_emitWithin (depth : Nat) (event : PageEvent) : Within S (emitWithin depth event) := by
  induction depth generalizing event with
  | zero => exact hS.within_emitWith (fun _ _ => hS.within_pure ()) event
  | succ depth ih => exact hS.within_emitWith (hS.within_askWith ih) event

theorem within_askWithin (depth : Nat) (page size : Int) : Within S (askWithin depth page size) := by
  cases depth with
  | zero => exact hS.within_pure ()
  | succ depth => exact hS.within_askWith (hS.within_emitWithin depth) page size

/-- **Telling of an event keeps to the relation**, whoever listens and whatever fails. -/
theorem within_emit (event : PageEvent) : Within S (emit event) := by
  intro w
  -- the depth may depend on the state, because every depth keeps to it
  exact hS.within_emitWithin (pendingNested w) event w

theorem within_tell (event : PageEvent) : Within S (tell event) := by
  intro w
  exact hS.within_tellWith (hS.within_askWithin (pendingNested w)) event w

end Onlooker

end Paging
