import Paging.Proofs.Tracing.Inquiry
import Paging.Proofs.Tracing.Nesting

/-!
# Paging.Proofs.Tracing.Changes — what dealing with an event changes

Listeners add and remove listeners, forget events and disable tracing, and what they ask for has events
of its own.  All that comes of it is a list of changes, in the order in which they are made (`changes`):
the event is kept first, and then come, one delivery after the other, the changes that each reaction of
a listener makes, up to its first failure.  A page that a listener asks for changes what its own event
changes.  Registry and events afterwards are what these changes make of them (`tracing_emit`).
-/

namespace Paging

open Tracing Act

/-! ## Changes -/

/-- A change that is made when an event is dealt with. -/
inductive Change
  /-- An event is kept, if events are captured. -/
  | kept (event : PageEvent)
  /-- A listener is registered once more. -/
  | added (listener : Nat)
  /-- The earliest registration of a listener is removed. -/
  | removed (listener : Nat)
  /-- Tracing is disabled, and listeners and events are forgotten. -/
  | disabled
  /-- The events are forgotten. -/
  | cleared
  deriving DecidableEq

namespace Change

/-- Makes a change. -/
def apply : Change → Tracing → Tracing
  | kept event => capture event
  | added listener => register listener
  | removed listener => unregister listener
  | disabled => fun _ => Tracing.disabled
  | cleared => clear

/-- Makes changes one after the other. -/
def applyAll (log : List Change) (t : Tracing) : Tracing := log.foldl (fun t c => c.apply t) t

@[simp]
theorem applyAll_nil (t : Tracing) : applyAll [] t = t := rfl

@[simp]
theorem applyAll_cons (c : Change) (log : List Change) (t : Tracing) :
    applyAll (c :: log) t = applyAll log (c.apply t) := rfl

@[simp]
theorem applyAll_append (log log' : List Change) (t : Tracing) :
    applyAll (log ++ log') t = applyAll log' (applyAll log t) := List.foldl_append

/-- A change that forgets the events. -/
def forgets : Change → Bool
  | disabled | cleared => true
  | kept _ | added _ | removed _ => false

/-- The event that is kept. -/
def kept? : Change → Option PageEvent
  | kept event => some event
  | _ => none

/-- If none of the changes forgets events, those that are kept come after those there were. -/
theorem events_applyAll {log : List Change} (h : ∀ c ∈ log, c.forgets = false) {t : Tracing}
    (hcaptures : t.captures = true) :
    (applyAll log t).events = t.events ++ log.filterMap kept? := by
  induction log generalizing t with
  | nil => simp
  | cons c log ih =>
    have hlog : ∀ c ∈ log, c.forgets = false := fun c hc => h c (List.mem_cons_of_mem _ hc)
    rw [applyAll_cons]
    cases c with
    | kept event =>
      rw [ih hlog (by simpa [apply] using hcaptures)]
      simp [apply, events_capture, hcaptures, kept?]
    | added i => exact ih hlog hcaptures
    | removed i => exact ih hlog hcaptures
    | disabled => exact absurd (h _ List.mem_cons_self) (by simp [forgets])
    | cleared => exact absurd (h _ List.mem_cons_self) (by simp [forgets])

end Change

open Change

/-! ## The changes that listeners make -/

/-- What a listener changes by a reaction.  `asked` says what the page changes that it asks for. -/
def Reaction.changes (asked : Int → Int → Service → List Change) (i : Nat) (w : Service) :
    Reaction → List Change
  | add other => ((w.listenerNamed other).map added).toList
  | remove other =>
    (((w.listenerNamed other).filter w.tracing.registry.contains).map removed).toList
  | disable => [disabled]
  | clear => [cleared]
  | nested page size =>
    match Service.claimNested i w with
    | (.ok false, v) => asked page size v
    | _ => []
  | record | raise _ | events => []

/-- What a listener changes by its reactions, up to its first failure. -/
def Listener.changes (ask : Int → Int → Act Unit) (asked : Int → Int → Service → List Change)
    (i : Nat) (listener : Listener) (event : PageEvent) : List Reaction → Service → List Change
  | [], _ => []
  | reaction :: rest, w => reaction.changes asked i w ++
    match reaction.perform ask i listener.name event w with
    | (.ok (), v) => listener.changes ask asked i event rest v
    | (.error _, _) => []

/-- What the listener changes to which an event is delivered. -/
def Tracing.Delivery.changesWith (ask : Int → Int → Act Unit)
    (asked : Int → Int → Service → List Change) (event : PageEvent) (d : Delivery) : List Change :=
  match d.before.listeners[d.entry]? with
  | none => []
  | some listener => listener.changes ask asked d.entry event listener.reactions d.before

namespace Tracing

/-- What dealing with an event changes. -/
def changesWith (ask : Int → Int → Act Unit) (asked : Int → Int → Service → List Change)
    (event : PageEvent) (w : Service) : List Change :=
  if w.tracing.enabled then
    kept event ::
      match announce event w with
      | (.ok (), u) => (deliveries ask event u.tracing.registry u).flatMap fun d =>
          d.changesWith ask asked event
      | (.error _, _) => []
  else []

/-! ## Pages that listeners ask for -/

/-- What a listener reads that asks for a page. -/
def nestedReading (r : Request) : Reading :=
  ⟨r.pullCall .fail, r, Async.ofAction (Act.ofExcept ((Stream.ofList nestedList).page .fail r).1)⟩

/-- The event of a page that a listener asks for, with the state in which it is dealt with, if the call
is accepted and told of. -/
def nestedEvent? (page size : Int) (w : Service) : Option (PageEvent × Service) :=
  match Request.check page size with
  | .error _ => none
  | .ok r =>
    match begin w with
    | (.ok (some start), u) =>
      match Service.readClock u with
      | (.ok stop, v) => some ((nestedReading r).event (Clock.elapsed start stop)
          ((Stream.ofList nestedList).page .fail r).1, v)
      | (.error _, _) => none
    | _ => none

/-- A report leaves behind what dealing with its event does. -/
theorem snd_report_some (emit : Emitter) (a : Reading) (start : Rat)
    (outcome : Except Fault (Page Value)) (w : Service) :
    (report emit a.call (some start) outcome w).2 =
      match Service.readClock w with
      | (.ok stop, v) => (emit (a.event (Clock.elapsed start stop) outcome) v).2
      | (.error _, v) => v := by
  have hconclude : ∀ page fault, (conclude emit a.call page fault (some start) w).2 =
      match Service.readClock w with
      | (.ok stop, v) => (emit (.ofCall a.call (Clock.elapsed start stop) page fault) v).2
      | (.error _, v) => v := by
    intro page fault
    rw [conclude, Action.bind_apply]
    rcases Service.readClock w with ⟨_ | stop, v⟩ <;> rfl
  cases outcome with
  | ok page =>
    exact (Action.view_bind id (fun _ _ => rfl) _ w).trans (hconclude (some page) none)
  | error fault =>
    exact (Action.view_bind id (fun _ _ => rfl) _ w).trans (hconclude none (some fault))

/-- A page that a listener asks for changes what its event changes. -/
theorem tracing_askWith (emit : Emitter) (page size : Int) (w : Service) :
    (askWith emit page size w).2.tracing =
      match nestedEvent? page size w with
      | some (event, v) => (emit event v).2.tracing
      | none => w.tracing := by
  rw [askWith, nestedEvent?]
  cases hcheck : Request.check page size with
  | error fault => rfl
  | ok r =>
    simp only
    have hserve : ∀ body : Act (Page Value), (discard (serve emit .fail r body) w).2.tracing =
        (follow emit (r.pullCall .fail) body w).2.tracing := fun body =>
      (Action.view_bind Service.tracing (fun _ _ => rfl) _ w).trans
        (Action.view_bind Service.tracing (fun _ _ => rfl) _ w)
    refine (hserve _).trans ?_
    have hbegin : (begin w).2.tracing = w.tracing := by rw [snd_begin]
    rw [follow, Action.bind_apply]
    rcases hbegun : begin w with ⟨fault | _ | start, u⟩ <;> rw [hbegun] at hbegin
    · exact hbegin
    · have hreport : ∀ outcome : Except Fault (Page Value),
          (report emit (r.pullCall .fail) none outcome u).2 = u := fun outcome => by
        cases outcome <;> rfl
      exact (congrArg Service.tracing (hreport _)).trans hbegin
    · refine (congrArg Service.tracing (snd_report_some emit (nestedReading r) start _ u)).trans ?_
      have hread := Service.tracing_readClock u
      rcases hclock : Service.readClock u with ⟨fault | stop, v⟩ <;> rw [hclock] at hread
      · simp only [hclock]
        exact hread.trans hbegin
      · simp only [hclock]

/-- Nothing has come of a call but that the clock has been read when its event is dealt with. -/
theorem nestedEvent?_eq_some {page size : Int} {w v : Service} {event : PageEvent}
    (h : nestedEvent? page size w = some (event, v)) :
    v.tracing = w.tracing ∧ v.listeners = w.listeners := by
  unfold nestedEvent? at h
  split at h
  · cases h
  · split at h
    · rename_i start u hbegin
      split at h
      · rename_i stop t hclock
        cases h
        have hu : u = { w with clock := u.clock } := by
          have hsnd := snd_begin w
          rw [hbegin] at hsnd
          exact hsnd
        rw [Service.readClock_eq_ok hclock, hu]
        exact ⟨rfl, rfl⟩
      · cases h
    · cases h

/-- What the page changes that a listener asks for, as its event does. -/
def askedChanges (changes : PageEvent → Service → List Change) (page size : Int) (w : Service) :
    List Change :=
  match nestedEvent? page size w with
  | some (event, v) => changes event v
  | none => []

/-- What a page changes that a listener asks for, with calls down to a depth. -/
def changesWithin : Nat → Int → Int → Service → List Change
  | 0 => fun _ _ _ => []
  | depth + 1 => askedChanges (changesWith (askWith emit) (changesWithin depth))

/-- What dealing with an event changes. -/
def changes (event : PageEvent) (w : Service) : List Change :=
  changesWith (askWith emit) (changesWithin (pendingNested w)) event w

/-! ## What the changes make of registry and events -/

/-- Exporting an event leaves the switches alone. -/
theorem tracing_exportSpan (event : PageEvent) (w : Service) :
    (exportSpan event w).2.tracing = w.tracing := by
  have hscribe : Scribe fun v w : Service => v.tracing = w.tracing :=
    { refl := fun _ => rfl, trans := Eq.trans, notice := fun _ _ => rfl, contact := fun _ _ => rfl }
  exact hscribe.within_exportSpan event w

variable {n : Nat} {ask : Int → Int → Act Unit} {asked : Int → Int → Service → List Change}
  {event : PageEvent} {w : Service}

/-- What a way to ask changes is known, as long as fewer than so many listeners have yet to ask. -/
def Accounts (n : Nat) (ask : Int → Int → Act Unit) (asked : Int → Int → Service → List Change) :
    Prop :=
  ∀ page size w, pendingNested w < n →
    (ask page size w).2.tracing = applyAll (asked page size w) w.tracing

/-- A reaction changes what it is said to. -/
theorem tracing_perform (hasked : Accounts n ask asked) (hw : pendingNested w ≤ n) (i : Nat)
    (name : String) (event : PageEvent) (reaction : Reaction) :
    (reaction.perform ask i name event w).2.tracing =
      applyAll (reaction.changes asked i w) w.tracing := by
  cases reaction with
  | record =>
    rw [Reaction.perform, Reaction.changes]
    cases event.fields? <;> rfl
  | raise fault => rfl
  | add other =>
    rw [Reaction.perform, Reaction.changes, Service.addListener]
    cases w.listenerNamed other <;> rfl
  | remove other =>
    rw [Reaction.perform, Reaction.changes, Service.removeListener]
    cases w.listenerNamed other with
    | none => rfl
    | some j =>
      simp only [Option.filter]
      cases w.tracing.registry.contains j <;> rfl
  | disable => rfl
  | clear => rfl
  | events => rfl
  | nested page size =>
    rw [Reaction.perform, Reaction.changes]
    rcases claimNested_cases i w with ⟨v, hclaim, hkept, _⟩ | ⟨v, hclaim, hkept, hcount⟩
    · rw [Action.bind_of_ok hclaim, hclaim]
      exact hkept
    · rw [Action.bind_of_ok hclaim, hclaim, ← hkept]
      exact hasked page size v (Nat.lt_of_lt_of_le hcount hw)

theorem tracing_react (hsettles : AskSettles ask) (hasked : Accounts n ask asked)
    (hw : pendingNested w ≤ n) (i : Nat) (listener : Listener) (reactions : List Reaction) :
    (listener.react ask i event reactions w).2.tracing =
      applyAll (listener.changes ask asked i event reactions w) w.tracing := by
  induction reactions generalizing w with
  | nil => rfl
  | cons reaction rest ih =>
    have hreaction := tracing_perform hasked hw i listener.name event reaction
    have hless := onlooker_pendingNested.within_perform hsettles i listener.name event reaction w
    rw [Listener.react, Listener.changes, Action.bind_apply, applyAll_append, ← hreaction]
    rcases hperformed : reaction.perform ask i listener.name event w with ⟨fault | _, v⟩
    · rfl
    · rw [hperformed] at hless
      exact ih (Nat.le_trans hless hw)

/-- A delivery changes what its listener does. -/
theorem tracing_resumed (hsettles : AskSettles ask) (hasked : Accounts n ask asked)
    (hw : pendingNested w ≤ n) (event : PageEvent) (i : Nat) :
    (Delivery.of ask event i w).resumed.tracing =
      applyAll ((Delivery.of ask event i w).changesWith ask asked event) w.tracing := by
  have hafter : (handle ask event i w).2.tracing =
      applyAll ((Delivery.of ask event i w).changesWith ask asked event) w.tracing := by
    rw [handle, Delivery.changesWith, Delivery.of]
    cases hlistener : w.listeners[i]? with
    | none => rfl
    | some listener => exact tracing_react hsettles hasked hw i listener listener.reactions
  rw [Delivery.resumed]
  cases (Delivery.of ask event i w).record? <;> exact hafter

theorem tracing_deliveries (hsettles : AskSettles ask) (hasked : Accounts n ask asked)
    (hw : pendingNested w ≤ n) (registry : List Nat) :
    (stateOf w (deliveries ask event registry w)).tracing =
      applyAll ((deliveries ask event registry w).flatMap fun d => d.changesWith ask asked event)
        w.tracing := by
  induction registry generalizing w with
  | nil => rfl
  | cons i rest ih =>
    have hdelivery := tracing_resumed hsettles hasked hw event i
    have hless := pendingNested_resumed hsettles event i w
    rw [deliveries, stateOf_cons, List.flatMap_cons, applyAll_append, ← hdelivery]
    cases (Delivery.of ask event i w).stop? with
    | none => exact ih (Nat.le_trans hless hw)
    | some fault => rfl

theorem tracing_emitWith (hsettles : AskSettles ask) (hasked : Accounts n ask asked)
    (hw : pendingNested w ≤ n) :
    (emitWith ask event w).2.tracing = applyAll (changesWith ask asked event w) w.tracing := by
  cases hon : w.tracing.enabled with
  | false =>
    rw [emitWith_of_off hon, changesWith]
    simp [hon]
  | true =>
    have htold : (emitWith ask event w).2.tracing = (tellWith ask event w).2.tracing := by
      rw [emitWith_of_on hon]
      exact Action.view_bind Service.tracing (fun _ => tracing_exportSpan event) _ w
    rw [htold, changesWith]
    simp only [hon, if_true, applyAll_cons]
    rcases hannounced : announce event w with ⟨fault | _, u⟩
    · rw [tellWith_apply, Action.bind_of_error hannounced]
      exact (of_announce_eq hannounced).1
    · have hu : pendingNested u ≤ n := by rwa [pendingNested_of_announce_eq hannounced]
      rw [tellWith_of_announced hannounced, notify_eq]
      exact (tracing_deliveries hsettles hasked hu _).trans
        (congrArg _ (of_announce_eq hannounced).1)

/-- Depths that reach the number of listeners that have yet to ask account for what is asked. -/
theorem accounts_changesWithin (n : Nat) : Accounts n (askWith emit) (changesWithin n) := by
  -- the event of what is asked for is dealt with in a state in which one listener fewer has yet to ask
  induction n with
  | zero => exact fun _ _ w hw => absurd hw (Nat.not_lt_zero _)
  | succ n ih =>
    intro page size w hw
    rw [tracing_askWith, changesWithin, askedChanges]
    cases hevent : nestedEvent? page size w with
    | none => rfl
    | some told =>
      obtain ⟨event, v⟩ := told
      obtain ⟨htracing, hlisteners⟩ := nestedEvent?_eq_some hevent
      have hv : pendingNested v ≤ n := by
        rw [pendingNested, hlisteners]
        exact Nat.le_of_lt_succ hw
      simp only
      rw [emit_nested, ← htracing]
      exact tracing_emitWith settles_askWith_emit ih hv

/-- **The changes are all there is.**  What dealing with an event makes of registry, events and switches
is what its changes make of them, one after the other. -/
theorem tracing_emit (event : PageEvent) (w : Service) :
    (emit event w).2.tracing = applyAll (changes event w) w.tracing := by
  rw [emit_nested]
  exact tracing_emitWith settles_askWith_emit (accounts_changesWithin _) (Nat.le_refl _)

/-! ## The depth is no bound -/

section

variable {asked' : Int → Int → Service → List Change}

theorem reactionChanges_congr (hasked : AskAlike n asked asked') (hw : pendingNested w ≤ n) (i : Nat)
    (reaction : Reaction) : reaction.changes asked i w = reaction.changes asked' i w := by
  cases reaction with
  | nested page size =>
    rw [Reaction.changes, Reaction.changes]
    rcases claimNested_cases i w with ⟨v, hclaim, _⟩ | ⟨v, hclaim, _, hcount⟩
    · rw [hclaim]
    · rw [hclaim]
      exact hasked page size v (Nat.lt_of_lt_of_le hcount hw)
  | _ => rfl

theorem listenerChanges_congr (hsettles : AskSettles ask) (hasked : AskAlike n asked asked')
    (hw : pendingNested w ≤ n) (i : Nat) (listener : Listener) (reactions : List Reaction) :
    listener.changes ask asked i event reactions w =
      listener.changes ask asked' i event reactions w := by
  induction reactions generalizing w with
  | nil => rfl
  | cons reaction rest ih =>
    have hless := onlooker_pendingNested.within_perform hsettles i listener.name event reaction w
    rw [Listener.changes, Listener.changes, reactionChanges_congr hasked hw i reaction]
    rcases hperformed : reaction.perform ask i listener.name event w with ⟨fault | _, v⟩
    · rfl
    · rw [hperformed] at hless
      simp only
      rw [ih (Nat.le_trans hless hw)]

theorem deliveryChanges_congr (hsettles : AskSettles ask) (hasked : AskAlike n asked asked')
    {d : Delivery} (hd : pendingNested d.before ≤ n) :
    d.changesWith ask asked event = d.changesWith ask asked' event := by
  rw [Delivery.changesWith, Delivery.changesWith]
  cases d.before.listeners[d.entry]? with
  | none => rfl
  | some listener =>
    exact listenerChanges_congr hsettles hasked hd d.entry listener listener.reactions

theorem changesWith_congr (hsettles : AskSettles ask) (hasked : AskAlike n asked asked')
    (hw : pendingNested w ≤ n) (event : PageEvent) :
    changesWith ask asked event w = changesWith ask asked' event w := by
  rw [changesWith, changesWith]
  rcases hannounced : announce event w with ⟨fault | _, u⟩
  · rfl
  · have hu : pendingNested u ≤ n := by rwa [pendingNested_of_announce_eq hannounced]
    simp only
    rw [List.flatMap_congr fun d hd => deliveryChanges_congr hsettles hasked
      (Nat.le_trans (pendingNested_before hsettles hd) hu)]

end

/-- What a page changes that a listener asks for depends only on what its event changes. -/
theorem askedChanges_congr {changes changes' : PageEvent → Service → List Change}
    (hchanges : ∀ event w, pendingNested w ≤ n → changes event w = changes' event w)
    (hw : pendingNested w ≤ n) (page size : Int) :
    askedChanges changes page size w = askedChanges changes' page size w := by
  rw [askedChanges, askedChanges]
  cases hevent : nestedEvent? page size w with
  | none => rfl
  | some told =>
    obtain ⟨event, v⟩ := told
    obtain ⟨_, hlisteners⟩ := nestedEvent?_eq_some hevent
    apply hchanges event v
    rw [pendingNested, hlisteners]
    exact hw

/-- Depths that reach the number of listeners that have yet to ask say the same of what they change. -/
theorem changesWithin_alike {depth depth' : Nat} (hdepth : n ≤ depth) (hdepth' : n ≤ depth') :
    AskAlike n (changesWithin depth) (changesWithin depth') := by
  induction n generalizing depth depth' with
  | zero => exact fun _ _ w hw => absurd hw (Nat.not_lt_zero _)
  | succ n ih =>
    obtain ⟨depth, rfl⟩ := Nat.exists_eq_add_of_lt hdepth
    obtain ⟨depth', rfl⟩ := Nat.exists_eq_add_of_lt hdepth'
    intro page size w hw
    apply askedChanges_congr (n := n) _ (Nat.le_of_lt_succ hw)
    exact fun event v hv => changesWith_congr settles_askWith_emit
      (ih (Nat.le_add_right _ _) (Nat.le_add_right _ _)) hv event

/-- What the listener changes to which an event is delivered. -/
def Delivery.changes (event : PageEvent) (d : Delivery) : List Change :=
  d.changesWith (askWith emit) (askedChanges Tracing.changes) event

/-- **The changes of an event** are that it is kept, and then those of its deliveries, where a page that
a listener asks for changes what its own event does. -/
theorem changes_of_announced {u : Service} (hon : w.tracing.enabled = true)
    (h : announce event w = (.ok (), u)) :
    changes event w = kept event ::
      (deliveries (askWith emit) event u.tracing.registry u).flatMap (Delivery.changes event) := by
  have halike : AskAlike (pendingNested w) (changesWithin (pendingNested w))
      (askedChanges changes) := by
    intro page size v hv
    obtain ⟨depth, hdepth⟩ := Nat.exists_eq_add_of_lt hv
    rw [hdepth]
    apply askedChanges_congr _ (Nat.le_add_right _ depth)
    exact fun event u hu => changesWith_congr settles_askWith_emit
      (changesWithin_alike hu (Nat.le_refl _)) (Nat.le_refl _) event
  rw [changes, changesWith_congr settles_askWith_emit halike (Nat.le_refl _), changesWith, h]
  simp only [hon, if_true]
  rfl

end Tracing

end Paging
