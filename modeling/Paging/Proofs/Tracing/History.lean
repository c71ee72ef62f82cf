import Mathlib.Data.List.Forall2
import Paging.Proofs.Effect.Pool
import Paging.Proofs.Tracing.Quiet

/-!
# Paging.Proofs.Tracing.History — the captured events are the history of traced calls

Calls take turns, are cancelled or let go of, and between their moves tracing is enabled, disabled or
made to forget.  What has happened is written down apart from the state (`History`): which call was
moved, whether it began with that, and what it ended with if it did.  From the history alone it is said
which calls are to be told of: those that were accepted, began while tracing was on, and ended while
tracing was on and events were captured (`History.told`), as far as nothing made tracing forget since
(`History.captured`).  At every moment the captured events are the events of these calls, one for each
and in the order in which they ended (`Chronicle.captured_events_eq_history`).

What is known of a call between its moves is how it will be closed: a call that waits has begun with a
reading of the clock exactly if tracing was on (`Chronicle.Stands`).
-/

namespace Paging

open Tracing

/-! ## What is done and what happens -/

/-- A switch of tracing that a program turns. -/
inductive Switch
  /-- The threshold can be written into a notice. -/
  | enable (threshold : Millis) (captures : Bool)
      (writable : (threshold.fixed? 1).isSome = true)
  | disable
  | clear

/-- The usual threshold can be written. -/
theorem Switch.writable_usual : (Tracing.disabled.threshold.fixed? 1).isSome = true := rfl

/-- What a switch does to the tracing state. -/
def Switch.apply : Switch → Tracing → Tracing
  | enable threshold captures _ => Tracing.enable threshold captures
  | disable => fun _ => Tracing.disabled
  | clear => Tracing.clear

/-- Something done to calls that take turns. -/
inductive Deed (ι : Type)
  | move (who : ι) (m : Move Fault)
  | turn (s : Switch)

/-- Something that has happened. -/
inductive Happening (ι : Type)
  /-- A call was moved.  It may have begun with that, and it may have ended. -/
  | moved (who : ι) (begins : Bool) (outcome : Option (Except Fault (Page Value)))
  | turned (s : Switch)

/-- What has happened, the latest first. -/
abbrev History (ι : Type) : Type := List (Happening ι)

/-- What a task ended with, if that is what came of a move. -/
def Progress.result? {ε α : Type} : Progress ε α → Option (Except ε α)
  | ended result => some result
  | _ => none

/-- What a task ends with when it is moved, if it does.  A task that is let go of ends unheard. -/
def Move.outcome {σ ε α : Type} (m : Move ε) (t : Task σ ε α) (s : σ) : Option (Except ε α) :=
  match m with
  | step => (t.step s).1.result?
  | cancel e | abandon e => (t.cancel e s).1.result?

/-- Calls that take turns, and what has happened to them. -/
structure Chronicle (ι : Type) where
  pool : Pool ι Service Fault (Page Value)
  past : History ι

namespace Chronicle

variable {ι : Type}

/-- Nothing has happened, and no call has begun. -/
def start (w : Service) (calls : ι → Inquiry) : Chronicle ι :=
  ⟨Pool.start w fun i => (calls i).body, []⟩

variable [DecidableEq ι]

/-- Does one thing and writes down what happens. -/
def perform (C : Chronicle ι) : Deed ι → Chronicle ι
  | .move i m =>
    ⟨C.pool.move i m,
      .moved i (m.begins (C.pool.tasks i)) (m.outcome (C.pool.tasks i) C.pool.state) :: C.past⟩
  | .turn s =>
    ⟨{ C.pool with state := (Service.tracingUpdate s.apply C.pool.state).2 }, .turned s :: C.past⟩

/-- Does one thing after the other. -/
def run (C : Chronicle ι) (deeds : List (Deed ι)) : Chronicle ι := deeds.foldl perform C

end Chronicle

/-! ## What a history says -/

/-- Whether tracing is on and whether events are captured. -/
structure Switches where
  enabled : Bool
  captures : Bool
  deriving DecidableEq

/-- The switches of a tracing state. -/
def Tracing.switches (t : Tracing) : Switches := ⟨t.enabled, t.captures⟩

namespace History

variable {ι : Type} [DecidableEq ι]

/-- The switches after a history that began with `first`. -/
def switches (first : Switches) : History ι → Switches
  | [] => first
  | .turned (.enable _ captures _) :: _ => ⟨true, captures⟩
  | .turned .disable :: _ => ⟨false, false⟩
  | _ :: past => switches first past

/-- Whether a call has begun while tracing was on. -/
def beganTraced (first : Switches) (i : ι) : History ι → Bool
  | [] => false
  | .moved j true _ :: past =>
    if j = i then (switches first past).enabled else beganTraced first i past
  | _ :: past => beganTraced first i past

/-- How often a call has ended. -/
def endings (i : ι) : History ι → Nat
  | [] => 0
  | .moved j _ (some _) :: past => endings i past + if j = i then 1 else 0
  | _ :: past => endings i past

/-- What is to be told when a call has just been moved: the call and its outcome, or nothing.  A call
that is refused is not told of. -/
def told (first : Switches) (c : Inquiry) (i : ι) (outcome : Option (Except Fault (Page Value)))
    (past : History ι) : List (Call × Except Fault (Page Value)) :=
  match c.accepted, outcome with
  | .ok _, some result =>
    if beganTraced first i past && (switches first past).enabled && (switches first past).captures
    then [(c.call, result)] else []
  | _, _ => []

/-- The calls that were to be told of, since tracing was last made to forget. -/
def captured (first : Switches) (calls : ι → Inquiry) :
    History ι → List (Call × Except Fault (Page Value))
  | [] => []
  | .moved i begins outcome :: past =>
    captured first calls past ++
      told first (calls i) i outcome (.moved i begins outcome :: past)
  | .turned (.enable ..) :: past => captured first calls past
  | .turned _ :: _ => []

variable {first : Switches} {c : Inquiry} {i j : ι} {begins : Bool}
  {outcome : Option (Except Fault (Page Value))} {past : History ι}

theorem beganTraced_moved_self : beganTraced first i (.moved i begins outcome :: past) =
    if begins then (switches first past).enabled else beganTraced first i past := by
  cases begins with
  | true => exact if_pos rfl
  | false => rfl

theorem beganTraced_moved_of_ne (h : i ≠ j) :
    beganTraced first j (.moved i begins outcome :: past) = beganTraced first j past := by
  cases begins with
  | true => exact if_neg h
  | false => rfl

theorem endings_moved_self : endings i (.moved i begins outcome :: past) =
    endings i past + if outcome.isSome then 1 else 0 := by
  cases outcome with
  | none => rfl
  | some result => exact congrArg (endings i past + ·) (if_pos rfl)

/-- A call that has not ended before ends at most once with a move. -/
theorem endings_moved_le_one (h : endings i past = 0) :
    endings i (.moved i begins outcome :: past) ≤ 1 := by
  rw [endings_moved_self, h]
  split <;> decide

theorem endings_moved_of_ne (h : i ≠ j) :
    endings j (.moved i begins outcome :: past) = endings j past := by
  cases outcome with
  | none => rfl
  | some result => exact congrArg (endings j past + ·) (if_neg h)

/-- Nothing is told of a call that has not ended. -/
@[simp]
theorem told_none : told first c i none past = [] := by
  unfold told
  cases c.accepted <;> rfl

/-- Nothing is told of a call that is refused. -/
theorem told_of_refused {fault : Fault} (h : c.accepted = .error fault) :
    told first c i outcome past = [] := by
  unfold told
  rw [h]

/-- Nothing is told of a call that has not begun while tracing was on. -/
theorem told_of_untraced (h : beganTraced first i past = false) :
    told first c i outcome past = [] := by
  unfold told
  rw [h]
  cases c.accepted <;> cases outcome <;> rfl

theorem told_of_accepted {a : Reading} (h : c.accepted = .ok a)
    (result : Except Fault (Page Value)) : told first c i (some result) past =
      if beganTraced first i past && (switches first past).enabled &&
        (switches first past).captures then [(c.call, result)] else [] := by
  unfold told
  rw [h]

end History

/-! ## Events -/

/-- An event tells of a call and its outcome: what was asked for, and either the page or the class of
the fault, never both. -/
def PageEvent.Tells (event : PageEvent) (told : Call × Except Fault (Page Value)) : Prop :=
  event.operation = told.1.operation ∧ event.targetPage = told.1.targetPage ∧
    event.pageSize = told.1.pageSize ∧ event.strategy = told.1.strategy.name ∧
    match told.2 with
    | .ok page => event.error = none ∧ event.pageNumber = some page.number ∧
      event.elementCount = some (page.elements.length : Int) ∧ event.isLast = some page.isLast
    | .error fault => event.error = some fault.kind.name ∧ event.pageNumber = none ∧
      event.elementCount = none ∧ event.isLast = none

theorem Reading.tells_event (a : Reading) (duration : Millis) (outcome : Except Fault (Page Value)) :
    (a.event duration outcome).Tells (a.call, outcome) := by
  cases outcome <;> exact ⟨rfl, rfl, rfl, rfl, rfl, rfl, rfl, rfl⟩

/-! ## Calls between their moves -/

namespace Reading

variable {a : Reading} {start : Option Rat} {s : Service}

/-- What is left of a call that waits: the rest of its reading, after which it is closed.  If it is
cancelled, the reading is over. -/
def Remains (a : Reading) (start : Option Rat)
    (resume : Option Fault → Service → Suspension Service Fault (Page Value)) : Prop :=
  ∃ rest : Option Fault → Service → Suspension Service Fault (Page Value),
    (∀ signal u, resume signal u = (rest signal u).andThen (a.closing start)) ∧
    (∀ u, Matches u u (rest none u) (rest none u)) ∧
    ∀ e u, rest (some e) u = .done (.error e) u

/-- **A piece of a call in a quiet state** closes the call, or leaves the events alone and waits. -/
theorem piece_of_quiet (a : Reading) (start : Option Rat) (hs : s.Quiet)
    {x : Suspension Service Fault (Page Value)} (hx : Matches s s x x) :
    (∃ duration outcome v, x.andThen (a.closing start) = .done outcome v ∧
      s.Appends (if start.isSome && s.tracing.enabled && s.tracing.captures
        then [a.event duration outcome] else []) v) ∨
    ∃ label v resume, x.andThen (a.closing start) = .waiting label v resume ∧ s.Appends [] v ∧
      a.Remains start resume := by
  cases x with
  | done outcome u =>
    have htells : u.TellsLike s := hx.2.left
    obtain ⟨duration, v, hclose, hv⟩ := a.close_of_quiet start outcome (htells.quiet hs)
    refine .inl ⟨duration, outcome, v, ?_, ?_⟩
    · rw [Suspension.andThen_done, closing_of_close hclose]
    · rw [← htells.tracing]
      exact hv.after htells.logsLike
  | waiting label u resume =>
    obtain ⟨_, hkeeps, hresume, hcancel⟩ := hx
    have htells : u.TellsLike s := hkeeps.left
    refine .inr ⟨label, u, _, rfl, (htells.quiet hs).appends_nil.after htells.logsLike, resume,
      fun _ _ => rfl, fun v => hresume v v (.refl v), fun e v => (hcancel e v).1⟩

/-- A call that is cancelled where it waits ends with the fault that it is given. -/
theorem Remains.cancelled {resume : Option Fault → Service → Suspension Service Fault (Page Value)}
    (h : a.Remains start resume) (hs : s.Quiet) (e : Fault) :
    (Move.cancel e).outcome (.waiting resume) s = some (.error e) := by
  obtain ⟨rest, hresume, _, hcancel⟩ := h
  obtain ⟨_, v, hclose, _⟩ := a.close_of_quiet start (.error e) hs
  show (Task.settle (resume (some e) s)).1.result? = _
  rw [hresume, hcancel, Suspension.andThen_done, closing_of_close hclose]
  rfl

end Reading

namespace Chronicle

variable {ι : Type} [DecidableEq ι] {first : Switches} {calls : ι → Inquiry} {past : History ι}
  {i j : ι} {s : Service} {begins : Bool} {outcome : Option (Except Fault (Page Value))}

/-- What is known of a call between its moves, after what has happened. -/
def Stands (first : Switches) (calls : ι → Inquiry) (past : History ι) (i : ι) :
    Task Service Fault (Page Value) → Prop
  | .fresh body => body = (calls i).body ∧ past.beganTraced first i = false ∧ past.endings i = 0
  | .waiting resume => past.endings i = 0 ∧ ∃ a start, (calls i).accepted = .ok a ∧
    start.isSome = past.beganTraced first i ∧ a.Remains start resume
  | .finished => past.endings i ≤ 1

/-- What is known of a call is still known when another one has been moved. -/
theorem Stands.moved_of_ne {t : Task Service Fault (Page Value)} (h : Stands first calls past j t)
    (hne : i ≠ j) : Stands first calls (.moved i begins outcome :: past) j t := by
  cases t with
  | fresh body =>
    rw [Stands, History.beganTraced_moved_of_ne hne, History.endings_moved_of_ne hne]
    exact h
  | waiting resume =>
    rw [Stands, History.beganTraced_moved_of_ne hne, History.endings_moved_of_ne hne]
    exact h
  | finished =>
    rw [Stands, History.endings_moved_of_ne hne]
    exact h

theorem Stands.endings_le_one {t : Task Service Fault (Page Value)} (h : Stands first calls past i t) :
    past.endings i ≤ 1 := by
  cases t with
  | fresh body => exact h.2.2 ▸ Nat.zero_le 1
  | waiting resume => exact h.1 ▸ Nat.zero_le 1
  | finished => exact h

/-- A move accords with what has happened, itself included: it adds the event that is to be told, if
there is one, and what is to be known of the call is known of what is left of it. -/
structure Accords (first : Switches) (calls : ι → Inquiry) (past : History ι) (i : ι)
    (outcome : Option (Except Fault (Page Value))) (s : Service)
    (left : Task Service Fault (Page Value) × Service) : Prop where
  appends : ∃ events, s.Appends events left.2 ∧
    List.Forall₂ PageEvent.Tells events (past.told first (calls i) i outcome)
  stands : Stands first calls past i left.1

/-- What is done before the move, without touching the events, does not count. -/
theorem Accords.after {u : Service} {left : Task Service Fault (Page Value) × Service}
    (h : Accords first calls past i outcome u left) (hu : u.LogsLike s) :
    Accords first calls past i outcome s left := by
  obtain ⟨events, happends, htells⟩ := h.appends
  exact ⟨⟨events, happends.after hu, htells⟩, h.stands⟩

/-- A move that leaves everything as it is accords with what has happened if nothing is to be told. -/
theorem accords_of_still (hs : s.Quiet) (htold : past.told first (calls i) i outcome = [])
    (hendings : past.endings i ≤ 1) :
    Accords first calls past i outcome s (.finished, s) :=
  ⟨⟨[], hs.appends_nil, htold ▸ .nil⟩, hendings⟩

/-- A piece of a call that has begun accords with what has happened. -/
theorem accords_piece {a : Reading} (haccepted : (calls i).accepted = .ok a) (hs : s.Quiet)
    (hswitches : s.tracing.switches = past.switches first) {start : Option Rat}
    (hstart : start.isSome =
      if begins then (past.switches first).enabled else past.beganTraced first i)
    (hendings : past.endings i = 0) {x : Suspension Service Fault (Page Value)}
    (hx : Matches s s x x)
    (houtcome : outcome = (Task.settle (x.andThen (a.closing start))).1.result?) :
    Accords first calls (.moved i begins outcome :: past) i outcome s
      (Task.settle (x.andThen (a.closing start))).2 := by
  have hbegan : start.isSome = History.beganTraced first i (.moved i begins outcome :: past) :=
    hstart.trans History.beganTraced_moved_self.symm
  rcases a.piece_of_quiet start hs hx with
    ⟨duration, result, v, hpiece, hv⟩ | ⟨label, v, resume, hpiece, hv, hremains⟩
  · -- the call is over
    rw [hpiece] at houtcome ⊢
    obtain rfl : outcome = some result := houtcome
    refine ⟨⟨_, hv, ?_⟩, ?_⟩
    · have hnow : History.switches first (.moved i begins (some result) :: past) =
          s.tracing.switches := hswitches.symm
      rw [History.told_of_accepted haccepted, hnow, ← hbegan,
        ← Inquiry.call_of_accepted haccepted]
      show List.Forall₂ _ _ (if start.isSome && s.tracing.enabled && s.tracing.captures
        then [(a.call, result)] else [])
      split
      · exact .cons (a.tells_event duration result) .nil
      · exact .nil
    · exact History.endings_moved_le_one hendings
  · -- the call waits
    rw [hpiece] at houtcome ⊢
    obtain rfl : outcome = none := houtcome
    refine ⟨⟨[], hv, ?_⟩, ?_, a, start, haccepted, hbegan, hremains⟩
    · rw [History.told_none]
      exact .nil
    · rw [History.endings_moved_self, hendings]
      rfl

/-- **A move of a call accords with what has happened.** -/
theorem Stands.move {t : Task Service Fault (Page Value)} (ht : Stands first calls past i t)
    (hs : s.Quiet) (hswitches : s.tracing.switches = past.switches first) (m : Move Fault) :
    Accords first calls (.moved i (m.begins t) (m.outcome t s) :: past) i (m.outcome t s) s
      (m.apply t s).2 := by
  cases t with
  | fresh body =>
    obtain ⟨rfl, hbegan, hendings⟩ := ht
    by_cases hm : m = .step
    · subst hm
      cases haccepted : (calls i).accepted with
      | error fault =>
        have hbody : (calls i).body s = .done (.error fault) s := by
          rw [Inquiry.body_of_refused haccepted]
          rfl
        rw [Move.apply_fresh_of_done hbody]
        exact accords_of_still hs (History.told_of_refused haccepted)
          (History.endings_moved_le_one hendings)
      | ok a =>
        obtain ⟨hbody, hreads⟩ := Inquiry.body_of_accepted haccepted
        obtain ⟨start, u, hbegin, hstart, hu, hlogs⟩ := begin_of_quiet hs
        have htraced : (calls i).body s = (a.read u).andThen (a.closing start) := by
          rw [hbody, Reading.traced_apply hbegin]
        have hnow : u.tracing.switches = s.tracing.switches :=
          congrArg₂ Switches.mk hlogs.enabled hlogs.captures
        show Accords _ _ (.moved i true (Task.settle ((calls i).body s)).1.result? :: past) _
          (Task.settle ((calls i).body s)).1.result? _ (Task.settle ((calls i).body s)).2
        rw [htraced]
        have htraced : start.isSome = (past.switches first).enabled :=
          hstart.trans (congrArg Switches.enabled hswitches)
        exact (accords_piece haccepted hu (hnow.trans hswitches) htraced hendings
          (hreads u u (.refl u)) rfl).after hlogs
    · rw [Move.apply_fresh_of_ne hm, Move.begins_of_ne hm]
      exact accords_of_still hs
        (History.told_of_untraced (History.beganTraced_moved_self.trans hbegan))
        (History.endings_moved_le_one hendings)
  | waiting resume =>
    obtain ⟨hendings, a, start, haccepted, hstart, rest, hresume, hmatches, hcancel⟩ := ht
    obtain ⟨hstate, htask⟩ := Move.apply_waiting m resume s
    have hx : Matches s s (rest m.signal s) (rest m.signal s) := by
      cases m with
      | step => exact hmatches s
      | cancel e | abandon e =>
        show Matches s s (rest (some e) s) (rest (some e) s)
        rw [hcancel]
        exact ⟨rfl, (Service.SuppliesLike.refl s).keeps⟩
    have hbegan : start.isSome =
        if false then (past.switches first).enabled else past.beganTraced first i := hstart
    have houtcome : m.outcome (.waiting resume) s =
        (Task.settle ((rest m.signal s).andThen (a.closing start))).1.result? := by
      rw [← hresume]
      cases m <;> rfl
    have hpiece := accords_piece haccepted hs hswitches hbegan hendings hx houtcome
    rw [← hresume] at hpiece
    rw [Move.begins_waiting]
    refine ⟨hstate ▸ hpiece.appends, ?_⟩
    rcases htask with htask | htask
    · rw [htask]
      exact hpiece.stands.endings_le_one
    · rw [htask]
      exact hpiece.stands
  | finished =>
    have houtcome : m.outcome (.finished : Task Service Fault (Page Value)) s = none := by
      cases m <;> rfl
    rw [houtcome, Move.apply_finished, Move.begins_finished]
    exact accords_of_still hs History.told_none ht

/-! ## The whole chronicle -/

variable {C : Chronicle ι}

/-- The captured events are the history, and every call stands as its history says. -/
structure Kept (first : Switches) (calls : ι → Inquiry) (C : Chronicle ι) : Prop where
  quiet : C.pool.state.Quiet
  switches : C.pool.state.tracing.switches = C.past.switches first
  events : List.Forall₂ PageEvent.Tells C.pool.state.tracing.events (C.past.captured first calls)
  stands : ∀ i, Stands first calls C.past i (C.pool.tasks i)

theorem kept_start {w : Service} (hw : w.Quiet) (hempty : w.tracing.events = [])
    (calls : ι → Inquiry) : (start w calls).Kept w.tracing.switches calls where
  quiet := hw
  switches := rfl
  events := by
    show List.Forall₂ _ w.tracing.events []
    rw [hempty]
    exact .nil
  stands _ := ⟨rfl, rfl, rfl⟩

theorem Kept.move (h : C.Kept first calls) (i : ι) (m : Move Fault) :
    (C.perform (.move i m)).Kept first calls := by
  obtain ⟨⟨events, happends, htells⟩, hstands⟩ := (h.stands i).move h.quiet h.switches m
  refine ⟨happends.quiet, ?_, ?_, ?_⟩
  · exact (congrArg₂ Switches.mk happends.enabled happends.captures).trans h.switches
  · show List.Forall₂ _ (m.apply (C.pool.tasks i) C.pool.state).2.2.tracing.events _
    rw [happends.events]
    exact List.rel_append h.events htells
  · intro j
    by_cases hj : i = j
    · subst hj
      show Stands _ _ _ _ ((C.pool.move i m).tasks i)
      rw [Pool.tasks_move_self]
      exact hstands
    · show Stands _ _ _ _ ((C.pool.move i m).tasks j)
      rw [Pool.tasks_move_of_ne (Ne.symm hj)]
      exact (h.stands j).moved_of_ne hj

theorem Kept.turn (h : C.Kept first calls) (s : Switch) :
    (C.perform (.turn s)).Kept first calls := by
  have hcontained := h.quiet.toContained
  have hquiet : ∀ t : Tracing, (t.threshold.fixed? 1).isSome = true →
      Service.Quiet { C.pool.state with tracing := t } := fun t ht =>
    ⟨⟨hcontained.listeners, hcontained.exporter, hcontained.clock, ht⟩, h.quiet.quiet⟩
  -- no call is moved, and so each stands as before
  cases s with
  | enable threshold captures hwritable =>
    exact ⟨hquiet _ hwritable, rfl, h.events, h.stands⟩
  | disable => exact ⟨hquiet _ Switch.writable_usual, rfl, .nil, h.stands⟩
  | clear => exact ⟨hquiet _ hcontained.threshold, h.switches, .nil, h.stands⟩

theorem Kept.run (h : C.Kept first calls) (deeds : List (Deed ι)) : (C.run deeds).Kept first calls := by
  induction deeds generalizing C with
  | nil => exact h
  | cons deed rest ih =>
    cases deed with
    | move i m => exact ih (h.move i m)
    | turn s => exact ih (h.turn s)

/-- **The captured events are the history of traced calls.**  Whatever calls are made, however they
take turns, are cancelled or let go of, and whenever tracing is switched in between, the captured
events are those of the calls that are to be told of, in the order in which these ended.  Each call
ends at most once, and a call that is cancelled where it waits ends with the fault that it is given. -/
theorem captured_events_eq_history {w : Service} (hw : w.Quiet) (hempty : w.tracing.events = [])
    (calls : ι → Inquiry) (deeds : List (Deed ι)) (hC : C = (start w calls).run deeds) :
    List.Forall₂ PageEvent.Tells C.pool.state.tracing.events
      (C.past.captured w.tracing.switches calls) ∧
    (∀ i, C.past.endings i ≤ 1) ∧
    ∀ i e resume, C.pool.tasks i = .waiting resume →
      (Move.cancel e).outcome (C.pool.tasks i) C.pool.state = some (.error e) := by
  have hkept : C.Kept w.tracing.switches calls := by
    rw [hC]
    exact (kept_start hw hempty calls).run deeds
  refine ⟨hkept.events, fun i => (hkept.stands i).endings_le_one, fun i e resume hwaits => ?_⟩
  have hstands := hkept.stands i
  rw [hwaits] at hstands ⊢
  obtain ⟨_, a, start, _, _, hremains⟩ := hstands
  exact hremains.cancelled hkept.quiet e

end Chronicle

/-- A state in which nothing is traced yet and the one listener fails. -/
def Service.untold : Service where
  tracing := { registry := [0] }
  listeners := [⟨"audit", [.record, .raise (.raised .valueError "full")], false⟩]
  clock := { tick := 1, face := fun count => some count }

theorem Service.quiet_untold : untold.Quiet := by
  refine ⟨⟨?_, by rintro e ⟨⟩, fun _ => rfl, by decide +kernel⟩, ?_⟩
  · intro l hl fault hfault
    obtain rfl := List.mem_singleton.1 hl
    simp only [List.mem_cons, reduceCtorEq, false_or, List.not_mem_nil, or_false,
      Reaction.raise.injEq] at hfault
    rw [hfault]
    rfl
  · intro l hl reaction hreaction
    obtain rfl := List.mem_singleton.1 hl
    simp only [List.mem_cons, List.not_mem_nil, or_false] at hreaction
    rcases hreaction with rfl | rfl <;> trivial

namespace Chronicle

/-- Two calls on a chain that makes its readers wait, one on a stream, and others for no page. -/
def four : Nat → Inquiry
  | 0 | 1 => .feed ⟨.fail⟩
      (some (.chain ⟨[⟨[.int 6], none, none⟩, ⟨[.int 7], none, none⟩], true⟩ 0)) 1 2
  | 2 => .stream ⟨.fail⟩ (some (.fresh (.ofList [.int 1, .int 2]))) 1 2
  | _ => .stream ⟨.fail⟩ (some (.fresh (.ofList [.int 1, .int 2]))) 0 2

/-- The first call begins before tracing is enabled and the second one after it.  While both wait the
others are made; then the first goes on, and the second is cancelled. -/
def mixed : List (Deed Nat) :=
  [.move 0 .step, .turn (.enable Tracing.disabled.threshold true Switch.writable_usual),
    .move 1 .step, .move 2 .step, .move 3 .step, .move 0 .step, .move 1 (.cancel .cancellation)]

/-- Two calls are told of: the one on the stream, which ended first, and the one that was cancelled. -/
theorem captured_events_eq_history_of_mixed :
    Service.untold.Quiet ∧ Service.untold.tracing.events = [] ∧
    List.Forall₂ PageEvent.Tells ((start .untold four).run mixed).pool.state.tracing.events
      (((start .untold four).run mixed).past.captured ⟨false, false⟩ four) ∧
    ((((start .untold four).run mixed).past.captured ⟨false, false⟩ four).map fun told =>
      (told.1, told.2.map (·.number))) =
      [(⟨"get_page", 1, 2, .fail⟩, .ok 1), (⟨"get_page_async", 1, 2, .fail⟩, .error .cancellation)] :=
  ⟨Service.quiet_untold, rfl,
    (captured_events_eq_history Service.quiet_untold rfl four mixed rfl).1, by decide +kernel⟩

end Chronicle

end Paging
