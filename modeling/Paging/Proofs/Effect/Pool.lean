import Mathlib.Logic.Function.Basic
import Paging.Effect.Task

/-!
# Paging.Proofs.Effect.Pool — tasks that take turns

Several tasks run on one state.  A scheduler picks a task and moves it: it lets the task run up to
its next pause, makes it fail where it waits, or lets go of it.  Nothing happens between two moves,
so that every schedule is a list of moves, and what holds at every moment is what holds after every
list (`Pool.run_induction`).  The log of a pool says of each move what came of it and between which
states it led.
-/

namespace Paging

/-- What a scheduler does with a task. -/
inductive Move (ε : Type)
  /-- It lets the task run up to its next pause. -/
  | step
  /-- It makes the task fail where it waits. -/
  | cancel (fault : ε)
  /-- It lets go of the task. -/
  | abandon (fault : ε)

namespace Move

variable {σ ε α : Type}

/-- What a task that waits is resumed with. -/
def signal : Move ε → Option ε
  | step => none
  | cancel e | abandon e => some e

/-- What is heard of a task that is moved, the task that is left, and the state. -/
def apply (m : Move ε) (t : Task σ ε α) (s : σ) : Option (Progress ε α) × Task σ ε α × σ :=
  match m with
  | step => ((t.step s).1, (t.step s).2)
  | cancel e => ((t.cancel e s).1, (t.cancel e s).2)
  | abandon e => (none, .finished, t.abandon e s)

/-- Whether a move lets a task begin. -/
def begins (m : Move ε) (t : Task σ ε α) : Bool :=
  match m, t with
  | step, .fresh _ => true
  | _, _ => false

variable {m : Move ε} {s u : σ}

theorem apply_finished (m : Move ε) (s : σ) :
    (m.apply (.finished : Task σ ε α) s).2 = (.finished, s) := by
  cases m <;> rfl

/-- Nothing runs of a task that is cancelled or let go of before it has begun. -/
theorem apply_fresh_of_ne (h : m ≠ .step) (body : Async σ ε α) (s : σ) :
    (m.apply (.fresh body) s).2 = (.finished, s) := by
  cases m with
  | step => exact absurd rfl h
  | cancel e => rfl
  | abandon e => rfl

theorem apply_fresh_of_done {body : Async σ ε α} {r : Except ε α} (h : body s = .done r u) :
    (step.apply (.fresh body) s).2 = (.finished, u) := by
  show (Task.settle (body s)).2 = _
  rw [h]
  rfl

theorem apply_fresh_of_waiting {body : Async σ ε α} {label : String}
    {resume : Option ε → σ → Suspension σ ε α} (h : body s = .waiting label u resume) :
    (step.apply (.fresh body) s).2 = (.waiting resume, u) := by
  show (Task.settle (body s)).2 = _
  rw [h]
  rfl

/-- A task that waits is resumed by every move, and what is left of it goes on unless it is let go
of. -/
theorem apply_waiting (m : Move ε) (resume : Option ε → σ → Suspension σ ε α) (s : σ) :
    (m.apply (.waiting resume) s).2.2 = (Task.settle (resume m.signal s)).2.2 ∧
      ((m.apply (.waiting resume) s).2.1 = .finished ∨
        (m.apply (.waiting resume) s).2.1 = (Task.settle (resume m.signal s)).2.1) := by
  cases m with
  | step => exact ⟨rfl, .inr rfl⟩
  | cancel e => exact ⟨rfl, .inr rfl⟩
  | abandon e => exact ⟨rfl, .inl rfl⟩

/-- No task begins anew. -/
theorem apply_ne_fresh (m : Move ε) (t : Task σ ε α) (s : σ) (body : Async σ ε α) :
    (m.apply t s).2.1 ≠ .fresh body := by
  have hsettle : ∀ x : Suspension σ ε α, (Task.settle x).2.1 ≠ .fresh body := by
    intro x
    cases x <;> exact nofun
  cases m with
  | step => cases t with
    | fresh x => exact hsettle (x s)
    | waiting resume => exact hsettle (resume none s)
    | finished => exact nofun
  | cancel e => cases t with
    | fresh x => exact nofun
    | waiting resume => exact hsettle (resume (some e) s)
    | finished => exact nofun
  | abandon e => exact nofun

/-- A task that waits has begun. -/
theorem begins_waiting (m : Move ε) (resume : Option ε → σ → Suspension σ ε α) :
    m.begins (.waiting resume) = false := by
  cases m <;> rfl

/-- Only a step lets a task begin. -/
theorem begins_of_ne (h : m ≠ .step) (t : Task σ ε α) : m.begins t = false := by
  cases m with
  | step => exact absurd rfl h
  | cancel e => rfl
  | abandon e => rfl

theorem begins_finished (m : Move ε) : m.begins (.finished : Task σ ε α) = false := by
  cases m <;> rfl

end Move

/-- What came of one move. -/
structure Entry (ι σ ε α : Type) where
  who : ι
  /-- Whether the task has begun with this move. -/
  begins : Bool
  /-- What was heard of the task; nothing if it was let go of. -/
  heard : Option (Progress ε α)
  before : σ
  after : σ

/-- Tasks that take turns on one state. -/
structure Pool (ι σ ε α : Type) where
  state : σ
  tasks : ι → Task σ ε α
  /-- What came of the moves so far, in order. -/
  log : List (Entry ι σ ε α)

namespace Pool

variable {ι σ ε α : Type}

/-- A pool in which no task has begun. -/
def start (s : σ) (bodies : ι → Async σ ε α) : Pool ι σ ε α := ⟨s, fun i => .fresh (bodies i), []⟩

/-- The tasks that have begun, in the order in which they did. -/
def begun (P : Pool ι σ ε α) : List ι := (P.log.filter fun e => e.begins).map fun e => e.who

variable [DecidableEq ι]

/-- Moves one task. -/
def move (P : Pool ι σ ε α) (i : ι) (m : Move ε) : Pool ι σ ε α where
  state := (m.apply (P.tasks i) P.state).2.2
  tasks := Function.update P.tasks i (m.apply (P.tasks i) P.state).2.1
  log := P.log ++ [{
    who := i
    begins := m.begins (P.tasks i)
    heard := (m.apply (P.tasks i) P.state).1
    before := P.state
    after := (m.apply (P.tasks i) P.state).2.2 }]

/-- Moves tasks one after the other. -/
def run (P : Pool ι σ ε α) (moves : List (ι × Move ε)) : Pool ι σ ε α :=
  moves.foldl (fun P m => P.move m.1 m.2) P

variable {P : Pool ι σ ε α} {i j : ι} {m : Move ε}

theorem run_cons (P : Pool ι σ ε α) (m : ι × Move ε) (rest : List (ι × Move ε)) :
    P.run (m :: rest) = (P.move m.1 m.2).run rest := rfl

theorem run_append (P : Pool ι σ ε α) (before after : List (ι × Move ε)) :
    P.run (before ++ after) = (P.run before).run after := List.foldl_append

/-- **What every move keeps holds at every moment.** -/
theorem run_induction (Inv : Pool ι σ ε α → Prop) (hP : Inv P)
    (hmove : ∀ P i m, Inv P → Inv (P.move i m)) (moves : List (ι × Move ε)) :
    Inv (P.run moves) := by
  induction moves generalizing P with
  | nil => exact hP
  | cons m rest ih => exact ih (hmove P m.1 m.2 hP)

theorem tasks_move_of_ne (h : j ≠ i) (P : Pool ι σ ε α) (m : Move ε) :
    (P.move i m).tasks j = P.tasks j := Function.update_of_ne h _ _

theorem tasks_move_self (P : Pool ι σ ε α) (i : ι) (m : Move ε) :
    (P.move i m).tasks i = (m.apply (P.tasks i) P.state).2.1 := Function.update_self i _ _

/-- What holds of the tasks that are not moved, and of what is left of the one that is, holds of
all. -/
theorem forall_tasks_move {R : ι → Task σ ε α → Prop}
    (hself : R i (m.apply (P.tasks i) P.state).2.1) (hother : ∀ j, R j (P.tasks j)) (j : ι) :
    R j ((P.move i m).tasks j) := by
  by_cases hj : j = i
  · subst hj
    rw [tasks_move_self]
    exact hself
  · rw [tasks_move_of_ne hj]
    exact hother j

theorem begun_move (P : Pool ι σ ε α) (i : ι) (m : Move ε) :
    (P.move i m).begun = P.begun ++ if m.begins (P.tasks i) then [i] else [] := by
  rw [begun, begun, move, List.filter_append, List.map_append]
  cases m.begins (P.tasks i) <;> rfl

/-- What a move leaves is what it makes of the one task. -/
theorem move_of_apply {t : Task σ ε α} {s : σ} (h : (m.apply (P.tasks i) P.state).2 = (t, s)) :
    (P.move i m).state = s ∧ (P.move i m).tasks i = t := by
  refine ⟨congrArg Prod.snd h, ?_⟩
  show Function.update P.tasks i _ i = t
  rw [Function.update_self, h]

end Pool

/-! ## What the pieces of a computation do -/

namespace Suspension

variable {σ ε α β : Type} {First Last Rest Mid : σ → σ → Prop} {s u : σ}

/-- Each piece of a computation leads from the state in which it begins to a related one. -/
def Each (R : σ → σ → Prop) (s : σ) : Suspension σ ε α → Prop
  | done _ t => R s t
  | waiting _ t resume => R s t ∧ ∀ signal u, (resume signal u).Each R u

/-- The first piece of a computation does `First`, and each later one does `Rest`. -/
def Starts (First Rest : σ → σ → Prop) (s : σ) : Suspension σ ε α → Prop
  | done _ t => First s t
  | waiting _ t resume => First s t ∧ ∀ signal u, (resume signal u).Each Rest u

/-- A computation that does `First`, may wait then, and at the end does `Last`, without a pause. -/
def Once (First Last : σ → σ → Prop) (s : σ) : Suspension σ ε α → Prop
  | done _ t => ∃ u, First s u ∧ Last u t
  | waiting _ u resume => First s u ∧ ∀ signal v, ∃ r t, resume signal v = .done r t ∧ Last v t

/-- A computation that does `First`, may wait then, does `Last`, and after that only `Rest`. -/
def Twice (First Last Rest : σ → σ → Prop) (s : σ) : Suspension σ ε α → Prop
  | done _ t => ∃ u, First s u ∧ Last u t
  | waiting _ t resume =>
    (First s t ∧ ∀ signal v, (resume signal v).Starts Last Rest v) ∨
      (∃ u, First s u ∧ Last u t) ∧ ∀ signal v, (resume signal v).Each Rest v

theorem Each.starts {x : Suspension σ ε α} (h : x.Each Rest s) : x.Starts Rest Rest s := by
  cases x with
  | done r t => exact h
  | waiting label t resume => exact h

/-- What comes after a computation and neither waits nor changes anything does not count. -/
theorem Each.andThen_done {x : Suspension σ ε α} {next : Except ε α → σ → Suspension σ ε β}
    (h : x.Each Rest s) (hnext : ∀ r t, ∃ r', next r t = .done r' t) :
    (x.andThen next).Each Rest s := by
  induction x generalizing s with
  | done r t =>
    obtain ⟨r', hdone⟩ := hnext r t
    rw [andThen_done, hdone]
    exact h
  | waiting label t resume ih => exact ⟨h.1, fun signal u => ih signal u (h.2 signal u)⟩

theorem Starts.andThen_done {x : Suspension σ ε α} {next : Except ε α → σ → Suspension σ ε β}
    (h : x.Starts First Rest s) (hnext : ∀ r t, ∃ r', next r t = .done r' t) :
    (x.andThen next).Starts First Rest s := by
  cases x with
  | done r t =>
    obtain ⟨r', hdone⟩ := hnext r t
    rw [Suspension.andThen_done, hdone]
    exact h
  | waiting label t resume =>
    exact ⟨h.1, fun signal u => (h.2 signal u).andThen_done hnext⟩

/-- What is done before a computation begins is part of its first piece. -/
theorem Starts.mono {First' : σ → σ → Prop} {x : Suspension σ ε α} {s' : σ}
    (h : x.Starts First Rest s) (hfirst : ∀ u, First s u → First' s' u) :
    x.Starts First' Rest s' := by
  cases x with
  | done r t => exact hfirst t h
  | waiting label t resume => exact ⟨hfirst t h.1, h.2⟩

theorem Once.mono {First' : σ → σ → Prop} {x : Suspension σ ε α} {s' : σ}
    (h : x.Once First Last s) (hfirst : ∀ u, First s u → First' s' u) : x.Once First' Last s' := by
  cases x with
  | done r t =>
    obtain ⟨u, hu, ht⟩ := h
    exact ⟨u, hfirst u hu, ht⟩
  | waiting label u resume => exact ⟨hfirst u h.1, h.2⟩

theorem Twice.mono {First' : σ → σ → Prop} {x : Suspension σ ε α} {s' : σ}
    (h : x.Twice First Last Rest s) (hfirst : ∀ u, First s u → First' s' u) :
    x.Twice First' Last Rest s' := by
  cases x with
  | done r t =>
    obtain ⟨u, hu, ht⟩ := h
    exact ⟨u, hfirst u hu, ht⟩
  | waiting label t resume =>
    rcases h with ⟨ht, hrest⟩ | ⟨⟨u, hu, ht⟩, hrest⟩
    · exact .inl ⟨hfirst t ht, hrest⟩
    · exact .inr ⟨⟨u, hfirst u hu, ht⟩, hrest⟩

/-- What comes after such a computation and does not wait is done at the end. -/
theorem Once.andThen {x : Suspension σ ε α} {next : Except ε α → σ → Suspension σ ε β}
    (h : x.Once First Mid s)
    (hnext : ∀ r u t, Mid u t → ∃ r' v, next r t = .done r' v ∧ Last u v) :
    (x.andThen next).Once First Last s := by
  cases x with
  | done r t =>
    obtain ⟨u, hu, ht⟩ := h
    obtain ⟨r', v, hdone, hv⟩ := hnext r u t ht
    rw [andThen_done, hdone]
    exact ⟨u, hu, hv⟩
  | waiting label u resume =>
    refine ⟨h.1, fun signal t => ?_⟩
    obtain ⟨r, v, hdone, hv⟩ := h.2 signal t
    obtain ⟨r', v', hdone', hv'⟩ := hnext r t v hv
    refine ⟨r', v', ?_, hv'⟩
    show (resume signal t).andThen next = _
    rw [hdone, andThen_done, hdone']

/-- What comes after it and may wait begins at the end. -/
theorem Once.andThen_starts {x : Suspension σ ε α} {next : Except ε α → σ → Suspension σ ε β}
    (h : x.Once First Mid s) (hnext : ∀ r u t, Mid u t → (next r t).Starts Last Rest u) :
    (x.andThen next).Twice First Last Rest s := by
  cases x with
  | done r t =>
    obtain ⟨u, hu, ht⟩ := h
    have hstarts := hnext r u t ht
    rw [andThen_done]
    cases hx : next r t with
    | done r' v =>
      rw [hx] at hstarts
      exact ⟨u, hu, hstarts⟩
    | waiting label v resume =>
      rw [hx] at hstarts
      exact .inr ⟨⟨u, hu, hstarts.1⟩, hstarts.2⟩
  | waiting label u resume =>
    refine .inl ⟨h.1, fun signal t => ?_⟩
    obtain ⟨r, v, hdone, hv⟩ := h.2 signal t
    show ((resume signal t).andThen next).Starts Last Rest t
    rw [hdone, andThen_done]
    exact hnext r t v hv

end Suspension

namespace Async

variable {σ ε α β : Type} {First Mid Last Rest : σ → σ → Prop} {s : σ}

/-- A sequence whose second part does not wait. -/
theorem once_bind {x : Async σ ε α} {f : α → Async σ ε β} (h : (x s).Once First Mid s)
    (herror : ∀ u t, Mid u t → Last u t)
    (hok : ∀ a u t, Mid u t → ∃ r v, f a t = .done r v ∧ Last u v) :
    ((x >>= f) s).Once First Last s := by
  rw [bind_apply]
  apply h.andThen
  intro r u t ht
  cases r with
  | ok a => exact hok a u t ht
  | error e => exact ⟨_, t, rfl, herror u t ht⟩

/-- A result that is thrown away. -/
theorem once_discard {x : Async σ ε α} (h : (x s).Once First Last s) :
    (discard x s).Once First Last s :=
  once_bind h (fun _ _ h => h) fun _ _ t h => ⟨.ok (), t, rfl, h⟩

/-- A computation with its cleanup, which may wait in turn. -/
theorem twice_andFinally {x : Async σ ε α} {cleanup : Async σ ε Unit}
    (h : (x s).Once First Mid s)
    (hcleanup : ∀ u t, Mid u t → (cleanup t).Starts Last Rest u) :
    ((x.andFinally cleanup) s).Twice First Last Rest s := by
  unfold andFinally
  apply h.andThen_starts
  intro r u t ht
  apply (hcleanup u t ht).andThen_done
  intro cleaned v
  cases cleaned with
  | ok _ => exact ⟨r, rfl⟩
  | error e => exact ⟨.error e, rfl⟩

end Async

/-! ## Tasks that wait and tasks that are over -/

namespace Task

variable {σ ε α : Type} {Next Rest : σ → σ → Prop}

/-- Whether a task is over. -/
def isFinished : Task σ ε α → Bool
  | finished => true
  | _ => false

theorem eq_finished_of_isFinished {t : Task σ ε α} (h : t.isFinished = true) : t = .finished := by
  cases t with
  | fresh => cases h
  | waiting => cases h
  | finished => rfl

/-- A task that waits, does `Next` when it is moved, and then only `Rest`. -/
def Waits (Next Rest : σ → σ → Prop) (t : Task σ ε α) : Prop :=
  ∃ resume, t = .waiting resume ∧ ∀ signal u, (resume signal u).Starts Next Rest u

/-- A task that is over, or waits and does only `Rest`. -/
def Over (Rest : σ → σ → Prop) (t : Task σ ε α) : Prop := t = .finished ∨ t.Waits Rest Rest

theorem over_of_each {resume : Option ε → σ → Suspension σ ε α}
    (h : ∀ signal u, (resume signal u).Each Rest u) : (waiting resume).Over Rest :=
  .inr ⟨resume, rfl, fun signal u => (h signal u).starts⟩

/-- What a task that waits does when it is moved. -/
theorem Waits.apply {t : Task σ ε α} (h : t.Waits Next Rest) (m : Move ε) (s : σ) :
    m.begins t = false ∧ (m.apply t s).2.1.Over Rest ∧ Next s (m.apply t s).2.2 := by
  obtain ⟨resume, rfl, hresume⟩ := h
  have hpiece := hresume m.signal s
  obtain ⟨hstate, htask⟩ := Move.apply_waiting m resume s
  refine ⟨Move.begins_waiting m resume, ?_⟩
  rw [hstate]
  cases hx : resume m.signal s with
  | done r u =>
    rw [hx] at hpiece htask
    exact ⟨.inl (htask.elim id id), hpiece⟩
  | waiting label u resume' =>
    rw [hx] at hpiece htask
    refine ⟨?_, hpiece.1⟩
    rcases htask with htask | htask
    · exact .inl htask
    · rw [htask]
      exact over_of_each hpiece.2

/-- A task that is over does nothing any more but `Rest`. -/
theorem Over.apply {t : Task σ ε α} (h : t.Over Rest) (hrefl : ∀ s, Rest s s) (m : Move ε) (s : σ) :
    m.begins t = false ∧ (m.apply t s).2.1.Over Rest ∧ Rest s (m.apply t s).2.2 := by
  rcases h with rfl | hwaits
  · rw [Move.apply_finished]
    exact ⟨by cases m <;> rfl, .inl rfl, hrefl s⟩
  · exact hwaits.apply m s

end Task

end Paging
