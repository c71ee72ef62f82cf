import Mathlib.Data.List.Forall2
import Paging.Proofs.Effect.Pool

/-!
# Paging.Proofs.Effect.InStep — two runs that go in step

A computation is run twice, from related states.  The two runs go in step if piece by piece they come
to the same, an outcome or a wait under the same label, in states that are related again, however they
are resumed.  Tasks that are in step stay so when both are moved in the same way, and so two pools of
tasks in step come to the same under every schedule (`Pool.InStep.run`).
-/

namespace Paging

variable {ι σ ε α β : Type} {R : σ → σ → Prop}

namespace Suspension

/-- Two runs that go in step. -/
def InStep (R : σ → σ → Prop) : Suspension σ ε α → Suspension σ ε α → Prop
  | done r s, done r' t => r = r' ∧ R s t
  | waiting label s resume, waiting label' t resume' => label = label' ∧ R s t ∧
    ∀ signal u v, R u v → (resume signal u).InStep R (resume' signal v)
  | _, _ => False

end Suspension

/-! ## Tasks -/

namespace Task

/-- Two tasks whose runs go in step from now on. -/
def InStep (R : σ → σ → Prop) : Task σ ε α → Task σ ε α → Prop
  | fresh x, fresh y => ∀ u v, R u v → (x u).InStep R (y v)
  | waiting resume, waiting resume' =>
    ∀ signal u v, R u v → (resume signal u).InStep R (resume' signal v)
  | finished, finished => True
  | _, _ => False

theorem inStep_settle {x y : Suspension σ ε α} (h : x.InStep R y) :
    (settle x).1 = (settle y).1 ∧ (settle x).2.1.InStep R (settle y).2.1 ∧
      R (settle x).2.2 (settle y).2.2 := by
  cases x with
  | done r s =>
    cases y with
    | done r' t =>
      obtain ⟨rfl, hstates⟩ := h
      exact ⟨rfl, trivial, hstates⟩
    | waiting => exact h.elim
  | waiting label s resume =>
    cases y with
    | done => exact h.elim
    | waiting label' t resume' =>
      obtain ⟨rfl, hstates, hresume⟩ := h
      exact ⟨rfl, hresume, hstates⟩

/-- A move of tasks in step: the same is heard of both, and they stay in step. -/
theorem InStep.apply {x y : Task σ ε α} (h : x.InStep R y) {s t : σ} (hstates : R s t)
    (m : Move ε) : m.begins x = m.begins y ∧ (m.apply x s).1 = (m.apply y t).1 ∧
      (m.apply x s).2.1.InStep R (m.apply y t).2.1 ∧ R (m.apply x s).2.2 (m.apply y t).2.2 := by
  cases x with
  | fresh body =>
    cases y with
    | fresh body' =>
      cases m with
      | step =>
        obtain ⟨hheard, htask, hafter⟩ := inStep_settle (h s t hstates)
        exact ⟨rfl, congrArg some hheard, htask, hafter⟩
      | cancel e => exact ⟨rfl, rfl, trivial, hstates⟩
      | abandon e => exact ⟨rfl, rfl, trivial, hstates⟩
    | waiting => exact h.elim
    | finished => exact h.elim
  | waiting resume =>
    cases y with
    | waiting resume' =>
      obtain ⟨hheard, htask, hafter⟩ := inStep_settle (h m.signal s t hstates)
      cases m with
      | step => exact ⟨rfl, congrArg some hheard, htask, hafter⟩
      | cancel e => exact ⟨rfl, congrArg some hheard, htask, hafter⟩
      | abandon e => exact ⟨rfl, rfl, trivial, hafter⟩
    | fresh => exact h.elim
    | finished => exact h.elim
  | finished =>
    cases y with
    | finished => cases m <;> exact ⟨rfl, rfl, trivial, hstates⟩
    | fresh => exact h.elim
    | waiting => exact h.elim

end Task

/-! ## Pools -/

/-- The same has come of two moves, between states that are related. -/
structure Entry.InStep (R : σ → σ → Prop) (e e' : Entry ι σ ε α) : Prop where
  who : e.who = e'.who
  begins : e.begins = e'.begins
  heard : e.heard = e'.heard
  before : R e.before e'.before
  after : R e.after e'.after

namespace Pool

variable {P S : Pool ι σ ε α}

/-- Two pools that have come to the same, and whose tasks go in step from now on. -/
structure InStep (R : σ → σ → Prop) (P S : Pool ι σ ε α) : Prop where
  state : R P.state S.state
  tasks : ∀ i, (P.tasks i).InStep R (S.tasks i)
  log : List.Forall₂ (Entry.InStep R) P.log S.log

/-- Pools of bodies that go in step from every two states that are related. -/
theorem inStep_start {s t : σ} {bodies bodies' : ι → Async σ ε α} (hstates : R s t)
    (hbodies : ∀ i u v, R u v → (bodies i u).InStep R (bodies' i v)) :
    (start s bodies).InStep R (start t bodies') :=
  ⟨hstates, hbodies, .nil⟩

variable [DecidableEq ι]

/-- One move keeps two pools in step. -/
theorem InStep.move (h : P.InStep R S) (i : ι) (m : Move ε) :
    (P.move i m).InStep R (S.move i m) := by
  obtain ⟨hbegins, hheard, htask, hstates⟩ := (h.tasks i).apply h.state m
  refine ⟨hstates, ?_, ?_⟩
  · intro j
    by_cases hj : j = i
    · subst hj
      rw [tasks_move_self, tasks_move_self]
      exact htask
    · rw [tasks_move_of_ne hj, tasks_move_of_ne hj]
      exact h.tasks j
  · exact List.rel_append h.log (.cons ⟨rfl, hbegins, hheard, h.state, hstates⟩ .nil)

/-- **Two pools in step stay so under every schedule.** -/
theorem InStep.run (h : P.InStep R S) (moves : List (ι × Move ε)) :
    (P.run moves).InStep R (S.run moves) := by
  induction moves generalizing P S with
  | nil => exact h
  | cons m rest ih => exact ih (h.move m.1 m.2)

end Pool

end Paging
