import Paging.Effect.Suspension

/-!
# Paging.Effect.Task — computations run piece by piece

A task is an asynchronous computation in the hands of a scheduler: not yet begun, waiting, or over.
A step lets it run up to its next pause, a cancellation makes it fail where it waits; its cleanup
still runs and may wait in turn.  A task may also be let go of for good (`Task.abandon`).  Between the
steps of one task the state may be changed by others.
-/

namespace Paging

/-- A computation in the hands of a scheduler. -/
inductive Task (σ ε α : Type)
  | fresh (body : Async σ ε α)
  | waiting (resume : Option ε → σ → Suspension σ ε α)
  | finished

/-- What came of a step. -/
inductive Progress (ε α : Type)
  /-- The task waits under a label. -/
  | suspended (label : String)
  /-- The task has ended. -/
  | ended (result : Except ε α)
  /-- The task had ended before. -/
  | alreadyOver

namespace Task

variable {σ ε α : Type}

/-- The progress a suspension stands for, the task that is left, and the state. -/
def settle : Suspension σ ε α → Progress ε α × Task σ ε α × σ
  | .done result s => (.ended result, .finished, s)
  | .waiting label s resume => (.suspended label, .waiting resume, s)

/-- Runs a task up to its next pause. -/
def step (t : Task σ ε α) (s : σ) : Progress ε α × Task σ ε α × σ :=
  match t with
  | fresh body => settle (body s)
  | waiting resume => settle (resume none s)
  | finished => (.alreadyOver, .finished, s)

/-- Makes a task fail with `e` where it waits.  Nothing runs of a task that has not begun. -/
def cancel (e : ε) (t : Task σ ε α) (s : σ) : Progress ε α × Task σ ε α × σ :=
  match t with
  | fresh _ => (.ended (.error e), .finished, s)
  | waiting resume => settle (resume (some e) s)
  | finished => (.alreadyOver, .finished, s)

/-- Lets go of a task.  It fails with `e` where it waits, but nobody hears what comes of that, and
cleanup that waits is not resumed. -/
def abandon (e : ε) (t : Task σ ε α) (s : σ) : σ := (t.cancel e s).2.2

end Task

end Paging
