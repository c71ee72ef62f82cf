import Paging.Effect.Action

/-!
# Paging.Effect.Suspension — computations that wait

Where an action runs to its end, an asynchronous computation may stop on the way and wait to be
resumed.  What it has become at such a point is a `Suspension`: either it is over, or it waits under
a label and says how it goes on from whatever state it is resumed in.  It can be resumed with a
fault, which then comes out of the point where it waits; that is how a waiting computation is
cancelled.

Every computation waits finitely often, so `Suspension.finish`, which resumes it again and again, is
a recursion on the suspension itself.
-/

namespace Paging

/-- A computation that has run as far as it could. -/
inductive Suspension (σ ε α : Type)
  /-- It is over. -/
  | done (result : Except ε α) (state : σ)
  /-- It waits.  It is resumed with nothing, or with the fault to fail with. -/
  | waiting (label : String) (state : σ) (resume : Option ε → σ → Suspension σ ε α)

namespace Suspension

variable {σ ε α β : Type}

/-- Goes on with the outcome of a suspension, be it a result or a fault. -/
def andThen (next : Except ε α → σ → Suspension σ ε β) : Suspension σ ε α → Suspension σ ε β
  | done r s => next r s
  | waiting label s resume => waiting label s fun signal s => (resume signal s).andThen next

/-- Runs a suspension to its end without a pause. -/
def finish : Suspension σ ε α → Except ε α × σ
  | done r s => (r, s)
  | waiting _ s resume => (resume none s).finish

@[simp]
theorem andThen_done (next : Except ε α → σ → Suspension σ ε β) (r : Except ε α) (s : σ) :
    (done r s).andThen next = next r s := rfl

/-- Running a chain to its end is running its parts to theirs. -/
theorem finish_andThen (next : Except ε α → σ → Suspension σ ε β) (x : Suspension σ ε α) :
    (x.andThen next).finish = (next x.finish.1 x.finish.2).finish := by
  induction x with
  | done r s => rfl
  | waiting label s resume ih => exact ih none s

theorem andThen_assoc {γ : Type} (f : Except ε α → σ → Suspension σ ε β)
    (g : Except ε β → σ → Suspension σ ε γ) (x : Suspension σ ε α) :
    (x.andThen f).andThen g = x.andThen fun r s => (f r s).andThen g := by
  induction x with
  | done r s => rfl
  | waiting label s resume ih =>
    simp only [andThen]
    congr
    funext signal t
    exact ih signal t

end Suspension

/-- A computation on a state `σ` that may wait, and gives an `α` or fails with an `ε`. -/
def Async (σ ε α : Type) : Type := σ → Suspension σ ε α

namespace Async

variable {σ ε α β : Type}

/-- Gives a value at once. -/
protected def pure (a : α) : Async σ ε α := fun s => .done (.ok a) s

/-- Runs the second computation on the result of the first, unless the first fails. -/
protected def bind (x : Async σ ε α) (f : α → Async σ ε β) : Async σ ε β := fun s =>
  (x s).andThen fun
    | .ok a, s => f a s
    | .error e, s => .done (.error e) s

instance : Monad (Async σ ε) where
  pure := Async.pure
  bind := Async.bind

/-- An action is a computation that never waits. -/
def ofAction (x : Action σ ε α) : Async σ ε α := fun s =>
  let (r, s) := x s
  .done r s

instance : MonadLift (Action σ ε) (Async σ ε) := ⟨ofAction⟩

/-- Fails at once. -/
def fail (e : ε) : Async σ ε α := fun s => .done (.error e) s

/-- Waits once.  Resumed with a fault, it fails with it. -/
def wait (label : String) : Async σ ε Unit := fun s =>
  .waiting label s fun
    | none, s => .done (.ok ()) s
    | some e, s => .done (.error e) s

/-- Runs a computation and gives its outcome, so that its failure can be looked at. -/
def attempt (x : Async σ ε α) : Async σ ε (Except ε α) := fun s =>
  (x s).andThen fun r s => .done (.ok r) s

/-- Runs `cleanup` when `x` is over, whatever its outcome, and then gives that outcome.  If `cleanup`
fails, its fault takes the place of the outcome. -/
def andFinally (x : Async σ ε α) (cleanup : Async σ ε Unit) : Async σ ε α := fun s =>
  (x s).andThen fun r s => (cleanup s).andThen fun
    | .ok (), s => .done r s
    | .error e, s => .done (.error e) s

/-- Runs `cleanup` when `x` has failed and then fails as `x` did, or as `cleanup` did if that fails
too. -/
def onFailure (x : Async σ ε α) (cleanup : Async σ ε Unit) : Async σ ε α := fun s =>
  (x s).andThen fun
    | .ok a, s => .done (.ok a) s
    | .error e, s => (cleanup s).andThen fun
      | .ok (), s => .done (.error e) s
      | .error e, s => .done (.error e) s

/-- Runs a computation to its end without a pause. -/
def run (x : Async σ ε α) : Action σ ε α := fun s => (x s).finish

/-! ## What each computation does -/

theorem bind_apply (x : Async σ ε α) (f : α → Async σ ε β) (s : σ) :
    (x >>= f) s = (x s).andThen fun r s => match r with
      | .ok a => f a s
      | .error e => .done (.error e) s := by
  change (x s).andThen _ = _
  congr
  funext r t
  cases r <;> rfl

@[simp]
theorem ofAction_apply (x : Action σ ε α) (s : σ) : ofAction x s = .done (x s).1 (x s).2 := rfl

/-- A sequence that begins with an action which succeeds goes on at once. -/
theorem ofAction_bind_of_ok {x : Action σ ε α} {s t : σ} {a : α} (h : x s = (.ok a, t))
    (f : α → Async σ ε β) : (ofAction x >>= f) s = f a t := by
  rw [bind_apply, ofAction_apply, h]
  rfl

/-- A sequence that begins with an action which fails is over. -/
theorem ofAction_bind_of_error {x : Action σ ε α} {s t : σ} {e : ε} (h : x s = (.error e, t))
    (f : α → Async σ ε β) : (ofAction x >>= f) s = .done (.error e) t := by
  rw [bind_apply, ofAction_apply, h]
  rfl

@[simp]
theorem attempt_apply (x : Async σ ε α) (s : σ) :
    attempt x s = (x s).andThen fun r s => .done (.ok r) s := rfl

@[simp]
theorem run_apply (x : Async σ ε α) (s : σ) : run x s = (x s).finish := rfl

/-- Running a sequence to its end is running its parts to theirs. -/
theorem run_bind (x : Async σ ε α) (f : α → Async σ ε β) :
    run (x >>= f) = (run x >>= fun a => run (f a)) := by
  funext s
  rw [run_apply, bind_apply, Suspension.finish_andThen, Action.bind_apply, run_apply]
  rcases (x s).finish with ⟨r, t⟩
  cases r <;> rfl

theorem run_attempt (x : Async σ ε α) : run (attempt x) = Action.attempt (run x) := by
  funext s
  rw [run_apply, attempt_apply, Suspension.finish_andThen]
  rfl

/-- Running a computation with its cleanup: the outcome is given when the cleanup is over. -/
theorem run_andFinally (x : Async σ ε α) (cleanup : Async σ ε Unit) :
    run (andFinally x cleanup) =
      (Action.attempt (run x) >>= fun r => run cleanup >>= fun _ => Action.ofExcept r) := by
  funext s
  rw [run_apply, andFinally, Suspension.finish_andThen, Suspension.finish_andThen]
  show _ = (run cleanup >>= fun _ => Action.ofExcept (x s).finish.1) (x s).finish.2
  rw [Action.bind_apply, run_apply]
  rcases (cleanup (x s).finish.2).finish with ⟨r, t⟩
  cases r <;> rfl

/-- A cleanup for failures does not run after a success. -/
theorem run_onFailure_of_ok {x : Async σ ε α} (cleanup : Async σ ε Unit) {s t : σ} {a : α}
    (h : run x s = (.ok a, t)) : run (onFailure x cleanup) s = (.ok a, t) := by
  rw [run_apply] at h
  rw [run_apply, onFailure, Suspension.finish_andThen, h]
  rfl

/-! ## Laws of sequences -/

theorem id_map (x : Async σ ε α) : id <$> x = x := by
  funext s
  change (x s).andThen _ = x s
  induction x s with
  | done r t => cases r <;> rfl
  | waiting label t resume ih =>
    simp only [Suspension.andThen]
    congr
    funext signal t
    exact ih signal t

theorem bind_assoc {γ : Type} (x : Async σ ε α) (f : α → Async σ ε β) (g : β → Async σ ε γ) :
    x >>= f >>= g = x >>= fun a => f a >>= g := by
  funext s
  rw [bind_apply, bind_apply, bind_apply, Suspension.andThen_assoc]
  congr
  funext r t
  cases r with
  | ok a => exact (bind_apply (f a) g t).symm
  | error e => rfl

/-- A sequence of actions is the sequence of the computations that they are. -/
theorem ofAction_bind (x : Action σ ε α) (f : α → Action σ ε β) :
    ofAction (x >>= f) = (ofAction x >>= fun a => ofAction (f a)) := by
  funext s
  rw [bind_apply, ofAction_apply, ofAction_apply, Action.bind_apply]
  rcases x s with ⟨r, t⟩
  cases r <;> rfl

/-- Sequences of computations associate, and doing nothing is neutral. -/
instance : LawfulMonad (Async σ ε) :=
  LawfulMonad.mk' _ id_map (fun _ _ => rfl) bind_assoc

end Async

end Paging
