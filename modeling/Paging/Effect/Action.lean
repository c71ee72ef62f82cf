/-!
# Paging.Effect.Action — computations that change a state and may fail

An action takes the state it starts in and gives a result, or the fault it failed with, together
with the state it ends in.  A failure does not undo what was done before it.
-/

namespace Paging

/-- A computation on a state `σ` that gives an `α` or fails with an `ε`. -/
def Action (σ ε α : Type) : Type := σ → Except ε α × σ

namespace Action

variable {σ ε α β : Type}

/-- Gives a value and changes nothing. -/
protected def pure (a : α) : Action σ ε α := fun s => (.ok a, s)

/-- Runs the second action on the result of the first, unless the first fails. -/
protected def bind (x : Action σ ε α) (f : α → Action σ ε β) : Action σ ε β := fun s =>
  match x s with
  | (.ok a, s) => f a s
  | (.error e, s) => (.error e, s)

instance : Monad (Action σ ε) where
  pure := Action.pure
  bind := Action.bind

/-- Fails and changes nothing. -/
def fail (e : ε) : Action σ ε α := fun s => (.error e, s)

/-- Gives the result of a computation without effects, or fails as it did. -/
def ofExcept (r : Except ε α) : Action σ ε α := fun s => (r, s)

/-- The state. -/
def state : Action σ ε σ := fun s => (.ok s, s)

/-- Changes the state. -/
def update (f : σ → σ) : Action σ ε Unit := fun s => (.ok (), f s)

/-- Runs an action and gives its outcome, so that its failure can be looked at. -/
def attempt (x : Action σ ε α) : Action σ ε (Except ε α) := fun s =>
  let (r, s) := x s
  (.ok r, s)

/-! ## What each action does -/

@[simp]
theorem pure_apply (a : α) (s : σ) : (pure a : Action σ ε α) s = (.ok a, s) := rfl

theorem bind_apply (x : Action σ ε α) (f : α → Action σ ε β) (s : σ) :
    (x >>= f) s = match x s with
      | (.ok a, s) => f a s
      | (.error e, s) => (.error e, s) := rfl

theorem bind_of_ok {x : Action σ ε α} {f : α → Action σ ε β} {s t : σ} {a : α}
    (h : x s = (.ok a, t)) : (x >>= f) s = f a t := by
  simp [bind_apply, h]

theorem bind_of_error {x : Action σ ε α} {f : α → Action σ ε β} {s t : σ} {e : ε}
    (h : x s = (.error e, t)) : (x >>= f) s = (.error e, t) := by
  simp [bind_apply, h]

/-- Two sequences do the same if they do so at first, and then go on alike. -/
theorem bind_congr {x y : Action σ ε α} {f g : α → Action σ ε β} {s : σ} (hxy : x s = y s)
    (hfg : ∀ a t, x s = (.ok a, t) → f a t = g a t) : (x >>= f) s = (y >>= g) s := by
  rw [bind_apply, bind_apply, ← hxy]
  rcases hx : x s with ⟨e | a, t⟩
  · rfl
  · exact hfg a t hx

/-- What follows an action by its result alone leaves of the outcome what it makes of the result. -/
theorem fst_bind {f : α → Action σ ε β} {next : α → Except ε β} (h : ∀ a s, (f a s).1 = next a)
    (x : Action σ ε α) (s : σ) : ((x >>= f) s).1 = (x s).1 >>= next := by
  rw [bind_apply]
  rcases x s with ⟨e | a, t⟩
  · rfl
  · exact h a t

/-- What follows an action and leaves alone what is seen of the state leaves it as the action does. -/
theorem view_bind {γ : Type} (view : σ → γ) {f : α → Action σ ε β}
    (h : ∀ a s, view (f a s).2 = view s) (x : Action σ ε α) (s : σ) :
    view ((x >>= f) s).2 = view (x s).2 := by
  rw [bind_apply]
  rcases x s with ⟨e | a, t⟩
  · rfl
  · exact h a t

@[simp]
theorem ofExcept_apply (r : Except ε α) (s : σ) : (ofExcept r : Action σ ε α) s = (r, s) := rfl

@[simp]
theorem state_apply (s : σ) : (state : Action σ ε σ) s = (.ok s, s) := rfl

@[simp]
theorem update_apply (f : σ → σ) (s : σ) : (update f : Action σ ε Unit) s = (.ok (), f s) := rfl

@[simp]
theorem attempt_apply (x : Action σ ε α) (s : σ) :
    (attempt x) s = (.ok (x s).1, (x s).2) := rfl

/-! ## Laws of sequences -/

theorem id_map (x : Action σ ε α) : id <$> x = x := by
  funext s
  change (match x s with
    | (.ok a, t) => (.ok a, t)
    | (.error e, t) => (.error e, t)) = x s
  rcases x s with ⟨r, t⟩
  cases r <;> rfl

theorem bind_assoc {γ : Type} (x : Action σ ε α) (f : α → Action σ ε β) (g : β → Action σ ε γ) :
    x >>= f >>= g = x >>= fun a => f a >>= g := by
  funext s
  rw [bind_apply, bind_apply, bind_apply]
  rcases x s with ⟨r, t⟩
  cases r <;> rfl

/-- Sequences of actions associate, and doing nothing is neutral. -/
instance : LawfulMonad (Action σ ε) :=
  LawfulMonad.mk' _ id_map (fun _ _ => rfl) bind_assoc

end Action

end Paging
