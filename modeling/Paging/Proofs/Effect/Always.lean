import Paging.Effect.Suspension

/-!
# Paging.Proofs.Effect.Always — what holds however a computation is resumed

A computation that waits may be resumed with nothing or with any fault, each time it waits.
`Suspension.drive` runs it to its end under given signals, of which it uses up as many as it waits
(`Suspension.used`).  `Suspension.Always` says of the signals used up, an outcome and a state that they
are arrived at whatever the signals are.  The rules below say what always holds of a sequence, and of a
computation with its cleanup, by what always holds of its parts.  In them the signals behave like a part
of the state: each part adds its own to those that were used up before it.
-/

namespace Paging

namespace Suspension

variable {σ ε α β : Type} {before : List (Option ε)} {Q R : List (Option ε) → Except ε α → σ → Prop}

/-- Runs a suspension to its end.  Each time it waits it is resumed with the next signal. -/
def drive (signals : Nat → Option ε) : Suspension σ ε α → Except ε α × σ
  | done r s => (r, s)
  | waiting _ s resume => (resume (signals 0) s).drive fun n => signals (n + 1)

/-- How often a suspension waits when it is run to its end under given signals. -/
def pauses (signals : Nat → Option ε) : Suspension σ ε α → Nat
  | done _ _ => 0
  | waiting _ s resume => (resume (signals 0) s).pauses (fun n => signals (n + 1)) + 1

/-- The signals that a suspension uses up when it is run to its end: as many of those given as it
waits. -/
def used (signals : Nat → Option ε) (x : Suspension σ ε α) : List (Option ε) :=
  (List.range (x.pauses signals)).map signals

@[simp]
theorem used_done (signals : Nat → Option ε) (r : Except ε α) (s : σ) :
    (done r s : Suspension σ ε α).used signals = [] := rfl

@[simp]
theorem used_waiting (signals : Nat → Option ε) (label : String) (s : σ)
    (resume : Option ε → σ → Suspension σ ε α) : (waiting label s resume).used signals =
      signals 0 :: (resume (signals 0) s).used fun n => signals (n + 1) := by
  rw [used, pauses, List.range_succ_eq_map, List.map_cons, List.map_map]
  rfl

/-- A chain is run by running its parts.  The second is given the signals that the first has left. -/
theorem drive_andThen (signals : Nat → Option ε)
    (next : Except ε α → σ → Suspension σ ε β) (x : Suspension σ ε α) :
    (x.andThen next).drive signals = (next (x.drive signals).1 (x.drive signals).2).drive
      fun n => signals (x.pauses signals + n) := by
  induction x generalizing signals with
  | done r s =>
    show (next r s).drive signals = _
    congr
    funext n
    rw [pauses, Nat.zero_add]
  | waiting label s resume ih =>
    refine (ih (signals 0) s _).trans ?_
    rw [drive, pauses]
    congr
    funext n
    rw [Nat.add_right_comm]

/-- A chain uses up what its first part does, and then what its second part does. -/
theorem used_andThen (signals : Nat → Option ε)
    (next : Except ε α → σ → Suspension σ ε β) (x : Suspension σ ε α) :
    (x.andThen next).used signals = x.used signals ++
      (next (x.drive signals).1 (x.drive signals).2).used
        fun n => signals (x.pauses signals + n) := by
  induction x generalizing signals with
  | done r s =>
    show (next r s).used signals = _
    rw [used_done, List.nil_append]
    congr
    funext n
    rw [pauses, Nat.zero_add]
  | waiting label s resume ih =>
    rw [andThen, used_waiting, used_waiting, ih (signals 0) s, drive, pauses, List.cons_append]
    congr
    funext n
    rw [Nat.add_right_comm]

/-- However a suspension is resumed, it ends with an outcome and in a state of which `Q` holds,
together with the signals: those used up before, and those with which it was resumed. -/
def Always (before : List (Option ε)) (Q : List (Option ε) → Except ε α → σ → Prop) :
    Suspension σ ε α → Prop
  | done r s => Q before r s
  | waiting _ s resume => ∀ signal, (resume signal s).Always (before ++ [signal]) Q

/-- What always holds holds under given signals. -/
theorem Always.drive {x : Suspension σ ε α} (h : x.Always before Q) (signals : Nat → Option ε) :
    Q (before ++ x.used signals) (x.drive signals).1 (x.drive signals).2 := by
  induction x generalizing before signals with
  | done r s =>
    rw [used_done, List.append_nil]
    exact h
  | waiting label s resume ih =>
    have hrest := ih (signals 0) s (h (signals 0)) fun n => signals (n + 1)
    rw [List.append_assoc] at hrest
    rw [used_waiting]
    exact hrest

theorem Always.mono {x : Suspension σ ε α} (h : x.Always before Q)
    (hQR : ∀ used r s, Q used r s → R used r s) : x.Always before R := by
  induction x generalizing before with
  | done r s => exact hQR before r s h
  | waiting label s resume ih =>
    intro signal
    exact ih signal s (h signal)

theorem Always.and {x : Suspension σ ε α} (h : x.Always before Q) (h' : x.Always before R) :
    x.Always before fun used r s => Q used r s ∧ R used r s := by
  induction x generalizing before with
  | done r s => exact ⟨h, h'⟩
  | waiting label s resume ih =>
    intro signal
    exact ih signal s (h signal) (h' signal)

/-- A chain always comes to what its second part comes to from wherever the first part ends. -/
theorem always_andThen {Q : List (Option ε) → Except ε β → σ → Prop}
    (next : Except ε α → σ → Suspension σ ε β) (x : Suspension σ ε α) :
    (x.andThen next).Always before Q ↔
      x.Always before fun used r s => (next r s).Always used Q := by
  induction x generalizing before with
  | done r s => exact Iff.rfl
  | waiting label s resume ih =>
    constructor
    · intro h signal
      exact (ih signal s).1 (h signal)
    · intro h signal
      exact (ih signal s).2 (h signal)

end Suspension

namespace Async

variable {σ ε α β : Type} {s t : σ} {before : List (Option ε)}

/-- Runs a computation to its end.  Each time it waits it is resumed with the next signal. -/
def runWith (signals : Nat → Option ε) (x : Async σ ε α) : Action σ ε α := fun s =>
  (x s).drive signals

/-- The signals that a computation uses up when it is run to its end. -/
def used (signals : Nat → Option ε) (x : Async σ ε α) (s : σ) : List (Option ε) :=
  (x s).used signals

/-- What always holds holds of every run, whatever was used up before it. -/
theorem runWith_of_always_append {Q : List (Option ε) → Except ε α → σ → Prop}
    {x : Async σ ε α} (h : (x s).Always before Q) (signals : Nat → Option ε) :
    Q (before ++ used signals x s) (runWith signals x s).1 (runWith signals x s).2 :=
  h.drive signals

/-- What always holds holds of every run. -/
theorem runWith_of_always {Q : List (Option ε) → Except ε α → σ → Prop} {x : Async σ ε α}
    (h : (x s).Always [] Q) (signals : Nat → Option ε) :
    Q (used signals x s) (runWith signals x s).1 (runWith signals x s).2 :=
  runWith_of_always_append h signals

/-- The signals that a computation leaves to what comes after it. -/
def signalsAfter (x : Async σ ε α) (s : σ) (signals : Nat → Option ε) (n : Nat) : Option ε :=
  signals ((x s).pauses signals + n)

/-- A sequence goes on where its first part has succeeded. -/
theorem runWith_bind_of_ok {signals : Nat → Option ε} {x : Async σ ε α} {a : α}
    (h : runWith signals x s = (.ok a, t)) (f : α → Async σ ε β) :
    runWith signals (x >>= f) s = runWith (signalsAfter x s signals) (f a) t := by
  rw [runWith] at h
  rw [runWith, bind_apply, Suspension.drive_andThen, h]
  rfl

/-- Its second part uses those that the first has left. -/
theorem used_bind_of_ok {signals : Nat → Option ε} {x : Async σ ε α} {a : α}
    (h : runWith signals x s = (.ok a, t)) (f : α → Async σ ε β) :
    used signals (x >>= f) s = used signals x s ++ used (signalsAfter x s signals) (f a) t := by
  rw [runWith] at h
  rw [used, bind_apply, Suspension.used_andThen, h]
  rfl

/-- A sequence is over where its first part has failed. -/
theorem runWith_bind_of_error {signals : Nat → Option ε} {x : Async σ ε α} {e : ε}
    (h : runWith signals x s = (.error e, t)) (f : α → Async σ ε β) :
    runWith signals (x >>= f) s = (.error e, t) := by
  rw [runWith] at h
  rw [runWith, bind_apply, Suspension.drive_andThen, h]
  rfl

/-- Then it uses up no more than its first part. -/
theorem used_bind_of_error {signals : Nat → Option ε} {x : Async σ ε α} {e : ε}
    (h : runWith signals x s = (.error e, t)) (f : α → Async σ ε β) :
    used signals (x >>= f) s = used signals x s := by
  rw [runWith] at h
  rw [used, bind_apply, Suspension.used_andThen, h]
  exact List.append_nil _

/-- A cleanup is run where the computation has ended.  If it fails, its fault is the outcome. -/
theorem runWith_andFinally (signals : Nat → Option ε) (x : Async σ ε α) (cleanup : Async σ ε Unit)
    (s : σ) : runWith signals (andFinally x cleanup) s =
      ((runWith (signalsAfter x s signals) cleanup (runWith signals x s).2).1.bind
        fun _ => (runWith signals x s).1,
      (runWith (signalsAfter x s signals) cleanup (runWith signals x s).2).2) := by
  rcases hx : runWith signals x s with ⟨r, t⟩
  rcases hcleanup : runWith (signalsAfter x s signals) cleanup t with ⟨cleaned, u⟩
  rw [runWith] at hx hcleanup
  rw [runWith, andFinally, Suspension.drive_andThen, hx]
  show Suspension.drive (signalsAfter x s signals) ((cleanup t).andThen _) = _
  rw [Suspension.drive_andThen, hcleanup]
  cases cleaned <;> rfl

/-- The cleanup uses signals that the computation has left. -/
theorem used_andFinally (signals : Nat → Option ε) (x : Async σ ε α) (cleanup : Async σ ε Unit)
    (s : σ) : used signals (andFinally x cleanup) s = used signals x s ++
      used (signalsAfter x s signals) cleanup (runWith signals x s).2 := by
  rcases hcleanup : runWith (signalsAfter x s signals) cleanup (runWith signals x s).2 with
    ⟨cleaned, u⟩
  rw [used, andFinally, Suspension.used_andThen]
  congr 1
  show Suspension.used (signalsAfter x s signals)
    ((cleanup (runWith signals x s).2).andThen _) = _
  rw [runWith] at hcleanup
  rw [Suspension.used_andThen, hcleanup]
  cases cleaned <;> exact List.append_nil _

/-! ## Rules -/

theorem always_ofAction {Q : List (Option ε) → Except ε α → σ → Prop} (x : Action σ ε α) :
    (ofAction x s).Always before Q ↔ Q before (x s).1 (x s).2 := Iff.rfl

/-- A sequence: what its first part always comes to is enough for the second. -/
theorem always_bind {P : List (Option ε) → Except ε α → σ → Prop}
    {Q : List (Option ε) → Except ε β → σ → Prop} {x : Async σ ε α} {f : α → Async σ ε β}
    (hx : (x s).Always before P) (hok : ∀ used a t, P used (.ok a) t → (f a t).Always used Q)
    (herror : ∀ used e t, P used (.error e) t → Q used (.error e) t) :
    ((x >>= f) s).Always before Q := by
  rw [bind_apply, Suspension.always_andThen]
  apply hx.mono
  intro used r t h
  cases r with
  | ok a => exact hok used a t h
  | error e => exact herror used e t h

/-- A sequence that begins with an action which succeeds. -/
theorem always_bind_of_ok {Q : List (Option ε) → Except ε β → σ → Prop} {x : Action σ ε α}
    {f : α → Async σ ε β} {a : α} (hx : x s = (.ok a, t)) (hf : (f a t).Always before Q) :
    ((ofAction x >>= f) s).Always before Q := by
  rw [ofAction_bind_of_ok hx]
  exact hf

/-- A sequence that begins with an action which fails. -/
theorem always_bind_of_error {Q : List (Option ε) → Except ε β → σ → Prop} {x : Action σ ε α}
    {f : α → Async σ ε β} {e : ε} (hx : x s = (.error e, t)) (hQ : Q before (.error e) t) :
    ((ofAction x >>= f) s).Always before Q := by
  rw [ofAction_bind_of_error hx]
  exact hQ

/-- A sequence that begins by reading the state. -/
theorem always_bind_state {Q : List (Option ε) → Except ε β → σ → Prop} {f : σ → Async σ ε β}
    (hf : (f s s).Always before Q) : ((ofAction Action.state >>= f) s).Always before Q :=
  always_bind_of_ok (Action.state_apply s) hf

/-- A sequence that begins by changing the state. -/
theorem always_bind_update {Q : List (Option ε) → Except ε β → σ → Prop} {g : σ → σ}
    {f : Unit → Async σ ε β} (hf : (f () (g s)).Always before Q) :
    ((ofAction (Action.update g) >>= f) s).Always before Q :=
  always_bind_of_ok (Action.update_apply g s) hf

/-- A result that is thrown away. -/
theorem always_discard {P : List (Option ε) → Except ε Unit → σ → Prop} {x : Async σ ε α}
    (hx : (x s).Always before fun used r t => P used (r.map fun _ => ()) t) :
    (discard x s).Always before P :=
  always_bind hx (fun _ _ _ h => h) (fun _ _ _ h => h)

theorem always_attempt {Q : List (Option ε) → Except ε (Except ε α) → σ → Prop} {x : Async σ ε α}
    (hx : (x s).Always before fun used r t => Q used (.ok r) t) : (attempt x s).Always before Q := by
  rw [attempt_apply, Suspension.always_andThen]
  exact hx

variable {P Q : List (Option ε) → Except ε α → σ → Prop} {x : Async σ ε α}
  {cleanup : Async σ ε Unit}

/-- A computation with its cleanup.  The outcome is that of the computation, unless the cleanup
fails. -/
theorem always_andFinally_outcome (hx : (x s).Always before P)
    (hcleanup : ∀ used r t, P used r t →
      (cleanup t).Always used fun used cleaned u => Q used (cleaned.bind fun _ => r) u) :
    (andFinally x cleanup s).Always before Q := by
  unfold andFinally
  rw [Suspension.always_andThen]
  apply hx.mono
  intro used r t ht
  rw [Suspension.always_andThen]
  apply (hcleanup used r t ht).mono
  intro used cleaned u hu
  cases cleaned <;> exact hu

/-- The cleanup starts wherever the computation ends. -/
theorem always_andFinally {P Q : List (Option ε) → σ → Prop}
    (hx : (x s).Always before fun used _ t => P used t)
    (hcleanup : ∀ used t, P used t → (cleanup t).Always used fun used _ u => Q used u) :
    (andFinally x cleanup s).Always before fun used _ u => Q used u :=
  always_andFinally_outcome hx fun used _ => hcleanup used

/-- A computation with a cleanup for its failure.  A failure stays one, and if the cleanup fails too it
fails as the cleanup did. -/
theorem always_onFailure (hx : (x s).Always before P)
    (hok : ∀ used a t, P used (.ok a) t → Q used (.ok a) t)
    (hcleanup : ∀ used e t, P used (.error e) t →
      (cleanup t).Always used fun used cleaned u => Q used (cleaned.bind fun _ => .error e) u) :
    (onFailure x cleanup s).Always before Q := by
  unfold onFailure
  rw [Suspension.always_andThen]
  apply hx.mono
  intro used r t ht
  cases r with
  | ok a => exact hok used a t ht
  | error e =>
    show Suspension.Always used Q (Suspension.andThen _ (cleanup t))
    rw [Suspension.always_andThen]
    apply (hcleanup used e t ht).mono
    intro used cleaned u hu
    cases cleaned <;> exact hu

end Async

end Paging
