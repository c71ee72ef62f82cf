import Mathlib.Algebra.GroupWithZero.Nat
import Paging.Proofs.Effect.Pool
import Paging.Proofs.Interleaving.Call

/-!
# Paging.Proofs.Interleaving.Turns — calls that take turns

What is known of a call in a pool is what came of its own moves: what was heard of it, which
contacts it made, and how many chunks it fetched (`Pool.accounts`).  Two tasks that are left of one
call go on alike (`Place.Twins`), and so one move of either comes to the same (`Place.Twins.apply`),
whatever others have done since the last.
-/

namespace Paging

/-! ## Accounts -/

/-- What came of one move of a call. -/
structure Account where
  /-- What was heard of the call; nothing if it was let go of. -/
  heard : Option (Progress Fault (Page Value))
  /-- The contacts with sources and servers that were made. -/
  said : List Contact
  /-- How many chunks of each sequence were fetched. -/
  fetched : Nat → Nat

namespace Account

/-- The outcome that was heard. -/
def result? (a : Account) : Option (Except Fault (Page Value)) :=
  match a.heard with
  | some (.ended result) => some result
  | _ => none

/-- Nothing was asked for. -/
def Silent (a : Account) : Prop := a.said = [] ∧ ∀ k, a.fetched k = 0

/-- Nothing was asked for, or one page that is waited for since. -/
def AsksOnce (a : Account) : Prop :=
  a.said = [] ∨ ∃ contact label, a.said = [contact] ∧ a.heard = some (.suspended label)

end Account

namespace Pool

variable {ι : Type} [DecidableEq ι] {P : Pool ι Service Fault (Page Value)} {i j : ι}
  {m : Move Fault}

/-- The account of a move. -/
def account (e : Entry ι Service Fault (Page Value)) : Account where
  heard := e.heard
  said := e.after.traffic.drop e.before.traffic.length
  fetched k := (e.after.sequence k).fetchCount - (e.before.sequence k).fetchCount

/-- What came of the moves of one call, in order. -/
def accounts (P : Pool ι Service Fault (Page Value)) (i : ι) : List Account :=
  (P.log.filter fun e => decide (e.who = i)).map account

/-- The contacts that a call has made, in order. -/
def said (P : Pool ι Service Fault (Page Value)) (i : ι) : List Contact :=
  (P.accounts i).flatMap fun a => a.said

/-- How many chunks of a sequence a call has fetched. -/
def fetched (P : Pool ι Service Fault (Page Value)) (i : ι) (k : Nat) : Nat :=
  ((P.accounts i).map fun a => a.fetched k).sum

/-- The outcome of a call, if it was heard. -/
def outcome (P : Pool ι Service Fault (Page Value)) (i : ι) : Option (Except Fault (Page Value)) :=
  (P.accounts i).findSome? Account.result?

/-- What a call has asked for and waits for: nothing unless it waits, and then what it has asked for
since it was last resumed. -/
def inFlight (P : Pool ι Service Fault (Page Value)) (i : ι) : List Contact :=
  match P.tasks i, (P.accounts i).getLast? with
  | .waiting _, some a => a.said
  | _, _ => []

theorem accounts_move_of_ne (h : i ≠ j) (P : Pool ι Service Fault (Page Value)) (m : Move Fault) :
    (P.move i m).accounts j = P.accounts j := by
  rw [accounts, accounts, move, List.filter_append, List.map_append]
  simp [h]

/-- The account of a move tells what a piece of the call has done. -/
theorem accounts_move {p : Place} {said : List Contact} {fetched : Nat}
    (h : p.Does said fetched P.state (P.move i m).state) :
    (P.move i m).accounts i = P.accounts i ++
      [⟨(m.apply (P.tasks i) P.state).1, said, fun k => if p.counts k then fetched else 0⟩] := by
  have hfetched : ∀ k, ((P.move i m).state.sequence k).fetchCount -
      (P.state.sequence k).fetchCount = if p.counts k then fetched else 0 := by
    intro k
    rw [h.fetchCount, Nat.add_sub_cancel_left]
  have haccount : account ⟨i, m.begins (P.tasks i), (m.apply (P.tasks i) P.state).1, P.state,
      (P.move i m).state⟩ =
        ⟨(m.apply (P.tasks i) P.state).1, said, fun k => if p.counts k then fetched else 0⟩ := by
    rw [account, Account.mk.injEq]
    refine ⟨rfl, ?_, funext hfetched⟩
    rw [h.traffic, List.drop_left]
  rw [← haccount, accounts, accounts, move, List.filter_append, List.map_append]
  simp

section Accounts

variable {a : Account} (h : (P.move i m).accounts i = P.accounts i ++ [a])

include h

theorem said_move : (P.move i m).said i = P.said i ++ a.said := by
  rw [said, said, h, List.flatMap_append, List.flatMap_singleton]

theorem fetched_move (k : Nat) : (P.move i m).fetched i k = P.fetched i k + a.fetched k := by
  rw [fetched, fetched, h, List.map_append, List.sum_append]
  rfl

theorem outcome_move : (P.move i m).outcome i = (P.outcome i).or a.result? := by
  rw [outcome, outcome, h, List.findSome?_append]
  cases hresult : a.result? <;> simp [hresult]

/-- What a call that has just been moved waits for. -/
theorem inFlight_move : (P.move i m).inFlight i =
    match (P.move i m).tasks i with
    | .waiting _ => a.said
    | _ => [] := by
  rw [inFlight, h, List.getLast?_concat]
  cases (P.move i m).tasks i <;> rfl

end Accounts

theorem inFlight_move_of_ne (h : i ≠ j) (P : Pool ι Service Fault (Page Value)) (m : Move Fault) :
    (P.move i m).inFlight j = P.inFlight j := by
  rw [inFlight, inFlight, accounts_move_of_ne h, tasks_move_of_ne h.symm]

end Pool

/-! ## Moves of one call -/

namespace Place

variable {K : Service → Prop} {p : Place} {α : Type} {s t u v : Service} {m : Move Fault}

/-- Two tasks that go on alike from states that agree on a place. -/
def Twins (K : Service → Prop) (p : Place) :
    Task Service Fault α → Task Service Fault α → Prop
  | .fresh x, .fresh y => ∀ u v, Meets K p u v → Alike K p (fun _ => True) u v (x u) (y v)
  | .waiting resume, .waiting resume' => ∀ u v, Meets K p u v →
      Alike K p (fun _ => True) u v (resume none u) (resume' none v) ∧
      ∀ e, ∃ u' v', resume (some e) u = .done (.error e) u' ∧
        resume' (some e) v = .done (.error e) v' ∧ Idles K p u v u' v'
  | .finished, .finished => True
  | _, _ => False

theorem Twins.eq_finished {t : Task Service Fault α} (h : Twins K p .finished t) :
    t = .finished := by
  cases t with
  | fresh => exact h.elim
  | waiting => exact h.elim
  | finished => rfl

/-- What a piece of a call may ask for: one page if it is waited for then, and nothing else where
pages are waited for. -/
structure Modest (p : Place) (heard : Option (Progress Fault α)) (said : List Contact) : Prop where
  asks : ∀ label, heard = some (.suspended label) → p.waits = true ∧ ∃ contact, said = [contact]
  rests : p.waits = true → (∀ label, heard ≠ some (.suspended label)) → said = []

theorem Modest.asksOnce {a : Account} (h : Modest p a.heard a.said) (hwaits : p.waits = true) :
    a.AsksOnce := by
  by_cases hsuspended : ∃ label, a.heard = some (.suspended label)
  · obtain ⟨label, hlabel⟩ := hsuspended
    obtain ⟨_, contact, hsaid⟩ := h.asks label hlabel
    exact .inr ⟨contact, label, hsaid, hlabel⟩
  · exact .inl (h.rests hwaits fun label hlabel => hsuspended ⟨label, hlabel⟩)

/-- Two moves come to the same: what is heard, which contacts are made, how many chunks are fetched,
and what is left of the call. -/
structure Same (K : Service → Prop) (p : Place) (said : List Contact) (fetched : Nat) (s t : Service)
    (x y : Option (Progress Fault α) × Task Service Fault α × Service) : Prop where
  heard : x.1 = y.1
  twins : Twins K p x.2.1 y.2.1
  both : Both K p said fetched s t x.2.2 y.2.2
  modest : Modest p x.1 said
  /-- A call that waits has just been heard of. -/
  waits : ∀ resume, x.2.1 = .waiting resume → ∃ label, x.1 = some (.suspended label)

/-- Pieces that are alike leave tasks that go on alike. -/
theorem Alike.same {x y : Suspension Service Fault α} (h : Alike K p (fun _ => True) s t x y) :
    ∃ said fetched, Same K p said fetched s t (some (Task.settle x).1, (Task.settle x).2)
      (some (Task.settle y).1, (Task.settle y).2) := by
  cases x with
  | done r u =>
    cases y with
    | done r' v =>
      obtain ⟨rfl, _, said, fetched, hsaid, hboth⟩ := h
      exact ⟨said, fetched, rfl, trivial, hboth, ⟨nofun, fun hwaits _ => hsaid hwaits⟩, nofun⟩
    | waiting => exact h.elim
  | waiting label u resume =>
    cases y with
    | done => exact h.elim
    | waiting label' v resume' =>
      obtain ⟨rfl, ⟨hwaits, contact, fetched, hboth⟩, hresume⟩ := h
      refine ⟨[contact], fetched, rfl, hresume, hboth, ⟨fun _ _ => ⟨hwaits, contact, rfl⟩, ?_⟩, ?_⟩
      · exact fun _ hheard => absurd rfl (hheard label)
      · exact fun _ _ => ⟨label, rfl⟩

/-- Nothing is done by a move that finds nothing to do. -/
theorem same_finished (h : Meets K p s t) {heard : Option (Progress Fault α)}
    (hheard : ∀ label, heard ≠ some (.suspended label)) :
    Same K p [] 0 s t (heard, .finished, s) (heard, .finished, t) where
  heard := rfl
  twins := trivial
  both := h.idles
  modest := ⟨fun label hlabel => absurd hlabel (hheard label), fun _ _ => rfl⟩
  waits := nofun

/-- A call that is cancelled or let go of where it waits fails and asks for nothing. -/
theorem same_cancelled (h : Meets K p s t) {resume resume' : Option Fault → Service →
      Suspension Service Fault α} (htwins : Twins K p (.waiting resume) (.waiting resume'))
    {e : Fault} (hm : m.signal = some e) :
    Same K p [] 0 s t (m.apply (.waiting resume) s) (m.apply (.waiting resume') t) ∧
      (m.apply (.waiting resume) s).2.1 = .finished ∧
      (m = .cancel e → (m.apply (.waiting resume) s).1 = some (.ended (.error e))) := by
  obtain ⟨u, v, hleft, hright, hidles⟩ := (htwins s t h).2 e
  cases m with
  | step => cases hm
  | cancel e' =>
    cases hm
    have hx : (Move.cancel e).apply (.waiting resume) s =
        (some (.ended (.error e)), .finished, u) := by
      show (some (Task.settle (resume (some e) s)).1, (Task.settle (resume (some e) s)).2) = _
      rw [hleft]
      rfl
    have hy : (Move.cancel e).apply (.waiting resume') t =
        (some (.ended (.error e)), .finished, v) := by
      show (some (Task.settle (resume' (some e) t)).1, (Task.settle (resume' (some e) t)).2) = _
      rw [hright]
      rfl
    rw [hx, hy]
    exact ⟨⟨rfl, trivial, hidles, ⟨nofun, fun _ _ => rfl⟩, nofun⟩, rfl, fun _ => rfl⟩
  | abandon e' =>
    cases hm
    have hx : (Move.abandon e).apply (.waiting resume) s = (none, .finished, u) := by
      show (none, Task.finished, (Task.settle (resume (some e) s)).2.2) = _
      rw [hleft]
      rfl
    have hy : (Move.abandon e).apply (.waiting resume') t = (none, .finished, v) := by
      show (none, Task.finished, (Task.settle (resume' (some e) t)).2.2) = _
      rw [hright]
      rfl
    rw [hx, hy]
    exact ⟨⟨rfl, trivial, hidles, ⟨nofun, fun _ _ => rfl⟩, nofun⟩, rfl, nofun⟩

/-- **One move of a call comes to the same** in states that agree on its place. -/
theorem Twins.apply {x y : Task Service Fault α} (htwins : Twins K p x y) (h : Meets K p s t)
    (m : Move Fault) : ∃ said fetched, Same K p said fetched s t (m.apply x s) (m.apply y t) := by
  cases x with
  | fresh body =>
    cases y with
    | fresh body' =>
      cases m with
      | step => exact (htwins s t h).same
      | cancel e => exact ⟨[], 0, same_finished h nofun⟩
      | abandon e => exact ⟨[], 0, same_finished h nofun⟩
    | waiting => exact htwins.elim
    | finished => exact htwins.elim
  | waiting resume =>
    cases y with
    | waiting resume' =>
      cases m with
      | step => exact (htwins s t h).1.same
      | cancel e => exact ⟨[], 0, (same_cancelled h htwins rfl).1⟩
      | abandon e => exact ⟨[], 0, (same_cancelled h htwins rfl).1⟩
    | fresh => exact htwins.elim
    | finished => exact htwins.elim
  | finished =>
    cases y with
    | finished => cases m <;> exact ⟨[], 0, same_finished h nofun⟩
    | fresh => exact htwins.elim
    | waiting => exact htwins.elim

end Place

end Paging
