import Paging.Proofs.Chain.Answer
import Paging.Proofs.Chunked.Fetches
import Paging.Proofs.Interleaving.Together

/-!
# Paging.Proofs.Interleaving.Undisturbed — calls do not disturb each other

Calls that take turns come to what each of them comes to alone (`undisturbed`).  The only thing that
they change for each other is how many chunks of a shared sequence have been fetched, and that
number is the sum of what visiting the chunks takes in each call that has begun (`Counted.move`).
-/

namespace Paging

open Tracing

/-! ## Fetches of chunks -/

/-- The chunks of a sequence do not depend on how many have been fetched. -/
theorem Chunked.SameElements.delivery_eq {c d : Chunked Value} (h : c.SameElements d) (offset : Nat) :
    c.delivery offset = d.delivery offset := by
  -- by induction on what is left of the elements: every chunk but the last makes it shorter
  induction hleft : c.elements.length - offset using Nat.strongRecOn generalizing offset with
  | ind left ih =>
    have hview := h.viewAt_eq offset
    have hmore := h.hasMore_eq (c.viewAt offset)
    cases hc : c.hasMore (c.viewAt offset) with
    | true =>
      have hlt := Chunked.offset_lt_of_hasMore hc
      have hone := c.one_le_fetchSize
      rw [hc, hview] at hmore
      rw [Chunked.delivery_of_hasMore c hc, Chunked.delivery_of_hasMore d hmore.symm, hview,
        ih _ (by omega) (offset + c.fetchSize) rfl, h.fetchSize]
    | false =>
      rw [hc, hview] at hmore
      rw [Chunked.delivery_of_last c hc, Chunked.delivery_of_last d hmore.symm, hview]

namespace PageCall

/-- What a call reads from has been opened, and the chunk it begins with is one of its sequence. -/
structure Ready (c : PageCall) (w : Service) : Prop where
  stands : (c.place w).Stands w
  current : ∀ i view, c.feed = .chunk i view → view = (w.sequence i).viewAt view.offset

/-- How many chunks of a sequence a call has to fetch. -/
def fetches (c : PageCall) (w : Service) (k : Nat) : Nat :=
  match c.feed with
  | .chunk i view =>
    if k = i then ((w.sequence i).delivery view.offset).fetches (.start c.pager.strategy c.request)
    else 0
  | _ => 0

variable {c : PageCall} {w : Service} {k : Nat}

theorem fetches_of_counts_eq_false (h : (c.place w).counts k = false) : c.fetches w k = 0 := by
  rcases c with ⟨pager, request, chain | ⟨i, view⟩ | view⟩
  · rfl
  · have hne : ¬ k = i := beq_eq_false_iff_ne.1 h
    exact if_neg hne
  · rfl

/-- The count of a sequence is changed by calls on its chunks only, and they do not wait. -/
theorem exists_chunk_of_counts (h : (c.place w).counts k = true) :
    (∃ view, c.feed = .chunk k view) ∧ (c.place w).waits = false := by
  rcases c with ⟨pager, request, chain | ⟨i, view⟩ | view⟩
  · cases h
  · obtain rfl : k = i := beq_iff_eq.1 h
    exact ⟨⟨view, rfl⟩, rfl⟩
  · cases h

end PageCall

namespace Interleaving

open PageCall

variable {ι : Type} [DecidableEq ι] {K : Service → Prop} {Starts : Option Rat → Prop}
  {calls : ι → PageCall} {w : Service} {P : Pool ι Service Fault (Page Value)} {i : ι}

omit [DecidableEq ι] in
/-- A call that does not wait is over with its first piece. -/
theorem Orderly.run_eq (h : Orderly K calls w P) (hfresh : P.tasks i = .fresh (calls i).body)
    (hwaits : ((calls i).place w).waits = false) :
    (Move.step.apply (P.tasks i) P.state).2.2 = ((calls i).alone P.state).2 := by
  have htwins := (h.going i).twins
  rw [hfresh] at htwins ⊢
  have halike := htwins P.state P.state (h.meets h (.refl _ _))
  rw [alone_eq_run, Async.run_apply]
  show (Task.settle ((calls i).body P.state)).2.2 = _
  cases hx : (calls i).body P.state with
  | done r u => rfl
  | waiting label u resume =>
    rw [hx] at halike
    exact absurd (hwaits.symm.trans halike.2.1.1) nofun

omit [DecidableEq ι] in
/-- A call on chunks that begins fetches what it has to fetch. -/
theorem Orderly.fetchCount_alone (h : Orderly K calls w P) (htells : Tells K Starts)
    (hready : (calls i).Ready w) {k : Nat} {view : ChunkView Value}
    (hfeed : (calls i).feed = .chunk k view) :
    (((calls i).alone P.state).2.sequence k).fetchCount =
      (P.state.sequence k).fetchCount + (calls i).fetches w k := by
  obtain ⟨start, v, hbegin, _⟩ := htells.begins P.state h.tells
  have hstands := h.stands i
  rw [place, hfeed] at hstands
  have hview := hready.current k view hfeed
  rw [(h.same k).viewAt_eq] at hview
  have hcount := (calls i).pager.fetchCount_awaitPage (calls i).request
    (congrArg Prod.fst hbegin) hstands view.offset
  rw [← hview, ← (h.same k).delivery_eq] at hcount
  rw [alone, fetches, hfeed]
  exact hcount.trans (by simp only [if_true])

/-- What a move adds to the count of a sequence. -/
theorem Orderly.fetchCount_move (h : Orderly K calls w P) (htells : Tells K Starts)
    (hready : (calls i).Ready w) (m : Move Fault) (k : Nat) :
    ((P.move i m).state.sequence k).fetchCount = (P.state.sequence k).fetchCount +
      if m.begins (P.tasks i) then (calls i).fetches w k else 0 := by
  cases hcounts : ((calls i).place w).counts k with
  | false =>
    obtain ⟨said, fetched, hsame⟩ := h.piece i m
    have hdoes : ((calls i).place w).Does said fetched P.state (P.move i m).state := hsame.both.left
    rw [hdoes.fetchCount, hcounts, fetches_of_counts_eq_false hcounts, ite_self]
    rfl
  | true =>
    -- a call on chunks does not wait, so all its fetches are made in its first move
    obtain ⟨⟨view, hfeed⟩, hwaits⟩ := exists_chunk_of_counts hcounts
    have hstill : (m.apply (P.tasks i) P.state).2 = (.finished, P.state) →
        m.begins (P.tasks i) = false → ((P.move i m).state.sequence k).fetchCount =
          (P.state.sequence k).fetchCount +
            if m.begins (P.tasks i) then (calls i).fetches w k else 0 := by
      intro happly hbegins
      rw [(Pool.move_of_apply happly).1, hbegins]
      rfl
    cases htask : P.tasks i with
    | waiting resume => exact absurd (hwaits.symm.trans ((h.going i).waiting resume htask)) nofun
    | finished =>
      rw [htask] at hstill
      exact hstill (Move.apply_finished m P.state) (Move.begins_finished m)
    | fresh body =>
      by_cases hm : m = .step
      · subst hm
        obtain rfl := (h.going i).fresh body htask
        have hstate : (P.move i .step).state = ((calls i).alone P.state).2 := h.run_eq htask hwaits
        rw [hstate]
        exact h.fetchCount_alone htells hready hfeed
      · -- a call that is cancelled or let go of before it has begun does not begin
        rw [htask] at hstill
        exact hstill (Move.apply_fresh_of_ne hm body P.state) (Move.begins_of_ne hm _)

/-- An orderly pool in which every chunk that was fetched has been counted. -/
structure Counted (K : Service → Prop) (calls : ι → PageCall) (w : Service)
    (P : Pool ι Service Fault (Page Value)) : Prop extends Orderly K calls w P where
  fetchCount : ∀ k, (P.state.sequence k).fetchCount =
    (w.sequence k).fetchCount + (P.begun.map fun j => (calls j).fetches w k).sum

theorem Counted.move (h : Counted K calls w P) (htells : Tells K Starts)
    (hready : ∀ i, (calls i).Ready w)
    (hapart : ∀ i j, i ≠ j → ((calls i).place w).Apart ((calls j).place w)) (i : ι)
    (m : Move Fault) : Counted K calls w (P.move i m) := by
  refine ⟨h.toOrderly.move hapart i m, fun k => ?_⟩
  rw [h.fetchCount_move htells (hready i), h.fetchCount, Pool.begun_move, List.map_append,
    List.sum_append, Nat.add_assoc]
  cases m.begins (P.tasks i) <;> rfl

end Interleaving

/-! ## Calls that take turns -/

open PageCall Interleaving

variable {ι : Type} [DecidableEq ι]

/-- What is promised to calls that are made together. -/
structure Undisturbed (calls : ι → PageCall) (w : Service) (moves : List (ι × Move Fault)) :
    Prop where
  /-- The moves of a call come to what they come to when nobody else is moved. -/
  accounts : ∀ i, (together calls w moves).accounts i =
    (together calls w (moves.filter fun m => decide (m.1 = i))).accounts i
  /-- A call that is run to its end has the outcome that it has alone, after the same fetches. -/
  completed : ∀ i, (∀ m, (i, m) ∈ moves → m = .step) →
    (together calls w moves).tasks i = .finished →
      (together calls w moves).outcome i = some ((calls i).alone w).1 ∧
      ((calls i).alone w).2.traffic = w.traffic ++ (together calls w moves).said i ∧
      ∀ k, (((calls i).alone w).2.sequence k).fetchCount =
        (w.sequence k).fetchCount + (together calls w moves).fetched i k
  /-- No call waits for more than one fetch. -/
  inFlight : ∀ i, ((together calls w moves).inFlight i).length ≤ 1
  /-- Where pages are waited for, a call asks for them one by one and waits for each at once. -/
  asked : ∀ i, ((calls i).place w).waits = true →
    ∀ a ∈ (together calls w moves).accounts i, a.AsksOnce
  /-- A call that is cancelled where it waits fails with what it is cancelled with.  It has fetched
  nothing since it last waited and fetches nothing any more. -/
  cancelled : ∀ past i e rest, moves = past ++ (i, .cancel e) :: rest →
    (∃ resume, (together calls w past).tasks i = .waiting resume) →
      ∃ later, (together calls w moves).accounts i =
        (together calls w past).accounts i ++ ⟨some (.ended (.error e)), [], fun _ => 0⟩ :: later ∧
        ∀ a ∈ later, a.Silent
  /-- The chunks of a sequence that were fetched are those that the calls which have begun had to
  fetch. -/
  counted : ∀ k, ((together calls w moves).state.sequence k).fetchCount = (w.sequence k).fetchCount +
    ((together calls w moves).begun.map fun j => (calls j).fetches w k).sum

/-- **Calls do not disturb each other.**  Any number of calls may be made together, on feeds of
their own or on chunks of the same sequences, and be stepped, cancelled or let go of in any order,
in a state in which telling of calls cannot change what they answer. -/
theorem undisturbed {calls : ι → PageCall} {w : Service} (hw : w.Discreet)
    (hready : ∀ i, (calls i).Ready w)
    (hapart : ∀ i j, i ≠ j → ((calls i).place w).Apart ((calls j).place w))
    (moves : List (ι × Move Fault)) : Undisturbed calls w moves := by
  obtain ⟨K, Starts, htells, hkw⟩ := exists_tells hw
  have hstands : ∀ i, ((calls i).place w).Stands w := fun i => (hready i).stands
  have hcounted : Counted K calls w (together calls w moves) :=
    Pool.run_induction _ ⟨orderly_start htells hkw hstands, fun _ => rfl⟩
      (fun _ i m h => h.move htells hready hapart i m) moves
  have hpatient := patient_together htells hkw hstands hapart moves
  refine ⟨fun i => ?_, fun i => ?_, hpatient.inFlight, hpatient.asked, ?_, hcounted.fetchCount⟩
  · exact (paired_together htells hkw hstands hapart i moves).accounts
  · exact completed htells hkw hstands hapart i
  · rintro past i e rest rfl ⟨resume, hwaits⟩
    exact cancelled htells hkw hstands hapart hwaits e rest

/-- A state with a sequence, and a query on a server that makes its callers wait, in which the
listener that is registered fails every time. -/
def crowded : Service :=
  { Service.complaining with
    sequences := [{
      elements := [.int 1, .int 2, .int 3, .int 4, .int 5], fetchSize := 2, trailing := true }]
    servers := [{ supply := .replies [.cursor 0 [.int 3]], suspends := true }]
    queries := [⟨0, some 1, 7, 1, 1⟩] }

/-- Four calls in it: on a chain, on the first and on the second chunk of the sequence, and on the
query. -/
def crowd (i : Fin 4) : PageCall where
  pager := ⟨.fail⟩
  request := match i with
    | 2 => ⟨1, 2, Nat.zero_lt_one, Nat.zero_lt_two⟩
    | _ => ⟨2, 2, Nat.zero_lt_two, Nat.zero_lt_two⟩
  feed := match i with
    | 0 => .chain ⟨[⟨[.int 6, .int 7], none, none⟩, ⟨[.int 8], none, none⟩], true⟩ 0
    | 1 => .chunk 0 ⟨0, [.int 1, .int 2]⟩
    | 2 => .chunk 0 ⟨2, [.int 3, .int 4]⟩
    | 3 => .batch ⟨0, [.int 2], none⟩

theorem ready_crowd (i : Fin 4) : (crowd i).Ready crowded :=
  match i with
  | 0 => ⟨trivial, nofun⟩
  | 1 => ⟨Nat.zero_lt_one, fun _ _ h => by cases h; rfl⟩
  | 2 => ⟨Nat.zero_lt_one, fun _ _ h => by cases h; rfl⟩
  | 3 => ⟨⟨Nat.zero_lt_one, Nat.zero_lt_one, rfl, rfl⟩, nofun⟩

theorem apart_crowd (i j : Fin 4) (h : i ≠ j) :
    ((crowd i).place crowded).Apart ((crowd j).place crowded) :=
  match i, j, h with
  | 0, _, _ => trivial
  | 1, _, _ => trivial
  | 2, _, _ => trivial
  | 3, 0, _ => trivial
  | 3, 1, _ => trivial
  | 3, 2, _ => trivial
  | 3, 3, h => absurd rfl h

/-- The first call begins and ends, and between its moves the others are made.  The call on the
query is cancelled while it waits for its batch. -/
def jostling : List (Fin 4 × Move Fault) :=
  [(0, .step), (3, .step), (1, .step), (3, .cancel .cancellation), (2, .step), (0, .step)]

/-- The first call has the page of its chain, the call on the query has failed, and three chunks
were fetched. -/
theorem undisturbed_of_jostling :
    crowded.Discreet ∧ (∀ i, (crowd i).Ready crowded) ∧
    (∀ i j, i ≠ j → ((crowd i).place crowded).Apart ((crowd j).place crowded)) ∧
    (together crowd crowded jostling).outcome 0 = some (.ok ⟨[.int 8], 2, true⟩) ∧
    (∃ later, (together crowd crowded jostling).accounts 3 =
      (together crowd crowded (jostling.take 3)).accounts 3 ++
        ⟨some (.ended (.error .cancellation)), [], fun _ => 0⟩ :: later) ∧
    ((together crowd crowded jostling).state.sequence 0).fetchCount = 3 := by
  have hdiscreet : crowded.Discreet :=
    Service.TellsLike.discreet (v := Service.complaining) ⟨rfl, rfl, rfl, rfl⟩
      Service.discreet_complaining
  have h := undisturbed hdiscreet ready_crowd apart_crowd jostling
  refine ⟨hdiscreet, ready_crowd, apart_crowd, ?_, ?_, ?_⟩
  · have hsteps : ∀ m, ((0 : Fin 4), m) ∈ jostling → m = .step := by
      simp [jostling]
    have hfinished : ((together crowd crowded jostling).tasks 0).isFinished = true := by
      decide +kernel
    have hpage : ((crowd 0).alone crowded).1 = .ok ⟨[.int 8], 2, true⟩ := by
      refine (Pager.fst_awaitPage_chain _ _ _ hdiscreet).trans ?_
      rw [Chain.delivery_of_ok _ rfl, Chain.delivery_of_error _ rfl]
      rfl
    rw [(h.completed 0 hsteps (Task.eq_finished_of_isFinished hfinished)).1, hpage]
  · obtain ⟨later, hlater, _⟩ := h.cancelled (jostling.take 3) 3 .cancellation _ rfl ⟨_, rfl⟩
    exact ⟨later, hlater⟩
  · rw [h.counted 0]
    show 0 + ((crowd 0).fetches crowded 0 + ((crowd 3).fetches crowded 0 +
      ((crowd 1).fetches crowded 0 + ((crowd 2).fetches crowded 0 + 0)))) = 3
    have hfirst : (crowd 1).fetches crowded 0 = 2 := by
      show ((crowded.sequence 0).delivery 0).fetches _ = 2
      rw [Chunked.delivery_of_hasMore _ rfl, Chunked.delivery_of_hasMore _ rfl]
      rfl
    have hsecond : (crowd 2).fetches crowded 0 = 1 := by
      show ((crowded.sequence 0).delivery 2).fetches _ = 1
      rw [Chunked.delivery_of_hasMore _ rfl]
      rfl
    rw [hfirst, hsecond]
    rfl

end Paging
