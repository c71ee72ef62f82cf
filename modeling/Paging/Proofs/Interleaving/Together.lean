import Paging.Proofs.Interleaving.Turns
import Paging.Proofs.Traffic

/-!
# Paging.Proofs.Interleaving.Together — calls made together and calls made alone

Calls on feeds of their own, or on chunks of one sequence, take turns in any order.  Every move
keeps the pool orderly (`Orderly.move`): the states are such that telling does not matter, what the
feeds read is there, and each call goes on in one way only.  A call that is moved in two orderly
pools, one of which may have moved others in between, comes to the same in both (`Paired.run`).  So
a call comes to what it comes to when nobody else is moved, and that is, step by step, what it comes
to alone (`Solo.run`).
-/

namespace Paging

open Tracing

/-- A call on a feed. -/
structure PageCall where
  pager : Pager
  request : Request
  feed : Feed

namespace PageCall

/-- The computation that a call is. -/
def body (c : PageCall) : Later (Page Value) := c.pager.serveFeed c.request c.feed

/-- The call when it is made alone and runs to its end. -/
def alone (c : PageCall) : Act (Page Value) :=
  c.pager.awaitPage (some c.feed) c.request.target c.request.size

/-- Where a call gets its pages from. -/
def place (c : PageCall) (w : Service) : Place := c.feed.place w

theorem alone_eq_run (c : PageCall) : c.alone = Async.run c.body :=
  c.pager.awaitPage_eq_run c.request c.feed

theorem at_place (c : PageCall) (w : Service) : c.feed.At (c.place w) := by
  rcases c with ⟨_, _, _ | _ | _⟩ <;> rfl

variable {ι : Type} [DecidableEq ι]

/-- Calls that are made together, after some moves. -/
def together (calls : ι → PageCall) (w : Service) (moves : List (ι × Move Fault)) :
    Pool ι Service Fault (Page Value) :=
  (Pool.start w fun i => (calls i).body).run moves

end PageCall

namespace Interleaving

open PageCall

variable {ι : Type} [DecidableEq ι] {K : Service → Prop} {Starts : Option Rat → Prop}
  {calls : ι → PageCall} {w : Service} {P S : Pool ι Service Fault (Page Value)} {i j : ι}

theorem apart_sequence (p : Place) (k : Nat) : p.Apart (.sequence k) := by
  cases p <;> trivial

/-! ## Orderly pools -/

/-- What a call has become so far: it has not begun, or it can be resumed in one way only, or it is
over. -/
structure Going (K : Service → Prop) (c : PageCall) (w : Service)
    (t : Task Service Fault (Page Value)) : Prop where
  fresh : ∀ body, t = .fresh body → body = c.body
  waiting : ∀ resume, t = .waiting resume → (c.place w).waits = true
  twins : Place.Twins K (c.place w) t t

/-- A pool in which every call can be moved at any time. -/
structure Orderly (K : Service → Prop) (calls : ι → PageCall) (w : Service)
    (P : Pool ι Service Fault (Page Value)) : Prop where
  tells : K P.state
  stands : ∀ i, ((calls i).place w).Stands P.state
  /-- No sequence has been modified. -/
  same : ∀ k, (w.sequence k).SameElements (P.state.sequence k)
  going : ∀ i, Going K (calls i) w (P.tasks i)

omit [DecidableEq ι] in
theorem Orderly.meets (h : Orderly K calls w P) (h' : Orderly K calls w S)
    (hagree : ((calls i).place w).Agree P.state S.state) :
    Place.Meets K ((calls i).place w) P.state S.state :=
  ⟨h.tells, h'.tells, h.stands i, h'.stands i, hagree⟩

theorem orderly_start (htells : Tells K Starts) (hw : K w)
    (hstands : ∀ i, ((calls i).place w).Stands w) : Orderly K calls w (together calls w []) where
  tells := hw
  stands := hstands
  same _ := ⟨rfl, rfl, rfl⟩
  going i := ⟨fun _ h => (Task.fresh.inj h).symm, nofun, fun _ _ hmeets =>
    Place.alike_serveFeed htells (calls i).pager (calls i).request ((calls i).at_place w) hmeets⟩

omit [DecidableEq ι] in
/-- What a move does in an orderly pool. -/
theorem Orderly.piece (h : Orderly K calls w P) (i : ι) (m : Move Fault) : ∃ said fetched,
    Place.Same K ((calls i).place w) said fetched P.state P.state
      (m.apply (P.tasks i) P.state) (m.apply (P.tasks i) P.state) :=
  (h.going i).twins.apply (h.meets h (.refl _ _)) m

/-- **Every move keeps a pool orderly.** -/
theorem Orderly.move (h : Orderly K calls w P)
    (hapart : ∀ i j, i ≠ j → ((calls i).place w).Apart ((calls j).place w)) (i : ι)
    (m : Move Fault) : Orderly K calls w (P.move i m) := by
  obtain ⟨said, fetched, hsame⟩ := h.piece i m
  have hdoes : ((calls i).place w).Does said fetched P.state (P.move i m).state := hsame.both.left
  have hgoing : Going K (calls i) w (m.apply (P.tasks i) P.state).2.1 := by
    -- a call that has been moved has begun, and waits only where its pages are waited for
    refine ⟨fun body hbody => absurd hbody (Move.apply_ne_fresh m _ _ body), ?_, hsame.twins⟩
    intro resume hresume
    obtain ⟨label, hlabel⟩ := hsame.waits resume hresume
    exact (hsame.modest.asks label hlabel).1
  refine ⟨hsame.both.meets.left, fun j => ?_, fun k => ?_, ?_⟩
  · by_cases hj : j = i
    · subst hj
      exact hsame.both.meets.stands_left
    · exact (h.stands j).of_agree (hdoes.spares _ (hapart i j (Ne.symm hj))) hdoes.length_sequences
        hdoes.length_servers hdoes.length_queries
  · exact Place.Agree.trans (p := .sequence k) (h.same k)
      (hdoes.spares (.sequence k) (apart_sequence _ k))
  · exact Pool.forall_tasks_move (R := fun j t => Going K (calls j) w t) hgoing h.going

/-! ## One call in two pools -/

/-- Two pools in which a call has come to the same. -/
structure Paired (K : Service → Prop) (calls : ι → PageCall) (w : Service) (j : ι)
    (P S : Pool ι Service Fault (Page Value)) : Prop where
  left : Orderly K calls w P
  right : Orderly K calls w S
  agree : ((calls j).place w).Agree P.state S.state
  twins : Place.Twins K ((calls j).place w) (P.tasks j) (S.tasks j)
  accounts : P.accounts j = S.accounts j

section Apart

variable (hapart : ∀ i j, i ≠ j → ((calls i).place w).Apart ((calls j).place w))

include hapart

/-- The call is moved in both pools. -/
theorem Paired.move_both (h : Paired K calls w j P S) (m : Move Fault) :
    Paired K calls w j (P.move j m) (S.move j m) := by
  obtain ⟨said, fetched, hsame⟩ := h.twins.apply (h.left.meets h.right h.agree) m
  refine ⟨h.left.move hapart j m, h.right.move hapart j m, hsame.both.meets.agree, ?_, ?_⟩
  · rw [Pool.tasks_move_self, Pool.tasks_move_self]
    exact hsame.twins
  · have hleft := Pool.accounts_move (i := j) (m := m) hsame.both.left
    have hright := Pool.accounts_move (i := j) (m := m) hsame.both.right
    rw [hleft, hright, h.accounts, hsame.heard]

/-- Another call is moved in one of them. -/
theorem Paired.move_left (h : Paired K calls w j P S) (hij : i ≠ j) (m : Move Fault) :
    Paired K calls w j (P.move i m) S := by
  obtain ⟨said, fetched, hsame⟩ := h.left.piece i m
  have hspares := hsame.both.left.spares _ (hapart i j hij)
  refine ⟨h.left.move hapart i m, h.right, hspares.symm.trans h.agree, ?_, ?_⟩
  · rw [Pool.tasks_move_of_ne hij.symm]
    exact h.twins
  · rw [Pool.accounts_move_of_ne hij]
    exact h.accounts

/-- **The moves of others do not matter.** -/
theorem Paired.run (h : Paired K calls w j P S) (moves : List (ι × Move Fault)) :
    Paired K calls w j (P.run moves) (S.run (moves.filter fun m => decide (m.1 = j))) := by
  -- a move of the call is made in both pools, any other in the first only
  induction moves generalizing P S with
  | nil => exact h
  | cons m rest ih =>
    by_cases hj : m.1 = j
    · rw [List.filter_cons_of_pos (by simpa using hj), Pool.run_cons, Pool.run_cons, hj]
      exact ih (h.move_both hapart m.2)
    · rw [List.filter_cons_of_neg (by simpa using hj), Pool.run_cons]
      exact ih (h.move_left hapart hj m.2)

end Apart

/-! ## A call that waits -/

/-- An orderly pool in which no call waits for more than one page, or asks for a page that it does
not wait for although its pages are waited for. -/
structure Patient (K : Service → Prop) (calls : ι → PageCall) (w : Service)
    (P : Pool ι Service Fault (Page Value)) : Prop extends Orderly K calls w P where
  inFlight : ∀ i, (P.inFlight i).length ≤ 1
  asked : ∀ i, ((calls i).place w).waits = true → ∀ a ∈ P.accounts i, a.AsksOnce

theorem Patient.move (h : Patient K calls w P)
    (hapart : ∀ i j, i ≠ j → ((calls i).place w).Apart ((calls j).place w)) (i : ι)
    (m : Move Fault) : Patient K calls w (P.move i m) := by
  obtain ⟨said, fetched, hsame⟩ := h.piece i m
  have haccounts := Pool.accounts_move (i := i) (m := m) hsame.both.left
  refine ⟨h.toOrderly.move hapart i m, fun j => ?_, fun j hwaits a ha => ?_⟩
  · by_cases hij : i = j
    · subst hij
      rw [Pool.inFlight_move haccounts, Pool.tasks_move_self]
      cases htask : (m.apply (P.tasks i) P.state).2.1 with
      | fresh => exact Nat.zero_le 1
      | finished => exact Nat.zero_le 1
      | waiting resume =>
        -- what has just been asked for is the one page that is waited for
        obtain ⟨label, hlabel⟩ := hsame.waits resume htask
        obtain ⟨_, contact, rfl⟩ := hsame.modest.asks label hlabel
        exact Nat.le_refl 1
    · rw [Pool.inFlight_move_of_ne hij]
      exact h.inFlight j
  · by_cases hij : i = j
    · subst hij
      rw [haccounts, List.mem_append, List.mem_singleton] at ha
      rcases ha with ha | rfl
      · exact h.asked i hwaits a ha
      · exact Place.Modest.asksOnce hsame.modest hwaits
    · rw [Pool.accounts_move_of_ne hij] at ha
      exact h.asked j hwaits a ha

/-! ## A call that is over -/

/-- A move that finds a call over asks for nothing. -/
theorem accounts_move_of_finished (hover : P.tasks i = .finished) (m : Move Fault) :
    (P.move i m).tasks i = .finished ∧
      ∃ a : Account, (P.move i m).accounts i = P.accounts i ++ [a] ∧ a.Silent := by
  have happly : (m.apply (P.tasks i) P.state).2 = (.finished, P.state) := by
    rw [hover]
    exact Move.apply_finished m P.state
  obtain ⟨hstate, htask⟩ := Pool.move_of_apply happly
  have hdoes : (Place.nowhere false).Does [] 0 P.state (P.move i m).state := by
    rw [hstate]
    exact Place.does_of_suppliesLike _ (.refl _)
  exact ⟨htask, _, Pool.accounts_move hdoes, rfl, fun _ => rfl⟩

/-- **A call that is over asks for nothing any more**, whatever is tried. -/
theorem accounts_run_of_finished (hover : P.tasks i = .finished) (moves : List (ι × Move Fault)) :
    ∃ later, (P.run moves).accounts i = P.accounts i ++ later ∧ ∀ a ∈ later, a.Silent := by
  induction moves generalizing P with
  | nil => exact ⟨[], (List.append_nil _).symm, fun a ha => absurd ha List.not_mem_nil⟩
  | cons m rest ih =>
    rw [Pool.run_cons]
    by_cases hi : m.1 = i
    · rw [hi]
      obtain ⟨hover', a, haccounts, ha⟩ := accounts_move_of_finished hover m.2
      obtain ⟨later, hlater, hsilent⟩ := ih hover'
      refine ⟨a :: later, ?_, List.forall_mem_cons.2 ⟨ha, hsilent⟩⟩
      rw [hlater, haccounts, List.append_assoc]
      rfl
    · obtain ⟨later, hlater, hsilent⟩ := ih ((Pool.tasks_move_of_ne (Ne.symm hi) P m.2).trans hover)
      refine ⟨later, ?_, hsilent⟩
      rw [hlater, Pool.accounts_move_of_ne hi]

/-! ## A call that is moved alone -/

/-- A pool in which one call has been moved and no other. -/
structure Solo (K : Service → Prop) (calls : ι → PageCall) (w : Service) (i : ι)
    (S : Pool ι Service Fault (Page Value)) : Prop extends Orderly K calls w S where
  traffic : S.state.traffic = w.traffic ++ S.said i
  fetchCount : ∀ k, (S.state.sequence k).fetchCount = (w.sequence k).fetchCount + S.fetched i k

theorem solo_start (h : Orderly K calls w (together calls w [])) (i : ι) :
    Solo K calls w i (together calls w []) :=
  ⟨h, (List.append_nil _).symm, fun _ => rfl⟩

theorem Solo.move (h : Solo K calls w i S)
    (hapart : ∀ i j, i ≠ j → ((calls i).place w).Apart ((calls j).place w)) (m : Move Fault) :
    Solo K calls w i (S.move i m) := by
  obtain ⟨said, fetched, hsame⟩ := h.piece i m
  have hdoes : ((calls i).place w).Does said fetched S.state (S.move i m).state := hsame.both.left
  have haccounts := Pool.accounts_move hdoes
  refine ⟨h.toOrderly.move hapart i m, ?_, fun k => ?_⟩
  · rw [hdoes.traffic, h.traffic, Pool.said_move haccounts, List.append_assoc]
  · rw [hdoes.fetchCount, h.fetchCount, Pool.fetched_move haccounts, Nat.add_assoc]

/-- What a task comes to when it runs to its end without a pause. -/
def outstanding (t : Task Service Fault (Page Value)) (s : Service) :
    Option (Except Fault (Page Value) × Service) :=
  match t with
  | .fresh body => some (body s).finish
  | .waiting resume => some (resume none s).finish
  | .finished => none

/-- A call is on its way to an outcome and a state, or has got there. -/
def Heads (i : ι) (out : Except Fault (Page Value) × Service)
    (S : Pool ι Service Fault (Page Value)) : Prop :=
  outstanding (S.tasks i) S.state = some out ∧ S.outcome i = none ∨
    S.tasks i = .finished ∧ S.state = out.2 ∧ S.outcome i = some out.1

variable {out : Except Fault (Page Value) × Service}

/-- A piece that is run leads on to where the call heads for. -/
theorem heads_of_settle {x : Suspension Service Fault (Page Value)} {a : Account}
    (haccounts : (S.move i .step).accounts i = S.accounts i ++ [a])
    (hheard : a.heard = (Move.step.apply (S.tasks i) S.state).1)
    (happly : Move.step.apply (S.tasks i) S.state = (some (Task.settle x).1, (Task.settle x).2))
    (hout : x.finish = out) (hnone : S.outcome i = none) : Heads i out (S.move i .step) := by
  have htask := Pool.tasks_move_self S i .step
  have hstate : (S.move i .step).state = (Move.step.apply (S.tasks i) S.state).2.2 := rfl
  have houtcome := Pool.outcome_move haccounts
  rw [hnone, Account.result?, hheard] at houtcome
  rw [happly] at htask hstate houtcome
  subst hout
  cases x with
  | done r u => exact .inr ⟨htask, hstate, houtcome⟩
  | waiting label u resume =>
    refine .inl ⟨?_, houtcome⟩
    rw [htask, hstate]
    rfl

theorem Heads.step (hheads : Heads i out S) (h : Solo K calls w i S) :
    Heads i out (S.move i .step) := by
  obtain ⟨said, fetched, hsame⟩ := h.piece i .step
  have haccounts := Pool.accounts_move (i := i) (m := .step) hsame.both.left
  rcases hheads with ⟨hout, hnone⟩ | ⟨hfinished, hstate, houtcome⟩
  · cases htask : S.tasks i with
    | fresh body =>
      rw [htask] at hout
      exact heads_of_settle haccounts rfl (by rw [htask]; rfl) (Option.some.inj hout) hnone
    | waiting resume =>
      rw [htask] at hout
      exact heads_of_settle haccounts rfl (by rw [htask]; rfl) (Option.some.inj hout) hnone
    | finished =>
      rw [htask] at hout
      cases hout
  · -- nothing happens any more
    have hover : (Move.step.apply (S.tasks i) S.state).2 = (.finished, S.state) := by
      rw [hfinished]
      exact Move.apply_finished .step S.state
    obtain ⟨hstays, htask⟩ := Pool.move_of_apply hover
    refine .inr ⟨htask, hstays.trans hstate, ?_⟩
    rw [Pool.outcome_move haccounts, houtcome]
    rfl

/-- **A call that is stepped and stepped again comes to what it comes to without a pause.** -/
theorem Solo.run (h : Solo K calls w i S) (hheads : Heads i out S)
    (hapart : ∀ i j, i ≠ j → ((calls i).place w).Apart ((calls j).place w))
    {moves : List (ι × Move Fault)} (hmoves : ∀ m ∈ moves, m = (i, .step)) :
    Solo K calls w i (S.run moves) ∧ Heads i out (S.run moves) := by
  induction moves generalizing S with
  | nil => exact ⟨h, hheads⟩
  | cons m rest ih =>
    obtain rfl := hmoves m List.mem_cons_self
    exact ih (h.move hapart .step) (hheads.step h) fun m hm => hmoves m (List.mem_cons_of_mem _ hm)

section Apart

variable (htells : Tells K Starts) (hw : K w) (hstands : ∀ i, ((calls i).place w).Stands w)
  (hapart : ∀ i j, i ≠ j → ((calls i).place w).Apart ((calls j).place w))

include htells hw hstands hapart

/-- Calls that are made together, and the same calls of which only one is moved. -/
theorem paired_together (j : ι) (moves : List (ι × Move Fault)) :
    Paired K calls w j (together calls w moves)
      (together calls w (moves.filter fun m => decide (m.1 = j))) := by
  have hstart := orderly_start htells hw hstands
  have hpaired : Paired K calls w j (together calls w []) (together calls w []) :=
    ⟨hstart, hstart, .refl _ _, (hstart.going j).twins, rfl⟩
  exact hpaired.run hapart moves

/-- A call that is run to its end has the outcome that it has alone, and has made the contacts and
fetched the chunks that it makes and fetches alone. -/
theorem completed {moves : List (ι × Move Fault)} (i : ι)
    (hsteps : ∀ m, (i, m) ∈ moves → m = .step)
    (hfinished : (together calls w moves).tasks i = .finished) :
    (together calls w moves).outcome i = some ((calls i).alone w).1 ∧
      ((calls i).alone w).2.traffic = w.traffic ++ (together calls w moves).said i ∧
      ∀ k, (((calls i).alone w).2.sequence k).fetchCount =
        (w.sequence k).fetchCount + (together calls w moves).fetched i k := by
  have hpaired := paired_together htells hw hstands hapart i moves
  have hown : ∀ m ∈ moves.filter fun m => decide (m.1 = i), m = (i, .step) := by
    rintro ⟨j, m⟩ hm
    rw [List.mem_filter, decide_eq_true_eq] at hm
    obtain ⟨hmem, rfl⟩ := hm
    rw [hsteps m hmem]
  have hstart := solo_start (orderly_start htells hw hstands) i
  have hheads : Heads i ((calls i).alone w) (together calls w []) := by
    rw [alone_eq_run]
    exact .inl ⟨rfl, rfl⟩
  obtain ⟨hsolo, hheads⟩ := hstart.run hheads hapart hown
  have htwins := hpaired.twins
  rw [hfinished] at htwins
  rcases hheads with ⟨hout, _⟩ | ⟨_, hstate, houtcome⟩
  · -- the call is over in both pools
    change outstanding ((together calls w _).tasks i) _ = _ at hout
    rw [htwins.eq_finished] at hout
    cases hout
  · rw [Pool.outcome, Pool.said, hpaired.accounts, ← hstate]
    refine ⟨houtcome, hsolo.traffic, fun k => ?_⟩
    rw [Pool.fetched, hpaired.accounts]
    exact hsolo.fetchCount k

theorem patient_together (moves : List (ι × Move Fault)) :
    Patient K calls w (together calls w moves) :=
  Pool.run_induction _ ⟨orderly_start htells hw hstands, fun _ => Nat.zero_le 1,
      fun _ _ _ ha => absurd ha List.not_mem_nil⟩
    (fun _ i m h => h.move hapart i m) moves

/-- A call that is cancelled where it waits fails with what it is cancelled with, and asks for
nothing any more. -/
theorem cancelled {past : List (ι × Move Fault)} {i : ι}
    {resume : Option Fault → Service → Suspension Service Fault (Page Value)}
    (hwaits : (together calls w past).tasks i = .waiting resume) (e : Fault)
    (rest : List (ι × Move Fault)) :
    ∃ later, (together calls w (past ++ (i, .cancel e) :: rest)).accounts i =
        (together calls w past).accounts i ++ ⟨some (.ended (.error e)), [], fun _ => 0⟩ :: later ∧
      ∀ a ∈ later, a.Silent := by
  have h := (patient_together htells hw hstands hapart past).toOrderly
  have htwins := (h.going i).twins
  rw [hwaits] at htwins
  obtain ⟨hsame, hfinished, hheard⟩ :=
    Place.same_cancelled (m := .cancel e) (h.meets h (.refl _ _)) htwins rfl
  rw [← hwaits] at hsame hfinished hheard
  have haccounts := Pool.accounts_move (i := i) (m := .cancel e) hsame.both.left
  obtain ⟨later, hlater, hsilent⟩ :=
    accounts_run_of_finished ((Pool.tasks_move_self _ i _).trans hfinished) rest
  refine ⟨later, ?_, hsilent⟩
  rw [together, Pool.run_append, Pool.run_cons]
  refine hlater.trans ?_
  rw [haccounts, hheard rfl, List.append_assoc]
  simp only [ite_self]
  rfl

end Apart

end Interleaving

end Paging
