import Paging.Proofs.Query.Overlap
import Paging.Proofs.Query.Release

/-!
# Paging.Proofs.Query.LateBatch — batches that arrive after a query was closed

A closing takes the session of its query and resets the cursor before it waits.  A fetch that was
sent earlier may still be waiting; its batch arrives late, and sets the cursor again.  If none of
the batches that arrive late comes with an open cursor the query is closed for good, and otherwise
it is not (`closed_for_good_iff`).
-/

namespace Paging

namespace Task

variable {σ ε α : Type}

/-- A task that has begun and is not over. -/
def IsWaiting (t : Task σ ε α) : Prop := ∃ resume, t = .waiting resume

theorem Waits.isWaiting {Next Rest : σ → σ → Prop} {t : Task σ ε α} (h : t.Waits Next Rest) :
    t.IsWaiting := by
  obtain ⟨resume, hresume, _⟩ := h
  exact ⟨resume, hresume⟩

end Task

namespace Closing

open BatchView Service

variable {ι : Type}

/-! ## Batches that arrive -/

/-- The cursor of the batch that a query has received from one state to another, if it has. -/
def arrival (q : Nat) (u v : Service) : List Int :=
  if (u.query q).batchesFetched < (v.query q).batchesFetched then [(v.query q).cursorId] else []

/-- The cursors of the batches that a query receives while calls take turns. -/
def arrivals [DecidableEq ι] (q : Nat) (P : Pool ι Service Fault Unit) :
    List (ι × Move Fault) → List Int
  | [] => []
  | m :: rest =>
    arrival q P.state (P.move m.1 m.2).state ++ arrivals q (P.move m.1 m.2) rest

variable {ending : Nat → Nat → Later Unit} {calls : ι → ViewCall} {q session : Nat}
  {w now u v : Service} {said : List Contact} {P : Pool ι Service Fault Unit} {i j : ι}

theorem arrival_of_eq (h : v.query q = u.query q) : arrival q u v = [] := by
  rw [arrival, h, if_neg (Nat.lt_irrefl _)]

theorem arrival_of_received {id : Int} (h : v.query q = (u.query q).received id) :
    arrival q u v = [id] := by
  rw [arrival, h]
  exact if_pos (Nat.lt_succ_self _)

/-! ## While no cursor arrives -/

/-- A query that is over stays so when nothing is said and it is not touched, or receives a last
batch. -/
theorem Shut.of_receives (h : Shut q now P) {P' : Pool ι Service Fault Unit}
    (hreceives : Receives q P.state P'.state)
    (harrival : ∀ id ∈ arrival q P.state P'.state, id = 0) : Shut q now P' where
  isOver := by
    rcases hreceives.2 with hquery | ⟨id, hquery⟩
    · rw [hquery]
      exact h.isOver
    · rw [hquery]
      exact harrival id (by rw [arrival_of_received hquery]; exact List.mem_singleton_self id)
  released := by
    rw [hreceives.1]
    exact h.released

variable [DecidableEq ι]

/-- What the closing that has taken the session does does not open the query again. -/
theorem Shut.move_self (h : Shut q now P) (hclosed : Closed ending calls q session now i said P)
    (m : Move Fault) :
    Shut q now (P.move i m) ∧ arrival q P.state (P.move i m).state = [] := by
  have hmoved := Pool.move_of_apply (P := P) (i := i) (m := m) rfl
  rcases hclosed.released with ⟨hholds, _⟩ | ⟨hover, _⟩
  · obtain ⟨_, _, hends⟩ := hholds.apply m P.state
    rw [← hmoved.1] at hends
    obtain ⟨all, htraffic, hall⟩ := h.released
    refine ⟨⟨?_, all ++ [.endSession session], ?_, ?_⟩, arrival_of_eq hends.2⟩
    · rw [hends.2]
      exact h.isOver
    · rw [hends.1, htraffic, List.append_assoc]
    · intro contact hcontact
      rcases List.mem_append.1 hcontact with hold | hnew
      · exact hall contact hold
      · obtain rfl := List.mem_singleton.1 hnew
        rfl
  · obtain ⟨_, _, hspeaks⟩ := hover.apply .refl m P.state
    rw [← hmoved.1] at hspeaks
    have hnone := arrival_of_eq (query_congr hspeaks.2 q)
    exact ⟨h.of_receives (receives_of_silence q hspeaks) (by rw [hnone]; nofun), hnone⟩

/-- When a query is over and has no session, the turn of an idle call asks for nothing.  The query
receives a batch if the call has waited for one, and stays as it is otherwise. -/
theorem Turn.receives_of_over {c : ViewCall} {t t' : Task Service Fault Unit} {begins : Bool}
    (h : Turn q c t u begins t' v) (hnone : (u.query q).session = none)
    (hover : (u.query q).cursorId = 0) :
    Receives q u v ∧ t'.Over (Says []) ∧ (¬ t.IsWaiting → v.query q = u.query q) := by
  cases h with
  | rests traffic query closed isOver => exact ⟨⟨traffic, .inl query⟩, isOver, fun _ => query⟩
  | asks alive isFetch isRequest traffic query rest =>
    -- a fetch that begins finds the query over
    rw [Query.isAlive_of_eq hover] at alive
    cases alive
  | hears fetches receives isOver =>
    exact ⟨receives, isOver, fun hstill => absurd fetches.isWaiting hstill⟩
  | takes isClose hasSession doesClose holds =>
    rw [hnone] at hasSession
    cases hasSession
  | ends isClose hasSession doesClose doesEnd isOver =>
    rw [hnone] at hasSession
    cases hasSession

/-- Another call opens the query again only by receiving a batch with an open cursor. -/
theorem Shut.move_other (h : Shut q now P) (hclosed : Closed ending calls q session now i said P)
    (hending : EndsSessions ending) (hq : ∀ j, (calls j).view.query = q) (hj : j ≠ i)
    (m : Move Fault) (harrival : ∀ id ∈ arrival q P.state (P.move j m).state, id = 0) :
    Shut q now (P.move j m) := by
  have hturn := turn_move hending hq (hclosed.idle j hj) m
  exact h.of_receives (hturn.receives_of_over hclosed.noSession h.isOver).1 harrival

/-- A call that has not begun, or is over, brings no batch to a query that is over. -/
theorem Shut.move_still (h : Shut q now P) (hclosed : Closed ending calls q session now i said P)
    (hending : EndsSessions ending) (hq : ∀ j, (calls j).view.query = q)
    (hj : P.tasks j = .fresh ((calls j).body ending) ∨ (P.tasks j).Over (Says []))
    (m : Move Fault) :
    arrival q P.state (P.move j m).state = [] ∧ ((P.move j m).tasks j).Over (Says []) := by
  rcases hj with hfresh | hover
  · have hstill : ¬ (P.tasks j).IsWaiting := by
      rintro ⟨resume, hwaits⟩
      rw [hfresh] at hwaits
      cases hwaits
    obtain ⟨_, hover, hquery⟩ := (turn_move hending hq (.inl hfresh) m).receives_of_over
      hclosed.noSession h.isOver
    exact ⟨arrival_of_eq (hquery hstill), hover⟩
  · have hmoved := Pool.move_of_apply (P := P) (i := j) (m := m) rfl
    obtain ⟨_, hover, hspeaks⟩ := hover.apply .refl m P.state
    rw [← hmoved.1] at hspeaks
    rw [← hmoved.2] at hover
    exact ⟨arrival_of_eq (query_congr hspeaks.2 q), hover⟩

/-! ## What holds at every moment -/

/-- **A query that is over stays so** as long as no batch with an open cursor arrives. -/
theorem Shut.run (h : Shut q now P) (hclosed : Closed ending calls q session now i said P)
    (hending : EndsSessions ending) (hq : ∀ j, (calls j).view.query = q)
    (moves : List (ι × Move Fault)) (harrivals : ∀ id ∈ arrivals q P moves, id = 0) :
    Shut q now (P.run moves) := by
  -- the moment at which the session was taken stays the same, what has been said since grows
  induction moves generalizing P said with
  | nil => exact h
  | cons m rest ih =>
    obtain ⟨all, hnext⟩ := hclosed.run hending hq [m]
    have hfirst : ∀ id ∈ arrival q P.state (P.move m.1 m.2).state, id = 0 :=
      fun id hid => harrivals id (List.mem_append_left _ hid)
    have hshut : Shut q now (P.move m.1 m.2) := by
      by_cases hm : m.1 = i
      · rw [hm]
        exact (h.move_self hclosed m.2).1
      · exact h.move_other hclosed hending hq hm m.2 hfirst
    exact ih hshut hnext fun id hid => harrivals id (List.mem_append_right _ hid)

/-- No batch arrives late where no call was waiting. -/
theorem Shut.arrivals_eq_nil (h : Shut q now P)
    (hclosed : Closed ending calls q session now i said P)
    (hending : EndsSessions ending) (hq : ∀ j, (calls j).view.query = q)
    (hstill : ∀ j, j ≠ i →
      P.tasks j = .fresh ((calls j).body ending) ∨ (P.tasks j).Over (Says []))
    (moves : List (ι × Move Fault)) : arrivals q P moves = [] := by
  induction moves generalizing P said with
  | nil => rfl
  | cons m rest ih =>
    obtain ⟨all, hnext⟩ := hclosed.run hending hq [m]
    by_cases hm : m.1 = i
    · obtain ⟨hshut, hnone⟩ := h.move_self hclosed m.2
      rw [← hm] at hshut hnone
      rw [arrivals, hnone, List.nil_append]
      refine ih hshut hnext fun j hj => ?_
      rw [Pool.tasks_move_of_ne (hm ▸ hj)]
      exact hstill j hj
    · obtain ⟨hnone, hover⟩ := h.move_still hclosed hending hq (hstill m.1 hm) m.2
      rw [arrivals, hnone, List.nil_append]
      have hshut := h.move_other hclosed hending hq hm m.2 (by rw [hnone]; nofun)
      refine ih hshut hnext fun j hj => ?_
      by_cases hjm : j = m.1
      · rw [hjm]
        exact .inr hover
      · rw [Pool.tasks_move_of_ne hjm]
        exact hstill j hj

/-- A cursor that arrives is the one that the query keeps at that moment. -/
theorem arrivals_of_over {moves : List (ι × Move Fault)}
    (h : ∀ past, past <+: moves → ((P.run past).state.query q).cursorId = 0) :
    ∀ id ∈ arrivals q P moves, id = 0 := by
  induction moves generalizing P with
  | nil => exact fun id hid => absurd hid List.not_mem_nil
  | cons m rest ih =>
    intro id hid
    rcases List.mem_append.1 hid with hfirst | hrest
    · have hnow := h [m] ⟨rest, rfl⟩
      unfold arrival at hfirst
      split at hfirst
      · rw [List.mem_singleton.1 hfirst]
        exact hnow
      · cases hfirst
    · exact ih (fun past hpast => h (m :: past) (List.cons_prefix_cons.2 ⟨rfl, hpast⟩)) id hrest

/-- A closing that begins while the query has its session takes it. -/
theorem Running.take (h : Running ending calls q session w said P)
    (hending : EndsSessions ending) (hq : ∀ j, (calls j).view.query = q)
    (hfresh : P.tasks i = .fresh ((calls i).body ending)) (hclose : (calls i).closes = true) :
    (∃ since, Closed ending calls q session P.state i since (P.move i .step)) ∧
      Shut q P.state (P.move i .step) := by
  rcases h.move hending hq i .step with ⟨all, hrunning⟩ | htaken
  · -- a closing has begun
    have hfirst := firstClosing_move calls P i .step
    rw [hrunning.unclosed, h.unclosed, hfresh, hclose] at hfirst
    cases hfirst
  · exact htaken

/-- A query that has its session has not been closed. -/
theorem running_of_session (hending : EndsSessions ending) (hq : ∀ j, (calls j).view.query = q)
    (hopen : (w.query q).session = some session) (moves : List (ι × Move Fault))
    (h : (((pool ending calls w).run moves).state.query q).session = some session) :
    ∃ said, Running ending calls q session w said ((pool ending calls w).run moves) := by
  rcases (running_pool ending calls hopen).run hending hq moves with
    hrunning | ⟨_, _, _, _, _, _, hclosed⟩
  · exact hrunning
  · rw [hclosed.noSession] at h
    cases h

/-- What has arrived at an earlier moment has arrived. -/
theorem arrivals_of_prefix {past moves : List (ι × Move Fault)} (h : past <+: moves) :
    arrivals q P past <+: arrivals q P moves := by
  obtain ⟨rest, rfl⟩ := h
  induction past generalizing P with
  | nil => exact List.nil_prefix
  | cons m past ih => exact List.prefix_append_right_inj _ |>.2 ih

/-- **When a query is closed for good.**  From the moment at which a closing has taken the session
the query has none, what is given back is what that closing gives back, and everything else that is
said is said in no session.  The query stays over exactly if no batch arrives late with an open
cursor, and then nothing else is said.  If no call was waiting when the session was taken, no batch
arrives late. -/
theorem closed_for_good_iff (hending : EndsSessions ending) (hq : ∀ j, (calls j).view.query = q)
    (hopen : (w.query q).session = some session) (before after : List (ι × Move Fault))
    (hfresh : ((pool ending calls w).run before).tasks i = .fresh ((calls i).body ending))
    (hclose : (calls i).closes = true)
    (htakes : (((pool ending calls w).run before).state.query q).session = some session) :
    let now := (pool ending calls w).run before
    let taken := now.move i .step
    ((taken.run after).state.query q).session = none ∧
      (∃ said, (taken.run after).state.traffic = now.state.traffic ++ said ∧
        said.filter Contact.isRelease <+: drops now.state q session ++ [.endSession session] ∧
        (∀ contact ∈ said, contact.isRelease = false → ∃ command, contact = .command none command) ∧
        ((∀ id ∈ arrivals q taken after, id = 0) →
          ∀ contact ∈ said, contact.isRelease = true)) ∧
      ((∀ past, past <+: after → ∀ view : BatchView, view.query = q →
          view.hasMore (taken.run past).state = false) ↔
        ∀ id ∈ arrivals q taken after, id = 0) ∧
      ((∀ j, ¬ (now.tasks j).IsWaiting) → arrivals q taken after = []) := by
  intro now taken
  obtain ⟨all, hrunning⟩ := running_of_session hending hq hopen before htakes
  obtain ⟨⟨since, hclosed⟩, hshut⟩ := hrunning.take hending hq hfresh hclose
  obtain ⟨said, hlater⟩ := hclosed.run hending hq after
  have hstays : ∀ past, (∀ id ∈ arrivals q taken past, id = 0) →
      Shut q now.state (taken.run past) := fun past => hshut.run hclosed hending hq past
  refine ⟨hlater.noSession, ⟨said, hlater.traffic, ?_, hlater.sessionless, fun hnone => ?_⟩,
    ⟨fun hover => ?_, fun hnone past hpast view hview => ?_⟩, fun hidle => ?_⟩
  · rcases hlater.released with ⟨_, hdrops⟩ | ⟨_, hall⟩
    · rw [hdrops]
      exact List.prefix_append _ _
    · exact hall ▸ List.prefix_rfl
  · obtain ⟨released, htraffic, hall⟩ := (hstays after hnone).released
    rw [hlater.traffic, List.append_cancel_left_eq] at htraffic
    rw [htraffic]
    exact hall
  · apply arrivals_of_over
    intro past hpast
    -- any view of the query shows whether its cursor is open
    have hmore := hover past hpast ⟨q, [], none⟩ rfl
    exact not_not.1 fun hne => by
      rw [BatchView.hasMore, Query.isAlive_of_ne hne] at hmore
      cases hmore
  · have hpart := arrivals_of_prefix (q := q) (P := taken) hpast
    rw [BatchView.hasMore, hview]
    exact Query.isAlive_of_eq (hstays past fun id hid => hnone id (hpart.subset hid)).isOver
  · refine hshut.arrivals_eq_nil hclosed hending hq (fun j hj => ?_) after
    rw [Pool.tasks_move_of_ne hj]
    rcases hrunning.idle j with hfresh | hfetches | hover
    · exact .inl hfresh
    · exact absurd hfetches.isWaiting (hidle j)
    · exact .inr hover

/-- A query on a server that makes its callers wait, when its first batch has come with cursor
seven. -/
def awaiting : Service := (Async.run (BatchView.openOn 0 oneByOne) unhurried).2

/-- The second of three calls on it closes it, and the others fetch from it. -/
def overlapping (i : Fin 3) : ViewCall where
  view := ⟨0, [.int 1], none⟩
  step := match i with
    | 1 => .close
    | _ => .fetch

/-- The first fetch waits for its batch while the query is closed.  Its batch arrives late and comes
with cursor nine, so that the query seems to have more, and the next fetch asks for it in no
session. -/
theorem revived_by_late_batch :
    let taken := ((pool Session.finishNow overlapping awaiting).run [(0, .step)]).move 1 .step
    let revived := taken.run [(1, .step), (0, .step)]
    (taken.state.query 0).session = none ∧ revived.tasks 1 = .finished ∧
      (overlapping 0).view.hasMore revived.state = true ∧
      (revived.move 2 .step).state.traffic =
        [.startSession 1, .command (some 1) (.find "items" [] 1 [] []),
          .command (some 1) (.getMore 7 "items" 1),
          .command (some 1) (.killCursors "items" [7]), .endSession 1,
          .command none (.getMore 9 "items" 1)] :=
  ⟨rfl, rfl, rfl, rfl⟩

/-- Cursor nine arrives late, so that the query is not closed for good. -/
theorem closed_for_good_iff_of_overlapping :
    EndsSessions Session.finishNow ∧ (∀ j, (overlapping j).view.query = 0) ∧
    (awaiting.query 0).session = some 1 ∧
    ((pool Session.finishNow overlapping awaiting).run [(0, .step)]).tasks 1 =
      .fresh ((overlapping 1).body Session.finishNow) ∧
    (overlapping 1).closes = true ∧
    (((pool Session.finishNow overlapping awaiting).run [(0, .step)]).state.query 0).session =
      some 1 ∧
    ¬ ∀ past, past <+: [((1 : Fin 3), (.step : Move Fault)), (0, .step)] → ∀ view : BatchView,
      view.query = 0 → view.hasMore ((((pool Session.finishNow overlapping awaiting).run
        [(0, .step)]).move 1 .step).run past).state = false := by
  have hq : ∀ j, (overlapping j).view.query = 0 := fun _ => rfl
  have hopen : (awaiting.query 0).session = some 1 := rfl
  refine ⟨endsSessions_finishNow, hq, hopen, rfl, rfl, rfl, fun hover => ?_⟩
  have hiff := (closed_for_good_iff (i := (1 : Fin 3)) endsSessions_finishNow hq hopen [(0, .step)]
    [(1, .step), (0, .step)] rfl rfl rfl).2.2.1
  have hzero := hiff.1 hover 9 (by
    show (9 : Int) ∈ [9]
    exact List.mem_singleton_self 9)
  cases hzero

end Closing

end Paging
