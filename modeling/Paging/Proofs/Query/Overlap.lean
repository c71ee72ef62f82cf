import Paging.Proofs.Query.Closing

/-!
# Paging.Proofs.Query.Overlap — a query whose views are fetched from and closed at once

Any number of calls on the views of one query take turns.  Until a closing begins the query is open
and nothing of it is given back (`Running`).  The closing that begins first takes the session with
it; from then on the query has none, whatever the other calls do (`Closed`), and what is given back
is what that closing gives back.  So a query is released once (`released_once`), also where the end
of a session is waited for.
-/

namespace Paging.Closing

open BatchView Service

variable {ι : Type}

/-- Calls on one state, none of which has begun, when sessions are ended in a given way. -/
def pool (ending : Nat → Nat → Later Unit) (calls : ι → ViewCall) (w : Service) :
    Pool ι Service Fault Unit :=
  .start w fun i => (calls i).body ending

/-- The closing that has begun first. -/
def firstClosing (calls : ι → ViewCall) (P : Pool ι Service Fault Unit) : Option ι :=
  P.begun.find? fun i => (calls i).closes

variable (ending : Nat → Nat → Later Unit) (calls : ι → ViewCall) (q session : Nat)

/-! ## Before and after the session is taken -/

/-- No closing has begun: the query has its session, and so much has been said. -/
structure Running (w : Service) (said : List Contact) (P : Pool ι Service Fault Unit) : Prop where
  traffic : P.state.traffic = w.traffic ++ said
  hasSession : (P.state.query q).session = some session
  kept : ∀ contact ∈ said, contact.isRelease = false
  idle : ∀ j, Idle ending q (calls j) (P.tasks j)
  unclosed : firstClosing calls P = none

/-- A closing has taken the session from a state, and so much has been said since. -/
structure Closed (now : Service) (i : ι) (said : List Contact) (P : Pool ι Service Fault Unit) :
    Prop where
  traffic : P.state.traffic = now.traffic ++ said
  noSession : (P.state.query q).session = none
  first : firstClosing calls P = some i
  idle : ∀ j, j ≠ i → Idle ending q (calls j) (P.tasks j)
  /-- The closing gives back the cursor at once, and the session when it is over. -/
  released : Holds q session (P.tasks i) ∧
      said.filter Contact.isRelease = drops now q session ∨
    (P.tasks i).Over (Says []) ∧
      said.filter Contact.isRelease = drops now q session ++ [.endSession session]
  /-- Whatever else is said is said in no session. -/
  sessionless : ∀ contact ∈ said, contact.isRelease = false →
    ∃ command, contact = .command none command

/-- The query is over, and nothing has been said since the session was taken but what is given
back. -/
structure Shut (now : Service) (P : Pool ι Service Fault Unit) : Prop where
  isOver : (P.state.query q).cursorId = 0
  released : ∃ said, P.state.traffic = now.traffic ++ said ∧
    ∀ contact ∈ said, contact.isRelease = true

variable {ending calls q session} {w now : Service} {said : List Contact}
  {P : Pool ι Service Fault Unit} {i j : ι}

/-! ## What a turn keeps -/

theorem running_pool (ending : Nat → Nat → Later Unit) (calls : ι → ViewCall)
    (h : (w.query q).session = some session) :
    Running ending calls q session w [] (pool ending calls w) where
  traffic := (List.append_nil _).symm
  hasSession := h
  kept _ hcontact := absurd hcontact List.not_mem_nil
  idle _ := .inl rfl
  unclosed := rfl

/-- A batch does not touch the session. -/
theorem session_of_receives {u v : Service}
    (h : v.query q = u.query q ∨ ∃ id, v.query q = (u.query q).received id) :
    (v.query q).session = (u.query q).session := by
  rcases h with h | ⟨id, h⟩
  · rw [h]
  · rw [h]
    rfl

theorem filter_isRelease_eq_nil (h : ∀ contact ∈ said, contact.isRelease = false) :
    said.filter Contact.isRelease = [] := by
  rw [List.filter_eq_nil_iff]
  intro contact hcontact
  rw [h contact hcontact]
  exact Bool.false_ne_true

theorem drops_isRelease (w : Service) (q session : Nat) :
    ∀ contact ∈ drops w q session, contact.isRelease = true := by
  intro contact hcontact
  unfold drops at hcontact
  split at hcontact
  · cases hcontact
  · obtain rfl := List.mem_singleton.1 hcontact
    rfl

/-- A turn that leaves the session where it is.  A batch may be asked for in that session, and the
call can go on or is over. -/
structure Keeps (q : Nat) (c : ViewCall) (s : Service) (begins : Bool)
    (t : Task Service Fault Unit) (u : Service) (asked : List Contact) : Prop where
  traffic : u.traffic = s.traffic ++ asked
  session : (u.query q).session = (s.query q).session
  requests : ∀ contact ∈ asked, contact.isRelease = false ∧
    ∃ command, contact = .command (s.query q).session command
  /-- A closing that begins finds no session. -/
  closed : (begins && c.closes) = true → (s.query q).session = none
  rest : Fetches q t ∨ t.Over (Says [])

/-- A turn in which a closing takes the session and resets the query.  The cursor is given back at
once, and the session is unless the closing waits. -/
structure Takes (q session : Nat) (s : Service) (t : Task Service Fault Unit) (u : Service)
    (given : List Contact) : Prop where
  traffic : u.traffic = s.traffic ++ given
  query : u.query q = (s.query q).withoutSession.withoutCursor
  releases : ∀ contact ∈ given, contact.isRelease = true
  holds : Holds q session t ∧ given = drops s q session ∨
    t.Over (Says []) ∧ given = drops s q session ++ [.endSession session]

/-- When nothing is asked for, the query stays as it is or receives a batch. -/
theorem keeps_of_receives {begins : Bool} {c : ViewCall} {t : Task Service Fault Unit} {s u : Service}
    (h : Receives q s u) (hclosed : (begins && c.closes) = true → (s.query q).session = none)
    (hover : t.Over (Says [])) : Keeps q c s begins t u [] where
  traffic := h.1.trans (List.append_nil _).symm
  session := session_of_receives h.2
  requests _ hcontact := absurd hcontact List.not_mem_nil
  closed := hclosed
  rest := .inr hover

/-- **A turn leaves the session where it is, or takes it.** -/
theorem Turn.keeps_or_takes {c : ViewCall} {t t' : Task Service Fault Unit} {s u : Service}
    {begins : Bool} (h : Turn q c t s begins t' u) :
    (∃ asked, Keeps q c s begins t' u asked) ∨
      begins = true ∧ c.closes = true ∧
        ∃ session given, (s.query q).session = some session ∧ Takes q session s t' u given := by
  cases h with
  | rests traffic query closed isOver =>
    refine .inl ⟨[], keeps_of_receives ⟨traffic, .inl query⟩ (fun hbegins => ?_) isOver⟩
    rw [Bool.and_eq_true] at hbegins
    exact closed hbegins.1 hbegins.2
  | @asks _ _ command alive isFetch isRequest traffic query rest =>
    refine .inl ⟨_, traffic, session_of_receives query, ?_, ?_, rest⟩
    · intro contact hcontact
      obtain rfl := List.mem_singleton.1 hcontact
      exact ⟨isRequest, command, rfl⟩
    · rw [isFetch]
      nofun
  | hears fetches receives isOver => exact .inl ⟨[], keeps_of_receives receives nofun isOver⟩
  | @takes session _ _ isClose hasSession doesClose holds =>
    exact .inr ⟨rfl, isClose, session, _, hasSession, doesClose.1, doesClose.2,
      drops_isRelease s q session, .inl ⟨holds, rfl⟩⟩
  | @ends session _ _ _ isClose hasSession doesClose doesEnd isOver =>
    refine .inr ⟨rfl, isClose, session, drops s q session ++ [.endSession session], hasSession,
      ?_, doesEnd.2.trans doesClose.2, ?_, .inr ⟨isOver, rfl⟩⟩
    · rw [doesEnd.1, doesClose.1, List.append_assoc]
    · intro contact hcontact
      rcases List.mem_append.1 hcontact with hdrops | hend
      · exact drops_isRelease s q session contact hdrops
      · obtain rfl := List.mem_singleton.1 hend
        rfl

/-- A query whose session is taken is closed. -/
theorem Takes.closed (h : Takes q session now (P.tasks i) P.state said)
    (hfirst : firstClosing calls P = some i)
    (hidle : ∀ j, j ≠ i → Idle ending q (calls j) (P.tasks j)) :
    Closed ending calls q session now i said P ∧ Shut q now P := by
  refine ⟨⟨h.traffic, ?_, hfirst, hidle, ?_, ?_⟩, ?_, said, h.traffic, h.releases⟩
  · rw [h.query]
    rfl
  · rw [List.filter_eq_self.2 h.releases]
    exact h.holds
  · intro contact hcontact hrelease
    rw [h.releases contact hcontact] at hrelease
    cases hrelease
  · rw [h.query]
    rfl

variable [DecidableEq ι]

/-- The turn of a call that has not taken the session, in a pool. -/
theorem turn_move (hending : EndsSessions ending) (hq : ∀ j, (calls j).view.query = q)
    (h : Idle ending q (calls i) (P.tasks i)) (m : Move Fault) :
    Turn q (calls i) (P.tasks i) P.state (m.begins (P.tasks i)) ((P.move i m).tasks i)
      (P.move i m).state := by
  rw [Pool.tasks_move_self]
  exact turn_of_idle hending (hq i) h m P.state

theorem firstClosing_move (calls : ι → ViewCall) (P : Pool ι Service Fault Unit) (i : ι)
    (m : Move Fault) : firstClosing calls (P.move i m) = (firstClosing calls P).or
      (if m.begins (P.tasks i) && (calls i).closes then some i else none) := by
  rw [firstClosing, Pool.begun_move, List.find?_append, firstClosing]
  cases m.begins (P.tasks i) with
  | false => rfl
  | true =>
    rw [if_pos rfl, Bool.true_and, List.find?_cons]
    cases (calls i).closes <;> rfl

/-- A move leaves a call idle when it was not moved, and when it is one that waits or is over. -/
theorem idle_move {m : Move Fault} {l : ι} (hl : l ≠ j → Idle ending q (calls l) (P.tasks l))
    (hj : Fetches q ((P.move j m).tasks j) ∨ ((P.move j m).tasks j).Over (Says [])) :
    Idle ending q (calls l) ((P.move j m).tasks l) := by
  by_cases hlj : l = j
  · rw [hlj]
    exact .inr hj
  · rw [Pool.tasks_move_of_ne hlj]
    exact hl hlj

/-- A query stays open when its session is left where it is. -/
theorem Running.keep {m : Move Fault} {asked : List Contact}
    (h : Running ending calls q session w said P)
    (hkeeps : Keeps q (calls i) P.state (m.begins (P.tasks i)) ((P.move i m).tasks i)
      (P.move i m).state asked) :
    Running ending calls q session w (said ++ asked) (P.move i m) where
  traffic := by rw [hkeeps.traffic, h.traffic, List.append_assoc]
  hasSession := hkeeps.session.trans h.hasSession
  kept contact hcontact := by
    rcases List.mem_append.1 hcontact with hold | hnew
    · exact h.kept contact hold
    · exact (hkeeps.requests contact hnew).1
  idle l := idle_move (fun _ => h.idle l) hkeeps.rest
  unclosed := by
    rw [firstClosing_move, h.unclosed, Option.none_or, if_neg]
    intro hbegins
    have hnone := hkeeps.closed hbegins
    rw [h.hasSession] at hnone
    cases hnone

/-- **While the query is open a turn keeps it open, or takes its session.** -/
theorem Running.move (h : Running ending calls q session w said P)
    (hending : EndsSessions ending) (hq : ∀ j, (calls j).view.query = q) (i : ι) (m : Move Fault) :
    (∃ all, Running ending calls q session w all (P.move i m)) ∨
      (∃ since, Closed ending calls q session P.state i since (P.move i m)) ∧
        Shut q P.state (P.move i m) := by
  rcases (turn_move hending hq (h.idle i) m).keeps_or_takes with
    ⟨asked, hkeeps⟩ | ⟨hbegins, hcloses, session', given, hsession, htakes⟩
  · exact .inl ⟨_, h.keep hkeeps⟩
  · obtain rfl : session = session' := Option.some.inj (h.hasSession.symm.trans hsession)
    have hfirst : firstClosing calls (P.move i m) = some i := by
      rw [firstClosing_move, h.unclosed, hbegins, hcloses]
      rfl
    have hothers : ∀ j, j ≠ i → Idle ending q (calls j) ((P.move i m).tasks j) := by
      intro j hj
      rw [Pool.tasks_move_of_ne hj]
      exact h.idle j
    exact .inr ((htakes.closed hfirst hothers).imp (fun hclosed => ⟨given, hclosed⟩) id)

/-- The closing that has taken the session goes on, or is over. -/
theorem Closed.move_self (h : Closed ending calls q session now i said P) (m : Move Fault) :
    ∃ all, Closed ending calls q session now i all (P.move i m) := by
  have hfirst := firstClosing_move calls P i m
  rw [h.first, Option.some_or] at hfirst
  have hothers : ∀ j, j ≠ i → Idle ending q (calls j) ((P.move i m).tasks j) := by
    intro j hj
    rw [Pool.tasks_move_of_ne hj]
    exact h.idle j hj
  rcases h.released with ⟨hholds, hreleased⟩ | ⟨hover, hreleased⟩
  -- whatever it is resumed with, it ends the session now
  · obtain ⟨_, hover, hends⟩ := hholds.apply m P.state
    have hmoved := Pool.move_of_apply (P := P) (i := i) (m := m) rfl
    rw [← hmoved.1] at hends
    rw [← hmoved.2] at hover
    refine ⟨said ++ [.endSession session], ?_, ?_, hfirst, hothers, .inr ⟨hover, ?_⟩, ?_⟩
    · rw [hends.1, h.traffic, List.append_assoc]
    · rw [hends.2, h.noSession]
    · rw [List.filter_append, hreleased]
      rfl
    · intro contact hcontact hrelease
      rcases List.mem_append.1 hcontact with hold | hnew
      · exact h.sessionless contact hold hrelease
      · obtain rfl := List.mem_singleton.1 hnew
        cases hrelease
  · obtain ⟨_, hover, hspeaks⟩ := hover.apply .refl m P.state
    have hmoved := Pool.move_of_apply (P := P) (i := i) (m := m) rfl
    rw [← hmoved.1] at hspeaks
    rw [← hmoved.2] at hover
    refine ⟨said, ?_, ?_, hfirst, hothers, .inr ⟨hover, hreleased⟩, h.sessionless⟩
    · rw [hspeaks.1, h.traffic, List.append_nil]
    · rw [query_congr hspeaks.2 q, h.noSession]

/-- **Once the session is taken it stays so.**  The turn of another call gives nothing back. -/
theorem Closed.move_other (h : Closed ending calls q session now i said P)
    (hending : EndsSessions ending) (hq : ∀ j, (calls j).view.query = q) (hj : j ≠ i)
    (m : Move Fault) : ∃ all, Closed ending calls q session now i all (P.move j m) := by
  rcases (turn_move hending hq (h.idle j hj) m).keeps_or_takes with
    ⟨asked, hkeeps⟩ | ⟨_, _, session', _, hsession, _⟩
  -- what another call asks for is no release, and there is no session to ask in
  · have hnone := filter_isRelease_eq_nil fun contact hcontact =>
      (hkeeps.requests contact hcontact).1
    refine ⟨said ++ asked, ?_, hkeeps.session.trans h.noSession, ?_,
      fun l hl => idle_move (fun _ => h.idle l hl) hkeeps.rest, ?_, ?_⟩
    · rw [hkeeps.traffic, h.traffic, List.append_assoc]
    · rw [firstClosing_move, h.first, Option.some_or]
    · rw [List.filter_append, hnone, List.append_nil, Pool.tasks_move_of_ne hj.symm]
      exact h.released
    · intro contact hcontact hrelease
      rcases List.mem_append.1 hcontact with hold | hnew
      · exact h.sessionless contact hold hrelease
      · exact h.noSession ▸ (hkeeps.requests contact hnew).2
  -- a closing would take the session, which is gone
  · rw [h.noSession] at hsession
    cases hsession

/-! ## What holds at every moment -/

/-- **Once the session is taken it stays so**, whatever turns the calls take. -/
theorem Closed.run (h : Closed ending calls q session now i said P)
    (hending : EndsSessions ending) (hq : ∀ j, (calls j).view.query = q)
    (moves : List (ι × Move Fault)) :
    ∃ all, Closed ending calls q session now i all (P.run moves) := by
  apply Pool.run_induction (fun P => ∃ all, Closed ending calls q session now i all P) ⟨_, h⟩
  rintro P j m ⟨all, hP⟩
  by_cases hj : j = i
  · subst hj
    exact hP.move_self m
  · exact hP.move_other hending hq hj m

/-- At every moment either no closing has begun, or one has taken the session of an open query. -/
theorem Running.run (h : Running ending calls q session w said P)
    (hending : EndsSessions ending) (hq : ∀ j, (calls j).view.query = q)
    (moves : List (ι × Move Fault)) :
    (∃ all, Running ending calls q session w all (P.run moves)) ∨
      ∃ now i before since, now.traffic = w.traffic ++ before ∧
        (∀ contact ∈ before, contact.isRelease = false) ∧
        Closed ending calls q session now i since (P.run moves) := by
  apply Pool.run_induction (fun P => (∃ all, Running ending calls q session w all P) ∨
    ∃ now i before since, now.traffic = w.traffic ++ before ∧
      (∀ contact ∈ before, contact.isRelease = false) ∧
      Closed ending calls q session now i since P) (.inl ⟨_, h⟩)
  rintro P j m (⟨all, hP⟩ | ⟨now, i, before, since, htraffic, hkept, hP⟩)
  · rcases hP.move hending hq j m with hrunning | ⟨⟨since, hclosed⟩, _⟩
    · exact .inl hrunning
    · exact .inr ⟨P.state, j, all, since, hP.traffic, hP.kept, hclosed⟩
  · obtain ⟨all, hclosed⟩ := hP.run hending hq [(j, m)]
    exact .inr ⟨now, i, before, all, htraffic, hkept, hclosed⟩

/-- What a pool of calls gives back of its query: nothing, or the cursor if there is one, or that
and the session. -/
theorem exists_releases (hending : EndsSessions ending) (hq : ∀ j, (calls j).view.query = q)
    (hopen : (w.query q).session = some session) (moves : List (ι × Move Fault)) :
    ∃ said, ((pool ending calls w).run moves).state.traffic = w.traffic ++ said ∧
      ((firstClosing calls ((pool ending calls w).run moves) = none ∧
          said.filter Contact.isRelease = []) ∨
        ∃ now i, firstClosing calls ((pool ending calls w).run moves) = some i ∧
          (Holds q session (((pool ending calls w).run moves).tasks i) ∧
              said.filter Contact.isRelease = drops now q session ∨
            said.filter Contact.isRelease = drops now q session ++ [.endSession session])) := by
  rcases (running_pool ending calls hopen).run hending hq moves with
    ⟨said, hrunning⟩ | ⟨now, i, before, since, htraffic, hkept, hclosed⟩
  · have hnone := filter_isRelease_eq_nil hrunning.kept
    exact ⟨said, hrunning.traffic, .inl ⟨hrunning.unclosed, hnone⟩⟩
  · refine ⟨before ++ since, ?_, .inr ⟨now, i, hclosed.first, ?_⟩⟩
    · rw [hclosed.traffic, htraffic, List.append_assoc]
    · rw [List.filter_append, filter_isRelease_eq_nil hkept, List.nil_append]
      exact hclosed.released.imp id And.right

/-- Ends of sessions and drops of cursors are among what is given back. -/
theorem countP_eq_of_filter {f : Contact → Bool} {released : List Contact}
    (hf : ∀ contact, f contact = true → contact.isRelease = true)
    (h : said.filter Contact.isRelease = released) : said.countP f = released.countP f := by
  rw [← h, List.countP_filter]
  apply List.countP_congr
  intro contact _
  rw [Bool.and_eq_true]
  exact ⟨fun hc => ⟨hc, hf contact hc⟩, fun hc => hc.1⟩

theorem isRelease_of_isEnd (contact : Contact) (h : contact.isEnd = true) :
    contact.isRelease = true := by
  rw [Contact.isRelease, h, Bool.true_or]

theorem isRelease_of_isKill (contact : Contact) (h : contact.isKill = true) :
    contact.isRelease = true := by
  rw [Contact.isRelease, h, Bool.or_true]

/-- A query has at most one cursor to drop. -/
theorem countP_drops (w : Service) (q session : Nat) :
    (drops w q session).countP Contact.isEnd = 0 ∧
      (drops w q session).countP Contact.isKill ≤ 1 := by
  unfold drops
  split
  · exact ⟨rfl, Nat.zero_le _⟩
  · exact ⟨rfl, Nat.le_refl _⟩

/-- **A query is released once.**  However fetches and closings of its views overlap, whichever of
their commands fail and wherever they are cancelled or let go of: its session is ended at most once,
and at most one command drops its cursor.  When the closing that has begun first is over, the
session has been ended. -/
theorem released_once (hending : EndsSessions ending) (hq : ∀ j, (calls j).view.query = q)
    (hopen : (w.query q).session = some session) (moves : List (ι × Move Fault)) :
    ∃ said, ((pool ending calls w).run moves).state.traffic = w.traffic ++ said ∧
      said.countP Contact.isEnd ≤ 1 ∧ said.countP Contact.isKill ≤ 1 ∧
      ∀ i, firstClosing calls ((pool ending calls w).run moves) = some i →
        ((pool ending calls w).run moves).tasks i = .finished →
        said.countP Contact.isEnd = 1 ∧ .endSession session ∈ said := by
  obtain ⟨said, htraffic, hreleased⟩ := exists_releases hending hq hopen moves
  refine ⟨said, htraffic, ?_⟩
  rcases hreleased with ⟨hfirst, hnone⟩ | ⟨now, i, hfirst, ⟨hholds, hdrops⟩ | hall⟩
  · -- nothing has been given back
    rw [countP_eq_of_filter isRelease_of_isEnd hnone, countP_eq_of_filter isRelease_of_isKill hnone]
    refine ⟨Nat.zero_le _, Nat.zero_le _, fun j hj => ?_⟩
    rw [hfirst] at hj
    cases hj
  · -- the closing that has begun first waits
    rw [countP_eq_of_filter isRelease_of_isEnd hdrops,
      countP_eq_of_filter isRelease_of_isKill hdrops, (countP_drops now q session).1]
    refine ⟨Nat.zero_le _, (countP_drops now q session).2, fun j hj hfinished => ?_⟩
    rw [hfirst] at hj
    cases hj
    obtain ⟨resume, hwaits, _⟩ := hholds
    rw [hfinished] at hwaits
    cases hwaits
  · -- it has ended the session
    have hmem : Contact.endSession session ∈ said := by
      have hlast : Contact.endSession session ∈ said.filter Contact.isRelease := by
        rw [hall]
        exact List.mem_append_right _ (List.mem_singleton_self _)
      exact (List.mem_filter.1 hlast).1
    have hend : said.countP Contact.isEnd = 1 := by
      rw [countP_eq_of_filter isRelease_of_isEnd hall, List.countP_append,
        (countP_drops now q session).1]
      rfl
    have hkill : said.countP Contact.isKill ≤ 1 := by
      rw [countP_eq_of_filter isRelease_of_isKill hall, List.countP_append]
      exact (countP_drops now q session).2
    exact ⟨Nat.le_of_eq hend, hkill, fun _ _ _ => ⟨hend, hmem⟩⟩

/-- Ends a session and waits until the server has heard of it. -/
def lingering (server session : Nat) : Later Unit := do
  Session.finish server session
  Async.wait "endSession"

theorem endsSessions_lingering : EndsSessions lingering := by
  intro server session s
  have hspeaks : Says [.endSession session] s (Session.finish server session s).2 :=
    says_contact (c := .endSession session) rfl s
  cases hfinish : (Session.finish server session s).1 with
  | error fault =>
    have hfailed : lingering server session s =
        .done (.error fault) (Session.finish server session s).2 :=
      Async.ofAction_bind_of_error (Prod.ext hfinish rfl) _
    rw [hfailed]
    exact hspeaks
  | ok _ =>
    have hwaits : lingering server session s =
        Async.wait "endSession" (Session.finish server session s).2 :=
      Async.ofAction_bind_of_ok (Prod.ext hfinish rfl) _
    rw [hwaits]
    refine ⟨hspeaks, fun signal u => ?_⟩
    cases signal with
    | none => exact .refl u
    | some fault => exact .refl u

/-- An open query whose cursor cannot be dropped, on a server that makes its callers wait. -/
def undroppable : Service where
  servers := [{
    supply := .replies [.cursor 9 [.int 2]]
    failures := [⟨.killCursors, 1, .raised .valueError "down"⟩]
    suspends := true }]
  queries := [⟨0, some 1, 7, 1, 1⟩]

/-- The first of three calls on it fetches, and the others close it. -/
def contending (i : Fin 3) : ViewCall where
  view := ⟨0, [.int 1], none⟩
  step := if i = 0 then .fetch else .close

/-- Both closings begin while a batch is awaited.  The first is cancelled while it waits for the end
of the session, after dropping the cursor has failed. -/
def cancelledLate : List (Fin 3 × Move Fault) :=
  [(0, .step), (1, .step), (2, .step), (1, .step), (1, .cancel .cancellation), (0, .step)]

/-- The session is ended once all the same. -/
theorem released_once_of_cancelledLate :
    EndsSessions lingering ∧ (∀ j, (contending j).view.query = 0) ∧
    (undroppable.query 0).session = some 1 ∧
    firstClosing contending ((pool lingering contending undroppable).run cancelledLate) = some 1 ∧
    ((pool lingering contending undroppable).run cancelledLate).tasks 1 = .finished ∧
    ((pool lingering contending undroppable).run
      cancelledLate).state.traffic.countP Contact.isEnd = 1 := by
  have hq : ∀ j, (contending j).view.query = 0 := fun _ => rfl
  have hopen : (undroppable.query 0).session = some 1 := rfl
  obtain ⟨said, htraffic, _, _, hended⟩ :=
    released_once endsSessions_lingering hq hopen cancelledLate
  refine ⟨endsSessions_lingering, hq, hopen, rfl, rfl, ?_⟩
  rw [htraffic]
  exact (hended 1 rfl rfl).1

end Paging.Closing
