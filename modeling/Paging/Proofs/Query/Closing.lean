import Paging.Proofs.Effect.Pool
import Paging.Proofs.Query.Life

/-!
# Paging.Proofs.Query.Closing — the turns of fetches and closings

Views of one query may be fetched from and closed by several tasks that take turns.  A fetch says what
it asks for, may wait, and then says nothing more (`BatchView.fetch_cases`).  A closing takes the
session of the query and resets its cursor before it waits; when it goes on it ends the session, and
after that it says nothing more (`BatchView.twice_close`).  Between two pieces of a call anything may
happen to the query.  `Closing.Turn` lists what one turn of a call leads to.
-/

namespace Paging

/-! ## What is said and what becomes of the query -/

namespace Service

/-- So much has been said, and the queries are the same. -/
def Says (said : List Contact) (u v : Service) : Prop :=
  v.traffic = u.traffic ++ said ∧ v.queries = u.queries

variable {u v w : Service} {said said' : List Contact}

theorem Says.refl (u : Service) : Says [] u u := ⟨(List.append_nil _).symm, rfl⟩

theorem Says.trans (h : Says said u v) (h' : Says said' v w) : Says (said ++ said') u w := by
  refine ⟨?_, h'.2.trans h.2⟩
  rw [h'.1, h.1, List.append_assoc]

theorem Says.notice (h : Says said u v) (n : Notice) : Says said u (Service.notice n v).2 :=
  ⟨(aside_notice n v).traffic.trans h.1, h.2⟩

theorem says_contact {c : Contact} (h : c.isTelling = false) (u : Service) :
    Says [c] u (contact c u).2 := ⟨traffic_contact h u, rfl⟩

end Service

open Service

/-- A wait for a server changes nothing. -/
theorem Session.once_waitFor (server : Nat) (c : Command) (v : Service) :
    (waitFor server c v).Once (Says []) (Says []) v := by
  have hwait : waitFor server c v =
      (if (v.server server).suspends then Async.wait ("command " ++ c.name) else pure ()) v :=
    Async.ofAction_bind_of_ok (Action.state_apply v) _
  rw [hwait]
  by_cases hsuspends : (v.server server).suspends = true
  · rw [if_pos hsuspends]
    refine ⟨.refl v, fun signal u => ?_⟩
    cases signal with
    | none => exact ⟨_, u, rfl, .refl u⟩
    | some fault => exact ⟨_, u, rfl, .refl u⟩
  · rw [if_neg hsuspends]
    exact ⟨v, .refl v, .refl v⟩

/-- A command is sent before the wait.  What the server does with it comes after, and says nothing
more. -/
theorem Session.once_send (server : Nat) (session : Option Nat) (c : Command) (v : Service) :
    (send server session c v).Once (Says [.command session c]) (Says []) v := by
  have hspeaks := says_contact (c := .command session c) rfl v
  have hsend : send server session c v = (waitFor server c >>= fun _ =>
      Async.ofAction (Service.withServer server fun s => s.answer c))
        (Service.contact (.command session c) v).2 :=
    Async.ofAction_bind_of_ok (Action.update_apply _ v) _
  rw [hsend]
  refine Suspension.Once.mono (Async.once_bind (once_waitFor server c _) (fun _ _ h => h) ?_) ?_
  · intro _ u t ht
    exact ⟨_, _, rfl, ht.1, ht.2⟩
  · intro u hu
    exact hspeaks.trans hu

/-! ## Fetching -/

namespace BatchView

variable {view : BatchView} {s u v : Service} {session : Nat}

/-- What a fetch does when it is resumed: it says nothing, and the query is as it was or has received
one more batch. -/
def Receives (q : Nat) (u v : Service) : Prop :=
  v.traffic = u.traffic ∧ (v.query q = u.query q ∨ ∃ id, v.query q = (u.query q).received id)

theorem receives_of_silence (q : Nat) (h : Says [] u v) : Receives q u v :=
  ⟨h.1.trans (List.append_nil _), .inl (query_congr h.2 q)⟩

theorem snd_receive (query : Nat) (converter : Option Converter) (batch : List Value)
    (v : Service) : (receive query converter batch v).2 = v := by
  rw [receive, Action.bind_apply, Act.ofExcept, Action.ofExcept_apply]
  cases convert converter batch <;> rfl

/-- An answer is dealt with at once. -/
theorem exists_accept (view : BatchView) (reply : Reply) (h : Says [] u s) :
    ∃ r t, view.accept reply s = .done r t ∧ Receives view.query u t := by
  cases reply with
  | bare => exact ⟨_, s, rfl, receives_of_silence _ h⟩
  | cursor id batch =>
    refine ⟨_, (receive view.query view.converter batch
      (Service.queryUpdate view.query (Query.received id) s).2).2,
      Async.ofAction_bind_of_ok (Action.update_apply _ s) _, ?_⟩
    rw [snd_receive, Receives, ← query_congr h.2 view.query]
    refine ⟨h.1.trans (List.append_nil _), ?_⟩
    rcases Nat.lt_or_ge view.query s.queries.length with hlt | hge
    · exact .inr ⟨id, query_queryUpdate _ hlt⟩
    · exact .inl (query_queryUpdate_of_ge _ hge)

/-- **A fetch says what it asks for, and is resumed once.**  A fetch from a query that is over does
nothing. -/
theorem fetch_cases (view : BatchView) (s : Service) :
    ((s.query view.query).isAlive = false ∧ view.fetch s = .done (.error .queryOver) s) ∨
      (s.query view.query).isAlive = true ∧ (view.fetch s).Once
        (Says [.command (s.query view.query).session (view.nextCommand s)])
        (Receives view.query) s := by
  cases halive : (s.query view.query).isAlive with
  | false => exact .inl ⟨rfl, fetch_of_not_isAlive halive⟩
  | true =>
    right
    rw [fetch_of_isAlive halive]
    exact ⟨rfl, Async.once_bind (Session.once_send _ _ _ s) (fun _ _ h => receives_of_silence _ h)
      fun reply _ _ h => exists_accept view reply h⟩

/-! ## Closing -/

/-- The command that drops the cursor of a query, if it is open. -/
def drops (s : Service) (q session : Nat) : List Contact :=
  if (s.query q).cursorId = 0 then []
  else [.command (some session) (.killCursors (s.server (s.query q).server).collection
    [(s.query q).cursorId])]

/-- What a closing does at once: it takes the session, resets the cursor and drops it. -/
def Closes (q session : Nat) (s u : Service) : Prop :=
  u.traffic = s.traffic ++ drops s q session ∧
    u.query q = (s.query q).withoutSession.withoutCursor

/-- What a closing does in the end: it ends the session, and the query stays as it is. -/
def Ends (q session : Nat) (u v : Service) : Prop :=
  v.traffic = u.traffic ++ [.endSession session] ∧ v.query q = u.query q

/-- Dropping the cursor of an open query. -/
theorem once_sendKill (view : BatchView) (session : Nat) (v s : Service) :
    (view.sendKill session v s).Once (Says [.command (some session) (.killCursors
      (v.server (v.query view.query).server).collection [(v.query view.query).cursorId])])
      (Says []) s := by
  have hsend := Session.once_send (v.query view.query).server (some session) (.killCursors
    (v.server (v.query view.query).server).collection [(v.query view.query).cursorId]) s
  exact Async.once_bind (Async.once_discard hsend) (fun _ _ h => h)
    fun _ _ t h => ⟨_, _, rfl, h.notice _⟩

/-- The cursor is forgotten before the wait. -/
theorem once_dropCursor (session : Nat) (hq : view.query < s.queries.length) :
    (view.dropCursor session s).Once (fun s u =>
      u.traffic = s.traffic ++ drops s view.query session ∧
        u.query view.query = (s.query view.query).withoutCursor) (Says []) s := by
  by_cases hover : (s.query view.query).cursorId = 0
  · rw [dropCursor_of_not_isAlive session (Query.isAlive_of_eq hover)]
    refine ⟨s, ⟨?_, ?_⟩, .refl s⟩
    · rw [drops, if_pos hover, List.append_nil]
    · rw [Query.withoutCursor, ← hover]
  · rw [dropCursor_of_isAlive session (Query.isAlive_of_ne hover)]
    apply (once_sendKill view session s _).mono
    rintro u ⟨htraffic, hqueries⟩
    refine ⟨?_, ?_⟩
    · rw [drops, if_neg hover]
      exact htraffic
    · rw [query_congr hqueries, query_queryUpdate _ hq]

/-- A way of ending sessions: it tells the server first, and then may wait and fail as it will. -/
def EndsSessions (ending : Nat → Nat → Later Unit) : Prop :=
  ∀ server session s, (ending server session s).Starts (Says [.endSession session]) (Says []) s

/-- Ending a session without a pause is such a way. -/
theorem endsSessions_finishNow : EndsSessions Session.finishNow :=
  fun _ session s => says_contact (c := .endSession session) rfl s

variable {ending : Nat → Nat → Later Unit}

/-- **A closing takes the session before it waits**, and ends it when it is resumed. -/
theorem twice_close (hending : EndsSessions ending)
    (h : (s.query view.query).session = some session) :
    (view.closeWith ending s).Twice (Closes view.query session) (Ends view.query session)
      (Says []) s := by
  have hexists := exists_query h
  have htaken := query_queryUpdate Query.withoutSession hexists
  have hstill : view.query <
      (Service.queryUpdate view.query Query.withoutSession s).2.queries.length := by
    rw [length_queryUpdate]
    exact hexists
  have hdrop := once_dropCursor session hstill
  have hends : ∀ u t, Says [] u t → (ending (s.query view.query).server session t).Starts
      (Ends view.query session) (Says []) u := by
    intro u t ht
    apply (hending _ session t).mono
    intro v hv
    have hsaid := ht.trans hv
    exact ⟨hsaid.1, query_congr hsaid.2 _⟩
  rw [closeWith_of_some h]
  refine (Async.twice_andFinally hdrop hends).mono ?_
  rintro u ⟨htraffic, hquery⟩
  rw [drops, htaken] at htraffic
  rw [htaken] at hquery
  exact ⟨htraffic, hquery⟩

/-- A closing that finds no session says nothing and leaves the query as it is. -/
theorem close_of_closed (ending : Nat → Nat → Later Unit)
    (h : (s.query view.query).session = none) :
    ∃ u, view.closeWith ending s = .done (.ok ()) u ∧ u.traffic = s.traffic ∧
      u.query view.query = s.query view.query := by
  refine ⟨_, closeWith_of_none h, rfl, ?_⟩
  rcases Nat.lt_or_ge view.query s.queries.length with hlt | hge
  · rw [query_queryUpdate _ hlt, Query.withoutSession, ← h]
  · exact query_queryUpdate_of_ge _ hge

end BatchView

/-! ## One turn -/

/-- A call on a view of a query: a step of the kind that blocks are made of. -/
structure ViewCall where
  view : BatchView
  step : BlockStep

namespace ViewCall

/-- The computation of a call, when sessions are ended in a given way. -/
def body (ending : Nat → Nat → Later Unit) (c : ViewCall) : Later Unit :=
  match c.step with
  | .fetch => discard c.view.fetch
  | .close => c.view.closeWith ending
  | .raise fault => Async.fail fault

/-- When sessions are ended without a pause, a call is a step of a block. -/
theorem body_finishNow (c : ViewCall) : c.body Session.finishNow = c.view.blockStep c.step := by
  cases hstep : c.step <;> (rw [body, hstep]; rfl)

/-- Whether a call closes the query. -/
def closes (c : ViewCall) : Bool :=
  match c.step with
  | .close => true
  | _ => false

end ViewCall

namespace Contact

/-- Whether a session is ended. -/
def isEnd : Contact → Bool
  | .endSession _ => true
  | _ => false

/-- Whether a cursor is dropped. -/
def isKill : Contact → Bool
  | .command _ (.killCursors ..) => true
  | _ => false

/-- Whether something is given back that a query holds: its session, or its cursor. -/
def isRelease (c : Contact) : Bool := c.isEnd || c.isKill

end Contact

namespace Closing

open BatchView Suspension

/-- A task that waits for a batch of a query. -/
def Fetches (q : Nat) (t : Task Service Fault Unit) : Prop := t.Waits (Receives q) (Says [])

/-- A task that has taken the session of a query and waits until it can end it. -/
def Holds (q session : Nat) (t : Task Service Fault Unit) : Prop :=
  t.Waits (Ends q session) (Says [])

/-- A call that has not taken the session, or has ended it. -/
def Idle (ending : Nat → Nat → Later Unit) (q : Nat) (c : ViewCall)
    (t : Task Service Fault Unit) : Prop :=
  t = .fresh (c.body ending) ∨ Fetches q t ∨ t.Over (Says [])

/-- What a turn of an idle call leads to. -/
inductive Turn (q : Nat) (c : ViewCall) (t : Task Service Fault Unit) (s : Service) :
    Bool → Task Service Fault Unit → Service → Prop
  /-- Nothing is said, and the query stays as it is. -/
  | rests {begins : Bool} {t' : Task Service Fault Unit} {u : Service}
      (traffic : u.traffic = s.traffic) (query : u.query q = s.query q)
      (closed : begins = true → c.closes = true → (s.query q).session = none)
      (isOver : t'.Over (Says [])) : Turn q c t s begins t' u
  /-- A batch is asked for, and perhaps received at once. -/
  | asks {t' : Task Service Fault Unit} {u : Service} {command : Command}
      (alive : (s.query q).isAlive = true) (isFetch : c.closes = false)
      (isRequest : (Contact.command (s.query q).session command).isRelease = false)
      (traffic : u.traffic = s.traffic ++ [.command (s.query q).session command])
      (query : u.query q = s.query q ∨ ∃ id, u.query q = (s.query q).received id)
      (idle : Fetches q t' ∨ t'.Over (Says [])) : Turn q c t s true t' u
  /-- The call has waited for a batch and goes on. -/
  | hears {t' : Task Service Fault Unit} {u : Service} (fetches : Fetches q t)
      (receives : Receives q s u) (isOver : t'.Over (Says [])) : Turn q c t s false t' u
  /-- The session is taken, and the call waits until it can end it. -/
  | takes {session : Nat} {t' : Task Service Fault Unit} {u : Service}
      (isClose : c.closes = true) (hasSession : (s.query q).session = some session)
      (doesClose : Closes q session s u) (holds : Holds q session t') : Turn q c t s true t' u
  /-- The session is taken and ended. -/
  | ends {session : Nat} {t' : Task Service Fault Unit} {u v : Service} (isClose : c.closes = true)
      (hasSession : (s.query q).session = some session) (doesClose : Closes q session s u)
      (doesEnd : Ends q session u v) (isOver : t'.Over (Says [])) : Turn q c t s true t' v

variable {ending : Nat → Nat → Later Unit} {q session : Nat} {c : ViewCall}
  {t : Task Service Fault Unit} {s u : Service}

/-- A fetch begins. -/
theorem turn_of_fetch (hq : c.view.query = q) (hstep : c.step = .fetch) :
    Turn q c (.fresh (c.body ending)) s true (Move.step.apply (.fresh (c.body ending)) s).2.1
      (Move.step.apply (.fresh (c.body ending)) s).2.2 := by
  subst hq
  have hbody : c.body ending = discard c.view.fetch := by rw [ViewCall.body, hstep]
  have hcloses : c.closes = false := by rw [ViewCall.closes, hstep]
  rcases fetch_cases c.view s with ⟨hover, hdone⟩ | ⟨halive, honce⟩
  · have hdiscard : c.body ending s = .done (.error .queryOver) s := by
      rw [hbody]
      show (c.view.fetch >>= fun _ => pure ()) s = _
      rw [Async.bind_apply, hdone]
      rfl
    rw [Move.apply_fresh_of_done hdiscard]
    refine .rests rfl rfl (fun _ h => ?_) (.inl rfl)
    rw [hcloses] at h
    cases h
  · have hdiscard := Async.once_discard honce
    rw [← hbody] at hdiscard
    cases hx : c.body ending s with
    | done r u =>
      rw [hx] at hdiscard
      obtain ⟨v, hspeaks, hreceives⟩ := hdiscard
      rw [Move.apply_fresh_of_done hx]
      refine .asks halive hcloses rfl (hreceives.1.trans hspeaks.1) ?_ (.inr (.inl rfl))
      rw [← query_congr hspeaks.2]
      exact hreceives.2
    | waiting label u resume =>
      rw [hx] at hdiscard
      rw [Move.apply_fresh_of_waiting hx]
      refine .asks halive hcloses rfl hdiscard.1.1 (.inl (query_congr hdiscard.1.2 _))
        (.inl ⟨resume, rfl, fun signal v => ?_⟩)
      obtain ⟨r, t, hdone, ht⟩ := hdiscard.2 signal v
      rw [hdone]
      exact ht

/-- A closing begins. -/
theorem turn_of_close (hending : EndsSessions ending) (hq : c.view.query = q)
    (hstep : c.step = .close) :
    Turn q c (.fresh (c.body ending)) s true (Move.step.apply (.fresh (c.body ending)) s).2.1
      (Move.step.apply (.fresh (c.body ending)) s).2.2 := by
  subst hq
  have hbody : c.body ending = c.view.closeWith ending := by rw [ViewCall.body, hstep]
  have hcloses : c.closes = true := by rw [ViewCall.closes, hstep]
  cases hsession : (s.query c.view.query).session with
  | none =>
    obtain ⟨u, hdone, htraffic, hquery⟩ := close_of_closed ending hsession
    rw [← hbody] at hdone
    rw [Move.apply_fresh_of_done hdone]
    exact .rests htraffic hquery (fun _ _ => hsession) (.inl rfl)
  | some session =>
    have htwice := twice_close hending hsession
    rw [← hbody] at htwice
    cases hx : c.body ending s with
    | done r v =>
      rw [hx] at htwice
      obtain ⟨u, hu, hv⟩ := htwice
      rw [Move.apply_fresh_of_done hx]
      exact .ends hcloses hsession hu hv (.inl rfl)
    | waiting label v resume =>
      rw [hx] at htwice
      rw [Move.apply_fresh_of_waiting hx]
      rcases htwice with ⟨hv, hresume⟩ | ⟨⟨u, hu, hv⟩, hresume⟩
      · exact .takes hcloses hsession hv ⟨resume, rfl, hresume⟩
      · exact .ends hcloses hsession hu hv (Task.over_of_each hresume)

theorem turn_of_over (h : t.Over (Says [])) (m : Move Fault) (s : Service) :
    Turn q c t s (m.begins t) (m.apply t s).2.1 (m.apply t s).2.2 := by
  obtain ⟨hbegins, hover, hspeaks⟩ := h.apply .refl m s
  rw [hbegins]
  exact .rests (hspeaks.1.trans (List.append_nil _)) (query_congr hspeaks.2 q) nofun hover

/-- **The turns of an idle call.** -/
theorem turn_of_idle (hending : EndsSessions ending) (hq : c.view.query = q)
    (h : Idle ending q c t) (m : Move Fault) (s : Service) :
    Turn q c t s (m.begins t) (m.apply t s).2.1 (m.apply t s).2.2 := by
  rcases h with rfl | hfetches | hover
  · cases m with
    | step =>
      cases hstep : c.step with
      | fetch => exact turn_of_fetch hq hstep
      | close => exact turn_of_close hending hq hstep
      | raise fault =>
        have hbody : c.body ending s = .done (.error fault) s := by
          rw [ViewCall.body, hstep]
          rfl
        rw [Move.apply_fresh_of_done hbody]
        refine .rests rfl rfl (fun _ h => ?_) (.inl rfl)
        rw [ViewCall.closes, hstep] at h
        cases h
    | cancel fault => exact .rests rfl rfl nofun (.inl rfl)
    | abandon fault => exact .rests rfl rfl nofun (.inl rfl)
  · obtain ⟨hbegins, hover, hreceives⟩ := hfetches.apply m s
    rw [hbegins]
    exact .hears hfetches hreceives hover
  · exact turn_of_over hover m s

end Closing

end Paging
