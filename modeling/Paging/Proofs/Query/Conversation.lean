import Paging.Proofs.Effect.Always
import Paging.Proofs.Tracing.Aside
import Paging.Query.Life

/-!
# Paging.Proofs.Query.Conversation — what is said in a session

A query speaks to its server in one session: it sends commands and gets answers, or the fault with
which sending failed.  A conversation is what has been said so far, as a list of exchanges
(`Conversation.At`): they are what the journal holds, and what has led the server to the state it is
in, under the signals with which the waits for it have ended (`Server.Answers`).  So what an exchange
says of an answer is what the server gave, and what it says of an interruption is what was signalled
(`Server.hear`).  Sending a command adds one exchange (`always_send`), however the wait for the answer
ends.
-/

namespace Paging

/-! ## Exchanges -/

/-- A command, and the answer to it or the fault with which sending it failed. -/
structure Exchange where
  command : Command
  answer : Except Fault Reply

namespace Exchange

/-- The contact that an exchange in a session is. -/
def contact (session : Nat) (e : Exchange) : Contact := .command (some session) e.command

/-- The number of the cursor that was received. -/
def cursor? (e : Exchange) : Option Int :=
  match e.answer with
  | .ok (.cursor id _) => some id
  | _ => none

/-- The cursors that were to be dropped. -/
def dropped? (e : Exchange) : Option (List Int) :=
  match e.command with
  | .killCursors _ cursors => some cursors
  | _ => none

/-- The fault with which dropping a cursor has failed. -/
def dropFault? (e : Exchange) : Option Fault :=
  match e.dropped?, e.answer with
  | some _, .error fault => some fault
  | _, _ => none

/-- What dropping cursors has come to: its first failure, if there is one. -/
def dropOutcome (es : List Exchange) : Except Fault Unit :=
  match es.findSome? dropFault? with
  | some fault => .error fault
  | none => .ok ()

/-- The number of the cursor last received. -/
def lastCursor (es : List Exchange) : Option Int := (es.filterMap cursor?).getLast?

/-- The cursors that were to be dropped, command by command. -/
def dropped (es : List Exchange) : List (List Int) := es.filterMap dropped?

/-- What there is to drop: the cursor last received, unless it says that there is nothing left. -/
def due (es : List Exchange) : List (List Int) :=
  match lastCursor es with
  | some id => if id = 0 then [] else [[id]]
  | none => []

variable {es : List Exchange} {e : Exchange}

theorem lastCursor_concat {id : Int} (h : e.cursor? = some id) :
    lastCursor (es ++ [e]) = some id := by
  simp [lastCursor, h]

theorem lastCursor_concat_of_none (h : e.cursor? = none) :
    lastCursor (es ++ [e]) = lastCursor es := by
  simp [lastCursor, h]

theorem dropped_concat {cursors : List Int} (h : e.dropped? = some cursors) :
    dropped (es ++ [e]) = dropped es ++ [cursors] := by
  simp [dropped, h]

theorem dropped_concat_of_none (h : e.dropped? = none) : dropped (es ++ [e]) = dropped es := by
  simp [dropped, h]

theorem due_of_over (h : lastCursor es = some 0) : due es = [] := by
  simp [due, h]

/-- Where no cursor was to be dropped, dropping has not failed. -/
theorem findSome?_dropFault? (h : dropped es = []) : es.findSome? dropFault? = none := by
  rw [List.findSome?_eq_none_iff]
  intro e he
  have hnone : e.dropped? = none := List.filterMap_eq_nil_iff.1 h e he
  simp only [dropFault?, hnone]

theorem dropOutcome_of_nil (h : dropped es = []) : dropOutcome es = .ok () := by
  rw [dropOutcome, findSome?_dropFault? h]

/-- The only command that drops a cursor decides. -/
theorem dropOutcome_concat {cursors : List Int} (h : dropped es = [])
    (hdrops : e.dropped? = some cursors) :
    dropOutcome (es ++ [e]) = e.answer.map fun _ => () := by
  rw [dropOutcome, List.findSome?_append, findSome?_dropFault? h, Option.none_or,
    List.findSome?_singleton, dropFault?, hdrops]
  cases e.answer <;> rfl

/-- Once the cursor last received is dropped, everything is that was to be dropped. -/
theorem dropped_concat_eq_due {id : Int} (hlast : lastCursor es = some id) (hopen : id ≠ 0)
    (hdropped : dropped es = []) (hcursor : e.cursor? = none) (hdrops : e.dropped? = some [id]) :
    dropped (es ++ [e]) = due (es ++ [e]) := by
  rw [dropped_concat hdrops, hdropped, due, lastCursor_concat_of_none hcursor, hlast]
  simp [hopen]

end Exchange

namespace Server

/-- What comes of a command when the wait for its answer is ended with a signal.  A caller who is
interrupted while it waits gets no answer, and the server does not notice.  Where there is no wait the
signal does not matter. -/
def hear (s : Server) (signal : Option Fault) (c : Command) : Except Fault Reply × Server :=
  match s.suspends, signal with
  | true, some fault => (.error fault, s)
  | _, _ => s.answer c

/-- The signals that are used up by a wait for a server: the one with which the wait is ended, if the
server makes its callers wait. -/
def waits (s : Server) (signal : Option Fault) : List (Option Fault) :=
  if s.suspends then [signal] else []

theorem hear_none (s : Server) (c : Command) : s.hear none c = s.answer c := by
  unfold hear
  cases s.suspends <;> rfl

theorem hear_of_not_suspends {s : Server} (h : s.suspends = false) (signal : Option Fault)
    (c : Command) : s.hear signal c = s.answer c := by
  unfold hear
  rw [h]

theorem hear_some {s : Server} (h : s.suspends = true) (fault : Fault) (c : Command) :
    s.hear (some fault) c = (.error fault, s) := by
  unfold hear
  rw [h]

/-- A command is answered, or the wait for the answer is ended with a fault. -/
theorem hear_cases (s : Server) (signal : Option Fault) (c : Command) :
    s.hear signal c = s.answer c ∨
      ∃ fault, signal = some fault ∧ s.suspends = true ∧ s.hear signal c = (.error fault, s) := by
  cases hsuspends : s.suspends with
  | false => exact .inl (hear_of_not_suspends hsuspends signal c)
  | true =>
    cases signal with
    | none => exact .inl (hear_none s c)
    | some fault => exact .inr ⟨fault, rfl, rfl, hear_some hsuspends fault c⟩

/-- These exchanges lead a server from one state to another, when the waits for it are ended with
these signals. -/
inductive Answers : Server → List (Option Fault) → List Exchange → Server → Prop
  | nil (s : Server) : Answers s [] [] s
  | heard {s t : Server} {used : List (Option Fault)} {es : List Exchange} (c : Command)
      (signal : Option Fault) : Answers (s.hear signal c).2 used es t →
        Answers s (s.waits signal ++ used) (⟨c, (s.hear signal c).1⟩ :: es) t

theorem Answers.append {s t u : Server} {used used' : List (Option Fault)}
    {es es' : List Exchange} (h : s.Answers used es t) (h' : t.Answers used' es' u) :
    s.Answers (used ++ used') (es ++ es') u := by
  induction h with
  | nil s => exact h'
  | heard c signal _ ih =>
    rw [List.append_assoc]
    exact .heard c signal (ih h')

/-- What was said first was heard first, and the rest from there on. -/
theorem Answers.first {s t : Server} {used : List (Option Fault)} {es : List Exchange}
    {e : Exchange} (h : s.Answers used (e :: es) t) : ∃ signal rest,
    used = s.waits signal ++ rest ∧ e.answer = (s.hear signal e.command).1 ∧
      (s.hear signal e.command).2.Answers rest es t := by
  cases h with
  | @heard _ _ rest _ c signal hrest => exact ⟨signal, rest, rfl, rfl, hrest⟩

/-- A single exchange is what is heard under the first signal that is given. -/
theorem Answers.hear_eq {s t : Server} {signals : Nat → Option Fault} {n : Nat} {e : Exchange}
    (h : s.Answers ((List.range n).map signals) [e] t) :
    s.hear (signals 0) e.command = (e.answer, t) := by
  obtain ⟨signal, rest, hused, hanswer, hrest⟩ := h.first
  have hsame : s.hear (signals 0) e.command = s.hear signal e.command := by
    cases hsuspends : s.suspends with
    | false => rw [hear_of_not_suspends hsuspends, hear_of_not_suspends hsuspends]
    | true =>
      rw [waits, if_pos hsuspends] at hused
      cases n with
      | zero => cases hused
      | succ n =>
        rw [List.range_succ_eq_map, List.map_cons] at hused
        rw [(List.cons.inj hused).1]
  rw [hsame, hanswer]
  cases hrest
  rfl

/-- What was said to be answered first is what the server answers. -/
theorem Answers.answer_eq {s t : Server} {used : List (Option Fault)} {es : List Exchange}
    {c : Command} {reply : Reply} (h : s.Answers used (⟨c, .ok reply⟩ :: es) t) :
    (s.answer c).1 = .ok reply := by
  obtain ⟨signal, _, _, hanswer, _⟩ := h.first
  rcases s.hear_cases signal c with hheard | ⟨fault, _, _, hheard⟩
  · rw [hheard] at hanswer
    exact hanswer.symm
  · rw [hheard] at hanswer
    cases hanswer

theorem collection_answer (s : Server) (c : Command) :
    (s.answer c).2.collection = s.collection := by
  unfold answer
  split
  · rename_i h
    rw [← congrArg (fun p => p.2.collection) h]
    rfl
  · rename_i h
    have hsame := congrArg (fun p => p.2.collection) h
    cases c <;> exact hsame.symm

theorem collection_hear (s : Server) (signal : Option Fault) (c : Command) :
    (s.hear signal c).2.collection = s.collection := by
  rcases s.hear_cases signal c with hheard | ⟨fault, _, _, hheard⟩
  · rw [hheard]
    exact collection_answer s c
  · rw [hheard]

/-- What is answered does not change which collection a server has. -/
theorem Answers.collection {s t : Server} {used : List (Option Fault)} {es : List Exchange}
    (h : s.Answers used es t) : t.collection = s.collection := by
  induction h with
  | nil s => rfl
  | heard c signal _ ih => exact ih.trans (collection_hear _ signal c)

/-- What an outcome becomes when the session is ended after it, which may fail. -/
def ending {α : Type} (s : Server) (outcome : Except Fault α) : Except Fault α :=
  (s.occur .endSession).1.bind fun _ => outcome

theorem ending_eq {α : Type} (s : Server) (outcome : Except Fault α) :
    s.ending outcome = match s.planned .endSession with
      | some fault => .error fault
      | none => outcome := by
  rw [ending, occur]
  cases s.planned .endSession <;> rfl

/-- A failure stays one. -/
theorem ending_error {α : Type} (s : Server) (fault : Fault) :
    s.ending (.error fault : Except Fault α) = .error ((s.planned .endSession).getD fault) := by
  rw [ending_eq]
  cases s.planned .endSession <;> rfl

/-- Dropping cursors is not answered with a cursor. -/
theorem answer_killCursors (s : Server) (collection : String) (cursors : List Int) (id : Int)
    (batch : List Value) :
    (s.answer (.killCursors collection cursors)).1 ≠ .ok (.cursor id batch) := by
  intro h
  unfold answer at h
  split at h <;> cases h

/-- An answer to a first command is the next that the server has. -/
theorem next_of_answer_find {s : Server} {collection : String} {filter : Members} {batchSize : Int}
    {order : List (String × Int)} {projection : Members} {reply : Reply}
    (h : (s.answer (.find collection filter batchSize order projection)).1 = .ok reply) :
    (s.supply.next batchSize).1 = .ok reply := by
  unfold answer occur at h
  cases hplanned : s.planned (Command.find collection filter batchSize order projection).occasion with
  | some fault =>
    rw [hplanned] at h
    cases h
  | none =>
    rw [hplanned] at h
    exact h

end Server

/-! ## States of the service -/

namespace Service

theorem server_congr {u v : Service} (h : u.servers = v.servers) (i : Nat) :
    u.server i = v.server i := by
  rw [Service.server, h]
  rfl

theorem query_congr {u v : Service} (h : u.queries = v.queries) (i : Nat) :
    u.query i = v.query i := by
  rw [Service.query, h]
  rfl

/-- A contact with a source or server goes to the end of the traffic, and nothing else happens. -/
theorem contact_apply {c : Contact} (h : c.isTelling = false) (w : Service) :
    ∃ v, contact c w = (.ok (), v) ∧ v.traffic = w.traffic ++ [c] ∧ v.servers = w.servers ∧
      v.queries = w.queries ∧ v.settings = w.settings :=
  ⟨(contact c w).2, rfl, traffic_contact h w, rfl, rfl, rfl⟩

/-- The state after something was done with a server. -/
theorem server_withServer {α : Type} {i : Nat} (f : Server → Except Fault α × Server)
    {w : Service} (hi : i < w.servers.length) :
    (withServer i f w).2.server i = (f (w.server i)).2 := by
  simp [withServer, Service.server, hi]

theorem length_withServer {α : Type} (i : Nat) (f : Server → Except Fault α × Server)
    (w : Service) : (withServer i f w).2.servers.length = w.servers.length := by
  simp [withServer]

theorem query_queryUpdate {i : Nat} (f : Query → Query) {w : Service}
    (hi : i < w.queries.length) : (queryUpdate i f w).2.query i = f (w.query i) := by
  simp [queryUpdate, Service.query, hi]

/-- A query that was never opened does not change. -/
theorem query_queryUpdate_of_ge {i : Nat} (f : Query → Query) {w : Service}
    (hi : w.queries.length ≤ i) : (queryUpdate i f w).2.query i = w.query i := by
  show (w.queries.modify i f).getD i default = _
  rw [List.modify_eq_self hi]
  rfl

theorem length_queryUpdate (i : Nat) (f : Query → Query) (w : Service) :
    (queryUpdate i f w).2.queries.length = w.queries.length := by
  simp [queryUpdate]

end Service

/-! ## Conversations -/

/-- A session of a server, and what it was opened on: the traffic and the server before the first
command. -/
structure Conversation where
  server : Nat
  session : Nat
  before : List Contact
  opening : Server

namespace Conversation

variable {c : Conversation} {used : List (Option Fault)} {es : List Exchange} {u v : Service}

/-- What has been said in a session up to a state, when the waits have ended with these signals. -/
structure At (c : Conversation) (used : List (Option Fault)) (es : List Exchange) (v : Service) :
    Prop where
  exists_server : c.server < v.servers.length
  traffic : v.traffic = c.before ++ es.map (Exchange.contact c.session)
  answers : c.opening.Answers used es (v.server c.server)

/-- Only sources and servers matter. -/
theorem At.of_suppliesLike (h : c.At used es v) (hu : u.SuppliesLike v) : c.At used es u where
  exists_server := by
    rw [hu.servers]
    exact h.exists_server
  traffic := hu.traffic.trans h.traffic
  answers := by
    rw [Service.server_congr hu.servers]
    exact h.answers

theorem At.queryUpdate (h : c.At used es v) (i : Nat) (f : Query → Query) :
    c.At used es (Service.queryUpdate i f v).2 :=
  ⟨h.exists_server, h.traffic, h.answers⟩

/-- What has come of a wait that was ended with a signal: what was sent is answered, unless the signal
is a fault. -/
structure Waited (s : Server) (command : Command) (signal : Option Fault) (r : Except Fault Unit) :
    Prop where
  hear_of_ok : r = .ok () → s.hear signal command = s.answer command
  hear_of_error : ∀ fault, r = .error fault → s.hear signal command = (.error fault, s)

/-- A wait for a server changes nothing, and uses up a signal only where there is one. -/
theorem always_waitFor (i : Nat) (command : Command) (v : Service) :
    (Session.waitFor i command v).Always used fun later r u => u = v ∧
      ∃ signal, later = used ++ (v.server i).waits signal ∧
        Waited (v.server i) command signal r := by
  apply Async.always_bind_state
  cases hsuspends : (v.server i).suspends with
  | true =>
    rw [if_pos rfl]
    intro signal
    have hwaits : (v.server i).waits signal = [signal] := if_pos hsuspends
    cases signal with
    | none =>
      refine ⟨rfl, none, by rw [hwaits], ?_, nofun⟩
      exact fun _ => Server.hear_none _ command
    | some fault =>
      refine ⟨rfl, some fault, by rw [hwaits], nofun, ?_⟩
      rintro _ ⟨⟩
      exact Server.hear_some hsuspends fault command
  | false =>
    rw [if_neg Bool.false_ne_true]
    have hwaits : (v.server i).waits none = [] := by
      rw [Server.waits, hsuspends]
      rfl
    refine ⟨rfl, none, by rw [hwaits, List.append_nil], ?_, nofun⟩
    exact fun _ => Server.hear_none _ command

/-- **One more exchange.**  Sending a command adds it to the conversation together with its outcome,
and what comes back is an answer of the server. -/
theorem always_send (h : c.At used es v) (command : Command) :
    (Session.send c.server (some c.session) command v).Always used fun used r u =>
      c.At used (es ++ [⟨command, r⟩]) u ∧ u.queries = v.queries ∧
        ∀ reply, r = .ok reply → ((v.server c.server).answer command).1 = .ok reply := by
  -- the contact is made first, and the server does not notice it
  obtain ⟨w, hw, htraffic, hservers, hqueries, _⟩ :=
    Service.contact_apply (c := .command (some c.session) command) rfl v
  have hserver := Service.server_congr hservers c.server
  have hsaid : ∀ r : Except Fault Reply, w.traffic = c.before ++
      (es ++ [(⟨command, r⟩ : Exchange)]).map (Exchange.contact c.session) := by
    intro r
    rw [htraffic, h.traffic, List.map_append, List.append_assoc]
    rfl
  have hexists : c.server < w.servers.length := by
    rw [hservers]
    exact h.exists_server
  -- what is heard next is what goes on from there
  have hheard : ∀ signal, c.opening.Answers (used ++ (w.server c.server).waits signal)
      (es ++ [⟨command, ((w.server c.server).hear signal command).1⟩])
      ((w.server c.server).hear signal command).2 := by
    intro signal
    have hnext := Server.Answers.heard command signal
      (.nil ((w.server c.server).hear signal command).2)
    rw [List.append_nil] at hnext
    rw [hserver] at hnext ⊢
    exact h.answers.append hnext
  refine Async.always_bind_of_ok hw ?_
  apply Async.always_bind (always_waitFor c.server command w)
  · rintro _ _ u ⟨rfl, signal, rfl, hwaited⟩
    have hgiven := Service.server_withServer (fun s => s.answer command) hexists
    have hlength := Service.length_withServer c.server (fun s => s.answer command) u
    have hanswered := hheard signal
    rw [hwaited.hear_of_ok rfl, ← hgiven] at hanswered
    rw [← hserver]
    exact ⟨⟨hlength ▸ hexists, hsaid _, hanswered⟩, hqueries, fun _ hreply => hreply⟩
  · rintro _ fault u ⟨rfl, signal, rfl, hwaited⟩
    have hinterrupted := hheard signal
    rw [hwaited.hear_of_error fault rfl] at hinterrupted
    exact ⟨⟨hexists, hsaid _, hinterrupted⟩, hqueries, nofun⟩

/-- A command that drops cursors brings none. -/
theorem always_kill (h : c.At used es v) (collection : String) (cursors : List Int) :
    (Session.send c.server (some c.session) (.killCursors collection cursors) v).Always used
      fun used r u => c.At used (es ++ [⟨.killCursors collection cursors, r⟩]) u ∧
        u.queries = v.queries ∧
          Exchange.cursor? ⟨.killCursors collection cursors, r⟩ = none := by
  apply (always_send h _).mono
  rintro used r u ⟨hu, hqueries, hanswer⟩
  refine ⟨hu, hqueries, ?_⟩
  rcases r with fault | (⟨id, batch⟩ | _)
  · rfl
  · exact absurd (hanswer _ rfl) (Server.answer_killCursors _ collection cursors id batch)
  · rfl

/-! ## The end of a session -/

/-- What has been said in a session when it is over. -/
structure Ended (c : Conversation) (used : List (Option Fault)) (es : List Exchange) (v : Service) :
    Prop where
  traffic : v.traffic = c.before ++ es.map (Exchange.contact c.session) ++ [.endSession c.session]
  answers : ∃ s, c.opening.Answers used es s ∧ v.server c.server = (s.occur .endSession).2

/-- Ending the session ends the conversation, whether ending it fails or not. -/
theorem At.finish (h : c.At used es v) :
    c.Ended used es (Session.finish c.server c.session v).2 where
  traffic := by
    have hcontact := Service.traffic_contact (c := .endSession c.session) rfl v
    rw [h.traffic] at hcontact
    exact hcontact
  answers := by
    refine ⟨v.server c.server, h.answers, ?_⟩
    exact Service.server_withServer (fun s => s.occur .endSession) h.exists_server

end Conversation

end Paging
