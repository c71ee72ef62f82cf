import Paging.Proofs.Query.Life

/-!
# Paging.Proofs.Query.Draw — what is drawn from the supply of a server

A server answers requests for batches from its supply, and nothing but such a request draws from it: a
command that fails, or is interrupted, leaves the supply as it is, and so does a command that drops a
cursor.  So the answers that a conversation has brought are the first ones that the server had to give,
in order and each of them once (`Server.Answers.draw`).
-/

namespace Paging

/-- The documents that come with an answer. -/
def Reply.documents : Reply → List Value
  | cursor _ batch => batch
  | bare => []

/-- The size of the batch that a command asks for. -/
def Command.asked : Command → Option Int
  | find _ _ batchSize _ _ => some batchSize
  | getMore _ _ batchSize => some batchSize
  | killCursors .. => none

namespace Supply

variable {s t : Supply} {b : Int} {reply : Reply} {d : Value}

/-- The documents that a supply has to give. -/
def left : Supply → List Value
  | documents rest _ _ => rest
  | replies rest => rest.flatMap Reply.documents

/-- The first answers to requests for batches of one size, and what is left after them. -/
def draw (b : Int) : Nat → Supply → List Reply × Supply
  | 0, s => ([], s)
  | n + 1, s => match s.next b with
    | (.ok reply, t) => (reply :: (draw b n t).1, (draw b n t).2)
    | (.error _, t) => ([], t)

theorem draw_succ (h : s.next b = (.ok reply, t)) (n : Nat) :
    s.draw b (n + 1) = (reply :: (t.draw b n).1, (t.draw b n).2) := by
  rw [draw, h]

/-- A supply that has no answer is left as it is. -/
theorem next_of_error {fault : Fault} (h : (s.next b).1 = .error fault) : (s.next b).2 = s := by
  cases s with
  | documents rest trailing cursorId => cases h
  | replies rest =>
    cases rest with
    | nil => rfl
    | cons reply rest => cases h

/-- The documents of an answer are taken from those that the supply has to give. -/
theorem mem_left_of_next (h : s.next b = (.ok reply, t)) :
    (d ∈ reply.documents → d ∈ s.left) ∧ (d ∈ t.left → d ∈ s.left) := by
  cases s with
  | documents rest trailing cursorId =>
    cases h
    exact ⟨fun hd => List.mem_of_mem_take hd, fun hd => List.mem_of_mem_drop hd⟩
  | replies rest =>
    cases rest with
    | nil => cases h
    | cons first rest =>
      cases h
      exact ⟨fun hd => List.mem_append_left _ hd, fun hd => List.mem_append_right _ hd⟩

/-- What is drawn from a supply is what it has to give. -/
theorem mem_left_of_draw {n : Nat} (h : reply ∈ (s.draw b n).1) (hd : d ∈ reply.documents) :
    d ∈ s.left := by
  induction n generalizing s with
  | zero => cases h
  | succ n ih =>
    rcases hnext : s.next b with ⟨fault | first, t⟩
    · rw [draw, hnext] at h
      cases h
    · rw [draw_succ hnext] at h
      rcases List.mem_cons.1 h with rfl | hlater
      · exact (mem_left_of_next hnext).1 hd
      · exact (mem_left_of_next hnext).2 (ih hlater)

end Supply

namespace Exchange

variable {e : Exchange} {reply : Reply}

/-- The answer to a request for a batch. -/
def given? (e : Exchange) : Option Reply :=
  match e.command.asked, e.answer with
  | some _, .ok reply => some reply
  | _, _ => none

/-- The batch that was received. -/
def batch? (e : Exchange) : Option (List Value) :=
  match e.given? with
  | some (.cursor _ batch) => some batch
  | _ => none

theorem given?_of_ok {c : Command} {b : Int} (h : c.asked = some b) :
    given? ⟨c, .ok reply⟩ = some reply := by
  simp only [given?, h]

theorem given?_of_error {fault : Fault} (h : e.answer = .error fault) : e.given? = none := by
  unfold given?
  split
  · next hok =>
    rw [h] at hok
    cases hok
  · rfl

theorem given?_of_asked_none (h : e.command.asked = none) : e.given? = none := by
  simp only [given?, h]

end Exchange

namespace Server

variable {s t : Server} {c : Command} {b : Int} {es : List Exchange}

/-- An answer to a request is the next one that the supply has, and failing leaves the supply as it
is. -/
theorem answer_of_asked (h : c.asked = some b) :
    (∃ reply, (s.answer c).1 = .ok reply ∧ s.supply.next b = (.ok reply, (s.answer c).2.supply)) ∨
      ∃ fault, (s.answer c).1 = .error fault ∧ (s.answer c).2.supply = s.supply := by
  cases hplanned : s.planned c.occasion with
  | some fault =>
    right
    rw [answer, occur, hplanned]
    exact ⟨fault, rfl, rfl⟩
  | none =>
    have hanswer : (s.answer c).1 = (s.supply.next b).1 ∧
        (s.answer c).2.supply = (s.supply.next b).2 := by
      rw [answer, occur, hplanned]
      cases c with
      | find | getMore =>
        cases h
        exact ⟨rfl, rfl⟩
      | killCursors => cases h
    rcases hnext : s.supply.next b with ⟨fault | reply, left⟩
    · right
      have hsame := Supply.next_of_error (s := s.supply) (b := b) (by rw [hnext])
      exact ⟨fault, by rw [hanswer.1, hnext], by rw [hanswer.2, hsame]⟩
    · left
      exact ⟨reply, by rw [hanswer.1, hnext], by rw [hanswer.2, hnext]⟩

/-- Dropping cursors does not draw from the supply. -/
theorem supply_answer_of_asked_none (h : c.asked = none) : (s.answer c).2.supply = s.supply := by
  cases c with
  | find | getMore => cases h
  | killCursors collection cursors =>
    rw [answer, occur]
    cases s.planned (Command.killCursors collection cursors).occasion <;> rfl

/-- What is heard of a request is the next answer that the supply has, or a fault that leaves the supply
as it is. -/
theorem hear_of_asked (signal : Option Fault) (h : c.asked = some b) :
    (∃ reply, (s.hear signal c).1 = .ok reply ∧
        s.supply.next b = (.ok reply, (s.hear signal c).2.supply)) ∨
      ∃ fault, (s.hear signal c).1 = .error fault ∧ (s.hear signal c).2.supply = s.supply := by
  rcases s.hear_cases signal c with hheard | ⟨fault, _, _, hheard⟩
  · rw [hheard]
    exact answer_of_asked h
  · rw [hheard]
    exact .inr ⟨fault, rfl, rfl⟩

theorem supply_hear_of_asked_none (signal : Option Fault) (h : c.asked = none) :
    (s.hear signal c).2.supply = s.supply := by
  rcases s.hear_cases signal c with hheard | ⟨fault, _, _, hheard⟩
  · rw [hheard]
    exact supply_answer_of_asked_none h
  · rw [hheard]

/-- **What a conversation has brought is what the server had to give**, from the first answer on. -/
theorem Answers.draw {used : List (Option Fault)} (h : s.Answers used es t)
    (hasked : ∀ e ∈ es, e.command.asked = some b ∨ e.command.asked = none) :
    ∃ n, s.supply.draw b n = (es.filterMap Exchange.given?, t.supply) := by
  induction h with
  | nil s => exact ⟨0, rfl⟩
  | @heard s t _ es c signal _ ih =>
    obtain ⟨n, hn⟩ := ih fun e he => hasked e (List.mem_cons_of_mem _ he)
    rcases hasked _ List.mem_cons_self with hc | hc
    · rcases hear_of_asked (s := s) signal hc with ⟨reply, hreply, hnext⟩ | ⟨fault, hfault, hsame⟩
      · refine ⟨n + 1, ?_⟩
        rw [Supply.draw_succ hnext, hn, hreply,
          List.filterMap_cons_some (Exchange.given?_of_ok hc)]
      · refine ⟨n, ?_⟩
        rw [← hsame, hn, List.filterMap_cons_none (Exchange.given?_of_error hfault)]
    · refine ⟨n, ?_⟩
      rw [← supply_hear_of_asked_none signal hc, hn,
        List.filterMap_cons_none (Exchange.given?_of_asked_none hc)]

end Server

end Paging
