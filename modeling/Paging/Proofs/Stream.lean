import Paging.Proofs.Collector
import Paging.Stream

/-!
# Paging.Proofs.Stream — pages of streams that end

A stream may answer its pulls in any order with values, ends and faults.  What feeding a collector
does is said first for the values that come next, whatever follows them (`feed_of_eq`, `feed_of_lt`).
What reading a page comes to then depends on whether these values fill the page, and else on what
ends them: on nothing else, and with so many pulls (`page_of_eq`, `page_of_raise`, `page_of_stop`).
For a stream that gives the elements of a list and then the end, the page that counting and peeking
arrive at is the page that arithmetic gives (`page_of_lists`).
-/

namespace Paging

/-- What a pull tells that is only to show whether anything follows. -/
def Pull.ends {α : Type} : Pull α → Except Fault Bool
  | .value _ => .ok false
  | .stop => .ok true
  | .raise fault => .error fault

namespace Stream

variable {α : Type} {strategy : Strategy} {r : Request} {s : Stream α}

/-! ## What a stream gives -/

/-- The next pulls give the elements of a list. -/
def Gives (s : Stream α) (xs : List α) : Prop :=
  ∀ i (h : i < xs.length), s.event (s.position + i) = .value xs[i]

/-- The stream gives exactly the elements of a list and is then at its end for good. -/
structure Lists (s : Stream α) (xs : List α) : Prop where
  gives : s.Gives xs
  ends : ∀ i, xs.length ≤ i → s.event (s.position + i) = .stop

/-- The stream after a number of pulls. -/
def advance (s : Stream α) (n : Nat) : Stream α := { s with position := s.position + n }

@[simp]
theorem event_advance (s : Stream α) (n i : Nat) :
    (s.advance n).event ((s.advance n).position + i) = s.event (s.position + (n + i)) := by
  simp [advance, Nat.add_assoc]

@[simp]
theorem advance_advance (s : Stream α) (m n : Nat) :
    (s.advance m).advance n = s.advance (m + n) := by
  simp [advance, Nat.add_assoc]

theorem pull_eq (s : Stream α) : s.pull = (s.event (s.position + 0), s.advance 1) := rfl

theorem Gives.head {x : α} {xs : List α} (h : s.Gives (x :: xs)) :
    s.event (s.position + 0) = .value x :=
  h 0 (by simp)

theorem Gives.tail {x : α} {xs : List α} (h : s.Gives (x :: xs)) : (s.advance 1).Gives xs := by
  intro i hi
  have hnext := h (1 + i) (by rw [List.length_cons]; omega)
  rw [event_advance, hnext, List.getElem_cons, dif_neg (by omega)]
  congr 2
  omega

theorem Gives.left {xs ys : List α} (h : s.Gives (xs ++ ys)) : s.Gives xs := by
  intro i hi
  rw [h i (by rw [List.length_append]; omega), List.getElem_append_left hi]

/-- One more value. -/
theorem Gives.concat {xs : List α} (h : s.Gives xs) {x : α}
    (hx : s.event (s.position + xs.length) = .value x) : s.Gives (xs ++ [x]) := by
  intro i hi
  rw [List.length_append, List.length_singleton] at hi
  rcases Nat.lt_succ_iff_lt_or_eq.1 hi with hlt | rfl
  · rw [h i hlt, List.getElem_append_left hlt]
  · rw [hx, List.getElem_concat_length rfl]

/-- The stream of the elements of a list gives them. -/
theorem lists_ofList (xs : List α) : (ofList xs).Lists xs where
  gives := by
    intro i hi
    simp [ofList, hi]
  ends := by
    intro i hi
    have hnone : xs[i]? = none := List.getElem?_eq_none hi
    simp [ofList, hnone]

/-! ## Feeding a collector -/

/-- Feeding stops after the element that fills the page asked for. -/
theorem feed_of_eq {xs : List α} (hs : s.Gives xs) {pre : List α} {wanted : Nat}
    (hlen : xs.length = wanted) (hreach : pre.length + wanted = r.reach) :
    feed wanted s (.after strategy r pre) =
      (.ok (.after strategy r (pre ++ xs)), s.advance xs.length) := by
  induction xs generalizing s pre wanted with
  | nil =>
    subst hlen
    rw [List.append_nil]
    rfl
  | cons x xs ih =>
    obtain rfl : wanted = xs.length + 1 := hlen.symm
    have happend : pre ++ x :: xs = (pre ++ [x]) ++ xs := List.append_cons pre x xs
    have hlength : (pre ++ [x]).length = pre.length + 1 := by
      rw [List.length_append, List.length_singleton]
    simp only [feed, pull_eq, hs.head, Collector.add_after]
    by_cases hfull : (Collector.after strategy r (pre ++ [x])).isFull = true
    · -- the page is full, so this was the last element wanted
      have hend : (pre ++ [x]).length = r.reach := (Collector.isFull_after _).1 hfull
      obtain rfl : xs = [] := List.eq_nil_of_length_eq_zero (by omega)
      rw [if_pos hfull]
      rfl
    · rw [if_neg hfull, ih hs.tail rfl (by omega), happend, advance_advance, List.length_cons,
        Nat.add_comm 1]

/-- Values that do not fill the page asked for are all taken in, and feeding goes on. -/
theorem feed_of_lt {xs : List α} (hs : s.Gives xs) {pre : List α} {wanted : Nat}
    (hlen : xs.length < wanted) (hreach : pre.length + wanted = r.reach) :
    feed wanted s (.after strategy r pre) =
      feed (wanted - xs.length) (s.advance xs.length) (.after strategy r (pre ++ xs)) := by
  induction xs generalizing s pre wanted with
  | nil =>
    rw [List.append_nil]
    rfl
  | cons x xs ih =>
    rw [List.length_cons] at hlen
    obtain ⟨wanted, rfl⟩ : ∃ n, wanted = n + 1 := ⟨wanted - 1, by omega⟩
    have happend : pre ++ x :: xs = (pre ++ [x]) ++ xs := List.append_cons pre x xs
    have hlength : (pre ++ [x]).length = pre.length + 1 := by
      rw [List.length_append, List.length_singleton]
    have hopen : (pre ++ [x]).length ≠ r.reach := by omega
    rw [feed, pull_eq, hs.head]
    simp only [Collector.add_after]
    rw [if_neg (mt (Collector.isFull_after _).1 hopen), ih hs.tail (by omega) (by omega), happend,
      advance_advance, List.length_cons, Nat.add_comm 1, Nat.add_sub_add_right]

/-- The number of elements wanted is not what ends the feeding: with more of them it comes to the
same. -/
theorem feed_of_le {pre : List α} {wanted : Nat} (hopen : pre.length < r.reach)
    (h : r.reach ≤ pre.length + wanted) :
    feed wanted s (.after strategy r pre) =
      feed (r.reach - pre.length) s (.after strategy r pre) := by
  -- by induction on what the page asked for still lacks
  induction hlack : r.reach - pre.length generalizing s pre wanted with
  | zero => omega
  | succ lack ih =>
    obtain ⟨wanted, rfl⟩ : ∃ n, wanted = n + 1 := ⟨wanted - 1, by omega⟩
    rw [feed, feed]
    rcases s.pull with ⟨x | _ | fault, t⟩
    · have hlength : (pre ++ [x]).length = pre.length + 1 := by
        rw [List.length_append, List.length_singleton]
      simp only [Collector.add_after]
      by_cases hfull : (Collector.after strategy r (pre ++ [x])).isFull = true
      · rw [if_pos hfull, if_pos hfull]
      · have hne : (pre ++ [x]).length ≠ r.reach := mt (Collector.isFull_after _).2 hfull
        rw [if_neg hfull, if_neg hfull, ih (by omega) (by omega) (by omega)]
    · rfl
    · rfl

/-! ## Reading a page -/

/-- A peek is one pull, and tells whether it met the end. -/
theorem peek_eq (s : Stream α) : s.peek = ((s.event (s.position + 0)).ends, s.advance 1) := by
  rw [peek, pull_eq]
  cases s.event (s.position + 0) <;> rfl

/-- What comes of a page once the collector has been fed. -/
theorem page_of_feed {c : Collector α} {t : Stream α}
    (hfeed : feed r.reach s (.start strategy r) = (.ok c, t)) :
    s.page strategy r =
      if c.keeps then ((t.event (t.position + 0)).ends >>= c.finish, t.advance 1)
      else (c.finish true, t) := by
  rw [page, hfeed]
  simp only [peek_eq]
  cases (t.event (t.position + 0)).ends <;> rfl

/-- A stream that gives enough values is read up to the one that fills the page asked for, and once
more. -/
theorem page_of_eq {xs : List α} (hs : s.Gives xs) (hlen : xs.length = r.reach) :
    s.page strategy r =
      ((s.event (s.position + r.reach)).ends.map fun isLast =>
        ⟨Reference.slice xs r.target r.size, r.target, isLast⟩, s.advance (r.reach + 1)) := by
  have hfeed : feed r.reach s (.after strategy r []) =
      (.ok (.after strategy r ([] ++ xs)), s.advance xs.length) :=
    feed_of_eq hs hlen (Nat.zero_add _)
  have htarget := Reference.pageCount_of_eq hlen
  have hkeeps : (Collector.after strategy r xs).keeps = true := Collector.keeps_after.2 (.inl htarget)
  rw [← Collector.start_eq_after, List.nil_append, hlen] at hfeed
  rw [page_of_feed hfeed, if_pos hkeeps, event_advance, advance_advance, Nat.add_zero]
  congr 1
  cases (s.event (s.position + r.reach)).ends with
  | error fault => rfl
  | ok isLast =>
    have hfinish := Collector.finish_after_of_keeps hkeeps isLast
    rw [htarget] at hfinish
    exact hfinish

/-- A fault that comes before there are values enough is the outcome. -/
theorem page_of_raise {xs : List α} (hs : s.Gives xs) (hlt : xs.length < r.reach) {fault : Fault}
    (hraise : s.event (s.position + xs.length) = .raise fault) :
    s.page strategy r = (.error fault, s.advance (xs.length + 1)) := by
  obtain ⟨rest, hrest⟩ : ∃ n, r.reach - xs.length = n + 1 := ⟨r.reach - xs.length - 1, by omega⟩
  have hend : (s.advance xs.length).event ((s.advance xs.length).position + 0) = .raise fault := by
    rw [event_advance]
    exact hraise
  have hfeed : feed r.reach s (.after strategy r []) =
      (.error fault, s.advance (xs.length + 1)) := by
    rw [feed_of_lt hs hlt (Nat.zero_add _), hrest, feed, pull_eq, hend]
    rw [advance_advance]
  rw [← Collector.start_eq_after] at hfeed
  rw [page, hfeed]

/-- An end that comes before there are values enough is met once more if the page being formed may be
the answer. -/
theorem page_of_stop {xs : List α} (hs : s.Gives xs) (hlt : xs.length < r.reach)
    (hstop : s.event (s.position + xs.length) = .stop) :
    s.page strategy r =
      if Reference.pageCount xs.length r.size = r.target ∨ strategy = .returnLastPage then
        ((s.event (s.position + xs.length + 1)).ends.map fun isLast =>
          ⟨Reference.slice xs (Reference.pageCount xs.length r.size) r.size,
            Reference.pageCount xs.length r.size, isLast⟩, s.advance (xs.length + 2))
      else (Reference.page strategy r xs, s.advance (xs.length + 1)) := by
  obtain ⟨rest, hrest⟩ : ∃ n, r.reach - xs.length = n + 1 := ⟨r.reach - xs.length - 1, by omega⟩
  have hend : (s.advance xs.length).event ((s.advance xs.length).position + 0) = .stop := by
    rw [event_advance]
    exact hstop
  have hfeed : feed r.reach s (.after strategy r []) =
      (.ok (.after strategy r xs), s.advance (xs.length + 1)) := by
    rw [feed_of_lt hs hlt (Nat.zero_add _), hrest, feed, pull_eq, hend]
    rw [advance_advance]
    rfl
  rw [← Collector.start_eq_after] at hfeed
  rw [page_of_feed hfeed, event_advance, advance_advance]
  by_cases hkeeps : (Collector.after strategy r xs).keeps = true
  · rw [if_pos hkeeps, if_pos (Collector.keeps_after.1 hkeeps)]
    congr 1
    show ((s.event (s.position + xs.length + 1)).ends >>= _) = _
    cases (s.event (s.position + xs.length + 1)).ends with
    | error fault => rfl
    | ok isLast => exact Collector.finish_after_of_keeps hkeeps isLast
  · rw [if_neg hkeeps, if_neg (mt Collector.keeps_after.2 hkeeps),
      Collector.finish_after (Nat.le_of_lt hlt)]

/-- Whether a stream that gives a list has ended after some of its elements. -/
theorem Lists.ends_event {xs ys : List α} (h : s.Lists (xs ++ ys)) :
    (s.event (s.position + xs.length)).ends = .ok ys.isEmpty := by
  cases ys with
  | nil =>
    rw [h.ends xs.length (by simp)]
    rfl
  | cons y ys =>
    rw [h.gives xs.length (by simp)]
    rfl

/-- **The page of a stream that ends** is the page that arithmetic gives. -/
theorem page_of_lists {xs : List α} (h : s.Lists xs) :
    (s.page strategy r).1 = Reference.page strategy r xs := by
  rcases Nat.lt_or_ge xs.length r.reach with hlt | hge
  · -- the stream ends before the page asked for is full, and the peek meets the end once more
    have hend : s.event (s.position + xs.length + 1) = .stop := h.ends _ (Nat.le_succ _)
    rw [page_of_stop h.gives hlt (h.ends _ (Nat.le_refl _)), hend]
    split
    · next hkept =>
      rw [← Collector.finish_after (Nat.le_of_lt hlt),
        Collector.finish_after_of_keeps (Collector.keeps_after.2 hkept)]
      rfl
    · rfl
  · -- the page asked for is filled by the first elements
    obtain ⟨ys, zs, rfl, hys⟩ : ∃ ys zs, xs = ys ++ zs ∧ ys.length = r.reach :=
      ⟨xs.take r.reach, xs.drop r.reach, (List.take_append_drop _ _).symm,
        List.length_take_of_le hge⟩
    rw [page_of_eq h.gives.left hys, Reference.page_append_of_length_eq strategy zs hys, ← hys,
      h.ends_event]
    rfl

end Stream

end Paging
