import Paging.Proofs.Collector

/-!
# Paging.Proofs.Collector.Tally — a collector after every element

`Tallies` says what the counters and the kept elements of a collector have to do with the elements
that it was given.  It leaves nothing open: there is only one collector that tallies with a list, the
one that `Collector.after` gives in closed form (`tallies_iff`).  So one more element leads from a
collector that tallies to the next (`Tallies.add`), whether or not it begins a new page, and whether
or not the page asked for is full already.  `tallies_throughout` says this of a whole run of elements,
which nothing cuts short: the page being formed never goes back, and the page asked for is full after
one element of the run and after no other.
-/

namespace Paging.Collector

open Reference

variable {α : Type} {strategy : Strategy} {r : Request} {fed : List α} {c d : Collector α}

/-! ## What a collector says of the elements it was given -/

/-- The collector of a request tallies with the elements it was given. -/
structure Tallies (strategy : Strategy) (r : Request) (fed : List α) (c : Collector α) : Prop where
  strategy_eq : c.strategy = strategy
  request_eq : c.request = r
  one_le_pageNumber : 1 ≤ c.pageNumber
  /-- The pages before the one being formed are full, and together with it they have every element. -/
  count : (c.pageNumber - 1) * r.size + c.filled = fed.length
  /-- A page is begun by its first element. -/
  one_le_filled : fed ≠ [] → 1 ≤ c.filled
  filled_le : c.filled ≤ r.size
  /-- What is kept is one page: the page being formed if it may be the answer, and otherwise so much of
  the page asked for as there is. -/
  elements : c.elements =
    slice fed (if strategy = .returnLastPage then c.pageNumber else r.target) r.size

/-- The page being formed is the last one that the elements need. -/
theorem Tallies.pageNumber_eq (h : Tallies strategy r fed c) :
    c.pageNumber = pageCount fed.length r.size := by
  have hs := r.one_le_size
  have hone := h.one_le_pageNumber
  have hcount := h.count
  have hfilled := h.filled_le
  have hpage := pred_mul_add hone r.size
  cases fed with
  | nil =>
    -- a page before it would have elements
    rw [List.length_nil] at hcount
    have hzero : c.pageNumber - 1 = 0 := by
      rcases Nat.mul_eq_zero.1 (Nat.eq_zero_of_add_eq_zero_right hcount) with hpred | hsize
      · exact hpred
      · omega
    rw [List.length_nil, pageCount_zero]
    omega
  | cons x xs =>
    have hbegun := h.one_le_filled (List.cons_ne_nil x xs)
    rw [List.length_cons] at hcount ⊢
    exact ((pageCount_succ_eq_iff hs hone).2 ⟨by omega, by omega⟩).symm

theorem tallies_after (strategy : Strategy) (r : Request) (fed : List α) :
    Tallies strategy r fed (after strategy r fed) where
  strategy_eq := rfl
  request_eq := rfl
  one_le_pageNumber := one_le_pageCount _ _
  count := count_after fed
  one_le_filled := by
    intro hne
    have hlen : fed.length - 1 + 1 = fed.length := Nat.sub_add_cancel (List.length_pos_iff.2 hne)
    have hbegins := ((pageCount_succ_eq_iff (n := fed.length - 1) r.one_le_size
      (one_le_pageCount _ _)).1 rfl).1
    rw [hlen] at hbegins
    show 1 ≤ fed.length - (pageCount fed.length r.size - 1) * r.size
    omega
  filled_le := by
    have hroom := le_pageCount_mul (n := fed.length) r.one_le_size
    have hpage := pred_mul_add (one_le_pageCount fed.length r.size) r.size
    show fed.length - (pageCount fed.length r.size - 1) * r.size ≤ r.size
    omega
  elements := by
    by_cases hstrategy : strategy = .returnLastPage
    · rw [elements_after (keeps_after.2 (.inr hstrategy)), if_pos hstrategy]
      rfl
    · simp only [after, hstrategy, if_false]

/-- **The tally leaves nothing open**: the elements alone decide what the collector is like. -/
theorem Tallies.unique (h : Tallies strategy r fed c) (h' : Tallies strategy r fed d) : c = d := by
  have hpage : c.pageNumber = d.pageNumber := h.pageNumber_eq.trans h'.pageNumber_eq.symm
  have hfilled : c.filled = d.filled := by
    have hcount := h.count
    rw [hpage, ← h'.count] at hcount
    exact Nat.add_left_cancel hcount
  have helements : c.elements = d.elements := by rw [h.elements, h'.elements, hpage]
  have hstrategy : c.strategy = d.strategy := h.strategy_eq.trans h'.strategy_eq.symm
  have hrequest : c.request = d.request := h.request_eq.trans h'.request_eq.symm
  cases c
  cases d
  rw [Collector.mk.injEq]
  exact ⟨hstrategy, hrequest, hpage, hfilled, helements⟩

theorem tallies_iff : Tallies strategy r fed c ↔ c = after strategy r fed := by
  constructor
  · intro h
    exact h.unique (tallies_after strategy r fed)
  · rintro rfl
    exact tallies_after strategy r fed

/-! ## One element, and a run of elements -/

theorem tallies_start (strategy : Strategy) (r : Request) :
    Tallies strategy r ([] : List α) (start strategy r) :=
  tallies_iff.2 (start_eq_after strategy r)

/-- **One more element is accounted for**, on whichever page it lies. -/
theorem Tallies.add (h : Tallies strategy r fed c) (x : α) :
    Tallies strategy r (fed ++ [x]) (c.add x) := by
  rw [tallies_iff] at h ⊢
  rw [h, add_after]

/-- However many elements follow, they are accounted for. -/
theorem Tallies.foldl (h : Tallies strategy r fed c) (xs : List α) :
    Tallies strategy r (fed ++ xs) (xs.foldl Collector.add c) := by
  induction xs generalizing fed c with
  | nil =>
    rw [List.append_nil]
    exact h
  | cons x xs ih =>
    rw [List.append_cons, List.foldl_cons]
    exact ih (h.add x)

/-- The page asked for is full after as many elements as fill it and the pages before. -/
theorem Tallies.isFull_iff (h : Tallies strategy r fed c) :
    c.isFull = true ↔ fed.length = r.reach := by
  rw [tallies_iff.1 h]
  exact isFull_after fed

/-- No more is kept than one page. -/
theorem Tallies.length_elements_le (h : Tallies strategy r fed c) :
    c.elements.length ≤ r.size := by
  rw [h.elements]
  exact List.length_take_le _ _

/-- An element lies on the page being formed or begins the next one. -/
theorem pageNumber_le_add (c : Collector α) (x : α) : c.pageNumber ≤ (c.add x).pageNumber := by
  have hturn : c.pageNumber ≤ c.turn.pageNumber := by
    unfold turn
    split
    · exact Nat.le_refl _
    · exact Nat.le_succ _
  simp only [add]
  split
  · exact hturn
  · exact hturn

theorem pageNumber_le_of_mem_scanl {xs : List α} (h : d ∈ xs.scanl add c) :
    c.pageNumber ≤ d.pageNumber := by
  induction xs generalizing c with
  | nil =>
    rw [List.scanl_nil, List.mem_singleton] at h
    exact Nat.le_of_eq (congrArg pageNumber h.symm)
  | cons x xs ih =>
    rw [List.scanl_cons, List.mem_cons] at h
    rcases h with rfl | hlater
    · exact Nat.le_refl _
    · exact Nat.le_trans (pageNumber_le_add c x) (ih hlater)

/-- In the order of the elements, no page is returned to. -/
theorem pairwise_pageNumber_scanl (c : Collector α) (xs : List α) :
    (xs.scanl add c).Pairwise fun earlier later => earlier.pageNumber ≤ later.pageNumber := by
  induction xs generalizing c with
  | nil =>
    rw [List.scanl_nil]
    exact List.pairwise_singleton _ _
  | cons x xs ih =>
    rw [List.scanl_cons, List.pairwise_cons]
    refine ⟨?_, ih (c.add x)⟩
    intro later hlater
    exact Nat.le_trans (pageNumber_le_add c x) (pageNumber_le_of_mem_scanl hlater)

/-- **A collector after every element of a run.**  A run of elements, however long, leads from the
collector before the first element through one collector for each of them.  The one after `i` elements
tallies with these: the full pages and the page being formed, which has at least one element and no
more than a full one, make `i` together; at most one page is kept, which under `returnLastPage` is the
page being formed and otherwise what there is of the page asked for.  The number of the page being
formed never falls.  The page asked for is full right after the last element on it, neither before nor
when more elements have followed. -/
theorem tallies_throughout (strategy : Strategy) (r : Request) (xs : List α) :
    let run := xs.scanl add (start strategy r)
    run.length = xs.length + 1 ∧
    run.Pairwise (fun earlier later => earlier.pageNumber ≤ later.pageNumber) ∧
    ∀ (i : Nat) (c : Collector α), run[i]? = some c →
      Tallies strategy r (xs.take i) c ∧ (c.pageNumber - 1) * r.size + c.filled = i ∧
        (1 ≤ i → 1 ≤ c.filled) ∧ c.elements.length ≤ r.size ∧ (c.isFull = true ↔ i = r.reach) := by
  intro run
  refine ⟨List.length_scanl, pairwise_pageNumber_scanl _ xs, ?_⟩
  intro i c hc
  rw [List.getElem?_scanl] at hc
  split at hc
  · next hi =>
    obtain rfl := Option.some.inj hc
    have hlength : (xs.take i).length = i := List.length_take_of_le hi
    have htallies : Tallies strategy r (xs.take i) ((xs.take i).foldl add (start strategy r)) :=
      (tallies_start strategy r).foldl (xs.take i)
    have hcount := htallies.count
    have hfull := htallies.isFull_iff
    rw [hlength] at hcount hfull
    refine ⟨htallies, hcount, ?_, htallies.length_elements_le, hfull⟩
    intro hbegun
    apply htallies.one_le_filled
    rw [← List.length_pos_iff, hlength]
    exact hbegun
  · cases hc

/-- Five elements on pages of two: the second page is kept when the third is begun. -/
theorem tallies_throughout_of_five :
    ∃ c : Collector Nat, ([1, 2, 3, 4, 5].scanl add (start .fail ⟨2, 2, by decide, by decide⟩))[5]? =
        some c ∧
      Tallies .fail ⟨2, 2, by decide, by decide⟩ [1, 2, 3, 4, 5] c ∧ c.pageNumber = 3 ∧
        c.elements = [3, 4] ∧ c.isFull = false := by
  have hrun : ([1, 2, 3, 4, 5].scanl add (start .fail ⟨2, 2, by decide, by decide⟩))[5]? =
      some (⟨.fail, ⟨2, 2, by decide, by decide⟩, 3, 1, [3, 4]⟩ : Collector Nat) := by
    rw [List.getElem?_scanl]
    rfl
  obtain ⟨_, _, hall⟩ := tallies_throughout .fail ⟨2, 2, by decide, by decide⟩ [1, 2, 3, 4, 5]
  exact ⟨_, hrun, (hall 5 _ hrun).1, rfl, rfl, rfl⟩

end Paging.Collector
