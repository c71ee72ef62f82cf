import Paging.Reference

/-!
# Paging.Proofs.Reference — the arithmetic of pages

The facts about page counts and slices that everything else about pages is derived from.  A page
count is characterised by its order (`pageCount_le_iff`), so that no proof divides again.  A slice
is followed through a list that grows at its end: it takes in the new element exactly when the
position of that element lies on the page (`slice_concat`), and it is not changed by elements that
come after the page (`slice_append`).
-/

namespace Paging.Reference

variable {α : Type}

/-! ## Counting pages -/

/-- `n` elements fit on `p` pages exactly when the pages have room for them. -/
theorem pageCount_le_iff {n size p : Nat} (hs : 1 ≤ size) (hp : 1 ≤ p) :
    pageCount n size ≤ p ↔ n ≤ p * size := by
  have hdiv : (n + size - 1) / size ≤ p ↔ n ≤ p * size := by
    rw [← Nat.lt_succ_iff, Nat.div_lt_iff_lt_mul hs, Nat.succ_mul]
    omega
  rw [← hdiv]
  unfold pageCount
  omega

/-- There are more than `p` pages exactly when `p` full pages do not hold all elements. -/
theorem lt_pageCount_iff {n size p : Nat} (hs : 1 ≤ size) (hp : 1 ≤ p) :
    p < pageCount n size ↔ p * size < n := by
  rw [← Nat.not_le, pageCount_le_iff hs hp, Nat.not_le]

/-- The pages have room for all elements. -/
theorem le_pageCount_mul {n size : Nat} (hs : 1 ≤ size) : n ≤ pageCount n size * size :=
  (pageCount_le_iff hs (one_le_pageCount n size)).1 (Nat.le_refl _)

/-- The pages before the last are full. -/
theorem pred_pageCount_mul_le {n size : Nat} (hs : 1 ≤ size) :
    (pageCount n size - 1) * size ≤ n := by
  rcases Nat.lt_or_ge 1 (pageCount n size) with h | h
  · have hlt : pageCount n size - 1 < pageCount n size := by omega
    exact Nat.le_of_lt ((lt_pageCount_iff hs (by omega)).1 hlt)
  · have hzero : pageCount n size - 1 = 0 := by omega
    rw [hzero, Nat.zero_mul]
    exact Nat.zero_le n

/-- The number of the page on which an element at a given position, counted from zero, lies. -/
theorem pageCount_succ_eq_iff {n size p : Nat} (hs : 1 ≤ size) (hp : 1 ≤ p) :
    pageCount (n + 1) size = p ↔ (p - 1) * size ≤ n ∧ n < p * size := by
  have hupper : pageCount (n + 1) size ≤ p ↔ n < p * size := pageCount_le_iff hs hp
  -- for the first page there is no page before it to compare with
  rcases Nat.lt_or_ge 1 p with h | h
  · have hlower : p - 1 < pageCount (n + 1) size ↔ (p - 1) * size < n + 1 :=
      lt_pageCount_iff hs (by omega)
    omega
  · obtain rfl : p = 1 := by omega
    have hone := one_le_pageCount (n + 1) size
    simp only [Nat.sub_self, Nat.zero_mul, Nat.zero_le, true_and]
    omega

/-- An element that still fits on the last page does not change the number of pages. -/
theorem pageCount_succ_of_lt {n size : Nat} (hs : 1 ≤ size) (h : n < pageCount n size * size) :
    pageCount (n + 1) size = pageCount n size :=
  (pageCount_succ_eq_iff hs (one_le_pageCount n size)).2 ⟨pred_pageCount_mul_le hs, h⟩

/-- An element that comes after a full page begins a new one. -/
theorem pageCount_succ_of_eq {n size : Nat} (hs : 1 ≤ size) (h : n = pageCount n size * size) :
    pageCount (n + 1) size = pageCount n size + 1 := by
  refine (pageCount_succ_eq_iff hs (by omega)).2 ⟨?_, ?_⟩
  · rw [Nat.add_sub_cancel]
    exact Nat.le_of_eq h.symm
  · rw [Nat.succ_mul, ← h]
    omega

/-- A page that all elements together fill exactly is the last one. -/
theorem pageCount_eq_iff_of_le {n size p : Nat} (hs : 1 ≤ size) (hp : 1 ≤ p) (h : n ≤ p * size) :
    p ≤ pageCount n size ↔ pageCount n size = p := by
  have := (pageCount_le_iff hs hp).2 h
  omega

/-- The page asked for is there when the elements reach to its end. -/
theorem target_le_pageCount {r : Request} {n : Nat} (h : r.reach ≤ n) :
    r.target ≤ pageCount n r.size := by
  have hs := r.one_le_size
  rcases Nat.lt_or_ge 1 r.target with hlt | hle
  · -- the pages before it do not hold all elements
    have hpred : (r.target - 1) * r.size < r.target * r.size :=
      Nat.mul_lt_mul_of_pos_right (by omega) hs
    have := (lt_pageCount_iff hs (by omega)).2 (Nat.lt_of_lt_of_le hpred h)
    omega
  · exact Nat.le_trans hle (one_le_pageCount n r.size)

/-- Elements that just fill the pages up to the one asked for make as many pages. -/
theorem pageCount_of_eq {r : Request} {n : Nat} (h : n = r.reach) :
    pageCount n r.size = r.target :=
  Nat.le_antisymm ((pageCount_le_iff r.one_le_size r.one_le_target).2 (Nat.le_of_eq h))
    (target_le_pageCount (Nat.le_of_eq h.symm))

/-! ## Slices -/

theorem slice_nil (number size : Nat) : slice ([] : List α) number size = [] := by
  simp [slice]

/-- The end of a page, counted from where the page begins. -/
theorem pred_mul_add {number : Nat} (hn : 1 ≤ number) (size : Nat) :
    (number - 1) * size + size = number * size := by
  rw [← Nat.succ_mul, Nat.succ_eq_add_one, Nat.sub_add_cancel hn]

/-- A slice of a list that grows by one element. -/
theorem slice_concat (xs : List α) (x : α) {number : Nat} (size : Nat) (hn : 1 ≤ number) :
    slice (xs ++ [x]) number size =
      if (number - 1) * size ≤ xs.length ∧ xs.length < number * size then
        slice xs number size ++ [x]
      else slice xs number size := by
  have hpage := pred_mul_add hn size
  unfold slice
  by_cases hbefore : (number - 1) * size ≤ xs.length
  · rw [List.drop_append_of_le_length hbefore]
    by_cases hafter : xs.length < number * size
    · -- the new element lies on the page, which is not cut off yet
      rw [if_pos ⟨hbefore, hafter⟩]
      have hlen : (xs.drop ((number - 1) * size)).length < size := by
        rw [List.length_drop]
        omega
      rw [List.take_of_length_le (by rw [List.length_append, List.length_singleton]; omega),
        List.take_of_length_le (Nat.le_of_lt hlen)]
    · -- the page is full before the new element
      rw [if_neg (fun h => hafter h.2)]
      have hlen : size ≤ (xs.drop ((number - 1) * size)).length := by
        rw [List.length_drop]
        omega
      rw [List.take_append_of_le_length hlen]
  · -- the page begins after the new element
    rw [if_neg (fun h => hbefore h.1)]
    have hle : (xs ++ [x]).length ≤ (number - 1) * size := by
      rw [List.length_append, List.length_singleton]
      omega
    rw [List.drop_eq_nil_of_le hle, List.drop_eq_nil_of_le (by omega)]

/-- Elements after a page do not belong to it. -/
theorem slice_append {xs : List α} (ys : List α) {number size : Nat} (hn : 1 ≤ number)
    (h : number * size ≤ xs.length) : slice (xs ++ ys) number size = slice xs number size := by
  have hpage := pred_mul_add hn size
  unfold slice
  rw [List.drop_append_of_le_length (by omega),
    List.take_append_of_le_length (by rw [List.length_drop]; omega)]

/-- The last page holds all elements that the pages before it leave. -/
theorem slice_eq_drop {xs : List α} {number size : Nat} (hn : 1 ≤ number)
    (h : xs.length ≤ number * size) :
    slice xs number size = xs.drop ((number - 1) * size) := by
  have hpage := pred_mul_add hn size
  unfold slice
  rw [List.take_of_length_le (by rw [List.length_drop]; omega)]

/-- A page and what comes after it are what its list holds from the page on. -/
theorem slice_append_drop (xs : List α) {number : Nat} (size : Nat) (hn : 1 ≤ number) :
    slice xs number size ++ xs.drop (number * size) = xs.drop ((number - 1) * size) := by
  rw [slice, ← pred_mul_add hn size, ← List.drop_drop, List.take_append_drop]

/-- Pages that follow each other hold what their list holds from the first of them on. -/
theorem flatMap_slice_append_drop (xs : List α) {number : Nat} (size : Nat) (hn : 1 ≤ number)
    (count : Nat) :
    ((List.range' number count).flatMap fun i => slice xs i size) ++
      xs.drop ((number - 1 + count) * size) = xs.drop ((number - 1) * size) := by
  induction count generalizing number with
  | zero => rfl
  | succ count ih =>
    have hrest := ih (show 1 ≤ number + 1 by omega)
    have hsum : number + 1 - 1 + count = number - 1 + (count + 1) := by omega
    rw [hsum, Nat.add_sub_cancel] at hrest
    rw [List.range'_succ, List.flatMap_cons, List.append_assoc, hrest]
    exact slice_append_drop xs size hn

/-! ## Answers -/

/-- A page that is there is answered with its slice, whatever the strategy. -/
theorem page_of_le {strategy : Strategy} {r : Request} {xs : List α}
    (h : r.target ≤ pageCount xs.length r.size) :
    page strategy r xs =
      .ok ⟨slice xs r.target r.size, r.target, decide (xs.length ≤ r.reach)⟩ := by
  simp only [page]
  rw [if_pos h]

/-- Enough elements for the page asked for decide it. -/
theorem page_of_reach_le (strategy : Strategy) {r : Request} {xs : List α}
    (h : r.reach ≤ xs.length) :
    page strategy r xs =
      .ok ⟨slice xs r.target r.size, r.target, decide (xs.length ≤ r.reach)⟩ :=
  page_of_le (target_le_pageCount h)

theorem page_append_of_length_eq (strategy : Strategy) {r : Request} {xs : List α}
    (ys : List α) (h : xs.length = r.reach) :
    page strategy r (xs ++ ys) =
      .ok ⟨slice xs r.target r.size, r.target, ys.isEmpty⟩ := by
  have hreach : r.reach ≤ (xs ++ ys).length := by
    rw [List.length_append]
    omega
  rw [page_of_reach_le strategy hreach, slice_append ys r.one_le_target (Nat.le_of_eq h.symm)]
  congr 2
  cases ys with
  | nil => simp [h]
  | cons y ys => simp [h]

/-- A page that is answered is the last one exactly when no elements come after it. -/
theorem isLast_of_page_eq_ok {strategy : Strategy} {r : Request} {xs : List α} {answer : Page α}
    (h : page strategy r xs = .ok answer) :
    answer.isLast = true ↔ xs.length ≤ answer.number * r.size := by
  have hs := r.one_le_size
  rcases Nat.lt_or_ge (pageCount xs.length r.size) r.target with hpast | hthere
  · -- a page past the end, or the last one in its place
    have hroom := le_pageCount_mul (n := xs.length) hs
    have hroom' := (pageCount_le_iff hs r.one_le_target).1 (Nat.le_of_lt hpast)
    simp only [page] at h
    rw [if_neg (Nat.not_le.2 hpast)] at h
    cases strategy with
    | returnLastPage =>
      cases h
      refine ⟨fun _ => ?_, fun _ => rfl⟩
      show (xs.length : Int) ≤ (pageCount xs.length r.size : Nat) * r.size
      exact_mod_cast hroom
    | returnEmptyPage =>
      cases h
      refine ⟨fun _ => ?_, fun _ => rfl⟩
      show (xs.length : Int) ≤ r.target * r.size
      exact_mod_cast hroom'
    | fail => cases h
  · rw [page_of_le hthere] at h
    cases h
    show decide (xs.length ≤ r.target * r.size) = true ↔ (xs.length : Int) ≤ r.target * r.size
    rw [decide_eq_true_iff]
    norm_cast

/-- No page holds more elements than a full one. -/
theorem length_elements_le {strategy : Strategy} {r : Request} {xs : List α} {answer : Page α}
    (h : page strategy r xs = .ok answer) : answer.elements.length ≤ r.size := by
  by_cases hthere : r.target ≤ pageCount xs.length r.size
  · rw [page_of_le hthere] at h
    cases h
    exact List.length_take_le _ _
  · simp only [page] at h
    rw [if_neg hthere] at h
    cases strategy with
    | returnLastPage =>
      cases h
      -- the elements that the full pages before it leave fit on the last page
      have hroom := le_pageCount_mul (n := xs.length) r.one_le_size
      have hlast := pred_mul_add (one_le_pageCount xs.length r.size) r.size
      show (xs.drop ((pageCount xs.length r.size - 1) * r.size)).length ≤ r.size
      rw [List.length_drop]
      omega
    | returnEmptyPage =>
      cases h
      exact Nat.zero_le _
    | fail => cases h

/-- The only way to be refused a page is to ask for one past the end of what is there. -/
theorem page_eq_error_iff {strategy : Strategy} {r : Request} {xs : List α} {fault : Fault} :
    page strategy r xs = .error fault ↔
      strategy = .fail ∧ pageCount xs.length r.size < r.target ∧
        fault = .outOfBounds ⟨r.target, xs.length, pageCount xs.length r.size, r.size⟩ := by
  simp only [page]
  by_cases h : r.target ≤ pageCount xs.length r.size
  · rw [if_pos h]
    constructor
    · intro hpage
      cases hpage
    · rintro ⟨_, hlt, _⟩
      omega
  · rw [if_neg h]
    have hlt : pageCount xs.length r.size < r.target := by omega
    cases strategy with
    | fail => simp [hlt, eq_comm]
    | returnLastPage => simp
    | returnEmptyPage => simp

theorem page_eq_error {strategy : Strategy} {r : Request} {xs : List α} {fault : Fault}
    (h : page strategy r xs = .error fault) : ∃ bounds, fault = .outOfBounds bounds := by
  obtain ⟨_, _, rfl⟩ := page_eq_error_iff.1 h
  exact ⟨_, rfl⟩

end Paging.Reference
