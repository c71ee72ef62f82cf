import Paging.Collector
import Paging.Proofs.Reference

/-!
# Paging.Proofs.Collector — what a collector knows

A collector never computes an offset: it counts, begins a new page when the one before is full, and
keeps or forgets elements as it goes.  `after` says in closed form what it has arrived at once it
has accounted for the elements of a list, and `add_after` that one more element leads from one such
collector to the next.  Everything else follows from these two: when the page asked for is full
(`isFull_after`), what is answered when the elements end (`finish_after`), how far a run of elements
is taken in (`addAll_of_lt`, `addAll_of_eq`), and what a protocol page leads to (`visit_of_lt`,
`visit_of_eq`, `visit_of_gt`).
-/

namespace Paging.Collector

open Reference

variable {α : Type} {strategy : Strategy} {r : Request}

/-! ## The closed form -/

/-- The collector that has accounted for the elements of a list. -/
def after (strategy : Strategy) (r : Request) (xs : List α) : Collector α where
  strategy := strategy
  request := r
  pageNumber := pageCount xs.length r.size
  filled := xs.length - (pageCount xs.length r.size - 1) * r.size
  elements :=
    if strategy = .returnLastPage then xs.drop ((pageCount xs.length r.size - 1) * r.size)
    else slice xs r.target r.size

theorem start_eq_after (strategy : Strategy) (r : Request) :
    start strategy r = after strategy r ([] : List α) := by
  simp [start, after, slice_nil]

/-- Making room begins the page on which the next element lies, and keeps of the elements what
belongs to that page or to the page asked for. -/
theorem turn_after (xs : List α) :
    (after strategy r xs).turn =
      { strategy := strategy
        request := r
        pageNumber := pageCount (xs.length + 1) r.size
        filled := xs.length + 1 - (pageCount (xs.length + 1) r.size - 1) * r.size
        elements :=
          if strategy = .returnLastPage then
            xs.drop ((pageCount (xs.length + 1) r.size - 1) * r.size)
          else slice xs r.target r.size } := by
  have hs := r.one_le_size
  have hone := one_le_pageCount xs.length r.size
  have hroom := le_pageCount_mul (n := xs.length) hs
  have hfull := pred_pageCount_mul_le (n := xs.length) hs
  have hpage := pred_mul_add hone r.size
  unfold turn
  by_cases hlt : xs.length < pageCount xs.length r.size * r.size
  · -- the page being formed has room
    have hfilled : (after strategy r xs).filled < r.size := by
      show xs.length - (pageCount xs.length r.size - 1) * r.size < r.size
      omega
    rw [if_pos (show (after strategy r xs).filled < (after strategy r xs).request.size from hfilled),
      pageCount_succ_of_lt hs hlt]
    simp only [after, Collector.mk.injEq, true_and, and_true]
    omega
  · -- the page being formed is full
    have heq : xs.length = pageCount xs.length r.size * r.size := by omega
    have hfilled : ¬ (after strategy r xs).filled < r.size := by
      show ¬ xs.length - (pageCount xs.length r.size - 1) * r.size < r.size
      omega
    rw [if_neg (show ¬ (after strategy r xs).filled < (after strategy r xs).request.size
        from hfilled), pageCount_succ_of_eq hs heq, Nat.add_sub_cancel]
    have hdrop : xs.drop (pageCount xs.length r.size * r.size) = [] :=
      List.drop_eq_nil_of_le (Nat.le_of_eq heq)
    have hone' : xs.length + 1 - pageCount xs.length r.size * r.size = 1 := by omega
    by_cases hstrategy : strategy = .returnLastPage
    · simp only [after, hstrategy, if_true, hdrop, hone']
    · simp only [after, hstrategy, if_false, hone']

/-- **One more element.** -/
theorem add_after (xs : List α) (x : α) :
    (after strategy r xs).add x = after strategy r (xs ++ [x]) := by
  have hs := r.one_le_size
  have ht := r.one_le_target
  have hlen : (xs ++ [x]).length = xs.length + 1 := by rw [List.length_append, List.length_singleton]
  have hon := pageCount_succ_eq_iff (n := xs.length) hs ht
  simp only [add, turn_after]
  simp only [keeps, onTarget, after, hlen]
  by_cases hstrategy : strategy = .returnLastPage
  · -- the page being formed is kept
    have hfull : (pageCount (xs.length + 1) r.size - 1) * r.size ≤ xs.length :=
      ((pageCount_succ_eq_iff hs (one_le_pageCount _ _)).1 rfl).1
    simp only [hstrategy, beq_self_eq_true, Bool.or_true, if_true,
      List.drop_append_of_le_length hfull]
  · -- only the page asked for is kept, which the element belongs to if its number is reached
    have hne : (strategy == .returnLastPage) = false := by simpa using hstrategy
    simp only [hstrategy, hne, Bool.or_false, if_false, beq_iff_eq, slice_concat xs x r.size ht]
    by_cases htarget : pageCount (xs.length + 1) r.size = r.target
    · rw [if_pos htarget, if_pos (hon.1 htarget)]
    · rw [if_neg htarget, if_neg (fun h => htarget (hon.2 h))]

/-! ## What the closed form says -/

theorem onTarget_after (xs : List α) :
    (after strategy r xs).onTarget = true ↔ pageCount xs.length r.size = r.target := by
  simp [onTarget, after]

/-- The page asked for is full after exactly the elements that fill it and the pages before. -/
theorem isFull_after (xs : List α) :
    (after strategy r xs).isFull = true ↔ xs.length = r.reach := by
  have hs := r.one_le_size
  have ht := r.one_le_target
  have hpage := pred_mul_add ht r.size
  have hfull := pred_pageCount_mul_le (n := xs.length) hs
  unfold isFull
  rw [Bool.and_eq_true, onTarget_after, beq_iff_eq]
  simp only [after, Request.reach]
  constructor
  · -- a full page begins where the pages before it end
    rintro ⟨htarget, hfilled⟩
    rw [htarget] at hfilled hfull
    omega
  · -- elements that just fill the pages leave no room on the last
    intro hlen
    have htarget := pageCount_of_eq hlen
    exact ⟨htarget, by rw [htarget]; omega⟩

/-- The count of a collector is the number of elements it has accounted for. -/
theorem count_after (xs : List α) : (after strategy r xs).count = xs.length := by
  have hfull := pred_pageCount_mul_le (n := xs.length) r.one_le_size
  show (pageCount xs.length r.size - 1) * r.size +
    (xs.length - (pageCount xs.length r.size - 1) * r.size) = xs.length
  omega

/-- While they are kept, the elements are those of the page being formed. -/
theorem elements_after {xs : List α} (hkeeps : (after strategy r xs).keeps = true) :
    (after strategy r xs).elements = slice xs (pageCount xs.length r.size) r.size := by
  have hs := r.one_le_size
  rw [slice_eq_drop (one_le_pageCount _ _) (le_pageCount_mul hs)]
  by_cases hstrategy : strategy = .returnLastPage
  · simp only [after, hstrategy, if_true]
  · have htarget : pageCount xs.length r.size = r.target := by
      have hne : ((after strategy r xs).strategy == .returnLastPage) = false := by
        simpa [after] using hstrategy
      rw [keeps, hne, Bool.or_false, onTarget_after] at hkeeps
      exact hkeeps
    have hlast : slice xs r.target r.size = xs.drop ((r.target - 1) * r.size) :=
      slice_eq_drop r.one_le_target (by rw [← htarget]; exact le_pageCount_mul hs)
    simp only [after, hstrategy, if_false, hlast, htarget]

theorem keeps_after {xs : List α} :
    (after strategy r xs).keeps = true ↔
      pageCount xs.length r.size = r.target ∨ strategy = .returnLastPage := by
  rw [keeps, Bool.or_eq_true, onTarget_after, beq_iff_eq]
  rfl

/-- While they are kept, the elements are answered with the page being formed. -/
theorem finish_after_of_keeps {xs : List α} (hkeeps : (after strategy r xs).keeps = true)
    (isLast : Bool) :
    (after strategy r xs).finish isLast =
      .ok ⟨slice xs (pageCount xs.length r.size) r.size, pageCount xs.length r.size, isLast⟩ := by
  have hpage : (after strategy r xs).page isLast =
      ⟨slice xs (pageCount xs.length r.size) r.size, pageCount xs.length r.size, isLast⟩ := by
    rw [page, elements_after hkeeps]
    rfl
  rw [finish, hpage]
  split
  · rfl
  · next hoff =>
    obtain htarget | rfl := keeps_after.1 hkeeps
    · exact absurd ((onTarget_after xs).2 htarget) hoff
    · rfl

/-- If the elements end no later than the page asked for, the collector answers as arithmetic
does. -/
theorem finish_after {xs : List α} (h : xs.length ≤ r.reach) :
    (after strategy r xs).finish true = Reference.page strategy r xs := by
  have hiff := pageCount_eq_iff_of_le r.one_le_size r.one_le_target h
  by_cases htarget : pageCount xs.length r.size = r.target
  · -- the page being formed is the page asked for
    have hkeeps : (after strategy r xs).keeps = true := keeps_after.2 (.inl htarget)
    rw [finish_after_of_keeps hkeeps, page_of_le (hiff.2 htarget), htarget, decide_eq_true h]
  · -- the elements have ended on an earlier page
    have hon : ¬ (after strategy r xs).onTarget = true := mt (onTarget_after xs).1 htarget
    unfold finish Reference.page
    rw [if_neg hon, if_neg (mt hiff.1 htarget)]
    cases strategy with
    | returnLastPage => simp [after, page]
    | returnEmptyPage => simp [after]
    | fail =>
      have hcount : (after .fail r xs).count = xs.length := count_after xs
      simp only [bounds, hcount]
      simp only [after]

/-- Once the page asked for is full it is answered as arithmetic answers it, and it is the last page
exactly when no further elements come. -/
theorem page_after {xs : List α} (ys : List α) (h : xs.length = r.reach) :
    Reference.page strategy r (xs ++ ys) = .ok ((after strategy r xs).page ys.isEmpty) := by
  have htarget := pageCount_of_eq h
  have hkeeps : (after strategy r xs).keeps = true := keeps_after.2 (.inl htarget)
  rw [page_append_of_length_eq strategy ys h, page, elements_after hkeeps]
  simp only [after, htarget]

/-! ## Runs of elements -/

/-- Elements that do not reach to the end of the page asked for are all taken in. -/
theorem addAll_of_lt {xs ys : List α} (h : (xs ++ ys).length < r.reach) :
    (after strategy r xs).addAll ys = (after strategy r (xs ++ ys), none) := by
  induction ys generalizing xs with
  | nil => rw [List.append_nil, addAll]
  | cons y ys ih =>
    have happend : xs ++ y :: ys = (xs ++ [y]) ++ ys := List.append_cons xs y ys
    rw [happend] at h ⊢
    have hopen : (xs ++ [y]).length ≠ r.reach := by
      rw [List.length_append] at h
      omega
    simp only [addAll, add_after]
    rw [if_neg (mt (isFull_after _).1 hopen), ih h]

/-- Elements are taken in up to the one that fills the page asked for; the others are left over. -/
theorem addAll_of_eq {xs ys : List α} (zs : List α) (hne : ys ≠ [])
    (h : (xs ++ ys).length = r.reach) :
    (after strategy r xs).addAll (ys ++ zs) = (after strategy r (xs ++ ys), some zs) := by
  induction ys generalizing xs with
  | nil => exact absurd rfl hne
  | cons y ys ih =>
    have happend : xs ++ y :: ys = (xs ++ [y]) ++ ys := List.append_cons xs y ys
    rw [happend] at h ⊢
    rw [List.cons_append]
    simp only [addAll, add_after]
    cases ys with
    | nil =>
      rw [List.append_nil] at h ⊢
      rw [if_pos ((isFull_after (xs ++ [y])).2 h), List.nil_append]
    | cons y' ys =>
      have hopen : (xs ++ [y]).length ≠ r.reach := by
        rw [List.length_append, List.length_cons] at h
        omega
      rw [if_neg (mt (isFull_after _).1 hopen), ih (List.cons_ne_nil y' ys) h]

/-! ## Protocol pages -/

/-- More is asked for only after a page that announces more. -/
theorem hasMore_of_probing {c c' : Collector α} {ys : List α} {hasMore : Bool}
    (h : c.visit ys hasMore = .probing c') : hasMore = true := by
  unfold visit at h
  split at h
  · cases h
  · cases hasMore
    · cases h
    · rfl
  · cases hasMore <;> cases h

theorem hasMore_of_wanting {c c' : Collector α} {ys : List α} {hasMore : Bool}
    (h : c.visit ys hasMore = .wanting c') : hasMore = true := by
  unfold visit at h
  split at h
  · cases h
  · cases hasMore <;> cases h
  · cases hasMore
    · cases h
    · rfl

/-- A protocol page that does not reach to the end of the page asked for. -/
theorem visit_of_lt {xs ys : List α} (hasMore : Bool) (h : (xs ++ ys).length < r.reach) :
    (after strategy r xs).visit ys hasMore =
      if hasMore then .wanting (after strategy r (xs ++ ys))
      else .resolved (Reference.page strategy r (xs ++ ys)) := by
  rw [visit, addAll_of_lt h]
  simp only [finish_after (Nat.le_of_lt h)]

/-- A protocol page that ends together with the page asked for. -/
theorem visit_of_eq {xs ys : List α} (hasMore : Bool) (hne : ys ≠ [])
    (h : (xs ++ ys).length = r.reach) :
    (after strategy r xs).visit ys hasMore =
      if hasMore then .probing (after strategy r (xs ++ ys))
      else .resolved (Reference.page strategy r (xs ++ ys)) := by
  have hadd : (after strategy r xs).addAll (ys ++ []) = (after strategy r (xs ++ ys), some []) :=
    addAll_of_eq [] hne h
  have hpage : Reference.page strategy r (xs ++ ys ++ []) =
      .ok ((after strategy r (xs ++ ys)).page true) := page_after [] h
  rw [List.append_nil] at hadd hpage
  rw [visit, hadd, hpage]

/-- A protocol page that goes on after the page asked for decides the call, whatever comes after
it. -/
theorem visit_of_gt {xs ys : List α} (hasMore : Bool) (zs : List α) (hxs : xs.length < r.reach)
    (h : r.reach < (xs ++ ys).length) :
    (after strategy r xs).visit ys hasMore =
      .resolved (Reference.page strategy r (xs ++ ys ++ zs)) := by
  obtain ⟨us, v, vs, rfl, hus⟩ : ∃ us v vs, ys = us ++ v :: vs ∧ (xs ++ us).length = r.reach := by
    rw [List.length_append] at h
    have hlt : r.reach - xs.length < ys.length := by omega
    refine ⟨ys.take (r.reach - xs.length), ys[r.reach - xs.length],
      ys.drop (r.reach - xs.length + 1), ?_, ?_⟩
    · rw [← List.drop_eq_getElem_cons hlt, List.take_append_drop]
    · rw [List.length_append, List.length_take]
      omega
  have hne : us ≠ [] := by
    rintro rfl
    rw [List.append_nil] at hus
    omega
  have hsplit : xs ++ (us ++ v :: vs) ++ zs = (xs ++ us) ++ (v :: vs ++ zs) := by
    simp only [List.append_assoc]
  rw [visit, addAll_of_eq (v :: vs) hne hus, hsplit, page_after _ hus]
  rfl

end Paging.Collector
