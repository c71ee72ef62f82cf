import Paging.Proofs.Reference
import Paging.Source.Chunked

/-!
# Paging.Proofs.Chunked.Layout — the views of a sequence served in chunks

The views on a sequence that does not grow are numbered from zero (`view`): as many as the elements
take up in chunks, and one more if an empty chunk comes at the end (`viewCount`).  A view tells that
more follow exactly when it is not the last one (`hasMore_view`), and everything else is derived from
that: what a fetch gives, that walking comes to an end, and that no element is lost on the way.

Fetches may be asked of any view that was handed out, also of one that has been left behind.  A
`Serving` keeps what was handed out; whatever is asked of it, it holds views of the sequence and
nothing else, and counts the fetches that succeeded (`Serves.run`).
-/

namespace Paging

namespace Chunked

variable {α : Type} (c : Chunked α)

/-! ## The views -/

/-- The number of chunks that the elements take up: one at least, even if it stays empty. -/
def dataCount : Nat := Reference.pageCount c.elements.length c.fetchSize

/-- The number of views: one for each chunk, and one for the empty chunk at the end, which follows
elements only. -/
def viewCount : Nat :=
  c.dataCount + if c.trailing = true ∧ 0 < c.elements.length then 1 else 0

/-- View number `i`, counted from zero. -/
def view (i : Nat) : ChunkView α := c.viewAt (i * c.fetchSize)

theorem first_eq_view : c.first = c.view 0 := by
  rw [first, view, Nat.zero_mul]

/-- A view holds what a page of that size would hold. -/
theorem chunk_view (i : Nat) :
    (c.view i).chunk = Reference.slice c.elements (i + 1) c.fetchSize := rfl

theorem one_le_dataCount : 1 ≤ c.dataCount := Reference.one_le_pageCount _ _

theorem one_le_viewCount : 1 ≤ c.viewCount :=
  Nat.le_trans c.one_le_dataCount (Nat.le_add_right _ _)

/-- A chunk begins before the end of the elements exactly when it is one of those they take up. -/
theorem offset_lt_iff (i : Nat) :
    i * c.fetchSize < c.elements.length ↔ i < c.dataCount ∧ 0 < c.elements.length := by
  have hone := c.one_le_dataCount
  rcases Nat.eq_zero_or_pos i with rfl | hi
  · -- the first chunk is there in any case
    simp only [Nat.zero_mul]
    omega
  · have hlt : i < c.dataCount ↔ i * c.fetchSize < c.elements.length :=
      Reference.lt_pageCount_iff c.one_le_fetchSize hi
    omega

theorem length_chunk_view (i : Nat) :
    (c.view i).chunk.length = min c.fetchSize (c.elements.length - i * c.fetchSize) := by
  simp [view, viewAt]

/-- The only empty chunks are the one at the end and the one of a sequence without elements. -/
theorem chunk_view_eq_nil_iff (i : Nat) :
    (c.view i).chunk = [] ↔ c.dataCount ≤ i ∨ c.elements = [] := by
  have hone := c.one_le_fetchSize
  have hlt := c.offset_lt_iff i
  have hlength := c.length_chunk_view i
  rw [← List.length_eq_zero_iff, ← List.length_eq_zero_iff]
  omega

/-- All chunks but the last that the elements take up are full. -/
theorem length_chunk_view_of_lt {i : Nat} (h : i + 1 < c.dataCount) :
    (c.view i).chunk.length = c.fetchSize := by
  have hlt : (i + 1) * c.fetchSize < c.elements.length :=
    (Reference.lt_pageCount_iff c.one_le_fetchSize (Nat.le_add_left 1 i)).1 h
  rw [Nat.succ_mul] at hlt
  rw [length_chunk_view]
  omega

/-- **A view is followed by another exactly when it is not the last one.** -/
theorem hasMore_view (i : Nat) : c.hasMore (c.view i) = true ↔ i + 1 < c.viewCount := by
  have hnext : (i + 1) * c.fetchSize < c.elements.length ↔
      i + 1 < c.dataCount ∧ 0 < c.elements.length := c.offset_lt_iff (i + 1)
  have hdata : 1 < c.dataCount → 0 < c.elements.length := by
    intro h
    have hlt := (Reference.lt_pageCount_iff c.one_le_fetchSize (Nat.le_refl 1)).1 h
    omega
  have hempty := c.chunk_view_eq_nil_iff i
  have hoffset : (c.view i).offset + c.fetchSize = (i + 1) * c.fetchSize := (Nat.succ_mul _ _).symm
  rw [← List.length_eq_zero_iff (l := c.elements)] at hempty
  simp only [hasMore, hoffset, Bool.or_eq_true, decide_eq_true_iff, Bool.and_eq_true,
    Bool.not_eq_true', List.isEmpty_eq_false_iff, ne_eq, hempty, hnext]
  unfold viewCount
  cases c.trailing with
  | true => simp only [true_and]; split <;> omega
  | false => simp only [Bool.false_eq_true, false_and, or_false, if_false]; omega

/-- Fetching from a view gives the next one and is counted, unless the view is the last. -/
theorem fetch_view (i : Nat) :
    c.fetch (c.view i) =
      if i + 1 < c.viewCount then
        (.ok (c.view (i + 1)), { c with fetchCount := c.fetchCount + 1 })
      else (.error .noMorePages, c) := by
  have hmore := c.hasMore_view i
  by_cases h : i + 1 < c.viewCount
  · rw [if_pos h, fetch_eq_ok c _ (hmore.2 h), view, view, Nat.succ_mul]
    rfl
  · rw [if_neg h, fetch_eq_error c _ (by simpa [h] using hmore)]

/-! ## Walking -/

/-- What is left to walk from a view on. -/
def left (v : ChunkView α) : Nat := 2 * (c.elements.length - v.offset) + v.chunk.length

/-- Every fetch leaves less: the elements before the new chunk are behind, and after the last of them
only a chunk without any can follow. -/
theorem left_fetch_lt {c c' : Chunked α} {v next : ChunkView α} (h : c.hasMore v = true)
    (hfetch : c.fetch v = (.ok next, c')) : c'.left next < c.left v := by
  have hone := c.one_le_fetchSize
  rw [fetch_eq_ok c v h] at hfetch
  cases hfetch
  have hlength : (c.viewAt (v.offset + c.fetchSize)).chunk.length =
      min c.fetchSize (c.elements.length - (v.offset + c.fetchSize)) := by simp [viewAt]
  show 2 * (c.elements.length - (v.offset + c.fetchSize)) +
    (c.viewAt (v.offset + c.fetchSize)).chunk.length < 2 * (c.elements.length - v.offset) + _
  rw [hasMore, Bool.or_eq_true, decide_eq_true_iff, Bool.and_eq_true] at h
  rcases h with hlt | ⟨_, hne⟩
  · omega
  · have hpos : 0 < v.chunk.length := List.length_pos_iff.2 (by simpa using hne)
    omega

/-- Walks on from a view: fetches as long as more follow, and gives every view it comes by.  A fetch
that fails ends the walk. -/
def walk (c : Chunked α) (v : ChunkView α) : Except Fault (List (ChunkView α)) × Chunked α :=
  if _h : c.hasMore v = true then
    match _hfetch : c.fetch v with
    | (.ok next, c') => match c'.walk next with
      | (.ok views, d) => (.ok (v :: views), d)
      | (.error fault, d) => (.error fault, d)
    | (.error fault, c') => (.error fault, c')
  else (.ok [v], c)
termination_by c.left v
decreasing_by exact left_fetch_lt ‹_› ‹_›

theorem walk_of_last {v : ChunkView α} (h : c.hasMore v = false) : c.walk v = (.ok [v], c) := by
  rw [walk, dif_neg (by simp [h])]

theorem walk_of_fetch {c c' d : Chunked α} {v next : ChunkView α} {views : List (ChunkView α)}
    (h : c.hasMore v = true) (hfetch : c.fetch v = (.ok next, c'))
    (hrest : c'.walk next = (.ok views, d)) : c.walk v = (.ok (v :: views), d) := by
  rw [walk, dif_pos h]
  split
  · next next' c'' heq =>
    cases heq.symm.trans hfetch
    rw [hrest]
  · next fault c'' heq => cases heq.symm.trans hfetch

/-- **Walking ends with the last view.**  A walk from one of the views comes by that view and all
after it, with one fetch for each of these. -/
theorem walk_view {i : Nat} (h : i < c.viewCount) :
    c.walk (c.view i) = (.ok ((List.range' i (c.viewCount - i)).map c.view),
      { c with fetchCount := c.fetchCount + (c.viewCount - (i + 1)) }) := by
  -- by induction on the views that are left; a fetch changes nothing but the count
  induction hleft : c.viewCount - i generalizing c i with
  | zero => omega
  | succ left ih =>
    have hfetch := c.fetch_view i
    have hmore := c.hasMore_view i
    rw [List.range'_succ, List.map_cons]
    by_cases hlt : i + 1 < c.viewCount
    · rw [if_pos hlt] at hfetch
      have hleft' : c.viewCount - (i + 1) = left := by omega
      have hcount : c.fetchCount + 1 + (c.viewCount - (i + 1 + 1)) = c.fetchCount + left := by omega
      rw [hleft', ← hcount]
      exact walk_of_fetch (hmore.2 hlt) hfetch
        (ih { c with fetchCount := c.fetchCount + 1 } hlt hleft')
    · have hlast : c.hasMore (c.view i) = false := by simpa [hlt] using hmore
      obtain rfl : left = 0 := by omega
      rw [walk_of_last c hlast, Nat.sub_eq_zero_of_le (Nat.not_lt.1 hlt)]
      rfl

/-- The views together hold the elements. -/
theorem flatMap_chunk_view :
    ((List.range' 0 c.viewCount).map c.view).flatMap ChunkView.chunk = c.elements := by
  have hall := Reference.flatMap_slice_append_drop c.elements c.fetchSize (Nat.le_refl 1) c.viewCount
  have hroom : c.elements.length ≤ c.viewCount * c.fetchSize :=
    Nat.le_trans (Reference.le_pageCount_mul c.one_le_fetchSize)
      (Nat.mul_le_mul_right _ (Nat.le_add_right _ _))
  rw [Nat.sub_self, Nat.zero_add, List.drop_eq_nil_of_le hroom, List.append_nil, Nat.zero_mul,
    List.drop_zero] at hall
  have hnumbers : List.range' 1 c.viewCount = (List.range' 0 c.viewCount).map (1 + ·) :=
    (List.map_add_range' 0 c.viewCount 1).symm
  rw [hnumbers, List.flatMap_map] at hall
  rw [List.flatMap_map]
  simpa only [chunk_view, Nat.add_comm] using hall

end Chunked

/-! ## Fetches from any view -/

/-- A sequence that fetches are made from, and what came of them so far. -/
structure Serving (α : Type) where
  sequence : Chunked α
  outcomes : List (Except Fault (ChunkView α)) := []

namespace Serving

variable {α : Type}

/-- The views that fetches have given. -/
def fetched (s : Serving α) : List (ChunkView α) := s.outcomes.filterMap Except.toOption

/-- The views that a fetch can be made from: the first, and those that fetches have given. -/
def views (s : Serving α) : List (ChunkView α) := s.sequence.first :: s.fetched

/-- Fetches from one of the views, which is given by its place among them. -/
def fetch (s : Serving α) (k : Nat) : Serving α :=
  match s.views[k]? with
  | none => s
  | some v =>
    let (outcome, sequence) := s.sequence.fetch v
    ⟨sequence, s.outcomes ++ [outcome]⟩

end Serving

namespace Chunked

variable {α : Type} {c : Chunked α} {s : Serving α}

/-- The fetches from a sequence have given views on it and nothing else, and have been counted. -/
structure Serves (c : Chunked α) (s : Serving α) : Prop where
  sequence : s.sequence = { c with fetchCount := c.fetchCount + s.fetched.length }
  views : ∀ v ∈ s.views, ∃ i < c.viewCount, v = c.view i

theorem serves_start (c : Chunked α) : c.Serves { sequence := c } where
  sequence := rfl
  views := by
    intro v hv
    obtain rfl := List.mem_singleton.1 hv
    exact ⟨0, c.one_le_viewCount, c.first_eq_view⟩

/-- What a fetch from one of the views comes to. -/
theorem Serves.fetch_view (h : c.Serves s) (i : Nat) :
    s.sequence.fetch (c.view i) =
      if i + 1 < c.viewCount then
        (.ok (c.view (i + 1)), { s.sequence with fetchCount := s.sequence.fetchCount + 1 })
      else (.error .noMorePages, s.sequence) := by
  have hfetch := s.sequence.fetch_view i
  rw [h.sequence] at hfetch ⊢
  exact hfetch

theorem Serves.fetch (h : c.Serves s) (k : Nat) : c.Serves (s.fetch k) := by
  unfold Serving.fetch
  split
  · exact h
  · next v hv =>
    obtain ⟨i, hi, rfl⟩ := h.views v (List.mem_of_getElem? hv)
    rw [h.fetch_view i]
    by_cases hlt : i + 1 < c.viewCount
    · -- one more view is handed out and counted
      rw [if_pos hlt]
      refine ⟨?_, ?_⟩
      · simp [h.sequence, Serving.fetched, Except.toOption, Nat.add_assoc]
      · intro v hv
        simp only [Serving.views, Serving.fetched, List.filterMap_append] at hv
        rw [← List.cons_append, List.mem_append] at hv
        rcases hv with hold | hnew
        · exact h.views v hold
        · obtain rfl := List.mem_singleton.1 hnew
          exact ⟨i + 1, hlt, rfl⟩
    · -- nothing is handed out, and nothing changes
      have hfetched : Serving.fetched ⟨s.sequence, s.outcomes ++ [.error .noMorePages]⟩ =
          s.fetched := by simp [Serving.fetched, Except.toOption]
      rw [if_neg hlt]
      refine ⟨?_, ?_⟩
      · rw [hfetched]
        exact h.sequence
      · intro v hv
        rw [Serving.views, hfetched] at hv
        exact h.views v hv

/-- Whatever is fetched, from views old and new. -/
theorem Serves.run (h : c.Serves s) (calls : List Nat) :
    c.Serves (calls.foldl Serving.fetch s) := by
  induction calls generalizing s with
  | nil => exact h
  | cons k rest ih => exact ih (h.fetch k)

/-- **A sequence is served without loss.**  A walk comes to an end.  It comes by as many views as the
elements take up in chunks, and one more if a chunk without elements is announced for the end; all
chunks that hold elements but the last are full, none is empty except that one and the one of a
sequence without elements, and together they hold the elements.  Whatever is fetched, from views old
and new, gives views of that walk: from every view but the last the one after it, which is counted,
and from the last nothing. -/
theorem served_without_loss (c : Chunked α) :
    ∃ views, c.walk c.first =
        (.ok views, { c with fetchCount := c.fetchCount + (views.length - 1) }) ∧
      views.length = Reference.pageCount c.elements.length c.fetchSize +
        (if c.trailing = true ∧ 0 < c.elements.length then 1 else 0) ∧
      (∀ i (h : i < views.length), views[i] = c.viewAt (i * c.fetchSize) ∧
        (i + 1 < Reference.pageCount c.elements.length c.fetchSize →
          views[i].chunk.length = c.fetchSize) ∧
        (views[i].chunk = [] ↔
          i = Reference.pageCount c.elements.length c.fetchSize ∨ c.elements = [])) ∧
      views.flatMap ChunkView.chunk = c.elements ∧
      ∀ (calls : List Nat) (s : Serving α), s = calls.foldl Serving.fetch { sequence := c } →
        s.sequence.fetchCount = c.fetchCount + s.fetched.length ∧
        ∀ v ∈ s.views, ∃ i, ∃ h : i < views.length, v = views[i] ∧
          s.sequence.fetch v = match views[i + 1]? with
            | some next =>
              (.ok next, { s.sequence with fetchCount := s.sequence.fetchCount + 1 })
            | none => (.error .noMorePages, s.sequence) := by
  have hlength : ((List.range' 0 c.viewCount).map c.view).length = c.viewCount := by
    rw [List.length_map, List.length_range']
  have hviews : ∀ i, i < c.viewCount →
      ((List.range' 0 c.viewCount).map c.view)[i]? = some (c.view i) := by
    intro i hi
    simp [hi]
  refine ⟨(List.range' 0 c.viewCount).map c.view, ?_, hlength, ?_, c.flatMap_chunk_view, ?_⟩
  · rw [hlength, first_eq_view, c.walk_view c.one_le_viewCount, Nat.sub_zero]
  · intro i hi
    have hcount : c.viewCount ≤ c.dataCount + 1 := by
      unfold viewCount
      split <;> omega
    have hnumber : c.dataCount ≤ i ↔ i = c.dataCount := by omega
    rw [(List.getElem?_eq_some_iff.1 (hviews i (hlength ▸ hi))).2]
    exact ⟨rfl, c.length_chunk_view_of_lt,
      (c.chunk_view_eq_nil_iff i).trans (or_congr_left hnumber)⟩
  · rintro calls s rfl
    have hserves := c.serves_start.run calls
    refine ⟨congrArg Chunked.fetchCount hserves.sequence, ?_⟩
    intro v hv
    obtain ⟨i, hi, rfl⟩ := hserves.views v hv
    refine ⟨i, hlength.symm ▸ hi, (List.getElem?_eq_some_iff.1 (hviews i hi)).2.symm, ?_⟩
    rw [hserves.fetch_view i]
    by_cases hlt : i + 1 < c.viewCount
    · rw [if_pos hlt, hviews (i + 1) hlt]
    · rw [if_neg hlt, List.getElem?_eq_none (by omega)]

end Chunked

end Paging
