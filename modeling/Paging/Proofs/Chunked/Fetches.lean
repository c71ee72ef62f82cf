import Paging.Proofs.Chunked
import Paging.Proofs.Chunked.Layout
import Paging.Proofs.Traffic

/-!
# Paging.Proofs.Chunked.Fetches — how many chunks are fetched for a page

Visiting chunks stops in the middle of a loop, or after one more chunk that is only to show whether
anything follows, or with the last chunk there is.  How often it has fetched by then is a matter of
numbers alone (`fetchesFor`): of the elements up to the end of the page asked for, of those of the
sequence, and of the size of a chunk.  The strategy plays no part, because it is only looked at when
nothing is fetched any more.
-/

namespace Paging

namespace Chunked

variable {α : Type} (c : Chunked α)

/-! ## The number of fetches -/

/-- How many chunks are fetched for a page that ends with element number `reach`.  If there is such
an element, the chunks up to the one that holds it, and one more where that one ends with it and
announces more; if there is none, all that there are. -/
def fetchesFor (reach : Nat) : Nat :=
  if reach ≤ c.elements.length then
    (reach + c.fetchSize - 1) / c.fetchSize - 1 +
      if c.fetchSize ∣ reach ∧ reach < c.elements.length ∨
        c.elements.length = reach ∧ c.trailing = true then 1 else 0
  else
    Reference.pageCount c.elements.length c.fetchSize - 1 +
      if c.trailing = true ∧ 0 < c.elements.length then 1 else 0

variable {c} {reach i : Nat}

/-- Without enough elements, every view is visited. -/
theorem fetchesFor_of_lt (h : c.elements.length < reach) : c.fetchesFor reach = c.viewCount - 1 := by
  have hone : 1 ≤ Reference.pageCount c.elements.length c.fetchSize := c.one_le_dataCount
  rw [fetchesFor, if_neg (Nat.not_le.2 h), viewCount, dataCount]
  omega

/-- The number of the view that holds an element. -/
theorem div_eq_of_lt_of_le (hlt : i * c.fetchSize < reach) (hle : reach ≤ (i + 1) * c.fetchSize) :
    (reach + c.fetchSize - 1) / c.fetchSize - 1 = i := by
  obtain ⟨n, rfl⟩ : ∃ n, reach = n + 1 := ⟨reach - 1, by omega⟩
  have hpage : Reference.pageCount (n + 1) c.fetchSize = i + 1 :=
    (Reference.pageCount_succ_eq_iff c.one_le_fetchSize (Nat.le_add_left 1 i)).2
      ⟨Nat.le_of_lt_succ hlt, hle⟩
  unfold Reference.pageCount at hpage
  omega

/-- A page that ends inside a chunk needs no chunk after it. -/
theorem fetchesFor_of_inside (hlt : i * c.fetchSize < reach) (hend : reach < (i + 1) * c.fetchSize)
    (hmore : reach < c.elements.length) : c.fetchesFor reach = i := by
  have hndvd : ¬ c.fetchSize ∣ reach := by
    rintro ⟨k, rfl⟩
    rw [Nat.mul_comm i] at hlt
    rw [Nat.mul_comm (i + 1)] at hend
    have hlow : i < k := Nat.lt_of_mul_lt_mul_left hlt
    have hhigh : k < i + 1 := Nat.lt_of_mul_lt_mul_left hend
    omega
  rw [fetchesFor, if_pos (Nat.le_of_lt hmore), div_eq_of_lt_of_le hlt (Nat.le_of_lt hend), if_neg,
    Nat.add_zero]
  rintro (⟨hdvd, _⟩ | ⟨heq, _⟩)
  · exact hndvd hdvd
  · omega

/-- A page that ends with a chunk needs the one after it, if there is one. -/
theorem fetchesFor_of_end (hlt : i * c.fetchSize < reach)
    (hend : (c.elements.take ((i + 1) * c.fetchSize)).length = reach) :
    c.fetchesFor reach = i + if i + 1 < c.viewCount then 1 else 0 := by
  have hoffset := c.offset_lt_iff i
  have hnext := c.offset_lt_iff (i + 1)
  rw [List.length_take] at hend
  have hprobe : (c.fetchSize ∣ reach ∧ reach < c.elements.length ∨
      c.elements.length = reach ∧ c.trailing = true) ↔ i + 1 < c.viewCount := by
    rcases Nat.lt_or_ge ((i + 1) * c.fetchSize) c.elements.length with hmore | hlast
    · -- elements follow the chunk
      have hreach : reach = (i + 1) * c.fetchSize := by omega
      have hdvd : c.fetchSize ∣ reach := ⟨i + 1, by rw [hreach, Nat.mul_comm]⟩
      have hview : i + 1 < c.viewCount :=
        Nat.lt_of_lt_of_le (hnext.1 hmore).1 (Nat.le_add_right _ _)
      exact iff_of_true (.inl ⟨hdvd, by omega⟩) hview
    · -- it is the last with elements, and only an empty one can follow
      obtain rfl : reach = c.elements.length := by omega
      have hcount : c.dataCount = i + 1 := by omega
      have hpos : 0 < c.elements.length := by omega
      cases htrailing : c.trailing <;> simp [viewCount, hcount, hpos, htrailing]
  have hle : reach ≤ (i + 1) * c.fetchSize := by omega
  rw [fetchesFor, if_pos (by omega), div_eq_of_lt_of_le hlt hle]
  simp only [hprobe]

/-! ## Visiting the chunks -/

/-- **Visiting the chunks takes so many fetches.**  From any view on that is visited, it takes what it
takes from the first one less those that have been made. -/
theorem fetches_delivery_view (strategy : Strategy) {r : Request} {i : Nat} (hi : i < c.viewCount)
    (hopen : (c.elements.take (i * c.fetchSize)).length < r.reach) :
    (c.delivery (i * c.fetchSize)).fetches
        (.after strategy r (c.elements.take (i * c.fetchSize))) + i = c.fetchesFor r.reach := by
  induction hleft : c.viewCount - i generalizing i with
  | zero => omega
  | succ left ih =>
    have hmore := c.hasMore_view i
    have hchunk : c.elements.take (i * c.fetchSize) ++ (c.viewAt (i * c.fetchSize)).chunk =
        c.elements.take ((i + 1) * c.fetchSize) := by rw [take_append_chunk, Nat.add_one_mul]
    -- where the end of the page asked for lies, seen from the end of this chunk
    rcases Nat.lt_trichotomy (c.elements.take ((i + 1) * c.fetchSize)).length r.reach with
      hlt | heq | hgt
    · -- the page asked for goes on after this chunk
      by_cases hnext : i + 1 < c.viewCount
      · have hvisit := hlt
        rw [← hchunk] at hvisit
        have hrest := ih hnext hlt (by omega)
        rw [delivery_of_hasMore c (hmore.2 hnext), Delivery.fetches_of_lt hvisit, hchunk,
          ← Nat.add_one_mul, ← hrest]
        omega
      · have hlast : c.hasMore (c.view i) = false := by simpa [hnext] using hmore
        have hall := take_of_last c hlast
        rw [← Nat.add_one_mul] at hall
        rw [hall] at hlt
        rw [delivery_of_last c hlast, Delivery.fetches_last, fetchesFor_of_lt hlt]
        omega
    · -- the page asked for ends with this chunk
      have hlengths := heq
      rw [List.length_take] at hopen hlengths
      have hend := fetchesFor_of_end (c := c) (i := i) (by omega) heq
      have hvisit := heq
      rw [← hchunk] at hvisit
      have hne : (c.viewAt (i * c.fetchSize)).chunk ≠ [] := by
        intro hnil
        rw [hnil, List.append_nil, List.length_take] at hvisit
        omega
      rw [hend]
      by_cases hnext : i + 1 < c.viewCount
      · rw [delivery_of_hasMore c (hmore.2 hnext), Delivery.fetches_of_eq hne hvisit, if_pos hnext,
          Nat.add_comm]
      · have hlast : c.hasMore (c.view i) = false := by simpa [hnext] using hmore
        rw [delivery_of_last c hlast, Delivery.fetches_last, if_neg hnext, Nat.add_comm]
    · -- the page asked for ends inside this chunk
      have hlengths := hgt
      rw [List.length_take] at hlengths
      have hlt : i * c.fetchSize < r.reach := by
        rw [List.length_take] at hopen
        omega
      rw [← hchunk] at hgt
      rw [delivery, Delivery.fetches_of_gt _ hopen hgt, Nat.zero_add,
        fetchesFor_of_inside hlt (by omega) (by omega)]

end Chunked

/-! ## Calls on chunks -/

open Tracing

/-- A call can begin unless the clock cannot be read. -/
theorem Tracing.begin_cases (w : Service) :
    (∃ start, (begin w).1 = .ok start) ∨ (begin w).1 = .error .readingTooLarge := by
  rw [begin, Act.current_bind]
  split
  · rw [Action.bind_apply, Service.readClock]
    cases w.clock.seconds? with
    | some seconds => exact .inl ⟨some seconds, rfl⟩
    | none => exact .inr rfl
  · exact .inl ⟨none, rfl⟩

/-- Opening a sequence with chunks of a natural number of elements. -/
theorem openChunked_natCast (xs : List Value) {f : Nat} (hf : 1 ≤ f) (trailing : Bool)
    (w : Service) :
    openChunked xs f trailing w =
      (.ok (.chunk w.sequences.length (Chunked.first ⟨xs, f, trailing, 0, hf⟩)),
        { w with sequences := w.sequences ++ [⟨xs, f, trailing, 0, hf⟩] }) := by
  rw [openChunked, Chunked.make, dif_neg (show ¬ (f : Int) < 1 by omega)]
  rfl

namespace Pager

/-- A call on a chunk fetches as many chunks as visiting them takes. -/
theorem fetchCount_awaitPage (p : Pager) (r : Request) {w : Service} {start : Option Rat}
    (hbegin : (begin w).1 = .ok start) {i : Nat} (hi : i < w.sequences.length) (offset : Nat) :
    ((p.awaitPage (some (.chunk i ((w.sequence i).viewAt offset))) r.target r.size w).2.sequence
        i).fetchCount =
      (w.sequence i).fetchCount + ((w.sequence i).delivery offset).fetches (.start p.strategy r) := by
  obtain ⟨hserves, hlimit⟩ := serves_chunk w hi offset
  obtain ⟨v, hrun, hv⟩ := Simulation.run_collect _ hserves hlimit (.start p.strategy r)
  rw [← run_readFeed] at hrun
  have hlike := p.suppliesLike_awaitPage r (.chunk i ((w.sequence i).viewAt offset)) w hbegin
  rw [hrun] at hlike
  have hcount : (v.sequence i).fetchCount = (w.sequence i).fetchCount +
      (0 + ((w.sequence i).delivery offset).fetches (.start p.strategy r)) :=
    congrArg Chunked.fetchCount hv.2
  rw [Service.sequence, hlike.sequences]
  exact hcount.trans (by rw [Nat.zero_add])

/-- A call that cannot begin fails with that. -/
theorem fst_awaitPage_of_error (p : Pager) (r : Request) (feed : Feed) {w : Service} {fault : Fault}
    (hbegin : (begin w).1 = .error fault) :
    (p.awaitPage (some feed) r.target r.size w).1 = .error fault := by
  have herror : begin w = (.error fault, (begin w).2) := Prod.ext hbegin rfl
  have hfollow : follow emit (p.feedCall r) (Async.run (p.readFeed r feed)) w =
      (.error fault, (begin w).2) := by
    rw [follow, Action.bind_of_error herror]
  rw [awaitPage_eq_run, run_serveFeed, Action.bind_of_error hfollow]

/-- **How many chunks a call fetches.**  When a call on a sequence that was just opened is over, with
a page or because there is none, as many chunks have been fetched as its numbers tell. -/
theorem fetchCount_awaitChunked (p : Pager) (r : Request) (xs : List Value) {f : Nat} (hf : 1 ≤ f)
    (trailing : Bool) {w : Service}
    (hdone : ∀ fault, (p.awaitChunked xs f trailing r.target r.size w).1 = .error fault →
      fault.kind = .pageOutOfBounds) :
    ((p.awaitChunked xs f trailing r.target r.size w).2.sequence w.sequences.length).fetchCount =
      if r.reach ≤ xs.length then
        (r.reach + f - 1) / f - 1 +
          if f ∣ r.reach ∧ r.reach < xs.length ∨ xs.length = r.reach ∧ trailing = true
            then 1 else 0
      else
        max 1 ((xs.length + f - 1) / f) - 1 + if trailing = true ∧ 0 < xs.length then 1 else 0 := by
  obtain ⟨hi, hsequence⟩ := sequence_open w ⟨xs, f, trailing, 0, hf⟩
  have hopen := openChunked_natCast xs hf trailing w
  rw [awaitChunked, Action.bind_of_ok hopen] at hdone ⊢
  rcases begin_cases { w with sequences := w.sequences ++ [⟨xs, f, trailing, 0, hf⟩] } with
    ⟨start, hbegin⟩ | hbegin
  · have hcount := p.fetchCount_awaitPage r hbegin hi 0
    have hfetches := Chunked.fetches_delivery_view (c := ⟨xs, f, trailing, 0, hf⟩) p.strategy
      (r := r) (i := 0) (Chunked.one_le_viewCount _) (by
        rw [Nat.zero_mul]
        exact Nat.mul_pos r.one_le_target r.one_le_size)
    rw [Nat.zero_mul, List.take_zero, ← Collector.start_eq_after, Nat.add_zero] at hfetches
    rw [hsequence, hfetches] at hcount
    exact hcount.trans (Nat.zero_add _)
  · cases hdone _ (p.fst_awaitPage_of_error r _ hbegin)

/-- Four elements in chunks of two and an empty one at the end: for the second page of two, one chunk
is fetched to fill it and one to see that nothing follows. -/
theorem fetchCount_awaitChunked_of_trail :
    1 ≤ 2 ∧
    (∀ fault, (awaitChunked ⟨.fail⟩ [.int 1, .null, .int 3, .int 4] 2 true 2 2
      Service.complaining).1 = .error fault → fault.kind = .pageOutOfBounds) ∧
    ((awaitChunked ⟨.fail⟩ [.int 1, .null, .int 3, .int 4] 2 true 2 2
      Service.complaining).2.sequence 0).fetchCount = 2 := by
  have hdone : ∀ fault, (awaitChunked ⟨.fail⟩ [.int 1, .null, .int 3, .int 4] 2 true 2 2
      Service.complaining).1 = .error fault → fault.kind = .pageOutOfBounds := by
    have hpage := fst_awaitChunked ⟨.fail⟩ ⟨2, 2, by decide, by decide⟩ (show (1 : Int) ≤ 2 by decide)
      true Service.discreet_complaining [.int 1, .null, .int 3, .int 4]
    intro fault h
    cases hpage.symm.trans h
  have hcount := fetchCount_awaitChunked ⟨.fail⟩ ⟨2, 2, by decide, by decide⟩
    [.int 1, .null, .int 3, .int 4] (show 1 ≤ 2 by decide) true hdone
  exact ⟨by decide, hdone, hcount.trans (by decide)⟩

end Pager

end Paging
