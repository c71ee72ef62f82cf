import Paging.Proofs.Answer

/-!
# Paging.Proofs.Chunked — pages of a sequence served in chunks

A sequence in the shared state that is not let grow delivers its chunks one after the other
(`Chunked.delivery`, `Chunked.simulation`).  However the chunks fall against the logical pages, and
whether or not an empty chunk comes at the end, what a collector makes of them is the page of the
whole sequence (`resolve_delivery`), because after the chunks up to an offset it has accounted for
exactly the elements up to that offset.
-/

namespace Paging

namespace Chunked

variable {α : Type} (c : Chunked α)

/-! ## What is delivered -/

theorem offset_lt_of_hasMore {c : Chunked α} {offset : Nat}
    (h : c.hasMore (c.viewAt offset) = true) : offset < c.elements.length := by
  have hf := c.one_le_fetchSize
  rw [hasMore, Bool.or_eq_true, decide_eq_true_eq, Bool.and_eq_true] at h
  rcases h with h | ⟨_, h⟩
  · have hlt : offset + c.fetchSize < c.elements.length := h
    omega
  · -- an empty chunk follows only one that is not empty
    rcases Nat.lt_or_ge offset c.elements.length with hlt | hge
    · exact hlt
    · rw [viewAt, List.drop_eq_nil_of_le hge, List.take_nil] at h
      cases h

/-- The chunks from an offset on. -/
def delivery (c : Chunked α) (offset : Nat) : Delivery α :=
  .page (c.viewAt offset).chunk (c.hasMore (c.viewAt offset))
    (if c.hasMore (c.viewAt offset) then c.delivery (offset + c.fetchSize)
      else .failure .noMorePages)
termination_by c.elements.length - offset
decreasing_by
  rename_i h
  have hlt := offset_lt_of_hasMore h
  have hf := c.one_le_fetchSize
  omega

theorem delivery_of_hasMore {offset : Nat} (h : c.hasMore (c.viewAt offset) = true) :
    c.delivery offset =
      .page (c.viewAt offset).chunk true (c.delivery (offset + c.fetchSize)) := by
  rw [delivery, if_pos h, h]

theorem delivery_of_last {offset : Nat} (h : c.hasMore (c.viewAt offset) = false) :
    c.delivery offset = .page (c.viewAt offset).chunk false (.failure .noMorePages) := by
  rw [delivery, if_neg (by rw [h]; exact Bool.false_ne_true), h]

theorem hasMore_of_delivery {offset : Nat} {elements : List α} {next : Delivery α}
    (h : .page elements true next = c.delivery offset) :
    c.hasMore (c.viewAt offset) = true := by
  rw [delivery] at h
  injection h with _ hmore
  exact hmore.symm

theorem size_delivery (offset : Nat) :
    (c.delivery offset).size ≤ c.elements.length - offset + 2 := by
  induction hleft : c.elements.length - offset using Nat.strongRecOn generalizing offset with
  | ind left ih =>
    have hf := c.one_le_fetchSize
    cases h : c.hasMore (c.viewAt offset) with
    | true =>
      have hlt := offset_lt_of_hasMore h
      have hnext := ih _ (by omega) (offset + c.fetchSize) rfl
      rw [delivery_of_hasMore c h, Delivery.size]
      omega
    | false =>
      rw [delivery_of_last c h, Delivery.size, Delivery.size]
      omega

/-! ## What comes of it -/

/-- The elements of the chunks up to an offset, and of the chunk there. -/
theorem take_append_chunk (offset : Nat) :
    c.elements.take offset ++ (c.viewAt offset).chunk =
      c.elements.take (offset + c.fetchSize) :=
  List.take_add.symm

/-- A chunk after which no more are announced is the end of the sequence. -/
theorem take_of_last {offset : Nat} (h : c.hasMore (c.viewAt offset) = false) :
    c.elements.take (offset + c.fetchSize) = c.elements := by
  rw [hasMore, Bool.or_eq_false_iff, decide_eq_false_iff_not] at h
  exact List.take_of_length_le (Nat.not_lt.1 h.1)

theorem isEmpty_chunk (offset : Nat) :
    (c.viewAt offset).chunk.isEmpty = (c.elements.drop offset).isEmpty := by
  obtain ⟨f, hf⟩ : ∃ f, c.fetchSize = f + 1 := ⟨c.fetchSize - 1, by
    have := c.one_le_fetchSize
    omega⟩
  simp only [viewAt, hf]
  cases c.elements.drop offset with
  | nil => rfl
  | cons x xs => rfl

/-- **Chunks do not matter.**  From any offset on, a collector that has accounted for the elements
before it comes to the page of the whole sequence. -/
theorem resolve_delivery (strategy : Strategy) {r : Request} (offset : Nat)
    (hopen : (c.elements.take offset).length < r.reach) :
    (c.delivery offset).resolve (.after strategy r (c.elements.take offset)) =
      Reference.page strategy r c.elements := by
  induction hleft : c.elements.length - offset using Nat.strongRecOn generalizing offset with
  | ind left ih =>
    have hf := c.one_le_fetchSize
    have hchunk := take_append_chunk c offset
    -- where the end of the page asked for lies, seen from the end of this chunk
    rcases Nat.lt_trichotomy (c.elements.take (offset + c.fetchSize)).length r.reach with
      hlt | heq | hgt
    · -- the page asked for goes on after this chunk
      rw [← hchunk] at hlt
      cases h : c.hasMore (c.viewAt offset) with
      | true =>
        have hoffset := offset_lt_of_hasMore h
        rw [delivery_of_hasMore c h, Delivery.resolve_of_lt hlt, hchunk]
        rw [hchunk] at hlt
        exact ih _ (by omega) (offset + c.fetchSize) hlt rfl
      | false =>
        rw [delivery_of_last c h, Delivery.resolve_last_of_lt hlt, hchunk, take_of_last c h]
    · -- the page asked for ends with this chunk
      rw [← hchunk] at heq
      have hne : (c.viewAt offset).chunk ≠ [] := by
        intro hnil
        rw [hnil, List.append_nil] at heq
        omega
      cases h : c.hasMore (c.viewAt offset) with
      | true =>
        rw [delivery_of_hasMore c h, Delivery.resolve_of_eq hne heq, delivery, Delivery.probe,
          isEmpty_chunk, ← Collector.page_after _ heq, hchunk, List.take_append_drop]
      | false =>
        rw [delivery_of_last c h, Delivery.resolve_last_of_eq hne heq, hchunk, take_of_last c h]
    · -- the page asked for ends inside this chunk
      rw [← hchunk] at hgt
      rw [delivery, Delivery.resolve_of_gt _ (c.elements.drop (offset + c.fetchSize)) hopen hgt,
        hchunk, List.take_append_drop]

end Chunked

/-! ## Sequences in the shared state -/

/-- The sequence after more fetches. -/
def Chunked.counting (c : Chunked Value) (n : Nat) : Chunked Value :=
  { c with fetchCount := c.fetchCount + n }

/-- Fetching touches only the count of the sequence that is fetched from. -/
theorem Feed.run_fetch_chunk {i : Nat} {v : Service} {c : Chunked Value} {view : ChunkView Value}
    (hsequence : v.sequence i = c) (hmore : c.hasMore view = true) :
    Async.run (Feed.chunk i view).fetch v =
      (.ok (.chunk i (c.viewAt (view.offset + c.fetchSize))),
        { v with sequences := v.sequences.set i (c.counting 1) }) := by
  have hfetch : Service.withSequence i (fun c => c.fetch view) v =
      (.ok (c.viewAt (view.offset + c.fetchSize)),
        { v with sequences := v.sequences.set i (c.counting 1) }) := by
    rw [Service.withSequence, hsequence, Chunked.fetch_eq_ok c view hmore]
    rfl
  rw [Feed.fetch, Async.run_bind]
  exact Action.bind_of_ok hfetch

/-- A sequence in the shared state serves its chunks, and counts the fetches. -/
def Chunked.simulation (c : Chunked Value) (i : Nat) (w : Service) : Simulation where
  serves n v feed d := ∃ offset, feed = .chunk i (c.viewAt offset) ∧ d = c.delivery offset ∧
    i < v.sequences.length ∧ v.TellsLike w ∧ v.sequence i = c.counting n
  leaves n v := v.TellsLike w ∧ v.sequence i = c.counting n
  view := by
    rintro n v feed d ⟨offset, rfl, rfl, _, htells, hsequence⟩
    refine ⟨⟨htells, hsequence⟩, ?_⟩
    rw [delivery, Feed.hasMore, hsequence]
    exact ⟨_, rfl⟩
  noted := by
    rintro n v feed d notice ⟨offset, hfeed, hd, hi, htells, hsequence⟩
    exact ⟨offset, hfeed, hd, hi, htells.noted notice, hsequence⟩
  fetch_ok := by
    rintro n v feed elements more elements' more' next ⟨offset, rfl, hd, hi, htells, hsequence⟩ rfl
    have hmore := hasMore_of_delivery c hd
    rw [delivery_of_hasMore c hmore] at hd
    injection hd with _ _ hd
    refine ⟨_, _, Feed.run_fetch_chunk hsequence hmore, offset + c.fetchSize, rfl, hd, ?_,
      ⟨htells.tracing, htells.listeners, htells.exporter, htells.clock⟩, ?_⟩
    · rw [List.length_set]
      exact hi
    · simp [Service.sequence, hi, counting, Nat.add_assoc]
  fetch_error := by
    rintro n v feed elements more fault ⟨offset, rfl, hd, _⟩ rfl
    -- a chunk that announces another is followed by one
    have hmore := hasMore_of_delivery c hd
    rw [delivery_of_hasMore c hmore, delivery] at hd
    injection hd with _ _ hd
    cases hd

/-- Opening a sequence only adds it to those in the shared state. -/
theorem openChunked_apply (xs : List Value) {fetchSize : Int} (hf : 1 ≤ fetchSize)
    (trailing : Bool) (w : Service) :
    ∃ c : Chunked Value, c.elements = xs ∧ openChunked xs fetchSize trailing w =
      (.ok (.chunk w.sequences.length c.first), { w with sequences := w.sequences ++ [c] }) := by
  refine ⟨⟨xs, fetchSize.toNat, trailing, 0, by omega⟩, rfl, ?_⟩
  rw [openChunked, Chunked.make, dif_neg (show ¬ fetchSize < 1 by omega)]
  rfl

namespace Pager

/-- When a call begins, a sequence in the shared state serves its chunks from any offset on. -/
theorem serves_chunk (w : Service) {i : Nat} (hi : i < w.sequences.length) (offset : Nat) :
    ((w.sequence i).simulation i (Tracing.begin w).2).serves 0 (Tracing.begin w).2
        (.chunk i ((w.sequence i).viewAt offset)) ((w.sequence i).delivery offset) ∧
      ((w.sequence i).delivery offset).size ≤
        (Feed.chunk i ((w.sequence i).viewAt offset)).horizon (Tracing.begin w).2 + 1 := by
  have hsequences : (Tracing.begin w).2.sequences = w.sequences := by rw [Tracing.snd_begin]
  have hsequence : (Tracing.begin w).2.sequence i = w.sequence i := by
    rw [Service.sequence, hsequences]
    rfl
  constructor
  · refine ⟨offset, rfl, rfl, ?_, .refl _, hsequence⟩
    rw [hsequences]
    exact hi
  · rw [Feed.horizon, hsequence]
    have hsize := (w.sequence i).size_delivery offset
    omega

/-- A page of a sequence in the shared state, asked for from the first chunk on. -/
theorem fst_awaitPage_chunk (p : Pager) (r : Request) {w : Service} (hw : w.Discreet) {i : Nat}
    (hi : i < w.sequences.length) :
    (p.awaitPage (some (.chunk i (w.sequence i).first)) r.target r.size w).1 =
      Reference.page p.strategy r (w.sequence i).elements := by
  obtain ⟨hserves, hlimit⟩ := serves_chunk w hi 0
  -- nothing has been accounted for before the first chunk
  have hresolve := (w.sequence i).resolve_delivery p.strategy (r := r) 0
    (Nat.mul_pos r.one_le_target r.one_le_size)
  rw [List.take_zero, ← Collector.start_eq_after] at hresolve
  rw [← hresolve]
  exact fst_awaitPage p r hw _ hserves hlimit fun n v hv => hv.1

/-- Asking for it leaves a discreet state behind. -/
theorem discreet_awaitPage_chunk (p : Pager) (r : Request) {w : Service} (hw : w.Discreet) {i : Nat}
    (hi : i < w.sequences.length) :
    (p.awaitPage (some (.chunk i (w.sequence i).first)) r.target r.size w).2.Discreet := by
  obtain ⟨hserves, hlimit⟩ := serves_chunk w hi 0
  exact discreet_awaitPage p r hw _ hserves hlimit fun n v hv => hv.1

/-- Serves a sequence in chunks, asks for a page of it and runs the call to its end. -/
def awaitChunked (p : Pager) (xs : List Value) (fetchSize : Int) (trailing : Bool)
    (target size : Int) : Act (Page Value) := do
  let feed ← openChunked xs fetchSize trailing
  p.awaitPage (some feed) target size

/-- Opening a sequence leaves alone what telling of a call needs. -/
theorem tellsLike_open (w : Service) (c : Chunked Value) :
    Service.TellsLike { w with sequences := w.sequences ++ [c] } w :=
  ⟨rfl, rfl, rfl, rfl⟩

theorem sequence_open (w : Service) (c : Chunked Value) :
    w.sequences.length < ({ w with sequences := w.sequences ++ [c] } : Service).sequences.length ∧
      Service.sequence { w with sequences := w.sequences ++ [c] } w.sequences.length = c := by
  constructor
  · rw [List.length_append, List.length_singleton]
    exact Nat.lt_succ_self _
  · simp [Service.sequence]

/-- The page of a sequence served in chunks is the page of its list. -/
theorem fst_awaitChunked (p : Pager) (r : Request) {fetchSize : Int} (hf : 1 ≤ fetchSize)
    (trailing : Bool) {w : Service} (hw : w.Discreet) (xs : List Value) :
    (p.awaitChunked xs fetchSize trailing r.target r.size w).1 =
      Reference.page p.strategy r xs := by
  obtain ⟨c, rfl, hopen⟩ := openChunked_apply xs hf trailing w
  obtain ⟨hi, hsequence⟩ := sequence_open w c
  have hpage := fst_awaitPage_chunk p r ((tellsLike_open w c).discreet hw) hi
  rw [hsequence] at hpage
  rw [awaitChunked, Action.bind_of_ok hopen]
  exact hpage

/-- Asking for a page of a sequence served in chunks leaves a discreet state behind. -/
theorem discreet_awaitChunked (p : Pager) (r : Request) {fetchSize : Int} (hf : 1 ≤ fetchSize)
    (trailing : Bool) {w : Service} (hw : w.Discreet) (xs : List Value) :
    (p.awaitChunked xs fetchSize trailing r.target r.size w).2.Discreet := by
  obtain ⟨c, rfl, hopen⟩ := openChunked_apply xs hf trailing w
  obtain ⟨hi, hsequence⟩ := sequence_open w c
  have hstate := discreet_awaitPage_chunk p r ((tellsLike_open w c).discreet hw) hi
  rw [hsequence] at hstate
  rw [awaitChunked, Action.bind_of_ok hopen]
  exact hstate

/-- **Chunks against single elements.**  A sequence that is served in chunks has the pages that it
has when it is read element by element: the same page, or the same refusal.  The size of the chunks
and an empty chunk at the end do not matter, because the right side does not know of them. -/
theorem awaitChunked_eq_getPage (p : Pager) {fetchSize : Int} (hf : 1 ≤ fetchSize)
    (trailing : Bool) {w v : Service} (hw : w.Discreet) (hv : v.Discreet) (source : Source)
    {xs : List Value} (hsource : (source.stream v).Lists xs) (target size : Int) :
    (p.awaitChunked xs fetchSize trailing target size w).1 =
      (p.getPage (some source) target size v).1 := by
  rcases hcheck : Request.check target size with fault | r
  · obtain ⟨c, rfl, hopen⟩ := openChunked_apply xs hf trailing w
    rw [getPage_of_check_error p hcheck, awaitChunked, Action.bind_of_ok hopen,
      awaitPage_of_check_error p hcheck]
  · obtain ⟨rfl, rfl⟩ := Request.of_check_eq_ok hcheck
    rw [fst_awaitChunked p r hf trailing hw, fst_getPage p r hv source, Stream.page_of_lists hsource]

/-- Chunks of two and an empty one at the end, against pages of three. -/
theorem awaitChunked_eq_getPage_of_four :
    (1 : Int) ≤ 2 ∧ Service.complaining.Discreet ∧ Service.Discreet {} ∧
    ((Source.fresh (.ofList [.int 1, .null, .int 3, .int 4])).stream {}).Lists
      [.int 1, .null, .int 3, .int 4] ∧
    (awaitChunked ⟨.fail⟩ [.int 1, .null, .int 3, .int 4] 2 true 2 3 Service.complaining).1 =
      .ok ⟨[.int 4], 2, true⟩ :=
  ⟨by decide, Service.discreet_complaining, .inl rfl, Stream.lists_ofList _,
    (awaitChunked_eq_getPage ⟨.fail⟩ (by decide) true Service.discreet_complaining (.inl rfl)
      (v := {}) (.fresh (.ofList [.int 1, .null, .int 3, .int 4]))
      (Stream.lists_ofList _) 2 3).trans rfl⟩

end Pager

end Paging
