import Mathlib.Data.List.Induction
import Mathlib.Data.List.Infix
import Paging.Proofs.Chunked.Layout

/-!
# Paging.Proofs.Chunked.Growth — what is served of a sequence that grows

A chunk is taken from its sequence when the view on it is made, but whether more follow is told by the
length of the sequence at the time of asking.  So a sequence may grow past a chunk that was short when
it was made: what came to lie in its place is then skipped by a walk that goes on.

A `Pursuit` is such a walk.  It keeps every view that was made together with the length which the
sequence had then, and that length decides what the view holds (`Pursuit.Faithful`).  Growing and
fetching keep this up, and everything that is said of positions follows (`served_while_growing`).
-/

namespace Paging

namespace ChunkView

variable {α : Type}

/-- What a view serves for a position of its sequence. -/
def at? (v : ChunkView α) (i : Nat) : Option α :=
  if v.offset ≤ i then v.chunk[i - v.offset]? else none

end ChunkView

/-! ## Walking along a sequence that grows -/

/-- What happens to a sequence while it is walked: it grows at its end, or the next chunk is
fetched. -/
inductive Growth (α : Type)
  | append (more : List α)
  | fetch

/-- The elements by which a sequence grows. -/
def Growth.more {α : Type} : Growth α → List α
  | append more => more
  | fetch => []

/-- A view, and how many elements the sequence had when the view was made. -/
structure Glimpse (α : Type) where
  view : ChunkView α
  length : Nat

/-- A walk along a sequence that may grow.  It fetches from the view that was made last. -/
structure Pursuit (α : Type) where
  sequence : Chunked α
  /-- The views made before the last one, the first of them first. -/
  older : List (Glimpse α)
  newest : Glimpse α

namespace Pursuit

variable {α : Type} {c : Chunked α} {p : Pursuit α} {g : Glimpse α} {i k : Nat}

/-- All views that were made, the first of them first. -/
def glimpses (p : Pursuit α) : List (Glimpse α) := p.older ++ [p.newest]

/-- A walk begins with the first view. -/
def start (c : Chunked α) : Pursuit α := ⟨c, [], c.first, c.elements.length⟩

/-- One thing happens.  A fetch that fails makes no view. -/
def step (p : Pursuit α) : Growth α → Pursuit α
  | .append more => { p with sequence := p.sequence.append more }
  | .fetch => match p.sequence.fetch p.newest.view with
    | (.ok view, sequence) => ⟨sequence, p.glimpses, view, sequence.elements.length⟩
    | (.error _, sequence) => { p with sequence }

/-- Walks along a sequence while it grows. -/
def run (c : Chunked α) (steps : List (Growth α)) : Pursuit α := steps.foldl step (start c)

theorem run_concat (c : Chunked α) (steps : List (Growth α)) (s : Growth α) :
    run c (steps ++ [s]) = (run c steps).step s := by
  rw [run, List.foldl_append]
  rfl

theorem getElem?_older (p : Pursuit α) : p.glimpses[p.older.length]? = some p.newest :=
  List.getElem?_concat_length

/-- A fetch makes one more view where more follow, and is in vain where none do. -/
theorem step_fetch (p : Pursuit α) :
    (p.sequence.hasMore p.newest.view = true ∧ p.step .fetch =
      ⟨{ p.sequence with fetchCount := p.sequence.fetchCount + 1 }, p.glimpses,
        p.sequence.viewAt (p.newest.view.offset + p.sequence.fetchSize),
        p.sequence.elements.length⟩) ∨
    (p.sequence.hasMore p.newest.view = false ∧ p.step .fetch = p) := by
  cases hmore : p.sequence.hasMore p.newest.view with
  | true => exact .inl ⟨rfl, by rw [step, Chunked.fetch_eq_ok _ _ hmore]⟩
  | false => exact .inr ⟨rfl, by rw [step, Chunked.fetch_eq_error _ _ hmore]⟩

/-- Views that were made are kept. -/
theorem glimpses_step (p : Pursuit α) (s : Growth α) : p.glimpses <+: (p.step s).glimpses := by
  cases s with
  | append more => exact List.prefix_rfl
  | fetch =>
    rcases p.step_fetch with ⟨_, h⟩ | ⟨_, h⟩
    · rw [h]
      exact List.prefix_append _ _
    · rw [h]

theorem glimpses_foldl (p : Pursuit α) (steps : List (Growth α)) :
    p.glimpses <+: (steps.foldl step p).glimpses := by
  induction steps generalizing p with
  | nil => exact List.prefix_rfl
  | cons s rest ih => exact (p.glimpses_step s).trans (ih _)

theorem elements_step (p : Pursuit α) (s : Growth α) :
    (p.step s).sequence.elements = p.sequence.elements ++ s.more := by
  cases s with
  | append more => rfl
  | fetch =>
    rw [Growth.more, List.append_nil]
    rcases p.step_fetch with ⟨_, h⟩ | ⟨_, h⟩ <;> rw [h]

/-- The sequence has what it began with and what it grew by. -/
theorem elements_run (c : Chunked α) (steps : List (Growth α)) :
    (run c steps).sequence.elements = c.elements ++ steps.flatMap Growth.more := by
  induction steps using List.reverseRecOn with
  | nil => exact (List.append_nil _).symm
  | append_singleton steps s ih =>
    rw [run_concat, elements_step, ih, List.flatMap_append, List.append_assoc]
    simp

/-- Every view was the newest at some moment, and the length that is kept with it is the one that the
sequence had then. -/
theorem exists_made (steps : List (Growth α)) (h : (run c steps).glimpses[k]? = some g) :
    ∃ past later, steps = past ++ later ∧ (run c past).older.length = k ∧
      (run c past).newest = g ∧ g.length = (run c past).sequence.elements.length := by
  induction steps using List.reverseRecOn with
  | nil =>
    obtain ⟨rfl, rfl⟩ : k = 0 ∧ g = (start c).newest := by
      cases k with
      | zero => exact ⟨rfl, (Option.some.inj h).symm⟩
      | succ k => cases h
    exact ⟨[], [], rfl, rfl, rfl, rfl⟩
  | append_singleton steps s ih =>
    -- a view that was there before was made before
    have hearlier : (run c steps).glimpses[k]? = some g →
        ∃ past later, steps ++ [s] = past ++ later ∧ (run c past).older.length = k ∧
          (run c past).newest = g ∧ g.length = (run c past).sequence.elements.length := by
      intro hold
      obtain ⟨past, later, rfl, hmade⟩ := ih hold
      exact ⟨past, later ++ [s], List.append_assoc _ _ _, hmade⟩
    have hmade : run c (steps ++ [s]) = (run c steps).step s := run_concat c steps s
    cases s with
    | append more =>
      rw [hmade] at h
      exact hearlier h
    | fetch =>
      rcases (run c steps).step_fetch with ⟨_, hfetch⟩ | ⟨_, hfetch⟩
      · rw [hfetch] at hmade
        have hglimpses : (run c (steps ++ [.fetch])).glimpses = (run c steps).glimpses ++
            [(run c (steps ++ [.fetch])).newest] := by rw [hmade]; rfl
        rw [hglimpses, List.getElem?_append] at h
        split at h
        · exact hearlier h
        · next hk =>
          obtain rfl : k = (run c steps).glimpses.length := by
            have hlt := (List.getElem?_eq_some_iff.1 h).1
            simp only [List.length_singleton] at hlt
            omega
          rw [Nat.sub_self] at h
          obtain rfl := Option.some.inj h
          refine ⟨steps ++ [.fetch], [], (List.append_nil _).symm, ?_⟩
          rw [hmade]
          exact ⟨rfl, rfl, rfl⟩
      · rw [hmade, hfetch] at h
        exact hearlier h

/-! ## What the views hold -/

/-- What the view with a number holds when it is made of the first so many elements. -/
def held (f : Nat) (xs : List α) (length k : Nat) : ChunkView α :=
  ⟨k * f, ((xs.take length).drop (k * f)).take f⟩

/-- **A position is served by the chunk that it lies in**, if it was there already. -/
theorem at?_held {f length : Nat} (hf : 1 ≤ f) {xs : List α} {x : α} :
    (held f xs length k).at? i = some x ↔ i / f = k ∧ i < length ∧ xs[i]? = some x := by
  have hchunk : i / f = k ↔ k * f ≤ i ∧ i < k * f + f := by
    rw [Nat.div_eq_iff (by omega)]
    omega
  rw [hchunk, ChunkView.at?]
  by_cases hle : k * f ≤ i
  · have hsame : k * f + (i - k * f) = i := by omega
    have hlt : i - k * f < f ↔ i < k * f + f := by omega
    simp only [held, hle, if_true, List.getElem?_take, List.getElem?_drop, hsame, hlt, true_and]
    by_cases hend : i < k * f + f
    · by_cases hlength : i < length <;> simp [hend, hlength]
    · simp [hend]
  · simp [held, hle]

/-- A walk whose views hold what their lengths say. -/
structure Faithful (c : Chunked α) (p : Pursuit α) : Prop where
  fetchSize : p.sequence.fetchSize = c.fetchSize
  trailing : p.sequence.trailing = c.trailing
  views : ∀ k g, p.glimpses[k]? = some g → g.length ≤ p.sequence.elements.length ∧
    g.view = held c.fetchSize p.sequence.elements g.length k

theorem faithful_start (c : Chunked α) : (start c).Faithful c where
  fetchSize := rfl
  trailing := rfl
  views := by
    intro k g h
    obtain ⟨rfl, rfl⟩ : k = 0 ∧ g = (start c).newest := by
      cases k with
      | zero => exact ⟨rfl, (Option.some.inj h).symm⟩
      | succ k => cases h
    refine ⟨Nat.le_refl _, ?_⟩
    simp only [start, held, Chunked.first, Chunked.viewAt, Nat.zero_mul, List.take_length]

/-- The view that was made last, by its number. -/
theorem Faithful.newest (h : p.Faithful c) :
    p.newest.view = held c.fetchSize p.sequence.elements p.newest.length p.older.length :=
  (h.views _ _ p.getElem?_older).2

/-- What a view holds does not change when the sequence grows. -/
theorem Faithful.append (h : p.Faithful c) (more : List α) : (p.step (.append more)).Faithful c where
  fetchSize := h.fetchSize
  trailing := h.trailing
  views := by
    intro k g hg
    obtain ⟨hlength, hview⟩ := h.views k g hg
    have helements : (p.step (.append more)).sequence.elements = p.sequence.elements ++ more := rfl
    rw [helements]
    refine ⟨?_, ?_⟩
    · rw [List.length_append]
      omega
    · rw [hview, held, held, List.take_append_of_le_length hlength]

/-- The view that a fetch makes is the next one of the sequence as it is. -/
theorem Faithful.fetch (h : p.Faithful c) : (p.step .fetch).Faithful c := by
  rcases p.step_fetch with ⟨_, hfetch⟩ | ⟨_, hfetch⟩
  · rw [hfetch]
    refine ⟨h.fetchSize, h.trailing, ?_⟩
    intro k g hg
    rw [glimpses, List.getElem?_append] at hg
    split at hg
    · exact h.views k g hg
    · next hk =>
      have hlt := (List.getElem?_eq_some_iff.1 hg).1
      obtain rfl : k = p.older.length + 1 := by
        simp only [glimpses, List.length_append, List.length_cons, List.length_nil] at hk hlt
        omega
      have hlast : p.older.length + 1 - p.glimpses.length = 0 := by simp [glimpses]
      rw [hlast] at hg
      cases hg
      refine ⟨Nat.le_refl _, ?_⟩
      have hoffset : p.newest.view.offset = p.older.length * c.fetchSize := by
        rw [h.newest, held]
      simp only [Chunked.viewAt, held, hoffset, h.fetchSize, Nat.succ_mul, List.take_length]
  · rw [hfetch]
    exact h

theorem faithful_run (c : Chunked α) (steps : List (Growth α)) : (run c steps).Faithful c := by
  induction steps using List.reverseRecOn with
  | nil => exact faithful_start c
  | append_singleton steps s ih =>
    rw [run_concat]
    cases s with
    | append more => exact ih.append more
    | fetch => exact ih.fetch

/-- A view that was full when it was made holds all that lies in its chunk. -/
theorem chunk_held_of_full {f length : Nat} {xs : List α}
    (h : (held f xs length k).chunk.length = f) :
    (held f xs length k).chunk = (xs.drop (k * f)).take f := by
  have hprefix : (held f xs length k).chunk <+: (xs.drop (k * f)).take f :=
    List.IsPrefix.take (List.IsPrefix.drop (List.take_prefix length xs) (k * f)) f
  apply hprefix.eq_of_length_le
  rw [h]
  exact List.length_take_le _ _

/-- Full chunks from the first on hold the beginning of the sequence. -/
theorem Faithful.flatMap_older (h : p.Faithful c)
    (hfull : ∀ g ∈ p.older, g.view.chunk.length = c.fetchSize) :
    p.older.flatMap (·.view.chunk) = p.sequence.elements.take (p.older.length * c.fetchSize) := by
  have hchunks : ∀ n ≤ p.older.length, (p.older.take n).flatMap (·.view.chunk) =
      p.sequence.elements.take (n * c.fetchSize) := by
    intro n hn
    induction n with
    | zero => simp
    | succ n ih =>
      have hlt : n < p.older.length := hn
      have hview := (h.views n p.older[n] (by
        rw [glimpses, List.getElem?_append_left hlt, List.getElem?_eq_getElem hlt])).2
      have hwhole := hfull _ (List.getElem_mem hlt)
      rw [hview] at hwhole
      rw [List.take_succ_eq_append_getElem hlt, List.flatMap_append, ih (by omega),
        List.flatMap_singleton, hview, chunk_held_of_full hwhole, ← List.take_add, Nat.succ_mul]
  have hall := hchunks p.older.length (Nat.le_refl _)
  rwa [List.take_length] at hall

/-- What is served is the beginning of the sequence, as long as every view but the last was full. -/
theorem Faithful.served_prefix (h : p.Faithful c)
    (hfull : ∀ g ∈ p.older, g.view.chunk.length = c.fetchSize) :
    p.glimpses.flatMap (·.view.chunk) <+: p.sequence.elements := by
  have hlast : p.newest.view.chunk <+:
      p.sequence.elements.drop (p.older.length * c.fetchSize) := by
    rw [h.newest]
    exact (List.take_prefix _ _).trans (List.IsPrefix.drop (List.take_prefix _ _) _)
  have hserved := (List.prefix_append_right_inj
    (p.sequence.elements.take (p.older.length * c.fetchSize))).2 hlast
  rw [List.take_append_drop] at hserved
  rw [glimpses, List.flatMap_append, List.flatMap_singleton, h.flatMap_older hfull]
  exact hserved

/-- Whether more follow is told by the length that the sequence has now. -/
theorem Faithful.hasMore_newest (h : p.Faithful c) :
    p.sequence.hasMore p.newest.view = true ↔
      (p.older.length + 1) * c.fetchSize < p.sequence.elements.length ∨
        c.trailing = true ∧ p.newest.view.chunk ≠ [] := by
  have hoffset : p.newest.view.offset = p.older.length * c.fetchSize := by
    rw [h.newest, held]
  simp only [Chunked.hasMore, hoffset, h.fetchSize, h.trailing, Nat.succ_mul, Bool.or_eq_true,
    decide_eq_true_iff, Bool.and_eq_true, Bool.not_eq_true', List.isEmpty_eq_false_iff, ne_eq]

end Pursuit

/-- **What is served of a sequence that grows while it is walked.**  Views that were made do not
change.  The view with number `k` begins at position `k * f`, if chunks have `f` elements, and serves
those positions of its chunk that the sequence had when the view was made; every other view leaves
them out.  More follow after the newest view exactly if the sequence, as it is now, goes on after its
chunk, or if an empty chunk is announced and the newest is not empty.  As long as every view but the
newest was full when it was made, what has been served is the beginning of the sequence. -/
theorem Chunked.served_while_growing {α : Type} (c : Chunked α) (steps : List (Growth α)) :
    let p := Pursuit.run c steps
    p.sequence.elements = c.elements ++ steps.flatMap Growth.more ∧
    (∀ later (k : Nat) (g : Glimpse α), p.glimpses[k]? = some g →
      (Pursuit.run c (steps ++ later)).glimpses[k]? = some g) ∧
    (∀ (k : Nat) (g : Glimpse α), p.glimpses[k]? = some g → g.view.offset = k * c.fetchSize ∧
      (∃ past later, steps = past ++ later ∧ (Pursuit.run c past).older.length = k ∧
        (Pursuit.run c past).newest = g ∧
        g.length = (Pursuit.run c past).sequence.elements.length) ∧
      ∀ (i : Nat) (x : α), g.view.at? i = some x ↔
        i / c.fetchSize = k ∧ i < g.length ∧ p.sequence.elements[i]? = some x) ∧
    (∀ i : Nat, (∃ (k : Nat) (g : Glimpse α) (x : α), p.glimpses[k]? = some g ∧
      g.view.at? i = some x) ↔ ∃ g, p.glimpses[i / c.fetchSize]? = some g ∧ i < g.length) ∧
    (p.sequence.hasMore p.newest.view = true ↔
      (p.older.length + 1) * c.fetchSize < p.sequence.elements.length ∨
        c.trailing = true ∧ p.newest.view.chunk ≠ []) ∧
    ((∀ g ∈ p.older, g.view.chunk.length = c.fetchSize) →
      p.glimpses.flatMap (·.view.chunk) <+: p.sequence.elements) := by
  intro p
  have hfaithful : p.Faithful c := Pursuit.faithful_run c steps
  have hserves : ∀ k g, p.glimpses[k]? = some g → ∀ i x, g.view.at? i = some x ↔
      i / c.fetchSize = k ∧ i < g.length ∧ p.sequence.elements[i]? = some x := by
    intro k g hg i x
    rw [(hfaithful.views k g hg).2]
    exact Pursuit.at?_held c.one_le_fetchSize
  refine ⟨Pursuit.elements_run c steps, ?_, ?_, ?_, hfaithful.hasMore_newest,
    hfaithful.served_prefix⟩
  · intro later k g hg
    obtain ⟨made, hmade⟩ := p.glimpses_foldl later
    have hlater : (Pursuit.run c (steps ++ later)).glimpses = p.glimpses ++ made := by
      rw [hmade, Pursuit.run, List.foldl_append]
      rfl
    rw [hlater, List.getElem?_append_left (List.getElem?_eq_some_iff.1 hg).1]
    exact hg
  · intro k g hg
    refine ⟨?_, Pursuit.exists_made steps hg, hserves k g hg⟩
    rw [(hfaithful.views k g hg).2, Pursuit.held]
  · intro i
    constructor
    · rintro ⟨k, g, x, hg, hx⟩
      obtain ⟨rfl, hlt, _⟩ := (hserves k g hg i x).1 hx
      exact ⟨g, hg, hlt⟩
    · rintro ⟨g, hg, hlt⟩
      have hle := (hfaithful.views _ g hg).1
      have hi : i < p.sequence.elements.length := by omega
      exact ⟨_, g, _, hg, (hserves _ g hg i _).2 ⟨rfl, hlt, List.getElem?_eq_getElem hi⟩⟩

/-- Two elements are added after a short chunk was made: the one that falls into its place is never
served. -/
example : (Pursuit.run ⟨[1], 2, false, 0, by decide⟩ [.append [2, 3], .fetch]).glimpses.map
    (·.view.chunk) = [[1], [3]] := rfl

end Paging
