import Paging.Request
import Paging.Source.Chain

/-!
# Paging.Proofs.Chain.Layout — where a logical page falls on a chain

The pages of a chain are of any size, empty ones included, and say what they like about a next one.
What a reader can come by is what the pages hold up to the first that announces no more (`visible`).
A logical page ends on at most one of them (`Completes.unique`), and `Needs` says which pages have
to be fetched for it.
-/

namespace Paging.Chain

variable {α : Type} (c : Chain α)

/-! ## The elements before a page -/

/-- The elements of the first pages, up to a page. -/
def before (i : Nat) : List α := (c.pages.take i).flatMap ChainPage.elements

/-- The elements of all pages. -/
def whole : List α := c.pages.flatMap ChainPage.elements

@[simp]
theorem before_zero : c.before 0 = [] := rfl

theorem before_succ (i : Nat) : c.before (i + 1) = c.before i ++ c.elements i := by
  unfold before elements
  rw [List.take_add_one, List.flatMap_append]
  cases c.pages[i]? with
  | none => rfl
  | some page => simp

theorem before_of_le {i : Nat} (h : c.pages.length ≤ i) : c.before i = c.whole := by
  rw [before, whole, List.take_of_length_le h]

theorem before_prefix {i j : Nat} (h : i ≤ j) : c.before i <+: c.before j := by
  induction h with
  | refl => exact List.prefix_refl _
  | @step j _ ih =>
    rw [before_succ]
    exact ih.trans (List.prefix_append _ _)

theorem length_before_le {i j : Nat} (h : i ≤ j) : (c.before i).length ≤ (c.before j).length :=
  (c.before_prefix h).length_le

/-! ## The end of a chain -/

theorem hasMore_of_le {i : Nat} (h : c.pages.length ≤ i) : c.hasMore i = false := by
  unfold hasMore
  rw [List.getElem?_eq_none h]

/-- The first page that announces no more, or the number of pages if every page announces one. -/
def ending : Nat :=
  ((List.range c.pages.length).find? fun i => !c.hasMore i).getD c.pages.length

theorem hasMore_ending : c.hasMore c.ending = false := by
  unfold ending
  cases hfind : (List.range c.pages.length).find? fun i => !c.hasMore i with
  | none => exact c.hasMore_of_le (Nat.le_refl _)
  | some i => simpa using List.find?_some hfind

theorem hasMore_of_lt_ending {i : Nat} (h : i < c.ending) : c.hasMore i = true := by
  unfold ending at h
  cases hfind : (List.range c.pages.length).find? fun i => !c.hasMore i with
  | none =>
    rw [hfind] at h
    have hnone := List.find?_eq_none.1 hfind i (List.mem_range.2 h)
    simpa using hnone
  | some j =>
    rw [hfind] at h
    have hfirst := (List.find?_range_eq_some.1 hfind).2.2 i h
    simpa using hfirst

/-- What a reader of the chain can come by. -/
def visible : List α := c.before (c.ending + 1)

/-! ## Where a page ends -/

variable {c} {r : Request} {k l : Nat}

/-- Page `k` of the chain is the one on which the page asked for ends: with it there are enough
elements, without it there are not, and all pages before it announce more. -/
structure Completes (c : Chain α) (r : Request) (k : Nat) : Prop where
  announced : ∀ i < k, c.hasMore i = true
  short : (c.before k).length < r.reach
  reached : r.reach ≤ (c.before (k + 1)).length

theorem Completes.le_ending (h : c.Completes r k) : k ≤ c.ending := by
  rcases Nat.lt_or_ge c.ending k with hlt | hle
  · have hmore := h.announced c.ending hlt
    rw [hasMore_ending] at hmore
    cases hmore
  · exact hle

theorem Completes.unique (hk : c.Completes r k) (hl : c.Completes r l) : k = l := by
  have hshort := hk.short
  have hshort' := hl.short
  have hreached := hk.reached
  have hreached' := hl.reached
  -- the elements before a later page are enough already
  rcases Nat.lt_trichotomy k l with hlt | heq | hgt
  · have hle := c.length_before_le (show k + 1 ≤ l from hlt)
    omega
  · exact heq
  · have hle := c.length_before_le (show l + 1 ≤ k from hgt)
    omega

/-- The first page with which there are enough elements, if the pages up to some page announce
more and hold enough. -/
theorem exists_completes (hmore : ∀ i < k, c.hasMore i = true)
    (hreached : r.reach ≤ (c.before (k + 1)).length) : ∃ l, c.Completes r l := by
  induction k with
  | zero => exact ⟨0, hmore, Nat.mul_pos r.one_le_target r.one_le_size, hreached⟩
  | succ k ih =>
    -- either the last page is the first that reaches, or one page less will do
    rcases Nat.lt_or_ge (c.before (k + 1)).length r.reach with hshort | henough
    · exact ⟨k + 1, hmore, hshort, hreached⟩
    · exact ih (fun i hi => hmore i (Nat.lt_succ_of_lt hi)) henough

/-- If the page asked for ends nowhere, the reader comes by too few elements. -/
theorem length_visible_lt (h : ∀ k, ¬ c.Completes r k) : c.visible.length < r.reach := by
  rcases Nat.lt_or_ge c.visible.length r.reach with hlt | hge
  · exact hlt
  · obtain ⟨k, hk⟩ := exists_completes (fun i => c.hasMore_of_lt_ending) hge
    exact absurd hk (h k)

/-! ## Which pages are needed -/

/-- Page `i` has to be fetched: all pages before it announce more, and either they hold too few
elements, or the page asked for ends with the last of them. -/
structure Needs (c : Chain α) (r : Request) (i : Nat) : Prop where
  announced : ∀ j < i, c.hasMore j = true
  open_or_ended : (c.before i).length < r.reach ∨
    (c.before i).length = r.reach ∧ (c.before (i - 1)).length < r.reach

/-- On the way to the page on which the page asked for ends, every page is needed. -/
theorem Completes.needs (h : c.Completes r k) {i : Nat} (hi : i ≤ k) : c.Needs r i where
  announced := fun j hj => h.announced j (Nat.lt_of_lt_of_le hj hi)
  open_or_ended := .inl (Nat.lt_of_le_of_lt (c.length_before_le hi) h.short)

/-- So is the page after it, if both end together and it is announced. -/
theorem Completes.needs_succ (h : c.Completes r k) (hmore : c.hasMore k = true)
    (hends : (c.before (k + 1)).length = r.reach) : c.Needs r (k + 1) where
  announced := by
    intro j hj
    rcases Nat.lt_succ_iff_lt_or_eq.1 hj with hlt | rfl
    · exact h.announced j hlt
    · exact hmore
  open_or_ended := .inr ⟨hends, h.short⟩

/-- If the page asked for ends nowhere, every page up to the end is needed. -/
theorem needs_of_not_completes (h : ∀ k, ¬ c.Completes r k) {i : Nat} (hi : i ≤ c.ending) :
    c.Needs r i where
  announced := fun j hj => c.hasMore_of_lt_ending (Nat.lt_of_lt_of_le hj hi)
  open_or_ended := by
    have hshort : c.visible.length < r.reach := length_visible_lt h
    exact .inl (Nat.lt_of_le_of_lt (c.length_before_le (Nat.le_succ_of_le hi)) hshort)

/-! ## Chains that tell the truth -/

/-- A chain whose pages all arrive, and announce another exactly when there is one. -/
structure Truthful (c : Chain α) : Prop where
  announces : ∀ i, c.hasMore i = decide (i + 1 < c.pages.length)
  arrives : ∀ i, i < c.pages.length → c.arrival i = .ok ()

/-- The chain whose pages hold given lists, all arrive and announce what is true. -/
def ofLists (lists : List (List α)) : Chain α where
  pages := lists.map fun elements => { elements }

theorem truthful_ofLists (lists : List (List α)) : (ofLists lists).Truthful where
  announces := by
    intro i
    unfold hasMore ofLists
    rw [List.getElem?_map, List.length_map]
    cases h : lists[i]? with
    | none =>
      have hlength := List.getElem?_eq_none_iff.1 h
      exact (decide_eq_false (by omega)).symm
    | some elements => rfl
  arrives := by
    intro i hi
    unfold arrival ofLists
    rw [ofLists, List.length_map] at hi
    rw [List.getElem?_map, List.getElem?_eq_getElem hi]
    rfl

theorem Truthful.before_succ_of_last (hc : c.Truthful) (h : c.hasMore k = false) :
    c.before (k + 1) = c.whole := by
  rw [hc.announces, decide_eq_false_iff_not] at h
  exact c.before_of_le (Nat.not_lt.1 h)

/-- All elements can be come by. -/
theorem Truthful.visible_eq_whole (hc : c.Truthful) : c.visible = c.whole :=
  hc.before_succ_of_last c.hasMore_ending

theorem Truthful.arrival_of_needs (hc : c.Truthful) (i : Nat) (h : c.Needs r (i + 1)) :
    c.arrival (i + 1) = .ok () := by
  have hmore := h.announced i (Nat.lt_succ_self i)
  rw [hc.announces, decide_eq_true_eq] at hmore
  exact hc.arrives (i + 1) hmore

/-- The page asked for ends together with a page of the chain that is followed by an empty one, and
elements come after that. -/
structure HidesAfter (c : Chain α) (r : Request) (k : Nat) : Prop where
  completes : c.Completes r k
  ends : (c.before (k + 1)).length = r.reach
  empty : c.elements (k + 1) = []
  follows : r.reach < c.whole.length

theorem before_prefix_whole (c : Chain α) (i : Nat) : c.before i <+: c.whole := by
  have hle := c.before_prefix (Nat.le_add_right i c.pages.length)
  rw [c.before_of_le (Nat.le_add_left c.pages.length i)] at hle
  exact hle

/-- If nothing follows the page asked for, it ends together with its page of the chain, and a next
page of the chain is empty. -/
theorem Completes.ends_of_length_whole_le (hk : c.Completes r k)
    (h : c.whole.length ≤ r.reach) :
    (c.before (k + 1)).length = r.reach ∧ c.elements (k + 1) = [] := by
  have hreached := hk.reached
  -- this page and the next lie within the whole
  have hnext := (c.before_prefix_whole (k + 1 + 1)).length_le
  rw [before_succ, List.length_append] at hnext
  exact ⟨by omega, List.eq_nil_of_length_eq_zero (by omega)⟩

/-- Elements hide where a chain that tells the truth looks as if the page asked for were the last
but is not. -/
theorem Truthful.hidesAfter_iff (hc : c.Truthful) (hk : c.Completes r k) :
    c.HidesAfter r k ↔ ((c.before (k + 1)).length = r.reach ∧
      (c.hasMore k = false ∨ c.elements (k + 1) = [])) ∧ r.reach < c.whole.length := by
  constructor
  · intro h
    exact ⟨⟨h.ends, .inr h.empty⟩, h.follows⟩
  · rintro ⟨⟨hends, hlast | hempty⟩, hfollows⟩
    · -- nothing comes after a page that announces no more
      rw [← hc.before_succ_of_last hlast, hends] at hfollows
      exact absurd hfollows (Nat.lt_irrefl _)
    · exact ⟨hk, hends, hempty, hfollows⟩

/-- What looks like the last page of a chain that tells the truth is the last page, unless elements
hide behind it. -/
theorem Truthful.looks_last_iff (hc : c.Truthful) (hk : c.Completes r k) :
    ((c.before (k + 1)).length = r.reach ∧ (c.hasMore k = false ∨ c.elements (k + 1) = []) ↔
      c.whole.length ≤ r.reach) ↔ ∀ l, ¬ c.HidesAfter r l := by
  constructor
  · intro hagree l hl
    obtain rfl := hk.unique hl.completes
    exact absurd (hagree.1 ⟨hl.ends, .inr hl.empty⟩) (Nat.not_le.2 hl.follows)
  · intro hnone
    constructor
    · intro hlooks
      rcases Nat.lt_or_ge r.reach c.whole.length with hfollows | hle
      · exact absurd ((hc.hidesAfter_iff hk).2 ⟨hlooks, hfollows⟩) (hnone k)
      · exact hle
    · intro hle
      obtain ⟨hends, hempty⟩ := hk.ends_of_length_whole_le hle
      exact ⟨hends, .inr hempty⟩

end Paging.Chain
