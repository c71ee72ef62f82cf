import Paging.Proofs.Chunked

/-!
# Paging.Proofs.Walk — page after page until there is no next

A walk asks for the first page of a list, and then for the page after the one it was given, as long
as that one has a next (`Pager.walk`).  Each page may be asked for in a way of its own: element by
element, or in chunks of some size.  A walk gives the pages of the list one after the other and ends
with the last one, so that it visits every element once and in order (`walk_visits_all`).
-/

namespace Paging

/-- A way of asking for a page of a list. -/
inductive Way
  /-- The elements are read one by one. -/
  | single
  /-- The elements are served in chunks, perhaps with an empty one at the end. -/
  | chunks (fetchSize : Int) (trailing : Bool) (one_le_fetchSize : 1 ≤ fetchSize)

namespace Pager

/-- Asks for a page of a list, which is read afresh. -/
def ask (p : Pager) (xs : List Value) (size : Nat) (number : Int) : Way → Act (Page Value)
  | .single => p.getPage (some (.fresh (.ofList xs))) number size
  | .chunks fetchSize trailing _ => p.awaitChunked xs fetchSize trailing number size

/-- Asks for one page after the other, each in the way whose turn it is, until a page has no next.
A walk that runs out of ways ends there. -/
def walk (p : Pager) (xs : List Value) (size : Nat) : List Way → Int → Act (List (Page Value))
  | [], _ => pure []
  | way :: ways, number => do
    let page ← p.ask xs size number way
    if page.hasNext then
      let rest ← p.walk xs size ways (page.number + 1)
      pure (page :: rest)
    else pure [page]

variable (p : Pager) (xs : List Value) {size n : Nat}

/-! ## One page -/

/-- The page that a list has under a number, if it has so many. -/
def pageOf (xs : List Value) (size n : Nat) : Page Value where
  elements := Reference.slice xs n size
  number := n
  isLast := decide (xs.length ≤ n * size)

/-- A page is followed by another exactly when it is not the last one of its list. -/
theorem hasNext_pageOf (hs : 1 ≤ size) (hn : 1 ≤ n) :
    (pageOf xs size n).hasNext = decide (n < Reference.pageCount xs.length size) := by
  have hlt := Reference.lt_pageCount_iff (n := xs.length) hs hn
  show (!decide (xs.length ≤ n * size)) = _
  simp only [hlt, ← decide_not, Nat.not_le]

theorem hasPrev_pageOf (hn : 1 ≤ n) :
    (pageOf xs size n).hasPrev = false ↔ n = 1 := by
  show decide ((1 : Int) < n) = false ↔ n = 1
  rw [decide_eq_false_iff_not]
  omega

/-- **One request of a walk.**  In whichever way it is made, a request for a page that the list has
gives that page, and leaves a state in which the next request can be made. -/
theorem ask_of_le (way : Way) (hs : 1 ≤ size) (hn : 1 ≤ n)
    (hle : n ≤ Reference.pageCount xs.length size) {w : Service} (hw : w.Discreet) :
    ∃ v, p.ask xs size n way w = (.ok (pageOf xs size n), v) ∧ v.Discreet := by
  have hpage : Reference.page p.strategy ⟨n, size, hn, hs⟩ xs =
      .ok (pageOf xs size n) := Reference.page_of_le hle
  have hsource := Stream.lists_ofList xs
  have hsingle : (p.getPage (some (.fresh (.ofList xs))) n size w).1 =
      .ok (pageOf xs size n) := by
    rw [← hpage]
    exact (fst_getPage p ⟨n, size, hn, hs⟩ hw (.fresh (.ofList xs))).trans
      (Stream.page_of_lists hsource)
  cases way with
  | single =>
    exact ⟨_, Prod.ext hsingle rfl,
      discreet_getPage p ⟨n, size, hn, hs⟩ hw (.fresh (.ofList xs))⟩
  | chunks fetchSize trailing hf =>
    have hchunks : (p.awaitChunked xs fetchSize trailing n size w).1 =
        .ok (pageOf xs size n) := by
      rw [← hpage]
      exact fst_awaitChunked p ⟨n, size, hn, hs⟩ hf trailing hw xs
    exact ⟨_, Prod.ext hchunks rfl,
      discreet_awaitChunked p ⟨n, size, hn, hs⟩ hf trailing hw xs⟩

/-! ## The whole walk -/

/-- A walk that starts from a page of the list gives that page and all after it. -/
theorem walk_from (hs : 1 ≤ size) {ways : List Way} (hn : 1 ≤ n)
    (hle : n ≤ Reference.pageCount xs.length size)
    (hways : Reference.pageCount xs.length size < n + ways.length)
    {w : Service} (hw : w.Discreet) :
    ∃ v, p.walk xs size ways n w =
      (.ok ((List.range' n (Reference.pageCount xs.length size + 1 - n)).map
        (pageOf xs size)), v) := by
  induction ways generalizing n w with
  | nil =>
    rw [List.length_nil] at hways
    omega
  | cons way ways ih =>
    obtain ⟨v, hask, hv⟩ := p.ask_of_le xs way hs hn hle hw
    have hhead : Reference.pageCount xs.length size + 1 - n =
        Reference.pageCount xs.length size - n + 1 := by omega
    have hnext := hasNext_pageOf xs hs hn
    rw [hhead, List.range'_succ, List.map_cons, walk, Action.bind_of_ok hask]
    by_cases hlt : n < Reference.pageCount xs.length size
    · -- the page has a next, from which the rest of the walk starts
      rw [decide_eq_true hlt] at hnext
      rw [List.length_cons] at hways
      obtain ⟨u, hrest⟩ := ih (n := n + 1) (by omega) hlt (by omega) hv
      have hnumber : (pageOf xs size n).number + 1 = ((n + 1 : Nat) : Int) := rfl
      have hleft : Reference.pageCount xs.length size + 1 - (n + 1) =
          Reference.pageCount xs.length size - n := by omega
      rw [hleft] at hrest
      refine ⟨u, ?_⟩
      rw [if_pos hnext, hnumber, Action.bind_of_ok hrest]
      rfl
    · -- the page is the last one
      have hlast : Reference.pageCount xs.length size - n = 0 := by omega
      rw [decide_eq_false hlt] at hnext
      refine ⟨v, ?_⟩
      rw [if_neg (by rw [hnext]; exact Bool.false_ne_true), hlast]
      rfl

/-- The pages from one on together hold what the list holds from there on. -/
theorem flatMap_elements_pageOf (size : Nat) (hn : 1 ≤ n) (count : Nat) :
    ((List.range' n count).map (pageOf xs size)).flatMap Page.elements ++
      xs.drop ((n - 1 + count) * size) = xs.drop ((n - 1) * size) := by
  rw [List.flatMap_map]
  exact Reference.flatMap_slice_append_drop xs size hn count

/-- **A walk visits every element once.**  With ways enough, a walk is never refused a page.  It asks
for as many pages as the list has; their numbers count up from one, only the first has none before
it, only the last has no next, and one after the other they hold the elements of the list. -/
theorem walk_visits_all (hs : 1 ≤ size) (ways : List Way)
    (hways : Reference.pageCount xs.length size ≤ ways.length) {w : Service} (hw : w.Discreet) :
    ∃ pages, (p.walk xs size ways 1 w).1 = .ok pages ∧
      pages.length = Reference.pageCount xs.length size ∧
      (∀ i (h : i < pages.length), pages[i].number = i + 1 ∧
        (pages[i].hasPrev = false ↔ i = 0) ∧ (pages[i].hasNext = true ↔ i + 1 < pages.length)) ∧
      pages.flatMap Page.elements = xs := by
  have hone := Reference.one_le_pageCount xs.length size
  have henough : Reference.pageCount xs.length size < 1 + ways.length := by omega
  obtain ⟨v, hwalk⟩ := p.walk_from xs hs (Nat.le_refl 1) hone henough hw
  rw [Nat.add_sub_cancel] at hwalk
  refine ⟨_, congrArg Prod.fst hwalk, ?_, ?_, ?_⟩
  · rw [List.length_map, List.length_range']
  · intro i hi
    rw [List.length_map, List.length_range'] at hi ⊢
    rw [List.getElem_map, List.getElem_range', Nat.one_mul, Nat.add_comm 1 i]
    refine ⟨rfl, ?_, ?_⟩
    · rw [hasPrev_pageOf xs (Nat.le_add_left 1 i)]
      omega
    · rw [hasNext_pageOf xs hs (Nat.le_add_left 1 i), decide_eq_true_iff]
  · -- nothing is left after the last page
    have hall := flatMap_elements_pageOf xs size (Nat.le_refl 1)
      (Reference.pageCount xs.length size)
    have hroom := Reference.le_pageCount_mul (n := xs.length) hs
    rw [Nat.sub_self, Nat.zero_add, List.drop_eq_nil_of_le hroom, List.append_nil, Nat.zero_mul,
      List.drop_zero] at hall
    exact hall

/-- Three elements on pages of two: the first page is read one by one, the second comes in chunks of
one and an empty one, and the third way is not needed. -/
theorem walk_visits_all_of_three :
    1 ≤ 2 ∧ Reference.pageCount 3 2 ≤ 3 ∧ Service.complaining.Discreet ∧
    ∃ pages, (walk ⟨.fail⟩ [.int 1, .null, .int 3] 2
        [.single, .chunks 1 true (by decide), .single] 1 Service.complaining).1 = .ok pages ∧
      pages.length = 2 ∧ pages.flatMap Page.elements = [.int 1, .null, .int 3] := by
  refine ⟨by decide, by decide, Service.discreet_complaining, ?_⟩
  obtain ⟨pages, hpages, hlength, _, hall⟩ := walk_visits_all ⟨.fail⟩ [.int 1, .null, .int 3]
    (show 1 ≤ 2 by decide) [.single, .chunks 1 true (by decide), .single] (by decide)
    Service.discreet_complaining
  exact ⟨pages, hpages, hlength, hall⟩

end Pager

end Paging
