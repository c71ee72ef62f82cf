import Paging.Proofs.Answer
import Paging.Proofs.Chain.Layout

/-!
# Paging.Proofs.Chain.Answer — pages of a chain

A chain delivers its pages up to the first one that cannot be fetched (`Chain.delivery`,
`Chain.simulation`).  A collector that wants more elements walks to the page on which the page asked
for ends, and has then accounted for what comes before it (`resolve_delivery_of_needed`); that page
and the next decide the answer (`resolve_delivery_of_completes`).  Nobody looks further than the next
page, so that elements behind an empty one are missed when the last page is told.
-/

namespace Paging

namespace Chain

variable {α : Type} (c : Chain α)

/-! ## What is delivered -/

theorem lt_of_arrival_eq_ok {c : Chain α} {i : Nat} (h : c.arrival i = .ok ()) :
    i < c.pages.length := by
  rcases Nat.lt_or_ge i c.pages.length with hlt | hge
  · exact hlt
  · rw [arrival, List.getElem?_eq_none hge] at h
    cases h

/-- The pages from a page on, up to the first one that cannot be fetched. -/
def delivery (c : Chain α) (i : Nat) : Delivery α :=
  .page (c.elements i) (c.hasMore i) <| match h : c.arrival (i + 1) with
    | .ok () => c.delivery (i + 1)
    | .error fault => .failure fault
termination_by c.pages.length - i
decreasing_by
  have hlt := lt_of_arrival_eq_ok h
  omega

theorem delivery_of_ok {i : Nat} (h : c.arrival (i + 1) = .ok ()) :
    c.delivery i = .page (c.elements i) (c.hasMore i) (c.delivery (i + 1)) := by
  rw [delivery]
  split
  · rfl
  · next fault hfault =>
    rw [h] at hfault
    cases hfault

theorem delivery_of_error {i : Nat} {fault : Fault} (h : c.arrival (i + 1) = .error fault) :
    c.delivery i = .page (c.elements i) (c.hasMore i) (.failure fault) := by
  rw [delivery]
  split
  · next hok =>
    rw [h] at hok
    cases hok
  · next other hother =>
    rw [h] at hother
    cases hother
    rfl

theorem exists_delivery_eq (i : Nat) :
    ∃ next, c.delivery i = .page (c.elements i) (c.hasMore i) next := by
  rw [delivery]
  exact ⟨_, rfl⟩

theorem size_delivery (i : Nat) : (c.delivery i).size ≤ c.pages.length - i + 1 := by
  induction hleft : c.pages.length - i using Nat.strongRecOn generalizing i with
  | ind left ih =>
    cases h : c.arrival (i + 1) with
    | ok =>
      have hlt := lt_of_arrival_eq_ok h
      have hnext := ih _ (by omega) (i + 1) rfl
      rw [delivery_of_ok c h, Delivery.size]
      omega
    | error fault =>
      rw [delivery_of_error c h, Delivery.size, Delivery.size]
      omega

/-! ## What comes of it -/

variable {strategy : Strategy} {r : Request} {k : Nat}

/-- A collector walks over pages that do not hold enough elements, and accounts for all of them. -/
theorem resolve_delivery_of_needed (hmore : ∀ i < k, c.hasMore i = true)
    (hok : ∀ i < k, c.arrival (i + 1) = .ok ()) (hopen : (c.before k).length < r.reach) :
    (c.delivery 0).resolve (.start strategy r) =
      (c.delivery k).resolve (.after strategy r (c.before k)) := by
  induction k with
  | zero => rw [before_zero, Collector.start_eq_after]
  | succ k ih =>
    have hshort := Nat.lt_of_le_of_lt (c.length_before_le (Nat.le_succ k)) hopen
    rw [ih (fun i hi => hmore i (Nat.lt_succ_of_lt hi)) (fun i hi => hok i (Nat.lt_succ_of_lt hi))
      hshort, delivery_of_ok c (hok k (Nat.lt_succ_self k)), hmore k (Nat.lt_succ_self k)]
    rw [before_succ] at hopen ⊢
    exact Delivery.resolve_of_lt hopen

/-- The answer when the page asked for ends on a page of the chain. -/
theorem resolve_delivery_of_completes (strategy : Strategy) (hk : c.Completes r k)
    (hneeded : ∀ i, c.Needs r (i + 1) → c.arrival (i + 1) = .ok ()) :
    ∃ isLast, (c.delivery 0).resolve (.start strategy r) =
        .ok ⟨Reference.slice c.visible r.target r.size, r.target, isLast⟩ ∧
      (isLast = true ↔ (c.before (k + 1)).length = r.reach ∧
        (c.hasMore k = false ∨ c.elements (k + 1) = [])) := by
  have hshort := hk.short
  have hreached := hk.reached
  obtain ⟨rest, hrest⟩ : c.before (k + 1) <+: c.visible :=
    c.before_prefix (Nat.succ_le_succ hk.le_ending)
  have hslice : Reference.slice c.visible r.target r.size =
      Reference.slice (c.before (k + 1)) r.target r.size := by
    rw [← hrest]
    exact Reference.slice_append rest r.one_le_target hreached
  rw [resolve_delivery_of_needed c hk.announced
    (fun i hi => hneeded i (hk.needs (Nat.succ_le_of_lt hi))) hshort, hslice]
  rcases Nat.lt_or_eq_of_le hreached with hinside | hends
  · -- it ends before the last element of the page
    obtain ⟨next, hnext⟩ := c.exists_delivery_eq k
    refine ⟨false, ?_, ?_⟩
    · rw [before_succ] at hinside hreached ⊢
      rw [hnext, Delivery.resolve_of_gt _ [] hshort hinside, List.append_nil,
        Reference.page_of_reach_le strategy hreached, decide_eq_false (Nat.not_le.2 hinside)]
    · constructor
      · intro hlast
        cases hlast
      · rintro ⟨hends, _⟩
        omega
  · -- it ends together with the page
    have hne : c.elements k ≠ [] := by
      intro hnil
      rw [before_succ, hnil, List.append_nil] at hends
      omega
    have hlength : (c.before k ++ c.elements k).length = r.reach := by
      rw [← before_succ]
      exact hends.symm
    cases hmore : c.hasMore k with
    | false =>
      -- no more is announced, so it is the last
      obtain ⟨next, hnext⟩ := c.exists_delivery_eq k
      have hpage := Reference.page_append_of_length_eq strategy [] hlength
      rw [List.append_nil] at hpage
      refine ⟨true, ?_, ?_⟩
      · rw [hnext, hmore, Delivery.resolve_last_of_eq hne hlength, hpage, before_succ]
        rfl
      · simp [hends]
    | true =>
      -- one more page is looked at, whose elements stand for all that follow
      have harrival := hneeded k (hk.needs_succ hmore hends.symm)
      obtain ⟨next, hnext⟩ := c.exists_delivery_eq (k + 1)
      have hpage := Reference.page_append_of_length_eq strategy
        (c.elements (k + 1)) hlength
      refine ⟨(c.elements (k + 1)).isEmpty, ?_, ?_⟩
      · rw [delivery_of_ok c harrival, hmore, Delivery.resolve_of_eq hne hlength, hnext,
          Delivery.probe, ← Collector.page_after _ hlength, hpage, before_succ]
      · simp [hends, List.isEmpty_iff]

/-- The answer when the chain ends first. -/
theorem resolve_delivery_of_not_completes (h : ∀ k, ¬ c.Completes r k)
    (hneeded : ∀ i, c.Needs r (i + 1) → c.arrival (i + 1) = .ok ()) :
    (c.delivery 0).resolve (.start strategy r) = Reference.page strategy r c.visible := by
  -- the collector walks to the page that announces no more, and is not full after it
  have hshort : (c.before (c.ending + 1)).length < r.reach := length_visible_lt h
  have hopen := Nat.lt_of_le_of_lt (c.length_before_le (Nat.le_succ c.ending)) hshort
  obtain ⟨next, hnext⟩ := c.exists_delivery_eq c.ending
  rw [resolve_delivery_of_needed c (fun i => c.hasMore_of_lt_ending)
    (fun i hi => hneeded i (needs_of_not_completes h (Nat.succ_le_of_lt hi))) hopen, hnext,
    hasMore_ending, visible]
  rw [before_succ] at hshort ⊢
  exact Delivery.resolve_last_of_lt hshort

end Chain

/-! ## Chains in the shared state -/

theorem Feed.run_waitFor (c : Chain Value) (i : Nat) : Async.run (Feed.waitFor c i) = pure () := by
  unfold waitFor
  split <;> rfl

/-- Fetching a page of a chain notes down the contact, whether the page arrives or not. -/
theorem Feed.run_fetch_chain (c : Chain Value) (i : Nat) (v : Service) :
    Async.run (Feed.chain c i).fetch v =
      ((c.arrival (i + 1)).map fun _ => .chain c (i + 1),
        (Service.contact (.fetch (i + 1)) v).2) := by
  have hcontact : Service.contact (.fetch (i + 1)) v =
      (.ok (), (Service.contact (.fetch (i + 1)) v).2) := rfl
  rw [Feed.fetch, Async.run_bind]
  refine (Action.bind_of_ok hcontact).trans ?_
  rw [Async.run_bind, run_waitFor, Async.run_bind]
  cases c.arrival (i + 1) with
  | ok => rfl
  | error fault => rfl

/-- The first `n` pages after the one received have been fetched since a state, in order, and
nothing else has happened that matters. -/
structure Service.Fetched (w : Service) (n : Nat) (v : Service) : Prop where
  tells : v.TellsLike w
  contacts : v.journal.contacts = w.journal.contacts ++ (List.range' 1 n).map Contact.fetch

theorem Service.Fetched.noted {w v : Service} {n : Nat} (h : w.Fetched n v) (notice : Notice) :
    w.Fetched n (v.noted notice) where
  tells := h.tells.noted notice
  contacts := h.contacts

theorem Service.Fetched.succ {w v : Service} {n : Nat} (h : w.Fetched n v) :
    w.Fetched (n + 1) (Service.contact (.fetch (n + 1)) v).2 where
  tells := h.tells.contact _
  contacts := by
    show v.journal.contacts ++ [.fetch (n + 1)] = _
    rw [h.contacts, List.range'_concat, List.map_append, List.append_assoc, Nat.one_mul,
      Nat.add_comm 1]
    rfl

/-- A chain serves its pages and notes down each fetch. -/
def Chain.simulation (c : Chain Value) (w : Service) : Simulation where
  serves n v feed d := feed = .chain c n ∧ d = c.delivery n ∧ w.Fetched n v
  leaves n v := w.Fetched n v
  view := by
    rintro n v feed d ⟨rfl, rfl, hfetched⟩
    exact ⟨hfetched, c.exists_delivery_eq n⟩
  noted := by
    rintro n v feed d notice ⟨hfeed, hd, hfetched⟩
    exact ⟨hfeed, hd, hfetched.noted notice⟩
  fetch_ok := by
    rintro n v feed elements more elements' more' next ⟨rfl, hd, hfetched⟩ _
    cases h : c.arrival (n + 1) with
    | ok =>
      rw [delivery_of_ok c h] at hd
      injection hd with _ _ hd
      refine ⟨.chain c (n + 1), _, ?_, rfl, hd, hfetched.succ⟩
      rw [Feed.run_fetch_chain, h]
      rfl
    | error fault =>
      -- a page is delivered next, so fetching it cannot have failed
      rw [delivery_of_error c h] at hd
      injection hd with _ _ hd
      cases hd
  fetch_error := by
    rintro n v feed elements more fault ⟨rfl, hd, hfetched⟩ _
    cases h : c.arrival (n + 1) with
    | ok =>
      -- and here a fault is delivered next
      obtain ⟨next, hnext⟩ := c.exists_delivery_eq (n + 1)
      rw [delivery_of_ok c h, hnext] at hd
      injection hd with _ _ hd
      cases hd
    | error other =>
      rw [delivery_of_error c h] at hd
      injection hd with _ _ hd
      injection hd with hfault
      refine ⟨_, ?_, hfetched.succ⟩
      rw [Feed.run_fetch_chain, h, hfault]
      rfl

namespace Pager

variable (p : Pager) (r : Request) {w : Service} (c : Chain Value)

/-- A page of a chain is what comes of what the chain delivers. -/
theorem fst_awaitPage_chain (hw : w.Discreet) :
    (p.awaitPage (some (.chain c 0)) r.target r.size w).1 =
      (c.delivery 0).resolve (.start p.strategy r) := by
  refine fst_awaitPage p r hw (c.simulation (Tracing.begin w).2) ⟨rfl, rfl, .refl _, ?_⟩
    (c.size_delivery 0) fun n v hv => hv.tells
  rw [List.range'_zero, List.map_nil, List.append_nil]

/-- **The page of a chain.**  If the page asked for ends on a page of the chain, it is a slice of what
can be come by, and it is the last one exactly when both end together and either no more is announced
or the next page is empty.  If it ends nowhere, the answer is the one for the list of what can be come
by.  Only pages that are needed have to arrive. -/
theorem awaitPage_chain (hw : w.Discreet)
    (hneeded : ∀ i, c.Needs r (i + 1) → c.arrival (i + 1) = .ok ()) :
    (∀ k, c.Completes r k → ∃ isLast,
      (p.awaitPage (some (.chain c 0)) r.target r.size w).1 =
        .ok ⟨Reference.slice c.visible r.target r.size, r.target, isLast⟩ ∧
      (isLast = true ↔ (c.before (k + 1)).length = r.reach ∧
        (c.hasMore k = false ∨ c.elements (k + 1) = []))) ∧
    ((∀ k, ¬ c.Completes r k) → ∀ {v : Service} (source : Source), v.Discreet →
      (source.stream v).Lists c.visible →
      (p.awaitPage (some (.chain c 0)) r.target r.size w).1 =
        (p.getPage (some source) r.target r.size v).1) := by
  rw [fst_awaitPage_chain p r c hw]
  constructor
  · intro k hk
    exact c.resolve_delivery_of_completes p.strategy hk hneeded
  · intro hnowhere v source hv hsource
    rw [fst_getPage p r hv source, Stream.page_of_lists hsource]
    exact c.resolve_delivery_of_not_completes hnowhere hneeded

/-- A chain whose third page says that it is the last, although a fourth is there that cannot be
fetched. -/
def cutShort : Chain Value where
  pages := [{ elements := [.int 1] }, { elements := [] },
    { elements := [.null, .int 3], more := some false },
    { elements := [.int 4], failure := some .noMorePages }]

/-- The first page of two ends inside the third page of the chain; the second ends nowhere. -/
theorem awaitPage_chain_of_cutShort :
    Service.complaining.Discreet ∧
    (∀ i, cutShort.Needs ⟨1, 2, by decide, by decide⟩ (i + 1) →
      cutShort.arrival (i + 1) = .ok ()) ∧
    (∃ isLast, (awaitPage ⟨.fail⟩ (some (.chain cutShort 0)) 1 2 Service.complaining).1 =
      .ok ⟨[.int 1, .null], 1, isLast⟩ ∧ isLast ≠ true) ∧
    (∀ i, cutShort.Needs ⟨3, 2, by decide, by decide⟩ (i + 1) →
      cutShort.arrival (i + 1) = .ok ()) ∧
    (awaitPage ⟨.fail⟩ (some (.chain cutShort 0)) 3 2 Service.complaining).1 =
      .error (.outOfBounds ⟨3, 3, 2, 2⟩) := by
  -- only the second and the third page can be needed, and both arrive
  have hneeded : ∀ r i, cutShort.Needs r (i + 1) → cutShort.arrival (i + 1) = .ok () := by
    intro r i h
    match i with
    | 0 => rfl
    | 1 => rfl
    | i + 2 => cases h.announced 2 (by omega)
  refine ⟨Service.discreet_complaining, hneeded _, ?_, hneeded _, ?_⟩
  · have hends : cutShort.Completes ⟨1, 2, by decide, by decide⟩ 2 :=
      ⟨by decide, by decide, by decide⟩
    obtain ⟨isLast, hanswer, hlast⟩ := (awaitPage_chain ⟨.fail⟩ _ cutShort
      Service.discreet_complaining (hneeded _)).1 2 hends
    refine ⟨isLast, hanswer, fun h => ?_⟩
    exact absurd (hlast.1 h).1 (by decide)
  · have hnowhere : ∀ k, ¬ cutShort.Completes ⟨3, 2, by decide, by decide⟩ k := by
      intro k hk
      have hle := cutShort.length_before_le (Nat.succ_le_succ hk.le_ending)
      exact absurd (Nat.le_trans hk.reached hle) (by decide)
    exact ((awaitPage_chain ⟨.fail⟩ _ cutShort Service.discreet_complaining (hneeded _)).2
      hnowhere (v := {}) (.fresh (.ofList cutShort.visible)) (.inl rfl)
      (Stream.lists_ofList _)).trans rfl

/-! ## Whether the page is the last -/

/-- **Which last pages are not.**  From a chain that tells the truth comes the page that comes from
the list of its elements, except for the word on whether it is the last.  That of the list is true;
that of the chain is the same unless the elements that follow hide behind an empty page. -/
theorem isLast_awaitPage_chain_iff (hc : c.Truthful) (hw : w.Discreet) {v : Service}
    (hv : v.Discreet) (source : Source) (hsource : (source.stream v).Lists c.whole)
    {page : Page Value}
    (hpage : (p.awaitPage (some (.chain c 0)) r.target r.size w).1 = .ok page) :
    ∃ isLast, (p.getPage (some source) r.target r.size v).1 = .ok { page with isLast } ∧
      (isLast = true ↔ c.whole.length ≤ page.number * r.size) ∧
      (page.isLast = isLast ↔ ∀ k, ¬ c.HidesAfter r k) := by
  rw [fst_awaitPage_chain p r c hw] at hpage
  rw [fst_getPage p r hv source, Stream.page_of_lists hsource]
  by_cases hends : ∃ k, c.Completes r k
  · obtain ⟨k, hk⟩ := hends
    obtain ⟨isLast, hanswer, hlast⟩ :=
      c.resolve_delivery_of_completes p.strategy hk hc.arrival_of_needs
    rw [hc.visible_eq_whole] at hanswer
    obtain rfl := Except.ok.inj (hpage.symm.trans hanswer)
    have htruth := Reference.page_of_reach_le p.strategy
      (Nat.le_trans hk.reached (c.before_prefix_whole (k + 1)).length_le)
    refine ⟨_, htruth, Reference.isLast_of_page_eq_ok htruth, ?_⟩
    show isLast = decide (c.whole.length ≤ r.reach) ↔ _
    rw [Bool.eq_iff_iff, hlast, decide_eq_true_iff]
    exact hc.looks_last_iff hk
  · -- a page that ends nowhere on the chain is answered from the list itself
    have hnowhere : ∀ k, ¬ c.Completes r k := fun k hk => hends ⟨k, hk⟩
    rw [c.resolve_delivery_of_not_completes hnowhere hc.arrival_of_needs, hc.visible_eq_whole]
      at hpage
    refine ⟨page.isLast, hpage, Reference.isLast_of_page_eq_ok hpage, ?_⟩
    simp only [true_iff]
    intro k hk
    exact hnowhere k hk.completes

/-- An empty page in the middle: the first element is called the last page although the second
follows. -/
theorem isLast_awaitPage_chain_of_gap :
    (Chain.ofLists [[Value.int 1], [], [.int 2]]).Truthful ∧
    (Chain.ofLists [[Value.int 1], [], [.int 2]]).whole = [.int 1, .int 2] ∧
    (awaitPage ⟨.fail⟩ (some (.chain (Chain.ofLists [[.int 1], [], [.int 2]]) 0)) 1 1 {}).1 =
      .ok ⟨[.int 1], 1, true⟩ ∧
    (getPage ⟨.fail⟩ (some (.fresh (.ofList [.int 1, .int 2]))) 1 1 {}).1 =
      .ok ⟨[.int 1], 1, false⟩ :=
  ⟨Chain.truthful_ofLists _, rfl, rfl, rfl⟩

/-- The element that follows hides behind the empty page. -/
theorem isLast_awaitPage_chain_iff_of_gap :
    (Chain.ofLists [[Value.int 1], [], [.int 2]]).Truthful ∧ Service.Discreet {} ∧
    ((Source.fresh (.ofList [Value.int 1, .int 2])).stream {}).Lists
      (Chain.ofLists [[Value.int 1], [], [.int 2]]).whole ∧
    (awaitPage ⟨.fail⟩ (some (.chain (Chain.ofLists [[.int 1], [], [.int 2]]) 0)) 1 1 {}).1 =
      .ok ⟨[.int 1], 1, true⟩ ∧
    ¬ ∀ k, ¬ (Chain.ofLists [[Value.int 1], [], [.int 2]]).HidesAfter
      ⟨1, 1, by decide, by decide⟩ k := by
  have hpage : (awaitPage ⟨.fail⟩
      (some (.chain (Chain.ofLists [[.int 1], [], [.int 2]]) 0)) 1 1 {}).1 =
        .ok ⟨[.int 1], 1, true⟩ := rfl
  refine ⟨Chain.truthful_ofLists _, .inl rfl, Stream.lists_ofList _, hpage, fun hnone => ?_⟩
  obtain ⟨isLast, _, htruth, hagree⟩ := isLast_awaitPage_chain_iff ⟨.fail⟩
    ⟨1, 1, by decide, by decide⟩ (Chain.ofLists [[.int 1], [], [.int 2]])
    (Chain.truthful_ofLists _) (.inl rfl) (v := {}) (.inl rfl)
    (.fresh (.ofList [.int 1, .int 2])) (Stream.lists_ofList _) hpage
  have htrue : isLast = true := (hagree.2 hnone).symm
  exact absurd (htruth.1 htrue) (by decide)

end Pager

end Paging
