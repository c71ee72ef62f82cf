import Paging.Pager
import Paging.Proofs.Collector

/-!
# Paging.Proofs.Delivery — protocol pages without a state

Sources of protocol pages live in a shared state and are read by computations that may wait.  What a
collector makes of them depends only on what they deliver: pages, each with its word on whether more
follow, and at some point perhaps a fault.  `Delivery.resolve` and `Delivery.fetches` say what comes
of a delivery and how many fetches it takes, as functions of the delivery alone, and
`Simulation.run_collect` that collecting from a source in a state does exactly this whenever the
state serves the delivery.
-/

namespace Paging

/-- What a source delivers from one protocol page on. -/
inductive Delivery (α : Type)
  /-- The page cannot be fetched. -/
  | failure (fault : Fault)
  | page (elements : List α) (hasMore : Bool) (next : Delivery α)

namespace Delivery

variable {α : Type}

/-- The number of pages that can be visited. -/
def size : Delivery α → Nat
  | failure _ => 0
  | page _ _ next => next.size + 1

/-- The answer when the page asked for ended before this delivery. -/
def probe (c : Collector α) : Delivery α → Except Fault (Page α)
  | failure fault => .error fault
  | page elements _ _ => .ok (c.page elements.isEmpty)

/-- The answer that visiting the pages of a delivery comes to. -/
def resolve (c : Collector α) : Delivery α → Except Fault (Page α)
  | failure fault => .error fault
  | page elements hasMore next => match c.visit elements hasMore with
    | .resolved answer => answer
    | .probing c => next.probe c
    | .wanting c => next.resolve c

/-- The number of fetches that visiting the pages of a delivery attempts. -/
def fetches (c : Collector α) : Delivery α → Nat
  | failure _ => 0
  | page elements hasMore next => match c.visit elements hasMore with
    | .resolved _ => 0
    | .probing _ => 1
    | .wanting c => next.fetches c + 1

/-! ## Visiting the pages -/

variable {strategy : Strategy} {r : Request} {xs elements : List α} {next : Delivery α}

/-- A page that does not reach to the end of the page asked for is followed by the next. -/
theorem resolve_of_lt (h : (xs ++ elements).length < r.reach) :
    (page elements true next).resolve (.after strategy r xs) =
      next.resolve (.after strategy r (xs ++ elements)) := by
  rw [resolve, Collector.visit_of_lt true h]
  rfl

/-- The elements end before the page asked for is full. -/
theorem resolve_last_of_lt (h : (xs ++ elements).length < r.reach) :
    (page elements false next).resolve (.after strategy r xs) =
      Reference.page strategy r (xs ++ elements) := by
  rw [resolve, Collector.visit_of_lt false h]
  rfl

/-- The page asked for ends with a page after which more are announced: one more page is looked
at. -/
theorem resolve_of_eq (hne : elements ≠ []) (h : (xs ++ elements).length = r.reach) :
    (page elements true next).resolve (.after strategy r xs) =
      next.probe (.after strategy r (xs ++ elements)) := by
  rw [resolve, Collector.visit_of_eq true hne h]
  rfl

/-- The page asked for ends with the last page. -/
theorem resolve_last_of_eq (hne : elements ≠ []) (h : (xs ++ elements).length = r.reach) :
    (page elements false next).resolve (.after strategy r xs) =
      Reference.page strategy r (xs ++ elements) := by
  rw [resolve, Collector.visit_of_eq false hne h]
  rfl

/-- The page asked for ends inside a page. -/
theorem resolve_of_gt (hasMore : Bool) (ys : List α) (hxs : xs.length < r.reach)
    (h : r.reach < (xs ++ elements).length) :
    (page elements hasMore next).resolve (.after strategy r xs) =
      Reference.page strategy r (xs ++ elements ++ ys) := by
  rw [resolve, Collector.visit_of_gt hasMore ys hxs h]

/-! ## Counting the fetches -/

/-- A page that does not reach to the end of the page asked for costs a fetch. -/
theorem fetches_of_lt (h : (xs ++ elements).length < r.reach) :
    (page elements true next).fetches (.after strategy r xs) =
      next.fetches (.after strategy r (xs ++ elements)) + 1 := by
  rw [fetches, Collector.visit_of_lt true h]
  rfl

/-- The page asked for ends with a page after which more are announced: that costs one fetch. -/
theorem fetches_of_eq (hne : elements ≠ []) (h : (xs ++ elements).length = r.reach) :
    (page elements true next).fetches (.after strategy r xs) = 1 := by
  rw [fetches, Collector.visit_of_eq true hne h]
  rfl

/-- After a page that ends beyond the page asked for nothing is fetched. -/
theorem fetches_of_gt (hasMore : Bool) (hxs : xs.length < r.reach)
    (h : r.reach < (xs ++ elements).length) :
    (page elements hasMore next).fetches (.after strategy r xs) = 0 := by
  rw [fetches, Collector.visit_of_gt hasMore [] hxs h]

/-- After a page that announces no more nothing is fetched. -/
theorem fetches_last (c : Collector α) : (page elements false next).fetches c = 0 := by
  rw [fetches]
  cases hvisit : c.visit elements false with
  | resolved answer => rfl
  | probing c' => cases Collector.hasMore_of_probing hvisit
  | wanting c' => cases Collector.hasMore_of_wanting hvisit

end Delivery

/-! ## Sources in a state -/

namespace Service

/-- The state after a notice. -/
def noted (n : Notice) (w : Service) : Service := (notice n w).2

end Service

/-- A way in which states serve deliveries.  `serves n w feed d` says that after `n` fetches, in
state `w`, the feed delivers `d`; `leaves n w` is what is known of a state in which `n` fetches have
been attempted. -/
structure Simulation where
  serves : Nat → Service → Feed → Delivery Value → Prop
  leaves : Nat → Service → Prop
  /-- A feed always has a page. -/
  view : ∀ {n w feed d}, serves n w feed d →
    leaves n w ∧ ∃ next, d = .page feed.elements (feed.hasMore w) next
  /-- Notices do not matter. -/
  noted : ∀ {n w feed d} (notice : Notice), serves n w feed d → serves n (w.noted notice) feed d
  fetch_ok : ∀ {n w feed elements more elements' more' next},
    serves n w feed (.page elements more (.page elements' more' next)) → more = true →
      ∃ feed' v, Async.run feed.fetch w = (.ok feed', v) ∧
        serves (n + 1) v feed' (.page elements' more' next)
  fetch_error : ∀ {n w feed elements more fault},
    serves n w feed (.page elements more (.failure fault)) → more = true →
      ∃ v, Async.run feed.fetch w = (.error fault, v) ∧ leaves (n + 1) v

namespace Pager

theorem run_probe (feed : Feed) (c : Collector Value) (w : Service) :
    Async.run (probe feed c) w =
      (Async.run feed.fetch >>= fun next => pure (c.page next.elements.isEmpty))
        (w.noted .fetchingTrail) := by
  rw [probe, Async.run_bind, Async.run_bind]
  rfl

theorem run_collect_succ (limit : Nat) (feed : Feed) (c : Collector Value) (w : Service) :
    Async.run (collect (limit + 1) feed c) w =
      match c.visit feed.elements (feed.hasMore w) with
      | .resolved answer => (answer, w)
      | .probing c => Async.run (probe feed c) w
      | .wanting c => (Async.run feed.fetch >>= fun next => Async.run (collect limit next c))
          (w.noted (.fetchingNext c.pageNumber c.filled c.request.size)) := by
  rw [collect, Async.run_bind]
  show Async.run (match c.visit feed.elements (feed.hasMore w) with
    | .resolved answer => (Act.ofExcept answer : Later (Page Value))
    | .probing c => probe feed c
    | .wanting c => advance feed c >>= fun next => collect limit next c) w = _
  cases c.visit feed.elements (feed.hasMore w) with
  | resolved answer => rfl
  | probing c => rfl
  | wanting c =>
    simp only [Async.run_bind, advance]
    rfl

end Pager

namespace Simulation

variable (sim : Simulation)

/-- **Collecting is resolving what is delivered.** -/
theorem run_collect {limit n : Nat} {w : Service} {feed : Feed} {d : Delivery Value}
    (hserves : sim.serves n w feed d) (hlimit : d.size ≤ limit) (c : Collector Value) :
    ∃ v, Async.run (Pager.collect limit feed c) w = (d.resolve c, v) ∧
      sim.leaves (n + d.fetches c) v := by
  -- the limit is never used up, because no more pages are visited than are delivered
  induction limit generalizing n w feed d c with
  | zero =>
    obtain ⟨_, next, rfl⟩ := sim.view hserves
    exact absurd hlimit (Nat.not_succ_le_zero _)
  | succ limit ih =>
    obtain ⟨hleaves, next, rfl⟩ := sim.view hserves
    rw [Pager.run_collect_succ, Delivery.resolve, Delivery.fetches]
    rcases hvisit : c.visit feed.elements (feed.hasMore w) with answer | c' | c'
    · -- the page received decides the call
      exact ⟨w, rfl, hleaves⟩
    · -- one more page is fetched, and only whether it is empty matters
      have hmore : feed.hasMore w = true := Collector.hasMore_of_probing hvisit
      have hnoted := sim.noted .fetchingTrail hserves
      simp only [Pager.run_probe]
      cases next with
      | failure fault =>
        obtain ⟨v, hfetch, hv⟩ := sim.fetch_error hnoted hmore
        exact ⟨v, Action.bind_of_error hfetch, hv⟩
      | page elements' more' next =>
        obtain ⟨feed', v, hfetch, hserves'⟩ := sim.fetch_ok hnoted hmore
        obtain ⟨hv, next', heq⟩ := sim.view hserves'
        injection heq with helements
        rw [Action.bind_of_ok hfetch]
        exact ⟨v, by rw [Delivery.probe, helements]; rfl, hv⟩
    · -- the next page is fetched and visited in turn
      have hmore : feed.hasMore w = true := Collector.hasMore_of_wanting hvisit
      have hnoted := sim.noted (.fetchingNext c'.pageNumber c'.filled c'.request.size) hserves
      cases next with
      | failure fault =>
        obtain ⟨v, hfetch, hv⟩ := sim.fetch_error hnoted hmore
        exact ⟨v, Action.bind_of_error hfetch, hv⟩
      | page elements' more' next =>
        obtain ⟨feed', v, hfetch, hserves'⟩ := sim.fetch_ok hnoted hmore
        obtain ⟨u, hrun, hu⟩ := ih hserves' (Nat.le_of_succ_le_succ hlimit) c'
        refine ⟨u, (Action.bind_of_ok hfetch).trans hrun, ?_⟩
        rw [Nat.add_assoc, Nat.add_comm 1] at hu
        exact hu

end Simulation

end Paging
