import Paging.Proofs.Chain.Answer
import Paging.Proofs.Traffic

/-!
# Paging.Proofs.Chain.Fetches — which pages of a chain are fetched

Where the page asked for falls on a chain decides which fetch is the last one (`Chain.LastFetch`):
the page is looked for no further than where it ends, except that one more page is fetched when it
ends together with its page of the chain and more are announced.  If all fetches up to that one
succeed they are all made (`fetches_delivery_of_arrived`); the first that fails ends the call
(`delivery_of_lost`).  Either way the fetches are made in order and each once.
-/

namespace Paging

namespace Chain

variable {α : Type} {c : Chain α} {r : Request} {k l : Nat}

/-! ## The last fetch -/

/-- The number of the last page that is fetched for a request if no fetch fails; page zero has been
received before. -/
inductive LastFetch (c : Chain α) (r : Request) : Nat → Prop
  /-- The page asked for ends on page `k`, and elements follow on it or no more is announced. -/
  | inside {k : Nat} (completes : c.Completes r k)
      (decided : r.reach < (c.before (k + 1)).length ∨ c.hasMore k = false) : LastFetch c r k
  /-- The page asked for ends together with page `k`, and more are announced. -/
  | trail {k : Nat} (completes : c.Completes r k) (ends : (c.before (k + 1)).length = r.reach)
      (announced : c.hasMore k = true) : LastFetch c r (k + 1)
  /-- The page asked for ends nowhere. -/
  | ending (nowhere : ∀ k, ¬ c.Completes r k) : LastFetch c r c.ending

theorem exists_lastFetch (c : Chain α) (r : Request) : ∃ k, c.LastFetch r k := by
  by_cases hends : ∃ k, c.Completes r k
  · obtain ⟨k, hk⟩ := hends
    rcases Nat.lt_or_eq_of_le hk.reached with hinside | hends
    · exact ⟨k, .inside hk (.inl hinside)⟩
    · cases hmore : c.hasMore k with
      | false => exact ⟨k, .inside hk (.inr hmore)⟩
      | true => exact ⟨k + 1, .trail hk hends.symm hmore⟩
  · exact ⟨c.ending, .ending fun k hk => hends ⟨k, hk⟩⟩

/-- A page that ends on page `k` in one way does not end on it in the other. -/
theorem Completes.not_decided (ends : (c.before (k + 1)).length = r.reach)
    (announced : c.hasMore k = true) :
    ¬ (r.reach < (c.before (k + 1)).length ∨ c.hasMore k = false) := by
  rw [ends, announced]
  simp

theorem LastFetch.unique (hk : c.LastFetch r k) (hl : c.LastFetch r l) : k = l := by
  cases hk with
  | inside hk hdecided =>
    cases hl with
    | inside hl _ => exact hk.unique hl
    | trail hl hends hmore =>
      obtain rfl := hk.unique hl
      exact absurd hdecided (Completes.not_decided hends hmore)
    | ending hnone => exact absurd hk (hnone _)
  | trail hk hends hmore =>
    cases hl with
    | inside hl hdecided =>
      obtain rfl := hk.unique hl
      exact absurd hdecided (Completes.not_decided hends hmore)
    | trail hl _ _ => rw [hk.unique hl]
    | ending hnone => exact absurd hk (hnone _)
  | ending hnone =>
    cases hl with
    | inside hl _ => exact absurd hl (hnone _)
    | trail hl _ _ => exact absurd hl (hnone _)
    | ending _ => rfl

/-- Every page up to the last that is fetched is needed. -/
theorem LastFetch.needs (h : c.LastFetch r k) {i : Nat} (hi : i ≤ k) : c.Needs r i := by
  cases h with
  | inside hk _ => exact hk.needs hi
  | @trail k hk hends hmore =>
    rcases Nat.lt_or_eq_of_le hi with hlt | rfl
    · exact hk.needs (Nat.le_of_lt_succ hlt)
    · exact hk.needs_succ hmore hends
  | ending hnone => exact needs_of_not_completes hnone hi

/-- Before a page that is needed the page asked for is open. -/
theorem Needs.open (h : c.Needs r (k + 1)) : (c.before k).length < r.reach := by
  rcases h.open_or_ended with hopen | ⟨_, hopen⟩
  · exact Nat.lt_of_le_of_lt (c.length_before_le (Nat.le_succ k)) hopen
  · exact hopen

/-- A page that ends the page asked for has elements. -/
theorem elements_ne_nil (hopen : (c.before k).length < r.reach)
    (hends : (c.before (k + 1)).length = r.reach) : c.elements k ≠ [] := by
  intro hnil
  rw [before_succ, hnil, List.append_nil] at hends
  omega

/-! ## Fetching what is delivered -/

variable {strategy : Strategy} {fault : Fault}

/-- Walking over pages that do not hold enough elements costs one fetch each. -/
theorem fetches_delivery_of_needed (hmore : ∀ i < k, c.hasMore i = true)
    (hok : ∀ i < k, c.arrival (i + 1) = .ok ()) (hopen : (c.before k).length < r.reach) :
    (c.delivery 0).fetches (.start strategy r) =
      k + (c.delivery k).fetches (.after strategy r (c.before k)) := by
  induction k with
  | zero => rw [before_zero, Collector.start_eq_after, Nat.zero_add]
  | succ k ih =>
    have hshort := Nat.lt_of_le_of_lt (c.length_before_le (Nat.le_succ k)) hopen
    rw [ih (fun i hi => hmore i (Nat.lt_succ_of_lt hi)) (fun i hi => hok i (Nat.lt_succ_of_lt hi))
      hshort, delivery_of_ok c (hok k (Nat.lt_succ_self k)), hmore k (Nat.lt_succ_self k)]
    rw [before_succ] at hopen ⊢
    rw [Delivery.fetches_of_lt hopen]
    omega

/-- If every fetch up to the last one succeeds, so many fetches are made. -/
theorem fetches_delivery_of_arrived (h : c.LastFetch r k)
    (hok : ∀ i < k, c.arrival (i + 1) = .ok ()) :
    (c.delivery 0).fetches (.start strategy r) = k := by
  cases h with
  | inside hk hdecided =>
    -- nothing is fetched after the page on which the page asked for ends
    obtain ⟨next, hnext⟩ := c.exists_delivery_eq k
    rw [fetches_delivery_of_needed hk.announced hok hk.short, hnext]
    rcases hdecided with hinside | hlast
    · rw [before_succ] at hinside
      rw [Delivery.fetches_of_gt _ hk.short hinside, Nat.add_zero]
    · rw [hlast, Delivery.fetches_last, Nat.add_zero]
  | @trail k hk hends hmore =>
    -- the page after it is fetched, and nothing more
    obtain ⟨next, hnext⟩ := c.exists_delivery_eq k
    have hne := elements_ne_nil hk.short hends
    rw [before_succ] at hends
    rw [fetches_delivery_of_needed hk.announced (fun i hi => hok i (Nat.lt_succ_of_lt hi)) hk.short,
      hnext, hmore, Delivery.fetches_of_eq hne hends]
  | ending hnone =>
    -- nothing is fetched after the page that announces no more
    obtain ⟨next, hnext⟩ := c.exists_delivery_eq c.ending
    have hshort : (c.before (c.ending + 1)).length < r.reach := length_visible_lt hnone
    have hopen := Nat.lt_of_le_of_lt (c.length_before_le (Nat.le_succ c.ending)) hshort
    rw [fetches_delivery_of_needed (fun i => c.hasMore_of_lt_ending) hok hopen, hnext,
      hasMore_ending, Delivery.fetches_last, Nat.add_zero]

/-- The first page that is needed and cannot be fetched is fetched in vain, and its fault is what
comes of the delivery. -/
theorem delivery_of_lost (strategy : Strategy) (hneeds : c.Needs r (k + 1))
    (hok : ∀ i < k, c.arrival (i + 1) = .ok ()) (hlost : c.arrival (k + 1) = .error fault) :
    (c.delivery 0).resolve (.start strategy r) = .error fault ∧
      (c.delivery 0).fetches (.start strategy r) = k + 1 := by
  have hmore := hneeds.announced k (Nat.lt_succ_self k)
  have hannounced : ∀ i < k, c.hasMore i = true :=
    fun i hi => hneeds.announced i (Nat.lt_succ_of_lt hi)
  rw [resolve_delivery_of_needed c hannounced hok hneeds.open,
    fetches_delivery_of_needed hannounced hok hneeds.open, delivery_of_error c hlost, hmore]
  rcases hneeds.open_or_ended with hopen | ⟨hends, _⟩
  · -- the page asked for goes on after page `k`
    rw [before_succ] at hopen
    rw [Delivery.resolve_of_lt hopen, Delivery.fetches_of_lt hopen]
    exact ⟨rfl, rfl⟩
  · -- it ends with page `k`, and the lost page was to show whether anything follows
    have hne := elements_ne_nil hneeds.open hends
    rw [before_succ] at hends
    rw [Delivery.resolve_of_eq hne hends, Delivery.fetches_of_eq hne hends]
    exact ⟨rfl, rfl⟩

/-- Either the first pages all arrive, or one of them is the first that does not. -/
theorem all_arrive_or_exists_lost (c : Chain α) (k : Nat) :
    (∀ i < k, c.arrival (i + 1) = .ok ()) ∨
      ∃ n < k, (∀ i < n, c.arrival (i + 1) = .ok ()) ∧ ∃ fault, c.arrival (n + 1) = .error fault := by
  induction k with
  | zero => exact .inl fun i hi => absurd hi (Nat.not_lt_zero i)
  | succ k ih =>
    rcases ih with hall | ⟨n, hn, hfirst⟩
    · cases h : c.arrival (k + 1) with
      | ok =>
        left
        intro i hi
        rcases Nat.lt_succ_iff_lt_or_eq.1 hi with hlt | rfl
        · exact hall i hlt
        · exact h
      | error fault => exact .inr ⟨k, Nat.lt_succ_self k, hall, fault, h⟩
    · exact .inr ⟨n, Nat.lt_succ_of_lt hn, hfirst⟩

end Chain

namespace Pager

open Tracing

variable (p : Pager) (r : Request) (c : Chain Value)

/-- A call on a chain that can begin makes the fetches that its delivery takes, and no other contact
with a source. -/
theorem traffic_awaitPage_chain {w : Service} {start : Option Rat}
    (hbegin : (begin w).1 = .ok start) :
    (p.awaitPage (some (.chain c 0)) r.target r.size w).2.traffic =
      w.traffic ++
        (List.range' 1 ((c.delivery 0).fetches (.start p.strategy r))).map Contact.fetch := by
  have hserves : (c.simulation (begin w).2).serves 0 (begin w).2 (.chain c 0) (c.delivery 0) := by
    refine ⟨rfl, rfl, .refl _, ?_⟩
    rw [List.range'_zero, List.map_nil, List.append_nil]
  obtain ⟨v, hrun, hfetched⟩ := (c.simulation (begin w).2).run_collect hserves
    (c.size_delivery 0) (.start p.strategy r)
  rw [Nat.zero_add] at hfetched
  have hread : (Async.run (p.readFeed r (.chain c 0)) (begin w).2).2 = v := by
    rw [run_readFeed]
    exact congrArg Prod.snd hrun
  have hleaves := p.suppliesLike_awaitPage r (.chain c 0) w hbegin
  rw [hread] at hleaves
  rw [hleaves.traffic, ← (aside_begin w).traffic, Service.traffic, hfetched.contacts,
    List.filter_append]
  congr 1
  apply List.filter_eq_self.2
  intro contact hcontact
  obtain ⟨i, _, rfl⟩ := List.mem_map.1 hcontact
  rfl

/-- **Exactly the fetches that are needed.**  The fetches of a call are the first pages after the
one received, in order and each once, up to the last fetch of the request or to the first that
fails.  In a discreet state nothing but a failing fetch keeps the call from reaching the last one,
and the fault of that fetch is then the outcome, also when the page was only to show whether anything
follows. -/
theorem fetches_awaitPage_chain :
    ∃ k, c.LastFetch r k ∧ ∀ w : Service, ∃ n ≤ k,
      (p.awaitPage (some (.chain c 0)) r.target r.size w).2.traffic =
        w.traffic ++ (List.range' 1 n).map Contact.fetch ∧
      (∀ i, 1 ≤ i → i < n → c.arrival i = .ok ()) ∧
      (w.Discreet →
        (n = k ∧ ∀ i, 1 ≤ i → i ≤ k → c.arrival i = .ok ()) ∨
        1 ≤ n ∧ ∃ fault, c.arrival n = .error fault ∧
          (p.awaitPage (some (.chain c 0)) r.target r.size w).1 = .error fault) := by
  obtain ⟨k, hk⟩ := c.exists_lastFetch r
  refine ⟨k, hk, fun w => ?_⟩
  cases hbegin : (begin w).1 with
  | error fault =>
    -- a call that cannot begin fetches nothing
    have hleaves := p.suppliesLike_awaitPage_of_error r (.chain c 0) w hbegin
    refine ⟨0, Nat.zero_le k, ?_, fun i hi hlt => by omega, fun hw => ?_⟩
    · rw [hleaves.traffic, List.range'_zero, List.map_nil, List.append_nil]
    · obtain ⟨start, hstart⟩ := exists_begin_of_discreet hw
      rw [hbegin] at hstart
      cases hstart
  | ok start =>
    have htraffic := p.traffic_awaitPage_chain r c hbegin
    rcases c.all_arrive_or_exists_lost k with hall | ⟨n, hn, hfirst, fault, hlost⟩
    · -- every fetch up to the last succeeds
      rw [Chain.fetches_delivery_of_arrived hk hall] at htraffic
      have harrives : ∀ i, 1 ≤ i → i ≤ k → c.arrival i = .ok () := by
        intro i hone hle
        obtain ⟨j, rfl⟩ : ∃ j, i = j + 1 := ⟨i - 1, by omega⟩
        exact hall j hle
      exact ⟨k, Nat.le_refl k, htraffic, fun i hone hlt => harrives i hone (Nat.le_of_lt hlt),
        fun _ => .inl ⟨rfl, harrives⟩⟩
    · -- fetch `n + 1` is the first that fails
      obtain ⟨hresolve, hfetches⟩ :=
        Chain.delivery_of_lost p.strategy (hk.needs (Nat.succ_le_of_lt hn)) hfirst hlost
      rw [hfetches] at htraffic
      refine ⟨n + 1, hn, htraffic, ?_, fun hw => .inr ⟨Nat.le_add_left 1 n, fault, hlost, ?_⟩⟩
      · intro i hone hlt
        obtain ⟨j, rfl⟩ : ∃ j, i = j + 1 := ⟨i - 1, by omega⟩
        exact hfirst j (Nat.lt_of_succ_lt_succ hlt)
      · rw [fst_awaitPage_chain p r c hw, hresolve]

/-- A chain whose second page shows whether anything follows the first, but cannot be fetched because
the task is cancelled while it waits for it. -/
def lostTrail : Chain Value where
  pages := [{ elements := [.int 1] }, { elements := [.int 2], failure := some .cancellation }]

/-- The first page of one ends with the first page of the chain: one fetch is made, and its fault is
the outcome. -/
theorem fetches_awaitPage_chain_of_lostTrail :
    Service.complaining.Discreet ∧ lostTrail.LastFetch ⟨1, 1, by decide, by decide⟩ 1 ∧
    (awaitPage ⟨.fail⟩ (some (.chain lostTrail 0)) 1 1 Service.complaining).1 =
      .error .cancellation ∧
    (awaitPage ⟨.fail⟩ (some (.chain lostTrail 0)) 1 1 Service.complaining).2.traffic =
      [.fetch 1] := by
  have hends : lostTrail.Completes ⟨1, 1, by decide, by decide⟩ 0 :=
    ⟨by decide, by decide, by decide⟩
  have hlast : lostTrail.LastFetch ⟨1, 1, by decide, by decide⟩ 1 := .trail hends rfl rfl
  refine ⟨Service.discreet_complaining, hlast, ?_⟩
  obtain ⟨k, hk, hcalls⟩ :=
    fetches_awaitPage_chain ⟨.fail⟩ ⟨1, 1, by decide, by decide⟩ lostTrail
  obtain rfl := hk.unique hlast
  obtain ⟨n, hn, htraffic, _, houtcome⟩ := hcalls Service.complaining
  rcases houtcome Service.discreet_complaining with ⟨_, hall⟩ | ⟨hone, fault, hlost, hfault⟩
  · cases hall 1 (Nat.le_refl 1) (Nat.le_refl 1)
  · obtain rfl : n = 1 := Nat.le_antisymm hn hone
    cases hlost
    exact ⟨hfault, htraffic⟩

end Pager

end Paging
