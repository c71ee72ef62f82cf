import Paging.Proofs.Answer
import Paging.Proofs.Effect.Always
import Paging.Proofs.Tracing.Aside

/-!
# Paging.Proofs.Traffic — what asking for a page does to its source

Only the reading of a page deals with sources and servers; checking the request and telling of the
call do not.  So a call on a feed leaves them as the reading does (`suppliesLike_awaitPage`), in every
state in which the call can begin, and if it cannot begin it leaves them untouched
(`suppliesLike_awaitPage_of_error`).  The same holds of a call that is resumed in any way: it keeps
what each of its fetches keeps (`Feed.Keeps.always_serveFeed`).
-/

namespace Paging

open Tracing

/-- What comes after an action and is aside leaves sources and servers as the action does. -/
theorem Act.Aside.after {α β : Type} {f : α → Act β} (hf : ∀ a, Act.Aside (f a)) (x : Act α)
    (w : Service) : ((x >>= f) w).2.SuppliesLike (x w).2 := by
  rw [Action.bind_apply]
  rcases x w with ⟨result, v⟩
  cases result with
  | ok a => exact hf a v
  | error fault => exact .refl v

theorem aside_logResolved (r : Request) (page : Page Value) : Act.Aside (logResolved r page) :=
  Service.aside_notice _

namespace Tracing

variable {emit : Emitter} {w : Service}

/-- Following a call that can begin leaves sources and servers as its body does. -/
theorem suppliesLike_follow (hemit : AsideEmitter emit) (call : Call) (body : Act (Page Value))
    {start : Option Rat} (hbegin : (begin w).1 = .ok start) :
    (follow emit call body w).2.SuppliesLike (body (begin w).2).2 := by
  have hbegin : begin w = (.ok start, (begin w).2) := Prod.ext hbegin rfl
  rw [follow, Action.bind_of_ok hbegin, Action.bind_of_ok (Action.attempt_apply body _)]
  exact aside_report hemit call start _ _

/-- A call that cannot begin is not made. -/
theorem suppliesLike_follow_of_error (emit : Emitter) (call : Call) (body : Act (Page Value))
    {fault : Fault} (hbegin : (begin w).1 = .error fault) :
    (follow emit call body w).2.SuppliesLike w := by
  have herror : begin w = (.error fault, (begin w).2) := Prod.ext hbegin rfl
  rw [follow, Action.bind_of_error herror]
  exact aside_begin w

/-- In a discreet state every call can begin. -/
theorem exists_begin_of_discreet (hw : w.Discreet) : ∃ start, (begin w).1 = .ok start := by
  obtain ⟨start, hstart, _⟩ := conclude_of_discreet calm_emit hw ⟨"", 0, 0, .fail⟩
  exact ⟨start, hstart⟩

end Tracing

namespace Pager

variable (p : Pager) (r : Request) (feed : Feed) (w : Service)

/-- **A call on a stream leaves sources and servers as the reading of the page does.** -/
theorem suppliesLike_getPage (source : Source) {start : Option Rat}
    (hbegin : (begin w).1 = .ok start) :
    (p.getPage (some source) r.target r.size w).2.SuppliesLike
      (p.read r source (begin w).2).2 := by
  have hrequest : request (some source) r.target r.size = .ok (source, r) := by
    rw [request, Request.check_self]
    rfl
  have hserve : (serve emit p.strategy r (p.read r source) w).2.SuppliesLike
      (follow emit (r.pullCall p.strategy) (p.read r source) w).2 := by
    apply Act.Aside.after
    intro page
    exact (aside_logResolved r page).bind fun _ => Act.aside_pure page
  rw [getPage, hrequest]
  exact hserve.trans (suppliesLike_follow aside_emit _ _ hbegin)

theorem suppliesLike_awaitPage_follow :
    (p.awaitPage (some feed) r.target r.size w).2.SuppliesLike
      (follow emit (p.feedCall r) (Async.run (p.readFeed r feed)) w).2 := by
  rw [awaitPage_eq_run, run_serveFeed]
  apply Act.Aside.after
  intro page
  exact (aside_logResolved r page).bind fun _ => Act.aside_pure page

/-- **A call on a feed leaves sources and servers as the reading of the page does.** -/
theorem suppliesLike_awaitPage {start : Option Rat} (hbegin : (begin w).1 = .ok start) :
    (p.awaitPage (some feed) r.target r.size w).2.SuppliesLike
      (Async.run (p.readFeed r feed) (begin w).2).2 :=
  (p.suppliesLike_awaitPage_follow r feed w).trans (suppliesLike_follow aside_emit _ _ hbegin)

theorem suppliesLike_awaitPage_of_error {fault : Fault} (hbegin : (begin w).1 = .error fault) :
    (p.awaitPage (some feed) r.target r.size w).2.SuppliesLike w :=
  (p.suppliesLike_awaitPage_follow r feed w).trans (suppliesLike_follow_of_error emit _ _ hbegin)

end Pager

/-! ## What a call keeps however it is resumed -/

/-- A property of states, and of the signals with which they were arrived at, that tracing does not
touch and that fetching keeps up, whatever comes of it, on the feeds that belong together. -/
structure Feed.Keeps (Own : Feed → Prop) (Inv : List (Option Fault) → Service → Prop) : Prop where
  aside : ∀ {used : List (Option Fault)} {u v : Service}, Inv used v → u.SuppliesLike v → Inv used u
  fetch : ∀ {used : List (Option Fault)} {feed : Feed} {v : Service}, Own feed → Inv used v →
    (feed.fetch v).Always used fun used r u => Inv used u ∧ ∀ next, r = .ok next → Own next

namespace Feed.Keeps

variable {Own : Feed → Prop} {Inv : List (Option Fault) → Service → Prop} {feed : Feed}
  {used : List (Option Fault)} {v : Service}

theorem always_aside {α : Type} (h : Feed.Keeps Own Inv) {x : Act α} (hx : Act.Aside x)
    (hv : Inv used v) : (Async.ofAction x v).Always used fun used _ u => Inv used u :=
  h.aside hv (hx v)

theorem always_probe (h : Feed.Keeps Own Inv) (c : Collector Value) (hown : Own feed)
    (hv : Inv used v) : (Pager.probe feed c v).Always used fun used _ u => Inv used u := by
  apply Async.always_bind (h.always_aside (Service.aside_notice _) hv)
  · intro used _ t ht
    apply Async.always_bind (h.fetch hown ht)
    · intro used next u hu
      exact hu.1
    · intro used fault u hu
      exact hu.1
  · exact fun _ _ _ ht => ht

theorem always_advance (h : Feed.Keeps Own Inv) (c : Collector Value) (hown : Own feed)
    (hv : Inv used v) : (Pager.advance feed c v).Always used fun used r u =>
      Inv used u ∧ ∀ next, r = .ok next → Own next := by
  apply Async.always_bind_update
  exact h.fetch hown (h.aside hv (Service.aside_notice _ v))

theorem always_collect (h : Feed.Keeps Own Inv) (limit : Nat) (c : Collector Value)
    (hown : Own feed) (hv : Inv used v) :
    (Pager.collect limit feed c v).Always used fun used _ u => Inv used u := by
  induction limit generalizing feed c used v with
  | zero => exact hv
  | succ limit ih =>
    apply Async.always_bind_state
    cases c.visit feed.elements (feed.hasMore v) with
    | resolved answer => exact hv
    | probing c => exact h.always_probe c hown hv
    | wanting c =>
      apply Async.always_bind (h.always_advance c hown hv)
      · rintro used next u ⟨hu, hnext⟩
        exact ih c (hnext next rfl) hu
      · rintro used fault u ⟨hu, _⟩
        exact hu

/-- **A call keeps what its fetches keep**, however each of them ends and whatever is told of it. -/
theorem always_serveFeed (h : Feed.Keeps Own Inv) (p : Pager) (r : Request) (hown : Own feed)
    (hv : Inv used v) : (p.serveFeed r feed v).Always used fun used _ u => Inv used u := by
  have hread : ∀ {used t}, Inv used t →
      (p.readFeed r feed t).Always used fun used _ u => Inv used u := by
    intro used t ht
    apply Async.always_bind_state
    exact h.always_collect _ _ hown ht
  have hfollow : (followLater emit (p.feedCall r) (p.readFeed r feed) v).Always used
      fun used _ u => Inv used u := by
    apply Async.always_bind (h.always_aside aside_begin hv)
    · intro used start t ht
      apply Async.always_bind (P := fun used _ u => Inv used u) (Async.always_attempt (hread ht))
      · intro used outcome u hu
        exact h.always_aside (aside_report aside_emit _ start outcome) hu
      · exact fun _ _ _ hu => hu
    · exact fun _ _ _ ht => ht
  apply Async.always_bind hfollow
  · intro used page t ht
    apply Async.always_bind (h.always_aside (aside_logResolved r page) ht)
    · exact fun _ _ _ hu => hu
    · exact fun _ _ _ hu => hu
  · exact fun _ _ _ ht => ht

end Feed.Keeps

end Paging
