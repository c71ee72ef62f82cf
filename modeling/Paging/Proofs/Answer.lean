import Paging.Proofs.Delivery
import Paging.Proofs.Tracing.Containment

/-!
# Paging.Proofs.Answer — what asking for a page answers

The calls of a pager check the request, read the page and tell of themselves.  In a discreet state
only the reading matters: a page of a stream is what reading the stream comes to (`fst_getPage`), so
that arithmetic gives it, and a page of a feed is what resolving its delivery comes to
(`fst_awaitPage`).
-/

namespace Paging

open Tracing

theorem Service.TellsLike.noted {v w : Service} (h : v.TellsLike w) (notice : Notice) :
    (v.noted notice).TellsLike w :=
  ⟨h.tracing, h.listeners, h.exporter, h.clock⟩

theorem Service.TellsLike.contact {v w : Service} (h : v.TellsLike w) (contact : Contact) :
    (Service.contact contact v).2.TellsLike w :=
  ⟨h.tracing, h.listeners, h.exporter, h.clock⟩

/-- The stream that is read when a page of a source is asked for. -/
def Source.stream (w : Service) : Source → Stream Value
  | fresh s => s
  | shared i => (w.tap i).stream

namespace Pager

variable {w : Service} (p : Pager) (r : Request)

/-! ## Pages of streams -/

theorem fst_read (source : Source) (w : Service) :
    (p.read r source w).1 = ((source.stream w).page p.strategy r).1 := by
  cases source <;> rfl

theorem tellsLike_read (source : Source) (w : Service) : (p.read r source w).2.TellsLike w := by
  cases source <;> exact ⟨rfl, rfl, rfl, rfl⟩

/-- In a discreet state the page that is read is the answer. -/
theorem fst_getPage (hw : w.Discreet) (source : Source) :
    (p.getPage (some source) r.target r.size w).1 =
      ((source.stream w).page p.strategy r).1 := by
  have hrequest : request (some source) r.target r.size = .ok (source, r) := by
    rw [request, Request.check_self]
    rfl
  have hserve := fst_serve calm_emit hw p.strategy r (tellsLike_read p r source (begin w).2)
  have hstream : source.stream (begin w).2 = source.stream w := by
    rw [snd_begin]
    cases source <;> rfl
  rw [fst_read, hstream] at hserve
  rw [← hserve, getPage, hrequest]
  rfl

/-- Asking for a page of a stream leaves a discreet state behind. -/
theorem discreet_getPage (hw : w.Discreet) (source : Source) :
    (p.getPage (some source) r.target r.size w).2.Discreet := by
  have hrequest : request (some source) r.target r.size = .ok (source, r) := by
    rw [request, Request.check_self]
    rfl
  have hserve := discreet_serve calm_emit hw p.strategy r (tellsLike_read p r source (begin w).2)
  rw [getPage, hrequest]
  exact hserve

/-- **The page of a result that ends.**  Counting through the elements and looking one element ahead
gives the slice that arithmetic gives, and a request is refused as out of bounds only under
`Strategy.fail` and only past the last page, with the exact number of elements and pages. -/
theorem getPage_eq_reference (hw : w.Discreet) (source : Source) {xs : List Value}
    (hsource : (source.stream w).Lists xs) :
    (p.getPage (some source) r.target r.size w).1 = Reference.page p.strategy r xs ∧
    ∀ fault, (p.getPage (some source) r.target r.size w).1 = .error fault ↔
      p.strategy = .fail ∧ Reference.pageCount xs.length r.size < r.target ∧
        fault = .outOfBounds
          ⟨r.target, xs.length, Reference.pageCount xs.length r.size, r.size⟩ := by
  have hpage : (p.getPage (some source) r.target r.size w).1 = Reference.page p.strategy r xs := by
    rw [fst_getPage p r hw source, Stream.page_of_lists hsource]
  refine ⟨hpage, ?_⟩
  intro fault
  rw [hpage]
  exact Reference.page_eq_error_iff

/-- Three elements make two pages of two, whatever the elements are and whoever listens. -/
theorem getPage_eq_reference_of_three :
    Service.complaining.Discreet ∧
    ((Source.fresh (.ofList [.null, .int 1, .null])).stream Service.complaining).Lists
      [.null, .int 1, .null] ∧
    (getPage ⟨.fail⟩ (some (.fresh (.ofList [.null, .int 1, .null]))) 3 2
      Service.complaining).1 = .error (.outOfBounds ⟨3, 3, 2, 2⟩) :=
  ⟨Service.discreet_complaining, Stream.lists_ofList _,
    (getPage_eq_reference ⟨.fail⟩ ⟨3, 2, by decide, by decide⟩ Service.discreet_complaining
      (.fresh (.ofList [.null, .int 1, .null])) (Stream.lists_ofList _)).1.trans rfl⟩

/-! ## Pages of feeds -/

/-- Asks for a page of a feed and runs the call to its end. -/
def awaitPage (source : Option Feed) (target size : Int) : Act (Page Value) := do
  let call ← Act.ofExcept (p.getPageLater source target size)
  Async.run call

/-- A request that is refused is refused for streams and feeds alike, before they are touched. -/
theorem getPage_of_check_error {target size : Int} {fault : Fault}
    (h : Request.check target size = .error fault) (source : Source) :
    p.getPage (some source) target size w = (.error fault, w) := by
  have hrequest : request (some source) target size = .error fault := by
    rw [request, h]
    rfl
  rw [getPage, hrequest]
  rfl

theorem awaitPage_of_check_error {target size : Int} {fault : Fault}
    (h : Request.check target size = .error fault) (feed : Feed) :
    p.awaitPage (some feed) target size w = (.error fault, w) := by
  have hcall : p.getPageLater (some feed) target size = .error fault := by
    rw [getPageLater, request, h]
    rfl
  rw [awaitPage, hcall]
  rfl

theorem run_readFeed (feed : Feed) (w : Service) :
    Async.run (p.readFeed r feed) w =
      Async.run (collect (feed.horizon w + 1) feed (.start p.strategy r)) w := by
  rw [readFeed, Async.run_bind]
  rfl

theorem run_serveFeed (feed : Feed) :
    Async.run (p.serveFeed r feed) =
      (follow emit (p.feedCall r) (Async.run (p.readFeed r feed)) >>= fun page => do
        logResolved r page
        pure page) := by
  rw [serveFeed, Async.run_bind, run_followLater]
  rfl

/-- A request that passes its check is resolved from the feed. -/
theorem awaitPage_eq_run (feed : Feed) :
    p.awaitPage (some feed) r.target r.size = Async.run (p.serveFeed r feed) := by
  have hcall : p.getPageLater (some feed) r.target r.size = .ok (p.serveFeed r feed) := by
    rw [getPageLater, request, Request.check_self]
    rfl
  rw [awaitPage, hcall]
  rfl

section Delivered

variable (hw : w.Discreet) (sim : Simulation) {feed : Feed} {d : Delivery Value}
  (hserves : sim.serves 0 (begin w).2 feed d)
  (hlimit : d.size ≤ feed.horizon (begin w).2 + 1)
  (hleaves : ∀ n v, sim.leaves n v → v.TellsLike (begin w).2)

include hserves hlimit hleaves

/-- Reading what a feed delivers leaves alone what telling of the call needs. -/
theorem run_readFeed_of_serves :
    ∃ v, Async.run (p.readFeed r feed) (begin w).2 = (d.resolve (.start p.strategy r), v) ∧
      v.TellsLike (begin w).2 := by
  obtain ⟨v, hrun, hv⟩ := sim.run_collect hserves hlimit (.start p.strategy r)
  rw [← run_readFeed] at hrun
  exact ⟨v, hrun, hleaves _ v hv⟩

include hw

/-- In a discreet state the page that comes of what a feed delivers is the answer. -/
theorem fst_awaitPage :
    (p.awaitPage (some feed) r.target r.size w).1 = d.resolve (.start p.strategy r) := by
  obtain ⟨v, hrun, hv⟩ := p.run_readFeed_of_serves r sim hserves hlimit hleaves
  have hbody : (Async.run (p.readFeed r feed) (begin w).2).2.TellsLike (begin w).2 := by
    rw [hrun]
    exact hv
  -- telling of the call does not change the outcome
  have hfollow := fst_follow calm_emit hw (p.feedCall r) hbody
  rw [hrun] at hfollow
  rw [awaitPage_eq_run, run_serveFeed]
  exact (fst_logResolved r _ w).trans hfollow

/-- Asking for a page of a feed leaves a discreet state behind. -/
theorem discreet_awaitPage : (p.awaitPage (some feed) r.target r.size w).2.Discreet := by
  obtain ⟨v, hrun, hv⟩ := p.run_readFeed_of_serves r sim hserves hlimit hleaves
  have hbody : (Async.run (p.readFeed r feed) (begin w).2).2.TellsLike (begin w).2 := by
    rw [hrun]
    exact hv
  rw [awaitPage_eq_run, run_serveFeed]
  exact (tellsLike_logResolved r _ w).discreet (discreet_follow calm_emit hw _ hbody)

end Delivered

end Pager

end Paging
