import Paging.Proofs.Chunked
import Paging.Proofs.Settings
import Paging.Web.Endpoint

/-!
# Paging.Proofs.Endpoint — endpoints reject no page and no size

An endpoint brings the page number and the size it is given into range, resolves that page and makes a
response of it.  The size is brought down to the largest one after it has been brought up to one, so
that only valid settings keep it at least one; but no change of the settings makes them invalid
(`Service.valid_history`).  So what an endpoint asks for always passes its check
(`Params.Fits.exists_request`), arithmetic says what comes of it (`Endpoint.fst_resolve`), and all that
is left to go wrong is a page past the end.
-/

namespace Paging

namespace Service

/-- A change of the settings leaves alone what telling of calls needs. -/
theorem tellsLike_changed (w : Service) (change : Settings.Change) :
    (w.changed change).TellsLike w := by
  cases change with
  | configure values =>
    obtain ⟨new, _, hmade⟩ | ⟨fault, hrefused⟩ := configure_cases values w
    · rw [changed, hmade]
      exact ⟨rfl, rfl, rfl, rfl⟩
    · rw [changed, hrefused]
      exact .refl w
  | reset => exact ⟨rfl, rfl, rfl, rfl⟩

theorem tellsLike_history (w : Service) (changes : List Settings.Change) :
    (changes.foldl changed w).TellsLike w := by
  induction changes generalizing w with
  | nil => exact .refl w
  | cons change rest ih => exact (ih (w.changed change)).trans (tellsLike_changed w change)

end Service

namespace Web

/-! ## Parameters in range -/

namespace Params

variable {params : Params} {s : Settings} {page : Int} {size : Option Int}

/-- A page number and a size are in the range that the settings allow, and are the ones that were given
as far as these are. -/
structure Fits (params : Params) (s : Settings) (page : Int) (size : Option Int) : Prop where
  page_eq : params.page = max 1 page
  one_le_size : 1 ≤ params.size
  size_le_max : params.size ≤ s.maxPageSize
  /-- A size in range is kept. -/
  size_eq : ∀ n, size = some n → 1 ≤ n → n ≤ s.maxPageSize → params.size = n
  /-- A missing size is the default size. -/
  size_default : size = none → params.size = s.defaultPageSize

/-- Under valid settings the upper bound of the size does not undo the lower one. -/
theorem fits_clamp (hs : s.Valid) (page : Int) (size : Option Int) :
    (clamp s page size).Fits s page size := by
  -- the largest size is at least the default one, and so at least one
  have hdefault := hs.one_le_default
  have hmax := hs.default_le_max
  refine ⟨rfl, ?_, ?_, ?_, ?_⟩
  · simp only [clamp]
    omega
  · simp only [clamp]
    omega
  · rintro n rfl hone hle
    simp only [clamp, Option.getD_some]
    omega
  · rintro rfl
    simp only [clamp, Option.getD_none]
    omega

/-- What fits makes a request. -/
theorem Fits.exists_request (h : params.Fits s page size) :
    ∃ r : Request, params = ⟨r.target, r.size⟩ := by
  have hpage : 1 ≤ params.page := by
    rw [h.page_eq]
    omega
  obtain ⟨r, _, htarget, hsize⟩ := Request.check_eq_ok hpage h.one_le_size
  refine ⟨r, ?_⟩
  rw [htarget, hsize]

end Params

/-! ## Answers to faults -/

namespace Answer

variable {x : Act Answer} {w : Service} {answer : Answer}

theorem fst_handle_of_ok (h : (x w).1 = .ok answer) : (handle x w).1 = .ok answer := by
  rw [handle, Action.bind_of_ok (Action.attempt_apply x w), h]
  rfl

/-- A fault with a status is answered. -/
theorem fst_handle_of_error {fault : Fault} (h : (x w).1 = .error fault)
    (hanswer : ofFault? fault = some answer) : (handle x w).1 = .ok answer := by
  rw [handle, Action.bind_of_ok (Action.attempt_apply x w), h]
  simp only [hanswer]
  rfl

end Answer

/-! ## Endpoints -/

/-- The response for a page whose items are of no declared type. -/
theorem Response.ofPage_anything (found : Page Value) (size : Int) :
    ofPage .anything found size = .ok ⟨found.elements, found.number, size, found.isLast,
      !found.isLast, decide (1 < found.number)⟩ := by
  rw [ofPage, readItems_anything]
  rfl

namespace Endpoint

variable {e : Endpoint} {v w : Service} {r : Request} {page : Int} {size : Option Int}

/-- The strategy of an endpoint for pages past the end. -/
def strategy (e : Endpoint) (s : Settings) : Strategy := (e.pager.getD (.ofSettings s)).strategy

/-- Whether its items are read one by one or received in chunks, an endpoint resolves the page of their
list. -/
theorem fst_resolve (e : Endpoint) (hv : v.settings.Valid) (hdiscreet : v.Discreet) (r : Request) :
    (e.resolve ⟨r.target, r.size⟩ v).1 =
      Reference.page (e.strategy v.settings) r e.items := by
  have hresolve : e.resolve ⟨r.target, r.size⟩ v =
      if e.chunked then
        (e.pager.getD (.ofSettings v.settings)).awaitChunked e.items v.settings.fetchSize false
          r.target r.size v
      else (e.pager.getD (.ofSettings v.settings)).getPage
        (some (.fresh (Stream.ofList e.items))) r.target r.size v := by
    -- the settings that are read on the way are those of the state
    show (if e.chunked then _ else _ : Act (Page Value)) v = _
    split <;> rfl
  rw [hresolve]
  split
  · exact Pager.fst_awaitChunked _ r hv.one_le_fetch false hdiscreet e.items
  · rw [Pager.fst_getPage _ r hdiscreet]
    exact Stream.page_of_lists (Stream.lists_ofList e.items)

/-- A response is made of the page that is resolved. -/
theorem fst_respond (e : Endpoint) (page : Int) (size : Option Int) (v : Service) :
    (e.respond page size v).1 =
      ((e.resolve (Params.clamp v.settings page size) v).1 >>= fun found =>
        Response.ofPage e.itemType found (Params.clamp v.settings page size).size) := by
  refine Action.fst_bind (fun found u => ?_) (e.resolve (Params.clamp v.settings page size)) v
  rfl

/-- A response is sent unless it is nested too deep. -/
theorem fst_send (e : Endpoint) (page : Int) (size : Option Int) (v : Service) :
    (e.send page size v).1 =
      ((e.respond page size v).1 >>= fun response =>
        (response.sendable e.itemType).map Answer.ofResponse) := by
  refine Action.fst_bind (fun response u => ?_) (e.respond page size) v
  show ((Action.ofExcept (response.sendable e.itemType) >>= _ : Act Answer) u).1 = _
  rw [Action.bind_apply, Action.ofExcept_apply]
  cases response.sendable e.itemType <;> rfl

/-- What an endpoint promises about a page number and a size, where `r` is what they come to. -/
structure Answers (e : Endpoint) (v : Service) (page : Int) (size : Option Int) (r : Request) :
    Prop where
  /-- The page is resolved as arithmetic says. -/
  resolved : (e.resolve (Params.clamp v.settings page size) v).1 =
    Reference.page (e.strategy v.settings) r e.items
  /-- Resolving it is never refused as an invalid request. -/
  accepted : ∀ fault, (e.resolve (Params.clamp v.settings page size) v).1 = .error fault →
    fault.kind ≠ .invalidPageRequest
  /-- The response holds the page that was resolved. -/
  responded : ∀ found, Reference.page (e.strategy v.settings) r e.items = .ok found →
    (e.respond page size v).1 = .ok ⟨found.elements, found.number, r.size, found.isLast,
      !found.isLast, decide (1 < found.number)⟩
  /-- No response overruns the largest page size. -/
  bounded : ∀ response, (e.respond page size v).1 = .ok response →
    (response.items.length : Int) ≤ v.settings.maxPageSize
  /-- A response is sent unless it is nested too deep. -/
  sent : ∀ response, (e.respond page size v).1 = .ok response →
    (∀ item ∈ response.items, item.levels ≤ maxLevels) →
    (Answer.handle (e.send page size) v).1 = .ok ⟨200, .object response.fields⟩
  /-- The only fault is a page past the end. -/
  refused : ∀ fault, (e.respond page size v).1 = .error fault ↔
    e.strategy v.settings = .fail ∧ Reference.pageCount e.items.length r.size < r.target ∧
      fault = .outOfBounds
        ⟨r.target, e.items.length, Reference.pageCount e.items.length r.size, r.size⟩
  /-- It is answered as not found, with what is known of the bounds. -/
  handled : ∀ bounds, (e.respond page size v).1 = .error (.outOfBounds bounds) →
    (Answer.handle (e.send page size) v).1 = .ok ⟨404, .object [("detail", .text bounds.message),
      ("target_page_number", .int r.target), ("total_count", .int e.items.length),
      ("pages_present", .int (Reference.pageCount e.items.length r.size)),
      ("page_size", .int r.size)]⟩

theorem fst_handle_send_of_ok (hitems : e.itemType = .anything) {response : Response}
    (h : (e.respond page size v).1 = .ok response)
    (hlevels : ∀ item ∈ response.items, item.levels ≤ maxLevels) :
    (Answer.handle (e.send page size) v).1 = .ok (.ofResponse response) := by
  have hsendable : response.sendable .anything = .ok response := by
    rw [Response.sendable, if_neg]
    rw [Bool.not_eq_true, List.any_eq_false]
    intro item hitem hdeep
    exact Nat.not_lt.2 (hlevels item hitem) (of_decide_eq_true hdeep)
  apply Answer.fst_handle_of_ok
  rw [fst_send, h, hitems]
  show (response.sendable .anything).map Answer.ofResponse = _
  rw [hsendable]
  rfl

theorem fst_handle_send_of_outOfBounds {bounds : OutOfBounds}
    (h : (e.respond page size v).1 = .error (.outOfBounds bounds)) :
    (Answer.handle (e.send page size) v).1 = .ok (.notFound bounds) := by
  have hsend : (e.send page size v).1 = .error (.outOfBounds bounds) := by
    rw [fst_send, h]
    rfl
  exact Answer.fst_handle_of_error hsend rfl

section InRange

variable (hv : v.settings.Valid) (hdiscreet : v.Discreet) (hitems : e.itemType = .anything)
  (hr : Params.clamp v.settings page size = ⟨r.target, r.size⟩)

include hv hdiscreet hitems hr

/-- The response is made of the page that arithmetic gives. -/
theorem fst_respond_eq_reference :
    (e.respond page size v).1 =
      (Reference.page (e.strategy v.settings) r e.items).map fun found =>
        ⟨found.elements, found.number, r.size, found.isLast, !found.isLast,
          decide (1 < found.number)⟩ := by
  rw [fst_respond, hr, fst_resolve e hv hdiscreet, hitems]
  cases Reference.page (e.strategy v.settings) r e.items with
  | ok found => exact Response.ofPage_anything found r.size
  | error fault => rfl

theorem respond_eq_error_iff {fault : Fault} :
    (e.respond page size v).1 = .error fault ↔
      Reference.page (e.strategy v.settings) r e.items = .error fault := by
  rw [fst_respond_eq_reference hv hdiscreet hitems hr]
  cases Reference.page (e.strategy v.settings) r e.items <;> simp [Except.map]

/-- No response is longer than a page of the size asked for, which is no larger than the largest. -/
theorem length_items_le {response : Response} (h : (e.respond page size v).1 = .ok response) :
    (response.items.length : Int) ≤ v.settings.maxPageSize := by
  have hmax : (r.size : Int) ≤ v.settings.maxPageSize := by
    have hle := (Params.fits_clamp hv page size).size_le_max
    rwa [hr] at hle
  rw [fst_respond_eq_reference hv hdiscreet hitems hr] at h
  cases hpage : Reference.page (e.strategy v.settings) r e.items with
  | error fault =>
    rw [hpage] at h
    cases h
  | ok found =>
    rw [hpage] at h
    cases h
    have hlength := Reference.length_elements_le hpage
    show (found.elements.length : Int) ≤ v.settings.maxPageSize
    omega

theorem answers : e.Answers v page size r := by
  have hresolved : (e.resolve (Params.clamp v.settings page size) v).1 =
      Reference.page (e.strategy v.settings) r e.items := by
    rw [hr]
    exact fst_resolve e hv hdiscreet r
  refine ⟨hresolved, ?_, ?_, ?_, ?_, ?_, ?_⟩
  · intro fault hfault
    obtain ⟨bounds, rfl⟩ := Reference.page_eq_error (hresolved ▸ hfault)
    simp [Fault.kind]
  · intro found hfound
    rw [fst_respond_eq_reference hv hdiscreet hitems hr, hfound]
    rfl
  · exact fun response => length_items_le hv hdiscreet hitems hr
  · exact fun response => fst_handle_send_of_ok hitems
  · intro fault
    rw [respond_eq_error_iff hv hdiscreet hitems hr, Reference.page_eq_error_iff]
  · intro bounds hbounds
    rw [fst_handle_send_of_outOfBounds hbounds]
    -- the fault tells the bounds that arithmetic knows
    rw [respond_eq_error_iff hv hdiscreet hitems hr, Reference.page_eq_error_iff] at hbounds
    obtain ⟨_, _, hfault⟩ := hbounds
    cases hfault
    rfl

end InRange

/-- **Endpoints reject no page and no size.**  After every history of changes of the settings, every
page number and size comes to a request in the range that the settings allow.  Whatever the items of
an endpoint and its strategy are, and whether the items are read one by one or received in chunks, the
response holds the page that arithmetic gives, and no more items than the largest page size.  The only
fault is a page past the end, under `Strategy.fail`, and it is answered as not found. -/
theorem answers_over_history (hw : w.settings = .builtIn) (hdiscreet : w.Discreet)
    (changes : List Settings.Change) (hv : v = changes.foldl Service.changed w) (page : Int)
    (size : Option Int) :
    (Params.clamp v.settings page size).Fits v.settings page size ∧
    ∃ r : Request, Params.clamp v.settings page size = ⟨r.target, r.size⟩ ∧
      ∀ e : Endpoint, e.itemType = .anything → e.Answers v page size r := by
  have hvalid : v.settings.Valid := by
    rw [hv]
    exact Service.valid_history (hw ▸ Settings.valid_builtIn) changes
  have hdiscreet : v.Discreet := by
    rw [hv]
    exact (Service.tellsLike_history w changes).discreet hdiscreet
  have hfits := Params.fits_clamp hvalid page size
  obtain ⟨r, hr⟩ := hfits.exists_request
  exact ⟨hfits, r, hr, fun e hitems => answers hvalid hdiscreet hitems hr⟩

/-- The largest page size is brought down to two, and cannot be brought down to none: the fifth page of
three items is past the end, however many were asked for on it and whoever listens. -/
theorem answers_over_history_of_two :
    Service.complaining.settings = .builtIn ∧ Service.complaining.Discreet ∧
    (Answer.handle (send { items := [.int 1, .null, .int 3], chunked := true } 5 (some 999))
      ([Settings.Change.configure [("max_page_size", .int 2), ("default_page_size", .int 1)],
        .configure [("max_page_size", .int 0)]].foldl Service.changed Service.complaining)).1 =
      .ok ⟨404, .object [("detail", .text (OutOfBounds.message ⟨5, 3, 2, 2⟩)),
        ("target_page_number", .int 5), ("total_count", .int 3), ("pages_present", .int 2),
        ("page_size", .int 2)]⟩ := by
  obtain ⟨_, ⟨target, size, _, _⟩, hr, hanswers⟩ :=
    answers_over_history (w := Service.complaining) rfl Service.discreet_complaining
      [.configure [("max_page_size", .int 2), ("default_page_size", .int 1)],
        .configure [("max_page_size", .int 0)]] rfl 5 (some 999)
  -- of both changes only the first was made
  have hclamp : (⟨5, 2⟩ : Params) = ⟨target, size⟩ := hr
  injection hclamp with htarget hsize
  obtain rfl : target = 5 := by omega
  obtain rfl : size = 2 := by omega
  have hanswer := hanswers { items := [.int 1, .null, .int 3], chunked := true } rfl
  have hcount : Reference.pageCount [Value.int 1, .null, .int 3].length 2 = 2 := by decide
  have hpast : Reference.pageCount [Value.int 1, .null, .int 3].length 2 < 5 := by
    rw [hcount]
    decide
  have hrefused := (hanswer.refused _).2 ⟨rfl, hpast, rfl⟩
  have hhandled := hanswer.handled _ hrefused
  simp only [hcount] at hhandled
  exact ⟨rfl, Service.discreet_complaining, hhandled⟩

end Endpoint

end Web

end Paging
