import Paging.Pager
import Paging.Web.Params
import Paging.Web.Response

/-!
# Paging.Web.Endpoint — answering requests for pages

An endpoint reads page and size from the query, resolves the page from its items and sends it.
Faults of the library become answers with a status of their own: a page past the end is not found, an
invalid request cannot be processed, any other pager error is internal.  Faults without a status go on
to whoever runs the endpoint.
-/

namespace Paging.Web

/-- A status and a body. -/
structure Answer where
  status : Nat
  body : Value

namespace Answer

/-- A body that holds a message and nothing else. -/
def detail (status : Nat) (message : String) : Answer :=
  ⟨status, .object [("detail", .text message)]⟩

/-- The answer to a page past the end. -/
def notFound (o : OutOfBounds) : Answer :=
  ⟨404, .object [("detail", .text o.message), ("target_page_number", .int o.target),
    ("total_count", .int o.total), ("pages_present", .int o.pages), ("page_size", .int o.pageSize)]⟩

/-- The answer a fault is given, if it has one. -/
def ofFault? (fault : Fault) : Option Answer :=
  match fault with
  | .outOfBounds o => some (notFound o)
  | fault =>
    if fault.kind = .invalidPageRequest then some (detail 422 fault.message)
    else if fault.kind.families.contains .pagerError then some (detail 500 fault.message)
    else none

/-- What is said about one refused parameter. -/
def refusal (r : Refusal) : Value :=
  .object [("type", .text r.complaint.code),
    ("loc", .list [.text "query", .text r.parameter]),
    ("msg", .text r.complaint.message), ("input", .text r.input)]

/-- The answer to a query with refused parameters. -/
def refused (refusals : List Refusal) : Answer :=
  ⟨422, .object [("detail", .list (refusals.map refusal))]⟩

/-- The answer that sends a page. -/
def ofResponse (r : Response) : Answer := ⟨200, .object r.fields⟩

/-- Turns a fault into its answer where it has one. -/
def handle (x : Act Answer) : Act Answer := do
  match ← Action.attempt x with
  | .ok answer => pure answer
  | .error fault => match ofFault? fault with
    | some answer => pure answer
    | none => Action.fail fault

end Answer

/-- What an endpoint serves and how. -/
structure Endpoint where
  items : List Value
  /-- The pager that resolves its pages; where it is missing, the settings decide. -/
  pager : Option Pager := none
  /-- Whether the items are received in chunks. -/
  chunked : Bool := false
  itemType : ItemType := .anything

namespace Endpoint

/-- Resolves the page of an endpoint. -/
def resolve (e : Endpoint) (params : Params) : Act (Page Value) := do
  let settings := (← Service.current).settings
  let pager := e.pager.getD (.ofSettings settings)
  if e.chunked then
    let feed ← openChunked e.items settings.fetchSize false
    let call ← Act.ofExcept (pager.getPageLater (some feed) params.page params.size)
    Async.run call
  else pager.getPage (some (.fresh (Stream.ofList e.items))) params.page params.size

/-- Resolves the page of an endpoint and makes the response for it. -/
def respond (e : Endpoint) (page : Int) (size : Option Int) : Act Response := do
  let params := Params.clamp (← Service.current).settings page size
  let resolved ← e.resolve params
  Act.ofExcept (Response.ofPage e.itemType resolved params.size)

/-- Resolves the page of an endpoint and sends it. -/
def send (e : Endpoint) (page : Int) (size : Option Int) : Act Answer := do
  let response ← e.respond page size
  pure (.ofResponse (← Act.ofExcept (response.sendable e.itemType)))

/-- Answers a query. -/
def answer (e : Endpoint) (query : List (String × String)) : Act Answer :=
  match readQuery query with
  | .error refusals => pure (.refused refusals)
  | .ok (page, size) => Answer.handle (e.send page size)

end Endpoint

end Paging.Web
