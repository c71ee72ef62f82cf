import Paging.Pager

/-!
# Paging.Query.FetchPage — one logical page of a query

The arguments are checked before the query is sent.  The query is closed as soon as its page is
resolved or has failed, and also when the call is cancelled.
-/

namespace Paging

/-- Resolves a request from an open query and closes it. -/
def BatchView.servePage (v : BatchView) (pager : Pager) (r : Request) : Later (Page Value) :=
  (pager.serveFeed r (.batch v)).andFinally v.close

/-- One logical page of a selection of documents.  Without a pager, the settings decide about pages
past the end. -/
def fetchPage (server : Option Nat) (pager : Option Pager) (target size : Int)
    (selection : Selection) : Later (Page Value) := do
  let (server, r) ← Act.ofExcept (Pager.request server target size)
  let pager := pager.getD (.ofSettings (← Service.current).settings)
  let v ← BatchView.openOn server selection
  v.servePage pager r

end Paging
