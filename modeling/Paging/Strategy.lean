/-!
# Paging.Strategy — what happens past the end of the results
-/

namespace Paging

/-- What a request for a page past the end of the results is answered with. -/
inductive Strategy
  /-- The request fails.  The first page of an empty result is no failure. -/
  | fail
  /-- The last page that holds elements, under its own number. -/
  | returnLastPage
  /-- A page without elements, under the number that was asked for. -/
  | returnEmptyPage
  deriving DecidableEq

namespace Strategy

/-- Every strategy. -/
def all : List Strategy := [fail, returnLastPage, returnEmptyPage]

/-- The name of a strategy. -/
def name : Strategy → String
  | fail => "FAIL"
  | returnLastPage => "RETURN_LAST_PAGE"
  | returnEmptyPage => "RETURN_EMPTY_PAGE"

/-- The strategy with a given name. -/
def ofName? (s : String) : Option Strategy := all.find? fun strategy => strategy.name == s

theorem ofName?_name (s : Strategy) : ofName? s.name = some s := by
  cases s <;> decide

end Strategy

end Paging
