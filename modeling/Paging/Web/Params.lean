import Paging.Settings

/-!
# Paging.Web.Params — page and size in a query string

A query may name a page and a size.  What is no integer is refused, with an issue for each; integers
out of range are not refused but brought into range, the size by the limits in the settings.
-/

namespace Paging.Web

/-- Which page to answer with, brought into range. -/
structure Params where
  page : Int
  size : Int
  deriving DecidableEq

namespace Params

/-- Brings a page number and a size into range; a missing size is the default size. -/
def clamp (s : Settings) (page : Int) (size : Option Int) : Params where
  page := max 1 page
  size := min (max 1 (size.getD s.defaultPageSize)) s.maxPageSize

end Params

/-- The value of the last parameter of a name. -/
def parameter? (query : List (String × String)) (name : String) : Option String :=
  query.reverse.lookup name

/-- A complaint about a parameter, with the text that was given. -/
structure Refusal where
  parameter : String
  complaint : Complaint
  input : String
  deriving DecidableEq

/-- The integer a parameter stands for, if it is given. -/
def integer? (query : List (String × String)) (name : String) : Except Refusal (Option Int) :=
  match parameter? query name with
  | none => .ok none
  | some text => match Lenient.ofText text with
    | .ok n => .ok (some n)
    | .error complaint => .error ⟨name, complaint, text⟩

/-- The refusal of a parameter, if there is one. -/
def refusalOf {α : Type} : Except Refusal α → List Refusal
  | .ok _ => []
  | .error refusal => [refusal]

/-- The page number and the size in a query; every parameter that is refused is reported. -/
def readQuery (query : List (String × String)) : Except (List Refusal) (Int × Option Int) :=
  match integer? query "page", integer? query "size" with
  | .ok page, .ok size => .ok (page.getD 1, size)
  | page, size => .error (refusalOf page ++ refusalOf size)

end Paging.Web
