import Paging.Page
import Paging.Number.Lenient
import Paging.Fault

/-!
# Paging.Web.Response — a logical page as it is sent

The items of a response can be of a declared type.  Items that are not of that type are reported by
their place in the page, all of them; integers are taken in the lenient forms and sent as integers.
What the declared type leaves open may be nested, but a response that is sent has no more than
`maxLevels` levels of it.
-/

namespace Paging.Web

/-- The declared type of the items. -/
inductive ItemType
  | anything
  | integer
  | text
  | object
  deriving DecidableEq

/-- An item as a declared type has it. -/
def ItemType.read : ItemType → Value → Except Complaint Value
  | anything, v => .ok v
  | integer, v => (Lenient.ofValue v).map .int
  | text, v => match v with
    | .text s => .ok (.text s)
    | _ => .error .notAText
  | object, v => match v with
    | .object members => .ok (.object members)
    | _ => .error .notAnObject

/-- The levels of an item that its declared type leaves open. -/
def ItemType.openLevels : ItemType → Value → Nat
  | anything, v => v.levels
  | object, .object members => Value.levelsOfMembers members
  | _, _ => 0

/-- The largest number of open levels in a response that is sent. -/
def maxLevels : Nat := 255

/-- A page to be sent. -/
structure Response where
  items : List Value
  page : Int
  size : Int
  isLast : Bool
  hasNext : Bool
  hasPrev : Bool

namespace Response

/-- The items as their type has them, from the one at place `i` on, or what is wrong with them. -/
def readItems (type : ItemType) (i : Nat) : List Value → Except (List Issue) (List Value)
  | [] => .ok []
  | v :: vs => match type.read v, readItems type (i + 1) vs with
    | .ok v, .ok vs => .ok (v :: vs)
    | .ok _, .error issues => .error issues
    | .error complaint, .ok _ => .error [⟨complaint, [.field "items", .index i]⟩]
    | .error complaint, .error issues =>
      .error (⟨complaint, [.field "items", .index i]⟩ :: issues)

/-- The response for a page that was asked for with a given size. -/
def ofPage (type : ItemType) (page : Page Value) (size : Int) : Except Fault Response :=
  match readItems type 0 page.elements with
  | .error issues => .error (.invalid issues)
  | .ok items => .ok ⟨items, page.number, size, page.isLast, page.hasNext, page.hasPrev⟩

/-- A response as it can be sent. -/
def sendable (type : ItemType) (r : Response) : Except Fault Response :=
  if r.items.any fun v => decide (maxLevels < type.openLevels v) then .error .nestedTooDeep
  else .ok r

/-- The fields of a response. -/
def fields (r : Response) : Members :=
  [("items", .list r.items), ("page", .int r.page), ("size", .int r.size),
   ("is_last", .bool r.isLast), ("has_next", .bool r.hasNext), ("has_prev", .bool r.hasPrev)]

/-- Items of no declared type are all taken as they are. -/
theorem readItems_anything (i : Nat) (vs : List Value) : readItems .anything i vs = .ok vs := by
  induction vs generalizing i with
  | nil => rfl
  | cons v vs ih => simp [readItems, ItemType.read, ih]

end Response

end Paging.Web
