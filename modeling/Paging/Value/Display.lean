import Paging.Value
import Paging.Text.Quoted

/-!
# Paging.Value.Display — how values appear in diagnostics

Texts appear between quotes, lists in brackets, objects in braces with their members in order.
A decimal appears as it was written.
-/

namespace Paging.Value

/-- The two truth values. -/
def displayBool (b : Bool) : String := if b then "True" else "False"

mutual

/-- A value as diagnostics show it. -/
def display : Value → String
  | null => "None"
  | bool b => displayBool b
  | int n => toString n
  | decimal d => d.literal
  | text s => Text.quoted s
  | list items => "[" ++ ", ".intercalate (displayItems items) ++ "]"
  | object members => "\x7b" ++ ", ".intercalate (displayMembers members) ++ "\x7d"

/-- The items of a list, each as diagnostics show it. -/
def displayItems : List Value → List String
  | [] => []
  | v :: vs => display v :: displayItems vs

/-- The members of an object, each as name and value. -/
def displayMembers : List (String × Value) → List String
  | [] => []
  | (name, v) :: rest => (Text.quoted name ++ ": " ++ display v) :: displayMembers rest

end

/-- A fixed row of values, in parentheses; a row of one keeps a comma. -/
def displayRow (items : List Value) : String :=
  match displayItems items with
  | [one] => "(" ++ one ++ ",)"
  | shown => "(" ++ ", ".intercalate shown ++ ")"

end Paging.Value
