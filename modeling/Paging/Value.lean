import Paging.Number.Decimal

/-!
# Paging.Value — the elements of a result set

A result set may hold any value of a document format: nothing, truth values, integers of any size,
decimals, texts, lists, and objects whose members keep the order they were given in.  `same` is
equality of values: truth values and both kinds of number are compared as numbers, and the members
of an object in any order.
-/

namespace Paging

/-- A document value. -/
inductive Value
  | null
  | bool (b : Bool)
  | int (n : Int)
  | decimal (d : Decimal)
  | text (s : String)
  | list (items : List Value)
  | object (members : List (String × Value))

/-- The members of an object: names with values, in order. -/
abbrev Members := List (String × Value)

instance : Inhabited Value := ⟨.null⟩

/-! ## Members of an object -/

namespace Members

/-- Gives a name a value: in its place if the name is present, at the end if it is not. -/
def put {β : Type} (name : String) (v : β) : List (String × β) → List (String × β)
  | [] => [(name, v)]
  | (n, w) :: rest => if n = name then (n, v) :: rest else (n, w) :: put name v rest

/-- Pairs entered one after the other: a name keeps its first place and its last value. -/
def ofPairs {β : Type} (pairs : List (String × β)) : List (String × β) :=
  pairs.foldl (fun members p => put p.1 p.2 members) []

/-- The value last entered for a name is the one found. -/
theorem lookup_put {β : Type} (name : String) (v : β) (members : List (String × β)) :
    (put name v members).lookup name = some v := by
  induction members with
  | nil => simp [put]
  | cons p rest ih =>
    obtain ⟨n, w⟩ := p
    by_cases h : n = name
    · simp [put, h]
    · have hne : (name == n) = false := by simpa using fun e => h e.symm
      rw [put, if_neg h, List.lookup_cons, hne]
      exact ih

/-- Entering a value under one name does not change what is found under another. -/
theorem lookup_put_of_ne {β : Type} {name other : String} (h : other ≠ name) (v : β)
    (members : List (String × β)) : (put name v members).lookup other = members.lookup other := by
  have hne : (other == name) = false := beq_eq_false_iff_ne.2 h
  induction members with
  | nil => simp [put, List.lookup_cons, hne]
  | cons p rest ih =>
    obtain ⟨n, w⟩ := p
    by_cases hn : n = name
    · simp [put, List.lookup_cons, hn, hne]
    · rw [put, if_neg hn, List.lookup_cons, List.lookup_cons, ih]

/-- What is found after pairs have been entered: the last value for the name, or what was there. -/
theorem lookup_foldl_put {β : Type} (name : String) (pairs members : List (String × β)) :
    (pairs.foldl (fun members p => put p.1 p.2 members) members).lookup name =
      (pairs.reverse.lookup name).or (members.lookup name) := by
  induction pairs generalizing members with
  | nil => rfl
  | cons p rest ih =>
    obtain ⟨n, w⟩ := p
    rw [List.foldl_cons, ih, List.reverse_cons, List.lookup_append, Option.or_assoc]
    congr 1
    by_cases hn : name = n
    · rw [hn, lookup_put]
      simp
    · rw [lookup_put_of_ne hn]
      simp [List.lookup_cons, beq_eq_false_iff_ne.2 hn]

/-- Pairs entered one after the other: the last value for a name is the one found. -/
theorem lookup_ofPairs {β : Type} (name : String) (pairs : List (String × β)) :
    (ofPairs pairs).lookup name = pairs.reverse.lookup name := by
  rw [ofPairs, lookup_foldl_put]
  simp

end Members

/-! ## Equality -/

namespace Value

/-- The number a value is compared as. -/
def number? : Value → Option Rat
  | bool b => some (if b then 1 else 0)
  | int n => some n
  | decimal d => some d.toRat
  | _ => none

mutual

/-- Equality of values. -/
def same : Value → Value → Bool
  | null, b => match b with
    | null => true
    | _ => false
  | text s, b => match b with
    | text t => s == t
    | _ => false
  | list xs, b => match b with
    | list ys => sameItems xs ys
    | _ => false
  | object ms, b => match b with
    | object ns => ms.length == ns.length && sameMembers ms ns
    | _ => false
  | a, b => match a.number?, b.number? with
    | some x, some y => x == y
    | _, _ => false

/-- Lists are equal item by item. -/
def sameItems : List Value → List Value → Bool
  | [], ys => ys.isEmpty
  | x :: xs, ys => match ys with
    | [] => false
    | y :: ys => same x y && sameItems xs ys

/-- Every member of the first object is found, with an equal value, in the second. -/
def sameMembers : List (String × Value) → List (String × Value) → Bool
  | [], _ => true
  | (name, v) :: rest, ns => (match ns.lookup name with
      | some w => same v w
      | none => false) && sameMembers rest ns

end

/-! ## Nesting -/

mutual

/-- The levels of a value: one for itself and those of its parts, of which the deepest counts. -/
def levels : Value → Nat
  | list items => levelsOfItems items + 1
  | object members => levelsOfMembers members + 1
  | _ => 1

/-- The levels of the deepest item. -/
def levelsOfItems : List Value → Nat
  | [] => 0
  | v :: vs => max (levels v) (levelsOfItems vs)

/-- The levels of the value of the deepest member. -/
def levelsOfMembers : List (String × Value) → Nat
  | [] => 0
  | (_, v) :: rest => max (levels v) (levelsOfMembers rest)

end

/-- The characters of a text, each as a text of its own. -/
def characters (s : String) : List Value := s.toList.map fun c => text c.toString

end Value

end Paging
