import Paging.Value
import Paging.Issue
import Paging.Text.Blank

/-!
# Paging.Number.Lenient — integers in the forms that configuration and queries use

Where an integer is expected, truth values count as one and zero, a decimal without a fraction is
taken, and a text is read.  The written form of an integer is a numeral, digits with no zero in
front, after a minus sign if it is negative (`written?`).  A text in any other form is simplified
first (`simplified?`): spaces around it, a sign, zeros in front, a point with nothing but zeros after
it, and single underscores are taken away, and what is left has to be a written form.

A numeral has at most `maxDigits` digits.  A text that opens with a longer one is too long, whatever
follows; in a simplified text a longer one is as unreadable as any other fault.
-/

namespace Paging.Lenient

/-- The largest number of digits a numeral may have. -/
def maxDigits : Nat := 4300

/-! ## Written forms -/

/-- The value of a numeral. -/
def numeral? (cs : List Char) : Option Nat :=
  if cs.isEmpty || !cs.all Char.isDigit || maxDigits < cs.length then none
  else if cs.head? = some '0' && cs ≠ ['0'] then none
  else some (Decimal.digitsValue 0 cs)

/-- The value of a written form. -/
def written? : List Char → Option Int
  | '-' :: cs => (numeral? cs).map fun n => -(n : Int)
  | cs => (numeral? cs).map fun n => (n : Int)

/-- A text that opens, perhaps after a minus sign, with more digits than a numeral may have. -/
def opensTooLong (cs : List Char) : Bool :=
  let digits := (if cs.head? = some '-' then cs.drop 1 else cs).takeWhile Char.isDigit
  digits.head? ≠ some '0' && maxDigits < digits.length

/-! ## Simplification -/

/-- What follows zeros and underscores that were taken away, `last` being the last of them.  A digit
or a minus sign begins the rest; before a point, and at the end, `last` is kept. -/
def afterZeros? (last : Char) : List Char → Option (List Char)
  | [] => some [last]
  | c :: cs =>
    if c = '0' ∨ c = '_' then afterZeros? c cs
    else if c = '.' then some (last :: c :: cs)
    else if c.isDigit ∨ c = '-' then some (c :: cs)
    else none

/-- A text without zeros in front.  It has to begin with a digit or a minus sign. -/
def withoutZeros? : List Char → Option (List Char)
  | [] => none
  | c :: cs =>
    if c = '0' then afterZeros? c cs
    else if c.isDigit ∨ c = '-' then some (c :: cs)
    else none

/-- A text without the point and the zeros after it, of which there is at least one. -/
def withoutFraction (cs : List Char) : List Char :=
  let (whole, fraction) := cs.span (· ≠ '.')
  match fraction with
  | _ :: zero :: zeros => if (zero :: zeros).all (· = '0') then whole else cs
  | _ => cs

/-- Whether every underscore stands between two other characters.  `edge` tells that the row begins
the text or follows an underscore. -/
def underscoresApart (edge : Bool) : List Char → Bool
  | [] => !edge
  | c :: cs => !(edge && c = '_') && underscoresApart (c = '_') cs

/-- A text without its underscores, provided that each stands alone and none at an end. -/
def withoutUnderscores (cs : List Char) : List Char :=
  if underscoresApart true cs then cs.filter (· ≠ '_') else cs

/-- A text without a sign, zeros in front, zeros behind the point, and underscores. -/
def magnitude? (cs : List Char) : Option (List Char) :=
  (withoutZeros? cs).map fun rest => withoutUnderscores (withoutFraction rest)

/-- A text in simplified form.  A plus sign in front is dropped and a minus sign kept; the minus sign
may also follow zeros, but there is only one sign. -/
def simplified? (cs : List Char) : Option (List Char) :=
  match Text.trimmed Text.isSpace cs with
  | '-' :: rest => (magnitude? rest).map ('-' :: ·)
  | '+' :: '-' :: _ => none
  | '+' :: rest => magnitude? rest
  | rest => magnitude? rest

/-! ## Texts and values -/

/-- The integer a text stands for. -/
def ofText (s : String) : Except Complaint Int :=
  let cs := s.toList
  if opensTooLong cs then .error .tooLong
  else match written? cs with
    | some n => .ok n
    | none => match (simplified? cs).bind written? with
      | some n => .ok n
      | none => .error .unreadable

/-- The integer a decimal stands for; decimals of 64 bits and more are refused. -/
def ofDecimal (d : Decimal) : Except Complaint Int :=
  if d.magnitude.den ≠ 1 then .error .fractional
  else if (Nat.pow 2 63 : Nat) ≤ d.magnitude then .error .tooLong
  else .ok d.toRat.num

/-- The integer a value stands for. -/
def ofValue : Value → Except Complaint Int
  | .int n => .ok n
  | .bool b => .ok (if b then 1 else 0)
  | .decimal d => ofDecimal d
  | .text s => ofText s
  | .null | .list _ | .object _ => .error .notAnInteger

/-- An integer that is at least one. -/
def positive (v : Value) : Except Complaint Int :=
  match ofValue v with
  | .ok n => if n < 1 then .error .belowOne else .ok n
  | .error complaint => .error complaint

@[simp]
theorem ofValue_int (n : Int) : ofValue (.int n) = .ok n := rfl

theorem one_le_of_positive {v : Value} {n : Int} (h : positive v = .ok n) : 1 ≤ n := by
  unfold positive at h
  split at h
  · split at h
    · simp at h
    · simp only [Except.ok.injEq] at h
      omega
  · simp at h

end Paging.Lenient
