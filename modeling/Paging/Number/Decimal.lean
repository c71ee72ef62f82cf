import Paging.Number.Millis

/-!
# Paging.Number.Decimal — numbers written with a point or an exponent

A decimal keeps the text it was written with beside the value that text stands for, which is the
nearest binary number.  It is shown as it was written and compared by its value.
-/

namespace Paging

/-- A number written with a point or an exponent. -/
structure Decimal where
  /-- The text of the number. -/
  literal : String
  negative : Bool
  /-- The absolute value, a binary number. -/
  magnitude : Rat
  deriving DecidableEq

namespace Decimal

/-- The value of a row of decimal digits, read after the digits already worth `acc`. -/
def digitsValue (acc : Nat) : List Char → Nat
  | [] => acc
  | c :: cs => digitsValue (acc * 10 + (c.toNat - '0'.toNat)) cs

/-- The exponent in the characters after the letter that announces it. -/
def exponentValue : List Char → Int
  | '-' :: cs => -(digitsValue 0 cs : Int)
  | '+' :: cs => digitsValue 0 cs
  | cs => digitsValue 0 cs

/-- Reads a number that follows the grammar sign, digits, point and digits, exponent.  Only a number
that is too large for a binary number keeps its exact value. -/
def ofLiteral (literal : String) : Decimal :=
  let chars := literal.toList
  let negative := chars.head? == some '-'
  let body := if negative then chars.drop 1 else chars
  let whole := body.takeWhile Char.isDigit
  let rest := body.dropWhile Char.isDigit
  let fraction := if rest.head? == some '.' then (rest.drop 1).takeWhile Char.isDigit else []
  let tail := if rest.head? == some '.' then (rest.drop 1).dropWhile Char.isDigit else rest
  let exponent := exponentValue (tail.drop 1) - fraction.length
  let coefficient := digitsValue 0 (whole ++ fraction)
  let value := mkRat (coefficient * Nat.pow 10 exponent.toNat) (Nat.pow 10 (-exponent).toNat)
  ⟨literal, negative, (Binary.round value).getD value⟩

/-- The value of a decimal. -/
def toRat (d : Decimal) : Rat := if d.negative then -d.magnitude else d.magnitude

/-- A decimal read as a duration keeps the sign of zero. -/
def toMillis (d : Decimal) : Millis := .binary d.negative d.magnitude

end Decimal

end Paging
