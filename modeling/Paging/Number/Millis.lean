import Paging.Number.Binary

/-!
# Paging.Number.Millis — durations in milliseconds

A duration is an integer or a binary number.  A binary number has a sign and a magnitude, so that
the two zeros stay apart when they are written; one that is too large for its bits is endless.
Durations are compared exactly and written with a fixed number of decimal places: the digits are
those of the binary number, ties going to the even digit.  An integer has to be brought to a binary
number first, which fails if it is too large.
-/

namespace Paging

/-- A number of milliseconds. -/
inductive Millis
  | whole (n : Int)
  /-- A binary number. -/
  | binary (negative : Bool) (magnitude : Rat)
  /-- Beyond all binary numbers. -/
  | endless (negative : Bool)
  deriving DecidableEq

namespace Millis

/-- The duration of a binary number; zero is taken as positive. -/
def ofRat (q : Rat) : Millis := binary (decide (q < 0)) (if q < 0 then -q else q)

/-- No time at all. -/
def zero : Millis := binary false 0

/-- The exact value of a duration, if it has an end. -/
def value? : Millis → Option Rat
  | whole n => some n
  | binary negative q => some (if negative then -q else q)
  | endless _ => none

/-- A duration is longer than another when its exact value is greater.  An endless one is longer
than all that end, or, with a minus sign, shorter. -/
def longerThan (a b : Millis) : Bool :=
  match a, b with
  | endless negative, endless other => other && !negative
  | endless negative, _ => !negative
  | _, endless negative => negative
  | a, b => match a.value?, b.value? with
    | some x, some y => decide (y < x)
    | _, _ => false

/-- The decimal digits of `n`, with zeros in front up to `width` digits. -/
def padded (width n : Nat) : String :=
  let digits := toString n
  String.ofList (List.replicate (width - digits.length) '0') ++ digits

/-- The sign and the digits of a magnitude, with exactly `places` digits after the point. -/
def digits (places : Nat) (negative : Bool) (q : Rat) : String :=
  let scaled := Binary.roundRatio (q.num.natAbs * Nat.pow 10 places) q.den
  (if negative then "-" else "") ++ toString (scaled / Nat.pow 10 places) ++ "." ++
    padded places (scaled % Nat.pow 10 places)

/-- A duration with exactly `places` digits after the point, unless it is an integer too large to be
brought to a binary number. -/
def fixed? (places : Nat) : Millis → Option String
  | whole n => (Binary.round n.natAbs).map (digits places (decide (n < 0)))
  | binary negative q => some (digits places negative q)
  | endless negative => some (if negative then "-inf" else "inf")

end Millis

end Paging
