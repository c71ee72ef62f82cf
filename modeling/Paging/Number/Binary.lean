/-!
# Paging.Number.Binary — rounding to binary numbers

Durations and clock readings are binary floating-point numbers.  This file keeps them as exact
rationals and says in one function, `round`, which of the binary numbers is the nearest to a given
rational: they have fifty-three significant bits, no bit below `2 ^ -1074`, and lie below `2 ^ 1024`;
a tie goes to the even neighbour.
-/

namespace Paging.Binary

/-- The natural number nearest to `n / d`; an exact half goes to the even neighbour. -/
def roundRatio (n d : Nat) : Nat :=
  let q := n / d
  let r := n % d
  if 2 * r < d then q
  else if d < 2 * r then q + 1
  else q + q % 2

/-- The ratio `n / d` divided by `2 ^ e`, as a ratio of natural numbers. -/
def shifted (n d : Nat) (e : Int) : Nat × Nat :=
  (n * Nat.pow 2 (-e).toNat, d * Nat.pow 2 e.toNat)

/-- The place of the lowest bit that is kept of `n / d`: there are fifty-three bits from it on, or
fewer where it is the lowest place of all. -/
def exponent (n d : Nat) : Int :=
  let e : Int := (n.log2 : Int) - d.log2 - 53
  let (a, b) := shifted n d e
  max (-1074) (if b * Nat.pow 2 53 ≤ a then e + 1 else e)

/-- The rational with the bits of a binary number that is nearest to `q`, however large. -/
def nearest (q : Rat) : Rat :=
  if q.num = 0 then 0
  else
    let e := exponent q.num.natAbs q.den
    let (a, b) := shifted q.num.natAbs q.den e
    let m : Rat := mkRat (roundRatio a b * Nat.pow 2 e.toNat) (Nat.pow 2 (-e).toNat)
    if q.num < 0 then -m else m

/-- Binary numbers lie below this, and above its negative. -/
def limit : Rat := (Nat.pow 2 1024 : Nat)

/-- The binary number nearest to `q`, unless `q` is too large to have one. -/
def round (q : Rat) : Option Rat :=
  let m := nearest q
  if limit ≤ m ∨ m ≤ -limit then none else some m

end Paging.Binary
