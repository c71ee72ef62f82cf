/-!
# Paging.Text.Blank — characters that are trimmed from the ends of a text

Two classes are in use.  `isSpace` is the Unicode property White_Space; `isBlank` adds the four
information separators.  Neither holds of the zero-width space or of the byte-order mark.
-/

namespace Paging.Text

/-- The ranges of the Unicode property White_Space, both ends included, in increasing order. -/
def spaceRanges : List (Nat × Nat) :=
  [(0x09, 0x0D), (0x20, 0x20), (0x85, 0x85), (0xA0, 0xA0), (0x1680, 0x1680), (0x2000, 0x200A),
   (0x2028, 0x2029), (0x202F, 0x202F), (0x205F, 0x205F), (0x3000, 0x3000)]

/-- A character with the Unicode property White_Space. -/
def isSpace (c : Char) : Bool :=
  spaceRanges.any fun r => r.1 ≤ c.toNat && c.toNat ≤ r.2

/-- A white-space character or an information separator (U+001C to U+001F). -/
def isBlank (c : Char) : Bool :=
  isSpace c || (0x1C ≤ c.toNat && c.toNat ≤ 0x1F)

/-- A row of characters without those at either end that satisfy `p`. -/
def trimmed (p : Char → Bool) (cs : List Char) : List Char :=
  ((cs.dropWhile p).reverse.dropWhile p).reverse

end Paging.Text
