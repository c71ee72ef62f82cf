import Paging.Text.Hidden

/-!
# Paging.Text.Quoted — texts between quotes

A text is shown between single quotes, or between double quotes when it holds a single quote and no
double one.  The backslash, the enclosing quote and the hidden characters are escaped; a hidden
character without an escape of its own is written as its number, in two, four or eight hexadecimal
digits.
-/

namespace Paging.Text

/-- The last `width` hexadecimal digits of a number, in lower case. -/
def hexDigits : Nat → Nat → List Char
  | 0, _ => []
  | width + 1, n => hexDigits width (n / 16) ++ [Nat.digitChar (n % 16)]

/-- A character written as its number. -/
def numbered (c : Char) : String :=
  let n := c.toNat
  if n < 0x100 then "\\x" ++ String.ofList (hexDigits 2 n)
  else if n < 0x10000 then "\\u" ++ String.ofList (hexDigits 4 n)
  else "\\U" ++ String.ofList (hexDigits 8 n)

/-- One character of a text enclosed by `mark`. -/
def escaped (mark c : Char) : String :=
  if c = '\\' then "\\\\"
  else if c = '\n' then "\\n"
  else if c = '\r' then "\\r"
  else if c = '\t' then "\\t"
  else if c = mark then "\\" ++ mark.toString
  else if isHidden c then numbered c
  else c.toString

/-- The quote that encloses a text. -/
def mark (s : String) : Char :=
  if s.toList.contains (Char.ofNat 39) && !s.toList.contains '"' then '"' else Char.ofNat 39

/-- A text between quotes. -/
def quoted (s : String) : String :=
  let m := mark s
  m.toString ++ String.join (s.toList.map (escaped m)) ++ m.toString

end Paging.Text
