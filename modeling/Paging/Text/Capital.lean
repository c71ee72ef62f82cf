/-!
# Paging.Text.Capital — capitals written with ASCII letters

Names made of ASCII capitals are recognised whatever the case of the text.  A few characters outside
ASCII have capitals inside it; every other such character keeps the text from being a name, and
stands for itself.
-/

namespace Paging.Text

/-- The characters outside ASCII whose capitals are ASCII letters, with those capitals. -/
def foreignCapitals : List (Char × String) :=
  [('\u00DF', "SS"), ('\u0131', "I"), ('\u017F', "S"), ('\uFB00', "FF"), ('\uFB01', "FI"),
   ('\uFB02', "FL"), ('\uFB03', "FFI"), ('\uFB04', "FFL"), ('\uFB05', "ST"), ('\uFB06', "ST")]

/-- The capitals of a character where these are ASCII, and the character itself elsewhere. -/
def capital (c : Char) : List Char :=
  match foreignCapitals.lookup c with
  | some s => s.toList
  | none => [c.toUpper]

/-- The capitals of every character in turn. -/
def capitals (cs : List Char) : List Char := cs.flatMap capital

end Paging.Text
