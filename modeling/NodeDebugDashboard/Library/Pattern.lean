import NodeDebugDashboard.Library.Text

/-! Python's regular expressions as far as programs here use them: every
repetition is of a single character. -/
namespace Library.Text

inductive Pattern where
  | empty
  | one (test : Char → Bool)
  /-- `[…]*` -/
  | many (test : Char → Bool)
  /-- `\b`, between a character that passes the test and one that does not. -/
  | boundary (test : Char → Bool)
  | seq (first second : Pattern)
  | alt (first second : Pattern)

namespace Pattern

/-- Each way to match at the start of the text: the last character before what
is left, and what is left. -/
def rests : Pattern → Option Char → List Char → List (Option Char × List Char)
  | empty, before, text => [(before, text)]
  | one test, _, c :: rest => if test c then [(some c, rest)] else []
  | one _, _, [] => []
  | many test, before, text => manyRests test before text
  | boundary test, before, text =>
      if before.any test ≠ text.head?.any test then [(before, text)] else []
  | seq first second, before, text =>
      (first.rests before text).flatMap fun middle => second.rests middle.1 middle.2
  | alt first second, before, text => first.rests before text ++ second.rests before text
where
  manyRests (test : Char → Bool) (before : Option Char) : List Char → List (Option Char × List Char)
    | [] => [(before, [])]
    | c :: rest => (before, c :: rest) :: if test c then manyRests test (some c) rest else []

def searchFrom (pattern : Pattern) (before : Option Char) : List Char → Bool
  | [] => pattern.rests before [] ≠ []
  | c :: rest => pattern.rests before (c :: rest) ≠ [] || pattern.searchFrom (some c) rest

/-- `re.search(pattern, text) is not None` -/
def search (pattern : Pattern) (text : List Char) : Bool := pattern.searchFrom none text

/-- The patterns in turn. -/
def all (patterns : List Pattern) : Pattern := patterns.foldr seq empty

/-- A character under `re.IGNORECASE`. Dotless and dotted i, the long s and the
Kelvin sign count as letters of ASCII. -/
def sameLetter (expected c : Char) : Bool :=
  let letter := expected.toLower
  c.toLower = letter || (letter = 'i' && (c.toNat = 0x130 || c.toNat = 0x131)) ||
    (letter = 's' && c.toNat = 0x17f) || (letter = 'k' && c.toNat = 0x212a)

/-- A text under `re.IGNORECASE`. -/
def lit (text : String) : Pattern := all (text.toList.map fun c => one (sameLetter c))

/-- `\d+` -/
def digits : Pattern := seq (one isDecimal) (many isDecimal)

/-- `\s*` -/
def spaces : Pattern := many isSpace

/-- `.*` -/
def anything : Pattern := many (· ≠ '\n')

/-- `\b` -/
def wordEdge [Unicode] : Pattern := boundary fun c => Unicode.isAlnum c || c = '_'

/-- `(a|b|…)` -/
def anyOf (first : String) (others : List String) : Pattern :=
  others.foldl (fun pattern text => alt pattern (lit text)) (lit first)

end Pattern
end Library.Text
