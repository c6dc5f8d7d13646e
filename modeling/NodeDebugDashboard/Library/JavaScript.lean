import Mathlib.Data.List.Sort
import Mathlib.Data.String.Basic

/-! What JavaScript's built-in types do where Lean's do something else: numbers,
the order of the keys of an object, and functions on strings. -/
namespace Library.JavaScript

/-- The operations on numbers that programs here use. No number is written with
a `<` or a double quote. -/
class JsNumber (F : Type) where
  /-- An integer that was read from JSON. -/
  ofInt : Int → F
  add : F → F → F
  sub : F → F → F
  mul : F → F → F
  div : F → F → F
  /-- `x < y` -/
  lt : F → F → Bool
  /-- `x <= y` -/
  le : F → F → Bool
  /-- `Math.round(x)` -/
  round : F → F
  truthy : F → Bool
  /-- `String(x)` -/
  string : F → String
  /-- `x.toFixed(1)` -/
  fixed1 : F → String
  /-- `x.toLocaleString()` -/
  locale : F → String
  string_plain : ∀ x, '<' ∉ (string x).toList
  string_unquoted : ∀ x, '"' ∉ (string x).toList
  fixed1_plain : ∀ x, '<' ∉ (fixed1 x).toList
  locale_plain : ∀ x, '<' ∉ (locale x).toList

theorem toString_free {c : Char} (hMinus : c ≠ '-') (hDigit : c.isDigit = false) (n : Int) :
    c ∉ (toString n).toList := by
  have hNat : ∀ m : Nat, c ∉ (toString m).toList := by
    intro m hMem
    have hIs : c.isDigit = true :=
      Nat.isDigit_of_mem_toDigits (by omega) (by omega) (Nat.toList_repr ▸ hMem)
    rw [hDigit] at hIs
    cases hIs
  cases n with
  | ofNat m => exact hNat m
  | negSucc m =>
      have hText : toString (Int.negSucc m) = "-" ++ toString (m + 1) := rfl
      rw [hText, String.toList_append, List.mem_append, not_or]
      exact ⟨by simpa using hMinus, hNat (m + 1)⟩

/-- Numbers without a fraction. -/
instance : JsNumber Int where
  ofInt n := n
  add n m := n + m
  sub n m := n - m
  mul n m := n * m
  div n m := n / m
  lt n m := n < m
  le n m := n ≤ m
  round n := n
  truthy n := n ≠ 0
  string n := toString n
  fixed1 n := toString n ++ ".0"
  locale n := toString n
  string_plain := toString_free (by decide) (by decide)
  string_unquoted := toString_free (by decide) (by decide)
  fixed1_plain n := by
    rw [String.toList_append, List.mem_append, not_or]
    exact ⟨toString_free (by decide) (by decide) n, by decide⟩
  locale_plain := toString_free (by decide) (by decide)

namespace JsNumber

variable {F : Type} [JsNumber F]

/-- `x || y` -/
def orElse (x y : F) : F := if truthy x then x else y

/-- `Math.min(x, y)` -/
def min (x y : F) : F := if lt y x then y else x

variable (F) in
/-- `String(n)` for an integer that was read from JSON. -/
def stringOf (n : Int) : String := string (ofInt n : F)

end JsNumber

/-- The array index that a key is, if it is one. -/
def arrayIndex (key : String) : Option Nat :=
  let n := key.toList.foldl (fun n c => 10 * n + (c.toNat - '0'.toNat)) 0
  if toString n = key ∧ n < 4294967295 then some n else none

/-- `Object.entries(object)`: the array indices come first, in ascending order. -/
def objectEntries {V : Type*} (object : List (String × V)) : List (String × V) :=
  let numbered := object.filterMap fun entry => (arrayIndex entry.1).map fun n => (n, entry)
  (numbered.insertionSort fun first second => first.1 ≤ second.1).map Prod.snd ++
    object.filter fun entry => (arrayIndex entry.1).isNone

/-- The keys that every object has from `Object.prototype`. -/
def inherited : List String :=
  ["constructor", "__defineGetter__", "__defineSetter__", "hasOwnProperty", "__lookupGetter__",
    "__lookupSetter__", "isPrototypeOf", "propertyIsEnumerable", "toString", "valueOf", "__proto__",
    "toLocaleString"]

/-- How many code units a character takes. -/
def codeUnits (c : Char) : Nat := if c.toNat < 0x10000 then 1 else 2

/-- The characters within the first code units. One that is cut in two is shown
as a replacement character. -/
def takeUnits : Nat → List Char → List Char
  | _, [] => []
  | n, c :: rest =>
      if codeUnits c ≤ n then c :: takeUnits (n - codeUnits c) rest
      else if n = 0 then [] else [Char.ofNat 0xFFFD]

/-- `s.substring(0, n)` -/
def substring (n : Nat) (s : String) : String := .ofList (takeUnits n s.toList)

/-- The characters that `encodeURIComponent` keeps. -/
def isUnreserved (c : Char) : Bool :=
  c.isAlphanum || c ∈ ['-', '_', '.', '!', '~', '*', '\'', '(', ')']

def percentByte (byte : UInt8) : List Char :=
  ['%', (Nat.digitChar (byte.toNat / 16)).toUpper, (Nat.digitChar (byte.toNat % 16)).toUpper]

def encodeURIComponent (s : String) : String :=
  .ofList (s.toList.flatMap fun c =>
    if isUnreserved c then [c] else (String.utf8EncodeChar c).flatMap percentByte)

/-- `items.sort(comparator)`, which is stable. The comparator is given as whether its result is
positive. -/
def sort {A : Type*} (positive : A → A → Bool) (items : List A) : List A :=
  items.insertionSort fun first second => positive first second = false

example : (objectEntries [("b", 0), ("10", 1), ("a", 2), ("9", 3), ("09", 4)]).map Prod.fst =
    ["9", "10", "b", "a", "09"] := by decide +kernel

end Library.JavaScript
