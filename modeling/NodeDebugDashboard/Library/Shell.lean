import Mathlib.Algebra.Group.Int.Defs
import Mathlib.Algebra.Group.Nat.Defs
import Mathlib.Data.Int.Init

/-! Words and numbers in bash: expansions, white space, words of digits, the integer
operators of `test`, and arithmetic on 64 bits. -/
namespace Library.Shell

/-- `${word:-fallback}` -/
def orDefault (word : Option String) (fallback : String) : String :=
  match word with
  | none => fallback
  | some word => if word = "" then fallback else word

/-- `[[:space:]]` in the locale `C.UTF-8`, which leaves out the no-break spaces. -/
def isSpace (c : Char) : Bool :=
  let n := c.toNat
  (9 ≤ n && n ≤ 13) || n = 32 || n = 0x1680 || (0x2000 ≤ n && n ≤ 0x2006) ||
    (0x2008 ≤ n && n ≤ 0x200a) || n = 0x2028 || n = 0x2029 || n = 0x205f || n = 0x3000

/-- `$(…)`: the output without the line ends at its end. -/
def substitution (output : List Char) : List Char := (output.reverse.dropWhile (· = '\n')).reverse

/-- `[[ "$word" =~ ^[0-9]+$ ]]` -/
def isNumber (word : String) : Bool := word ≠ "" && word.toList.all Char.isDigit

/-- The value of a word of digits. -/
def value (word : String) : Nat := Nat.ofDigitChars 10 word.toList 0

/-- A word of digits as an operand of `-eq`, `-lt` and `-gt`, if 64 bits hold it. -/
def operand? (word : String) : Option Nat := if value word < 2 ^ 63 then some (value word) else none

/-- An integer test. It is false, with status 2, when an operand is none. -/
def test (compare : Nat → Nat → Bool) (left right : String) : Bool :=
  match operand? left, operand? right with
  | some left, some right => compare left right
  | _, _ => false

/-- `$((x))` -/
def arith (x : Int) : Int := x.bmod (2 ^ 64)

theorem isNumber_repr (n : Nat) : isNumber n.repr = true := by
  simp only [isNumber, Bool.and_eq_true, decide_eq_true_eq, List.all_eq_true, Nat.toList_repr]
  constructor
  · exact Nat.repr_ne_empty
  · intro c hMem
    exact Nat.isDigit_of_mem_toDigits (by decide) (by decide) hMem

@[simp] theorem value_repr (n : Nat) : value n.repr = n := by
  rw [value, Nat.toList_repr, Nat.ofDigitChars_ten_toDigits]

theorem operand?_of_lt {word : String} (h : value word < 2 ^ 63) :
    operand? word = some (value word) :=
  if_pos h

theorem operand?_of_le {word : String} (h : 2 ^ 63 ≤ value word) : operand? word = none :=
  if_neg (Nat.not_lt.mpr h)

theorem test_of_lt {compare : Nat → Nat → Bool} {left right : String} (hLeft : value left < 2 ^ 63)
    (hRight : value right < 2 ^ 63) :
    test compare left right = compare (value left) (value right) := by
  rw [test, operand?_of_lt hLeft, operand?_of_lt hRight]

theorem test_of_le {compare : Nat → Nat → Bool} {left : String} (h : 2 ^ 63 ≤ value left)
    (right : String) : test compare left right = false := by
  rw [test, operand?_of_le h]

theorem arith_of_fits {x : Int} (hLow : -2 ^ 63 ≤ x) (hHigh : x < 2 ^ 63) : arith x = x := by
  apply Int.bmod_eq_of_le <;> omega

end Library.Shell
