import NodeDebugDashboard.Library.Python
import NodeDebugDashboard.Library.Text

/-! The values that `json.loads` makes, and what Python's operations do to a
value of any of their types. -/
namespace Library

open Python Text

/-- A parsed JSON value. The keys of an object are in insertion order. -/
inductive Json (F : Type) where
  | null
  | bool (value : Bool)
  | int (value : Int)
  | float (value : F)
  | str (text : String)
  | arr (items : List (Json F))
  | obj (fields : List (String × Json F))

/-- What `json.loads` raises: `JSONDecodeError`, or something else, such as
`RecursionError` on deep nesting. -/
inductive LoadsError where
  | decodeError
  | other (text : String)

/-- The results of `json.loads`. -/
abbrev Loads (F : Type) := String → Except LoadsError (Json F)

namespace Json

variable {F : Type}

/-- `bool(value)` -/
def truthy [PyFloat F] : Json F → Bool
  | null => false
  | bool value => value
  | int value => value ≠ 0
  | float value => PyFloat.truthy value
  | str text => text ≠ ""
  | arr items => !items.isEmpty
  | obj fields => !fields.isEmpty

/-- `type(value).__name__` -/
def typeName : Json F → String
  | null => "NoneType"
  | bool _ => "bool"
  | int _ => "int"
  | float _ => "float"
  | str _ => "str"
  | arr _ => "list"
  | obj _ => "dict"

/-- The value of a key, if the object has it. -/
def field? (key : String) (fields : List (String × Json F)) : Option (Json F) :=
  (fields.find? fun field => field.1 = key).map Prod.snd

/-- What a `for` loop over the value runs through, or the text of the
`TypeError`. -/
def items : Json F → Except String (List (Json F))
  | arr items => .ok items
  | str text => .ok (text.toList.map fun c => str (String.ofList [c]))
  | obj fields => .ok (fields.map fun field => str field.1)
  | other => .error ("'" ++ other.typeName ++ "' object is not iterable")

/-- `fields.get(key)` -/
def look (key : String) (fields : List (String × Json F)) : Json F := (field? key fields).getD null

/-- `value.get(key, default)` -/
def get (value : Json F) (key : String) (default : Json F) : Outcome (Json F) :=
  match value with
  | obj fields => .ok ((field? key fields).getD default)
  | other => .error (.exception ("'" ++ other.typeName ++ "' object has no attribute 'get'"))

/-- What `for … in value` runs through. -/
def each (value : Json F) : Outcome (List (Json F)) :=
  match value.items with
  | .ok items => .ok items
  | .error text => .error (.exception text)

/-- What `for … in value or []` runs through. -/
def eachOrNone [PyFloat F] (value : Json F) : Outcome (List (Json F)) :=
  if value.truthy then value.each else .ok []

/-- `count` hexadecimal digits of a code point. -/
def hex (count n : Nat) : List Char :=
  (List.range count).reverse.map fun place => Nat.digitChar (n / 16 ^ place % 16)

/-- The escape of a character that is not to stand for itself. -/
def hexEscape (c : Char) : List Char :=
  let n := c.toNat
  if n ≤ 0xff then ['\\', 'x'] ++ hex 2 n
  else if n ≤ 0xffff then ['\\', 'u'] ++ hex 4 n
  else ['\\', 'U'] ++ hex 8 n

def escapeChar [Unicode] (quote c : Char) : List Char :=
  if c = quote || c = '\\' then ['\\', c]
  else if c = '\t' then ['\\', 't']
  else if c = '\n' then ['\\', 'n']
  else if c = '\r' then ['\\', 'r']
  else if Unicode.isPrintable c then [c]
  else hexEscape c

/-- `repr(text)` -/
def reprText [Unicode] (text : String) : String :=
  let quote := if '\'' ∈ text.toList ∧ '"' ∉ text.toList then '"' else '\''
  String.ofList (quote :: text.toList.flatMap (escapeChar quote) ++ [quote])

mutual

/-- `repr(value)` -/
def repr [PyFloat F] [Unicode] : Json F → String
  | null => "None"
  | bool value => if value then "True" else "False"
  | int value => toString value
  | float value => PyFloat.repr value
  | str text => reprText text
  | arr items => "[" ++ ", ".intercalate (reprItems items) ++ "]"
  | obj fields => "\x7b" ++ ", ".intercalate (reprFields fields) ++ "\x7d"

def reprItems [PyFloat F] [Unicode] : List (Json F) → List String
  | [] => []
  | item :: rest => item.repr :: reprItems rest

def reprFields [PyFloat F] [Unicode] : List (String × Json F) → List String
  | [] => []
  | (key, value) :: rest => (reprText key ++ ": " ++ value.repr) :: reprFields rest

end

/-- `str(value)` -/
def text [PyFloat F] [Unicode] : Json F → String
  | str text => text
  | other => other.repr

theorem visible_alphanum {text : List Char} (h : ∃ c ∈ text, c.isAlphanum = true) :
    Visible text := by
  obtain ⟨c, hMem, hAlphanum⟩ := h
  exact ⟨c, hMem, isSpace_of_isAlphanum hAlphanum⟩

theorem visible_toString (value : Int) : Visible (toString value).toList := by
  have hDigit : ∀ n : Nat, ∃ c ∈ n.repr.toList, c.isAlphanum = true := by
    intro n
    obtain ⟨c, rest, hDigits⟩ := List.exists_cons_of_ne_nil (Nat.toDigits_ne_nil (b := 10) (n := n))
    have hMem : c ∈ Nat.toDigits 10 n := by simp [hDigits]
    have hDigit : c.isDigit = true := Nat.isDigit_of_mem_toDigits (by omega) (by omega) hMem
    exact ⟨c, by rwa [Nat.toList_repr], by simp [Char.isAlphanum, hDigit]⟩
  cases value with
  | ofNat n => exact visible_alphanum (hDigit n)
  | negSucc n =>
      obtain ⟨c, hMem, hAlphanum⟩ := hDigit (n + 1)
      refine visible_alphanum ⟨c, ?_, hAlphanum⟩
      show c ∈ ("-" ++ (n + 1).repr).toList
      rw [String.toList_append]
      exact List.mem_append_right _ hMem

/-- Only a text can be true and yet print as whitespace. -/
theorem text_visible [PyFloat F] [Unicode] {value : Json F} (hTruthy : value.truthy = true)
    (hText : ∀ text, value = str text → Visible text.toList) : Visible value.text.toList := by
  cases value with
  | null => simp [truthy] at hTruthy
  | bool value =>
      have hPrinted : 'e' ∈ (bool value : Json F).text.toList := by
        cases value <;> simp [Json.text, repr]
      exact visible_alphanum ⟨'e', hPrinted, by decide⟩
  | int value => exact visible_toString value
  | float value => exact visible_alphanum (PyFloat.repr_alnum value)
  | str text => exact hText text rfl
  | arr items => exact ⟨'[', by simp [Json.text, repr], by decide⟩
  | obj fields => exact ⟨'\x7b', by simp [Json.text, repr], by decide⟩

end Json
end Library
