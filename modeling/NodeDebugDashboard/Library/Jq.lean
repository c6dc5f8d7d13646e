import Mathlib.Data.Rat.Floor
import NodeDebugDashboard.Library.Matcher
import NodeDebugDashboard.Library.Numerals

/-! Filters of jq on JSON values, with exact numbers. A filter puts out any number of values
and may then end in an error. -/
namespace Library.Jq

open Numerals

inductive Value where
  | null
  | bool (value : Bool)
  | num (value : ℚ)
  | str (text : String)
  | arr (items : List Value)
  | obj (fields : List (String × Value))

/-- What a filter puts out. -/
structure Results (α : Type) where
  values : List α
  /-- An error came after these values. -/
  failed : Bool

namespace Results

variable {α β : Type}

def of (values : List α) : Results α := ⟨values, false⟩

/-- `empty` -/
def empty : Results α := of []

/-- `error` -/
def error : Results α := ⟨[], true⟩

/-- `results, others` -/
def append (results others : Results α) : Results α :=
  if results.failed then results else ⟨results.values ++ others.values, others.failed⟩

/-- `… | …` -/
instance : Monad Results where
  pure value := of [value]
  bind results filter :=
    results.values.foldr (fun value others => (filter value).append others) ⟨[], results.failed⟩

/-- `try … catch handler` -/
def tryCatch (results handler : Results α) : Results α :=
  if results.failed then ⟨results.values ++ handler.values, handler.failed⟩ else results

/-- `[…]` -/
def collect (results : Results α) : Results (List α) :=
  if results.failed then error else pure results.values

end Results

open Results

/-- Neither `null` nor `false`. -/
def Value.truthy : Value → Bool
  | null => false
  | bool value => value
  | _ => true

/-- `results // others`; an error ends the results and is lost. -/
def alternative (results others : Results Value) : Results Value :=
  let kept := results.values.filter Value.truthy
  if kept.isEmpty then others else of kept

/-- The value of a key of an object. -/
def lookup (fields : List (String × Value)) (key : String) : Value :=
  ((fields.find? fun field => field.1 = key).map Prod.snd).getD .null

/-- `.key` -/
def field (key : String) : Value → Results Value
  | .null => pure .null
  | .obj fields => pure (lookup fields key)
  | _ => error

/-- `{…}[key]` -/
def index (fields : List (String × Value)) : Value → Results Value
  | .str key => pure (lookup fields key)
  | _ => error

/-- `.[]?` -/
def each : Value → Results Value
  | .arr items => of items
  | .obj fields => of (fields.map Prod.snd)
  | _ => empty

/-- `select(condition)` -/
def select (condition : Bool) (value : Value) : Results Value :=
  if condition then pure value else empty

/-- `. == "text"` -/
def isText (text : String) : Value → Bool
  | .str other => other = text
  | _ => false

/-- `capture(pattern)`; nothing when the pattern does not match. -/
def capture (pattern : Matcher (List (String × List Char))) : Value → Results Value
  | .str text =>
      match pattern.capture text.toList with
      | some groups => pure (.obj (groups.map fun group => (group.1, .str (String.ofList group.2))))
      | none => empty
  | _ => error

/-- The value of a key, `null` if there is none. -/
def Value.get (value : Value) (key : String) : Value :=
  match value with
  | obj fields => lookup fields key
  | _ => null

def Value.members : Value → List Value
  | arr items => items
  | obj fields => fields.map Prod.snd
  | _ => []

/-- A value that keys can be asked of. -/
def Value.IsRecord : Value → Prop
  | null => True
  | obj _ => True
  | _ => False

/-- The nearest integer, and of two the one away from zero. -/
def roundAway (x : ℚ) : ℤ := if 0 ≤ x then ⌊x + 1 / 2⌋ else ⌈x - 1 / 2⌉

/-- `round` -/
def Value.round : Value → Results Value
  | .num x => pure (.num (roundAway x))
  | _ => error

/-- `floor` -/
def Value.floor : Value → Results Value
  | .num x => pure (.num ⌊x⌋)
  | _ => error

inductive Operator where
  | plus
  | times
  | divide

/-- What is relied on of jq. -/
structure Builtins where
  /-- `tonumber` on a string; `none` when it is an error. -/
  tonumber? : List Char → Option ℚ
  tonumber_eq : ∀ text value,
    tonumber? text = some value ↔ ∃ numeral : Numeral, text = numeral.text ∧ value = numeral.value
  /-- How a number, an array or an object is written. -/
  json : Value → String
  /-- An operator on operands that are not both numbers. -/
  operate : Operator → Value → Value → Results Value

namespace Builtins

variable (jq : Builtins)

/-- `tostring` -/
def tostring : Value → String
  | .str text => text
  | .null => "null"
  | .bool true => "true"
  | .bool false => "false"
  | value => jq.json value

/-- `tonumber` -/
def tonumber : Value → Results Value
  | .num x => pure (.num x)
  | .str text =>
      match jq.tonumber? text.toList with
      | some x => pure (.num x)
      | none => error
  | _ => error

/-- `x + y` -/
def plus : Value → Value → Results Value
  | .null, y => pure y
  | x, .null => pure x
  | .num x, .num y => pure (.num (x + y))
  | x, y => jq.operate .plus x y

/-- `x * y` -/
def times : Value → Value → Results Value
  | .num x, .num y => pure (.num (x * y))
  | x, y => jq.operate .times x y

/-- `x / y` -/
def divide : Value → Value → Results Value
  | .num x, .num y => if y = 0 then error else pure (.num (x / y))
  | x, y => jq.operate .divide x y

/-- `add` on an array. -/
def add (items : List Value) : Results Value := items.foldlM jq.plus .null

end Builtins

open Classical in
/-- A `tonumber` that takes numerals and nothing else. -/
noncomputable def Builtins.numerals : Builtins where
  tonumber? text :=
    if h : ∃ numeral : Numeral, text = numeral.text then some h.choose.value else none
  tonumber_eq := by
    intro text value
    split_ifs with h
    · constructor
      · rintro hSome
        exact ⟨h.choose, h.choose_spec, (Option.some.inj hSome).symm⟩
      · rintro ⟨numeral, hText, rfl⟩
        rw [Numeral.text_injective (h.choose_spec.symm.trans hText)]
    · refine iff_of_false nofun ?_
      rintro ⟨numeral, hText, _⟩
      exact h ⟨numeral, hText⟩
  json _ := "null"
  operate _ _ _ := error

section Rules

variable {α β : Type}

@[simp] theorem failed_of (values : List α) : (of values).failed = false := rfl

@[simp] theorem values_of (values : List α) : (of values).values = values := rfl

theorem one_bind (value : α) (filter : α → Results β) : (pure value >>= filter) = filter value := by
  change (filter value).append ⟨[], false⟩ = filter value
  unfold append
  cases filter value with
  | mk values failed => cases failed <;> simp

/-- A filter that does not fail on any of the values. -/
theorem of_bind {values : List α} {filter : α → Results β} {outputs : α → List β}
    (h : ∀ value ∈ values, filter value = of (outputs value)) :
    (of values >>= filter) = of (values.flatMap outputs) := by
  change values.foldr (fun value others => (filter value).append others) ⟨[], false⟩ = _
  induction values with
  | nil => rfl
  | cons value values ih =>
      obtain ⟨hFirst, hOthers⟩ := List.forall_mem_cons.mp h
      rw [List.foldr_cons, hFirst, ih hOthers, List.flatMap_cons]
      rfl

theorem select_bind {values : List Value} {filter : Value → Results Value}
    {condition : Value → Bool}
    (h : ∀ value ∈ values, filter value = select (condition value) value) :
    (of values >>= filter) = of (values.filter condition) := by
  have hOutputs :
      ∀ value ∈ values, filter value = of (if condition value then [value] else []) := by
    intro value hMem
    rw [h value hMem, select]
    cases condition value <;> rfl
  rw [of_bind hOutputs]
  refine congrArg of ?_
  clear h hOutputs
  induction values with
  | nil => rfl
  | cons value values ih => cases hKept : condition value <;> simp [hKept, ih]

theorem error_bind (filter : α → Results β) : (error >>= filter) = error := rfl

theorem empty_bind (filter : α → Results β) : (empty >>= filter) = empty := rfl

theorem collect_of (values : List α) : (of values).collect = pure values := rfl

theorem alternative_num (x : ℚ) (others : Results Value) :
    alternative (pure (.num x)) others = pure (.num x) := rfl

theorem field_eq {value : Value} (h : value.IsRecord) (key : String) :
    field key value = pure (value.get key) := by
  cases value <;> first | rfl | exact h.elim

theorem each_eq (value : Value) : each value = of value.members := by cases value <;> rfl

variable (jq : Builtins)

theorem tonumber_numeral (numeral : Numeral) :
    jq.tonumber (.str (String.ofList numeral.text)) = pure (.num numeral.value) := by
  have hValue := (jq.tonumber_eq numeral.text numeral.value).mpr ⟨numeral, rfl, rfl⟩
  simp only [Builtins.tonumber, String.toList_ofList, hValue]

theorem tonumber_other {text : List Char} (h : ∀ numeral : Numeral, text ≠ numeral.text) :
    jq.tonumber (.str (String.ofList text)) = error := by
  cases hValue : jq.tonumber? text with
  | none => simp only [Builtins.tonumber, String.toList_ofList, hValue]
  | some x =>
      obtain ⟨numeral, hText, _⟩ := (jq.tonumber_eq text x).mp hValue
      exact absurd hText (h numeral)

theorem foldlM_plus (x : ℚ) (numbers : List ℚ) :
    (numbers.map Value.num).foldlM jq.plus (.num x) = pure (.num (x + numbers.sum)) := by
  induction numbers generalizing x with
  | nil => simp
  | cons y numbers ih =>
      have hPlus : jq.plus (.num x) (.num y) = pure (.num (x + y)) := rfl
      rw [List.map_cons, List.foldlM_cons, hPlus, one_bind, ih, List.sum_cons, add_assoc]

/-- `add` of at least one number. -/
theorem add_numbers {numbers : List ℚ} (h : numbers ≠ []) :
    jq.add (numbers.map Value.num) = pure (.num numbers.sum) := by
  obtain ⟨x, numbers, rfl⟩ := List.exists_cons_of_ne_nil h
  have hPlus : jq.plus .null (.num x) = pure (.num x) := rfl
  rw [Builtins.add, List.map_cons, List.foldlM_cons, hPlus, one_bind, foldlM_plus, List.sum_cons]

end Rules

end Library.Jq
