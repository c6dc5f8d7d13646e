import Mathlib.Data.List.Forall2
import Mathlib.Data.List.Infix

/-! What Python's built-in types do where Lean's do something else: text,
floats, and the outcome of an awaited call. -/
namespace Library.Python

/-- An exception that a call ended with. Only the first kind is caught by
`except Exception`. -/
inductive Raised where
  | exception (text : String)
  | baseException (text : String)
  deriving DecidableEq

/-- `str(error)` -/
def Raised.text : Raised → String
  | .exception text => text
  | .baseException text => text

/-- A value, or the exception raised in its place. -/
abbrev Outcome (α : Type) := Except Raised α

/-- The operations on `float` that programs here use. -/
class PyFloat (F : Type) where
  repr : F → String
  /-- Digits, or `inf`, or `nan`. -/
  repr_alnum : ∀ value, ∃ c ∈ (repr value).toList, c.isAlphanum = true
  /-- `format(x, ".0f")` -/
  fixed0 : F → String
  truthy : F → Bool
  ge : F → F → Bool
  ofInt : Int → F
  sub : F → F → F
  mul : F → F → F
  /-- The true quotient of two integers, the second not 0; `none` when it is
  too large and Python raises `OverflowError`. -/
  div : Int → Int → Option F
  /-- `round(x, 1)` -/
  round1 : F → F

/-- Floats with a whole value. -/
instance : PyFloat Int where
  repr value := toString value ++ ".0"
  repr_alnum value := ⟨'0', by simp, by decide⟩
  fixed0 value := toString value
  truthy value := value ≠ 0
  ge value limit := value ≥ limit
  ofInt value := value
  sub first second := first - second
  mul first second := first * second
  div first second := some (first / second)
  round1 value := value

/-- What `int(value)` raises. -/
inductive IntError where
  | typeError (text : String)
  | valueError (text : String)
  | overflowError (text : String)

def IntError.raised : IntError → Raised
  | .typeError text => .exception text
  | .valueError text => .exception text
  | .overflowError text => .exception text

/-- More operations on `float`. -/
class PyNumber (F : Type) extends PyFloat F where
  /-- `format(x, ".1f")` -/
  fixed1 : F → String
  /-- `x / y` for `y` not 0 -/
  quotient : F → F → F
  /-- `int(x)` -/
  trunc : F → Except IntError Int

instance : PyNumber Int where
  fixed1 value := toString value ++ ".0"
  quotient first second := first / second
  trunc value := .ok value

/-- `str(value)` of an optional value. -/
def optional {α : Type} (text : α → String) : Option α → String
  | some value => text value
  | none => "None"

/-- `needle in text` -/
def contains (needle text : String) : Bool := decide (needle.toList <:+: text.toList)

/-- `text.split(sep)[-1]` for a single character. -/
def lastPart (sep : Char) (text : String) : String :=
  String.ofList ((text.toList.splitOn sep).getLastD [])

/-- `text or None` -/
def nonempty (text : String) : Option String := if text = "" then none else some text

/-- A computation that returned has returned at every step. -/
theorem bind_eq_ok {E α β : Type} {first : Except E α} {next : α → Except E β} {result : β} :
    first >>= next = .ok result ↔ ∃ value, first = .ok value ∧ next value = .ok result := by
  cases first <;> simp [bind, Except.bind]

theorem map_eq_ok {E α β : Type} {first : Except E α} {f : α → β} {result : β} :
    first.map f = .ok result ↔ ∃ value, first = .ok value ∧ f value = result := by
  cases first <;> simp [Except.map]

/-- Collecting the results of a loop that did not raise. -/
theorem mapM_eq_ok {E α β : Type} {body : α → Except E β} {items : List α} {results : List β}
    (h : items.mapM body = .ok results) :
    List.Forall₂ (fun item result => body item = .ok result) items results := by
  induction items generalizing results with
  | nil =>
      cases h
      exact .nil
  | cons item rest ih =>
      rw [List.mapM_cons, bind_eq_ok] at h
      obtain ⟨result, hResult, hLater⟩ := h
      obtain ⟨others, hOthers, hCons⟩ := bind_eq_ok.mp hLater
      cases hCons
      exact .cons hResult (ih hOthers)

/-- What a loop collects is what its turns give. -/
theorem mem_mapM {E α β : Type} {body : α → Except E β} {items : List α} {results : List β}
    (h : items.mapM body = .ok results) {result : β} :
    result ∈ results ↔ ∃ item ∈ items, body item = .ok result := by
  induction items generalizing results with
  | nil =>
      cases h
      simp
  | cons item rest ih =>
      rw [List.mapM_cons, bind_eq_ok] at h
      obtain ⟨first, hFirst, hLater⟩ := h
      obtain ⟨others, hOthers, hCons⟩ := bind_eq_ok.mp hLater
      cases hCons
      rw [List.mem_cons, ih hOthers, List.exists_mem_cons_iff, hFirst, Except.ok.injEq, eq_comm]

/-- A loop over the items returns if every turn does. -/
theorem mapM_isOk_iff {E α β : Type} {body : α → Except E β} {items : List α} :
    (∃ results, items.mapM body = .ok results) ↔
    ∀ item ∈ items, ∃ result, body item = .ok result := by
  induction items with
  | nil => exact iff_of_true ⟨[], rfl⟩ (by simp)
  | cons item rest ih =>
      rw [List.forall_mem_cons, ← ih]
      constructor
      · rintro ⟨results, hResults⟩
        rw [List.mapM_cons, bind_eq_ok] at hResults
        obtain ⟨result, hResult, hLater⟩ := hResults
        obtain ⟨others, hOthers, _⟩ := bind_eq_ok.mp hLater
        exact ⟨⟨result, hResult⟩, others, hOthers⟩
      · rintro ⟨⟨result, hResult⟩, others, hOthers⟩
        refine ⟨result :: others, ?_⟩
        rw [List.mapM_cons]
        exact bind_eq_ok.mpr ⟨result, hResult, bind_eq_ok.mpr ⟨others, hOthers, rfl⟩⟩

/-- A loop returns if every turn does, when the state has no say in it. -/
theorem foldlM_isOk_iff {E α β : Type} {body : β → α → Except E β} {good : α → Prop}
    (h : ∀ state item, (∃ next, body state item = .ok next) ↔ good item) (state : β)
    (items : List α) :
    (∃ result, items.foldlM body state = .ok result) ↔ ∀ item ∈ items, good item := by
  induction items generalizing state with
  | nil => exact iff_of_true ⟨state, rfl⟩ (by simp)
  | cons item rest ih =>
      simp only [List.foldlM_cons, bind_eq_ok, List.forall_mem_cons]
      constructor
      · rintro ⟨result, next, hNext, hRest⟩
        exact ⟨(h state item).mp ⟨next, hNext⟩, (ih next).mp ⟨result, hRest⟩⟩
      · rintro ⟨hItem, hRest⟩
        obtain ⟨next, hNext⟩ := (h state item).mpr hItem
        obtain ⟨result, hResult⟩ := (ih next).mpr hRest
        exact ⟨result, next, hNext, hResult⟩

/-- Items that leave the state alone can be taken out of a loop. -/
theorem foldlM_filter {E α β : Type} {body : β → α → Except E β} {keep : α → Bool} {items : List α}
    (h : ∀ state, ∀ item ∈ items, keep item = false → body state item = .ok state) (state : β) :
    items.foldlM body state = (items.filter keep).foldlM body state := by
  induction items generalizing state with
  | nil => rfl
  | cons item rest ih =>
      have hRest := ih fun state other hOther => h state other (List.mem_cons_of_mem _ hOther)
      cases hKeep : keep item with
      | true =>
          rw [List.filter_cons_of_pos hKeep, List.foldlM_cons, List.foldlM_cons]
          exact bind_congr hRest
      | false =>
          rw [List.filter_cons_of_neg (by simp [hKeep]), List.foldlM_cons,
            h state item List.mem_cons_self hKeep]
          exact hRest state

/-- A loop whose turns all return is a plain one. -/
theorem foldlM_eq_ok {E α β : Type} {body : β → α → Except E β} {turn : β → α → β} {items : List α}
    (h : ∀ state, ∀ item ∈ items, body state item = .ok (turn state item)) (state : β) :
    items.foldlM body state = .ok (items.foldl turn state) := by
  induction items generalizing state with
  | nil => rfl
  | cons item rest ih =>
      rw [List.foldlM_cons, h state item List.mem_cons_self]
      exact ih (fun state other hOther => h state other (List.mem_cons_of_mem _ hOther)) _

/-- What every turn of a loop preserves holds of its result. -/
theorem foldlM_preserves {E α β : Type} {body : β → α → Except E β} {P : β → Prop} {items : List α}
    (h : ∀ state, ∀ item ∈ items, ∀ next, P state → body state item = .ok next → P next)
    {state result : β} (hState : P state) (hResult : items.foldlM body state = .ok result) :
    P result := by
  induction items generalizing state with
  | nil =>
      cases hResult
      exact hState
  | cons item rest ih =>
      rw [List.foldlM_cons] at hResult
      obtain ⟨next, hNext, hRest⟩ := bind_eq_ok.mp hResult
      exact ih (fun state other hOther => h state other (List.mem_cons_of_mem _ hOther))
        (h state item List.mem_cons_self next hState hNext) hRest

end Library.Python
