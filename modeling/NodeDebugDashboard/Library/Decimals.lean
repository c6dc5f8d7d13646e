import Mathlib.Algebra.Order.Round
import Mathlib.Data.Int.ConditionallyCompleteOrder
import Mathlib.Tactic.FieldSimp
import Mathlib.Tactic.Linarith
import Mathlib.Tactic.Positivity
import NodeDebugDashboard.Library.Text

/-! Decimal numbers in exact arithmetic: how `float` reads them, and how `round` rounds to
some decimals, a tie to the even digit. -/
namespace Library

open Text

/-- The value of the digits around the decimal point. -/
def mantissa? (text : List Char) : Option ℚ :=
  let whole := text.takeWhile (· ≠ '.')
  let fraction := (text.drop whole.length).drop 1
  let digits (part : List Char) : Option (List Nat) :=
    if part = [] then some [] else digitValues false part
  if whole = [] ∧ fraction = [] then none
  else do
    let before ← digits whole
    let after ← digits fraction
    return (ofDigits (before ++ after) : ℚ) / 10 ^ after.length

/-- A number without a sign. -/
def unsignedFloat? (text : List Char) : Option ℚ :=
  let number := text.takeWhile fun c => c ≠ 'e' && c ≠ 'E'
  match mantissa? number, text.drop number.length with
  | none, _ => none
  | some value, [] => some value
  | some value, _ :: '-' :: power =>
      (digitValues false power).map fun digits => value / 10 ^ ofDigits digits
  | some value, _ :: '+' :: power =>
      (digitValues false power).map fun digits => value * 10 ^ ofDigits digits
  | some value, _ :: power =>
      (digitValues false power).map fun digits => value * 10 ^ ofDigits digits

/-- `float(text)` of a finite number; `none` when it raises `ValueError`. -/
def float? (text : List Char) : Option ℚ :=
  match strip text with
  | '-' :: rest => (unsignedFloat? rest).map fun value => -value
  | '+' :: rest => unsignedFloat? rest
  | rest => unsignedFloat? rest

section

variable {K : Type*} [Field K] [LinearOrder K] [IsStrictOrderedRing K] [FloorRing K]

/-- The nearest integer, and the even one of two. -/
def halfEven (x : K) : ℤ :=
  if Int.fract x < 1 / 2 then ⌊x⌋
  else if 1 / 2 < Int.fract x then ⌊x⌋ + 1
  else ⌊x⌋ + ⌊x⌋ % 2

/-- `round(x, places)` of an exact number. -/
def roundTo (places : ℕ) (x : K) : K := halfEven (x * 10 ^ places) / 10 ^ places

/-- The numbers that are rounded to an integer or to a later one. -/
theorem le_halfEven_iff {n : ℤ} {x : K} :
    n ≤ halfEven x ↔ (n : K) - 1 / 2 < x ∨ (n : K) - 1 / 2 = x ∧ n % 2 = 0 := by
  have hFloor : (⌊x⌋ : K) + Int.fract x = x := Int.floor_add_fract x
  have hNonneg : 0 ≤ Int.fract x := Int.fract_nonneg x
  have hLt : Int.fract x < 1 := Int.fract_lt_one x
  have hBelow : n ≤ ⌊x⌋ → (n : K) ≤ ⌊x⌋ := Int.cast_le.mpr
  have hAbove : ⌊x⌋ + 1 < n → (⌊x⌋ : K) + 2 ≤ n := by
    intro hMore
    have hCast : ((⌊x⌋ + 2 : ℤ) : K) ≤ n := Int.cast_le.mpr (by omega)
    push_cast at hCast
    exact hCast
  rcases lt_trichotomy n (⌊x⌋ + 1) with hLess | hNext | hMore
  · have hCast := hBelow (by omega)
    have hGoal : n ≤ halfEven x := by
      rw [halfEven]
      split_ifs <;> omega
    exact iff_of_true hGoal (Or.inl (by linarith))
  · have hCast : (n : K) = ⌊x⌋ + 1 := by
      rw [hNext]
      push_cast
      rfl
    rw [halfEven, hCast]
    split_ifs with hSmall hLarge
    · refine iff_of_false (by omega) ?_
      rintro (hLess | ⟨hEq, _⟩) <;> linarith
    · exact iff_of_true (by omega) (Or.inl (by linarith))
    · have hTie : (⌊x⌋ : K) + 1 - 1 / 2 = x := by linarith
      have hOdd : n ≤ ⌊x⌋ + ⌊x⌋ % 2 ↔ n % 2 = 0 := by omega
      rw [hOdd]
      exact ⟨fun hEven => Or.inr ⟨hTie, hEven⟩, fun h => (h.resolve_left hTie.not_lt).2⟩
  · have hCast := hAbove hMore
    refine iff_of_false ?_ ?_
    · rw [halfEven]
      split_ifs <;> omega
    · rintro (hLess | ⟨hEq, _⟩) <;> linarith

theorem halfEven_mono : Monotone (halfEven : K → ℤ) := by
  intro x y hLe
  rcases le_halfEven_iff.mp (le_refl (halfEven x)) with hLess | ⟨hEq, hEven⟩
  · exact le_halfEven_iff.mpr (Or.inl (hLess.trans_le hLe))
  · rcases hLe.lt_or_eq with hLt | rfl
    · exact le_halfEven_iff.mpr (Or.inl (hEq.trans_lt hLt))
    · exact le_refl _

theorem roundTo_mono (places : ℕ) : Monotone (roundTo places : K → K) := by
  intro x y hLe
  have hScaled : x * 10 ^ places ≤ y * 10 ^ places := mul_le_mul_of_nonneg_right hLe (by positivity)
  exact div_le_div_of_nonneg_right (Int.cast_le.mpr (halfEven_mono hScaled)) (by positivity)

/-- A number of so many decimals is reached by rounding. -/
theorem le_roundTo_iff {places : ℕ} {n : ℤ} {x : K} :
    (n : K) / 10 ^ places ≤ roundTo places x ↔ n ≤ halfEven (x * 10 ^ places) := by
  rw [roundTo, div_le_div_iff_of_pos_right (by positivity), Int.cast_le]

theorem roundTo_nonneg {places : ℕ} {x : K} (h : 0 ≤ x) : 0 ≤ roundTo places x := by
  have hScaled : 0 ≤ x * 10 ^ places := by positivity
  have hZero : (0 : ℤ) ≤ halfEven (x * 10 ^ places) :=
    le_halfEven_iff.mpr (Or.inl (by push_cast; linarith))
  simpa using le_roundTo_iff.mpr hZero

end

end Library
