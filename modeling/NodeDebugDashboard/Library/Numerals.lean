import Mathlib.Algebra.Order.Field.Rat
import Mathlib.Data.List.Basic
import NodeDebugDashboard.Library.Text

/-! Decimal numerals with a sign, a fraction and an exponent: how they are written and what
they stand for. -/
namespace Library.Numerals

open Text

def digitChar (d : Fin 10) : Char := Nat.digitChar d.val

def digitsText (digits : List (Fin 10)) : List Char := digits.map digitChar

/-- The number that decimal digits stand for, the first one in the highest place. -/
def digitsValue (digits : List (Fin 10)) : ℕ := digits.foldl (fun value d => 10 * value + d.val) 0

inductive Sign where
  | plus
  | minus
  deriving DecidableEq

def Sign.char : Sign → Char
  | plus => '+'
  | minus => '-'

def signText (sign : Option Sign) : List Char := sign.toList.map Sign.char

/-- Only a minus makes a number negative. -/
def signFactor (sign : Option Sign) : ℤ := if sign = some .minus then -1 else 1

/-- Digits, and a point among them or not. -/
structure Mantissa where
  whole : List (Fin 10)
  /-- What stands behind the point. -/
  fraction : Option (List (Fin 10))
  digit : whole ≠ [] ∨ fraction.getD [] ≠ []

/-- A point and the digits behind it; a point alone is a fraction too. -/
def fractionText (fraction : Option (List (Fin 10))) : List Char :=
  (fraction.map fun digits => '.' :: digitsText digits).getD []

def Mantissa.text (mantissa : Mantissa) : List Char :=
  digitsText mantissa.whole ++ fractionText mantissa.fraction

/-- The fraction counts in tenths, hundredths and so on. -/
def Mantissa.value (mantissa : Mantissa) : ℚ :=
  let fraction := mantissa.fraction.getD []
  digitsValue mantissa.whole + digitsValue fraction / 10 ^ fraction.length

/-- A power of ten behind an `e` or an `E`. -/
structure Exponent where
  mark : Char
  sign : Option Sign
  digits : List (Fin 10)
  mark_eq : mark = 'e' ∨ mark = 'E'
  digits_ne : digits ≠ []

def Exponent.text (exponent : Exponent) : List Char :=
  exponent.mark :: (signText exponent.sign ++ digitsText exponent.digits)

def Exponent.factor (exponent : Exponent) : ℚ :=
  10 ^ (signFactor exponent.sign * digitsValue exponent.digits)

/-- A number as a person or a program writes it. -/
structure Numeral where
  sign : Option Sign
  mantissa : Mantissa
  exponent : Option Exponent

def exponentText (exponent : Option Exponent) : List Char := (exponent.map Exponent.text).getD []

def Numeral.text (numeral : Numeral) : List Char :=
  signText numeral.sign ++ (numeral.mantissa.text ++ exponentText numeral.exponent)

/-- The exact value; without an exponent the factor is 1. -/
def Numeral.value (numeral : Numeral) : ℚ :=
  signFactor numeral.sign * numeral.mantissa.value * (numeral.exponent.map Exponent.factor).getD 1

/-- `[+-]` -/
def isSign (c : Char) : Bool := c = '+' ∨ c = '-'

/-- `[0-9]` -/
def isDigit (c : Char) : Bool := c.isDigit

/-- `[0-9.]` -/
def isMantissa (c : Char) : Bool := c.isDigit ∨ c = '.'

/-- `[eE]` -/
def isMark (c : Char) : Bool := c = 'e' ∨ c = 'E'

theorem isDigit_digitChar : ∀ d : Fin 10, isDigit (digitChar d) = true := by decide

theorem isDigit_of_mem {digits : List (Fin 10)} {c : Char} (h : c ∈ digitsText digits) :
    isDigit c = true := by
  obtain ⟨d, _, rfl⟩ := List.mem_map.mp h
  exact isDigit_digitChar d

theorem isSign_of_mem {sign : Option Sign} {c : Char} (h : c ∈ signText sign) :
    isSign c = true := by
  obtain ⟨sign, _, rfl⟩ := List.mem_map.mp h
  cases sign <;> rfl

/-- A mantissa begins with no sign, so a sign in front of it is not part of it. -/
theorem isSign_of_isMantissa {c : Char} (h : isMantissa c = true) : isSign c = false := by
  simp only [isSign, decide_eq_false_iff_not]
  rintro (rfl | rfl) <;> exact absurd h (by decide)

theorem isMantissa_of_isDigit {c : Char} (h : isDigit c = true) : isMantissa c = true := by
  simpa [isMantissa, isDigit] using Or.inl h

theorem head?_fractionText {fraction : Option (List (Fin 10))} {c : Char}
    (h : (fractionText fraction).head? = some c) :
    c = '.' := by
  cases fraction with
  | none => cases h
  | some digits => exact (Option.some.inj h).symm

theorem Mantissa.isMantissa_of_mem {mantissa : Mantissa} {c : Char} (h : c ∈ mantissa.text) :
    isMantissa c = true := by
  obtain ⟨whole, fraction, _⟩ := mantissa
  rcases List.mem_append.mp h with hWhole | hFraction
  · exact isMantissa_of_isDigit (isDigit_of_mem hWhole)
  · cases fraction with
    | none => cases hFraction
    | some digits =>
        rcases List.mem_cons.mp hFraction with rfl | hMem
        · rfl
        · exact isMantissa_of_isDigit (isDigit_of_mem hMem)

/-- There is a digit in every mantissa. -/
theorem Mantissa.text_ne_nil (mantissa : Mantissa) : mantissa.text ≠ [] := by
  obtain ⟨whole, fraction, hDigit⟩ := mantissa
  intro hNil
  obtain ⟨hWhole, hFraction⟩ := List.append_eq_nil_iff.mp hNil
  cases fraction with
  | none => exact hDigit.elim (fun hNe => hNe (List.map_eq_nil_iff.mp hWhole)) fun hNe => hNe rfl
  | some digits => cases hFraction

/-- Two texts that are cut at the end of the same class of characters. -/
theorem cut_unique {test : Char → Bool} {first first' later later' : List Char}
    (h : first ++ later = first' ++ later') (hFirst : ∀ c ∈ first, test c = true)
    (hFirst' : ∀ c ∈ first', test c = true) (hLater : ∀ c, later.head? = some c → test c = false)
    (hLater' : ∀ c, later'.head? = some c → test c = false) : first = first' ∧ later = later' := by
  have hCut := span_eq_iff.mpr ⟨rfl, hFirst, hLater⟩
  have hCut' := span_eq_iff.mpr ⟨h, hFirst', hLater'⟩
  exact ⟨hCut.1.symm.trans hCut'.1, hCut.2.symm.trans hCut'.2⟩

/-- Digits are read back as they were written. -/
theorem digitsText_injective : Function.Injective digitsText := by
  have hChar : ∀ d e : Fin 10, digitChar d = digitChar e → d = e := by decide
  exact List.map_injective_iff.mpr fun d e => hChar d e

theorem signText_injective : Function.Injective signText := by
  rintro (_ | _ | _) (_ | _ | _) h <;> first | rfl | exact absurd h (by decide)

theorem fractionText_injective : Function.Injective fractionText := by
  rintro (_ | digits) (_ | digits') h
  · rfl
  · cases h
  · cases h
  · exact congrArg some (digitsText_injective (List.cons_eq_cons.mp h).2)

/-- The point tells where the fraction begins. -/
theorem Mantissa.text_injective : Function.Injective Mantissa.text := by
  rintro ⟨whole, fraction, _⟩ ⟨whole', fraction', _⟩ h
  have hPoint : ∀ fraction c, (fractionText fraction).head? = some c → isDigit c = false := by
    intro fraction c hHead
    rw [head?_fractionText hHead]
    rfl
  obtain ⟨hWhole, hFraction⟩ := cut_unique h (fun c => isDigit_of_mem) (fun c => isDigit_of_mem)
    (hPoint fraction) (hPoint fraction')
  obtain rfl := digitsText_injective hWhole
  obtain rfl := fractionText_injective hFraction
  rfl

/-- The sign tells where the digits begin. -/
theorem Exponent.text_injective : Function.Injective Exponent.text := by
  rintro ⟨mark, sign, digits, _, _⟩ ⟨mark', sign', digits', _, _⟩ h
  obtain ⟨rfl, hPower⟩ := List.cons_eq_cons.mp h
  have hDigits :
      ∀ digits c, (digitsText digits).head? = some c → isSign c = false := fun digits c hHead =>
    isSign_of_isMantissa (isMantissa_of_isDigit (isDigit_of_mem (List.mem_of_head? hHead)))
  obtain ⟨hSign, hRest⟩ := cut_unique hPower (fun c => isSign_of_mem) (fun c => isSign_of_mem)
    (hDigits digits) (hDigits digits')
  obtain rfl := signText_injective hSign
  obtain rfl := digitsText_injective hRest
  rfl

theorem exponentText_injective : Function.Injective exponentText := by
  rintro (_ | exponent) (_ | exponent') h
  · rfl
  · cases h
  · cases h
  · exact congrArg some (Exponent.text_injective h)

/-- An exponent begins with its mark. -/
theorem head?_exponentText {exponent : Option Exponent} {c : Char}
    (h : (exponentText exponent).head? = some c) :
    c = 'e' ∨ c = 'E' := by
  cases exponent with
  | none => cases h
  | some exponent =>
      obtain rfl := Option.some.inj h
      exact exponent.mark_eq

/-- A numeral is written in one way. -/
theorem Numeral.text_injective : Function.Injective Numeral.text := by
  rintro ⟨sign, mantissa, exponent⟩ ⟨sign', mantissa', exponent'⟩ h
  have hStart : ∀ (mantissa : Mantissa) (rest : List Char) (c : Char),
      (mantissa.text ++ rest).head? = some c → isSign c = false := by
    intro mantissa rest c hHead
    obtain ⟨d, later, hText⟩ := List.exists_cons_of_ne_nil mantissa.text_ne_nil
    have hMem : c ∈ mantissa.text := by
      rw [hText] at hHead ⊢
      obtain rfl := Option.some.inj hHead
      exact List.mem_cons_self
    exact isSign_of_isMantissa (Mantissa.isMantissa_of_mem hMem)
  have hMark : ∀ exponent c, (exponentText exponent).head? = some c → isMantissa c = false := by
    intro exponent c hHead
    rcases head?_exponentText hHead with rfl | rfl <;> rfl
  obtain ⟨hSign, hRest⟩ := cut_unique h (fun c => isSign_of_mem) (fun c => isSign_of_mem)
    (hStart mantissa _) (hStart mantissa' _)
  obtain ⟨hMantissa, hExponent⟩ := cut_unique hRest (fun c => Mantissa.isMantissa_of_mem)
    (fun c => Mantissa.isMantissa_of_mem) (hMark exponent) (hMark exponent')
  obtain rfl := signText_injective hSign
  obtain rfl := Mantissa.text_injective hMantissa
  obtain rfl := exponentText_injective hExponent
  rfl

end Library.Numerals
