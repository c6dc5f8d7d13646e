import Mathlib.Tactic.NormNum
import NodeDebugDashboard.Library.Jq

/-! `qty` of scripts/_kdiag-lib.sh, which makes a number of a Kubernetes quantity. -/
namespace NodeDebugDashboard.Scripts.Quantities

open Library Library.Jq Library.Jq.Results Library.Numerals

variable (jq : Builtins)

/-- `[a-zA-Z]` -/
def isLetter (c : Char) : Bool := c.isAlpha

/-- `[eE][+-]?[0-9]+` -/
def exponentGroup : Matcher (List Char) := do
  let mark ← Matcher.one isMark
  let sign ← Matcher.optional (Matcher.one isSign)
  let digits ← Matcher.some isDigit
  return mark :: (sign.toList ++ digits)

/-- `^(?<n>[+-]?[0-9.]+([eE][+-]?[0-9]+)?)(?<s>[a-zA-Z]*)$` -/
def pattern : Matcher (List (String × List Char)) := do
  let sign ← Matcher.optional (Matcher.one isSign)
  let mantissa ← Matcher.some isMantissa
  let exponent ← Matcher.optional exponentGroup
  let s ← Matcher.many isLetter
  Matcher.atEnd
  return [("n", sign.toList ++ (mantissa ++ exponent.getD [])), ("s", s)]

def multipliers : List (String × Value) :=
  [("", .num 1), ("n", .num 1e-9), ("u", .num 1e-6), ("m", .num 1e-3), ("k", .num 1e3),
    ("M", .num 1e6), ("G", .num 1e9), ("T", .num 1e12), ("P", .num 1e15), ("E", .num 1e18),
    ("Ki", .num 1024), ("Mi", .num 1048576), ("Gi", .num 1073741824), ("Ti", .num 1099511627776),
    ("Pi", .num 1125899906842624), ("Ei", .num 1152921504606846976)]

def qty (value : Value) : Results Value :=
  let number := do
    let m ← capture pattern (.str (jq.tostring value))
    let factor ← alternative (field "s" m >>= index multipliers) (pure (.num 0))
    let n ← field "n" m >>= jq.tonumber
    jq.times n factor
  alternative (tryCatch number (pure (.num 0))) (pure (.num 0))

/-- The suffixes of Kubernetes quantities. -/
inductive Suffix where
  | n | u | m | k | M | G | T | P | E | Ki | Mi | Gi | Ti | Pi | Ei

def Suffix.text : Suffix → List Char
  | n => ['n']
  | u => ['u']
  | m => ['m']
  | k => ['k']
  | M => ['M']
  | G => ['G']
  | T => ['T']
  | P => ['P']
  | E => ['E']
  | Ki => ['K', 'i']
  | Mi => ['M', 'i']
  | Gi => ['G', 'i']
  | Ti => ['T', 'i']
  | Pi => ['P', 'i']
  | Ei => ['E', 'i']

def Suffix.multiplier : Suffix → ℚ
  | n => 1 / 10 ^ 9
  | u => 1 / 10 ^ 6
  | m => 1 / 10 ^ 3
  | k => 10 ^ 3
  | M => 10 ^ 6
  | G => 10 ^ 9
  | T => 10 ^ 12
  | P => 10 ^ 15
  | E => 10 ^ 18
  | Ki => 2 ^ 10
  | Mi => 2 ^ 20
  | Gi => 2 ^ 30
  | Ti => 2 ^ 40
  | Pi => 2 ^ 50
  | Ei => 2 ^ 60

def suffixText (suffix : Option Suffix) : List Char := (suffix.map Suffix.text).getD []

def suffixFactor (suffix : Option Suffix) : ℚ := (suffix.map Suffix.multiplier).getD 1

/-- What follows the digits of a quantity. -/
inductive Scale where
  | plain
  | suffix (suffix : Suffix)
  | exponent (exponent : Exponent)

def Scale.text : Scale → List Char
  | plain => []
  | suffix s => s.text
  | exponent e => e.text

def Scale.factor : Scale → ℚ
  | plain => 1
  | suffix s => s.multiplier
  | exponent e => e.factor

/-- A Kubernetes quantity. -/
structure Quantity where
  sign : Option Sign
  mantissa : Mantissa
  scale : Scale

def Quantity.text (quantity : Quantity) : List Char :=
  signText quantity.sign ++ (quantity.mantissa.text ++ quantity.scale.text)

def Quantity.value (quantity : Quantity) : ℚ :=
  signFactor quantity.sign * quantity.mantissa.value * quantity.scale.factor

/-- A number and a suffix. The pattern lets an exponent and a suffix stand together, and `$`
a line end after them. -/
structure Written where
  numeral : Numeral
  suffix : Option Suffix
  lineEnd : Bool

def Written.text (written : Written) : List Char :=
  written.numeral.text ++ (suffixText written.suffix ++ if written.lineEnd then ['\n'] else [])

def Written.value (written : Written) : ℚ := written.numeral.value * suffixFactor written.suffix

def Quantity.written (quantity : Quantity) : Written where
  numeral := {
    sign := quantity.sign
    mantissa := quantity.mantissa
    exponent := match quantity.scale with | .exponent exponent => some exponent | _ => none }
  suffix := match quantity.scale with | .suffix suffix => some suffix | _ => none
  lineEnd := false

open Classical in
/-- The amount that can be read from a value, or 0. -/
noncomputable def worth (value : Value) : ℚ :=
  if h : ∃ written : Written, (jq.tostring value).toList = written.text then h.choose.value else 0

theorem Quantity.text_written (quantity : Quantity) : quantity.written.text = quantity.text := by
  obtain ⟨sign, mantissa, scale⟩ := quantity
  cases scale <;>
    simp [Quantity.written, Quantity.text, Written.text, Numeral.text, Scale.text,
      exponentText, suffixText]

theorem Quantity.value_written (quantity : Quantity) : quantity.written.value = quantity.value := by
  obtain ⟨sign, mantissa, scale⟩ := quantity
  cases scale <;> simp [Quantity.written, Quantity.value, Written.value, Numeral.value,
    Scale.factor, suffixFactor]

theorem lookup_suffixText (suffix : Option Suffix) :
    lookup multipliers (String.ofList (suffixText suffix)) = .num (suffixFactor suffix) := by
  rcases suffix with _ | suffix
  · rfl
  · cases suffix <;> simp [lookup, multipliers, suffixText, suffixFactor, Suffix.text,
      Suffix.multiplier] <;> norm_num

/-- The table has the suffixes and nothing else. -/
theorem lookup_other {s : List Char} (h : ∀ suffix, s ≠ suffixText suffix) :
    lookup multipliers (String.ofList s) = .null := by
  have hKeys : ∀ entry ∈ multipliers, ∃ suffix, entry.1 = String.ofList (suffixText suffix) := by
    simp only [multipliers, List.forall_mem_cons]
    exact ⟨⟨none, rfl⟩, ⟨some .n, rfl⟩, ⟨some .u, rfl⟩, ⟨some .m, rfl⟩, ⟨some .k, rfl⟩,
      ⟨some .M, rfl⟩, ⟨some .G, rfl⟩, ⟨some .T, rfl⟩, ⟨some .P, rfl⟩, ⟨some .E, rfl⟩,
      ⟨some .Ki, rfl⟩, ⟨some .Mi, rfl⟩, ⟨some .Gi, rfl⟩,
      ⟨some .Ti, rfl⟩, ⟨some .Pi, rfl⟩, ⟨some .Ei, rfl⟩, by simp⟩
  have hNone : multipliers.find? (fun entry => entry.1 = String.ofList s) = none := by
    rw [List.find?_eq_none]
    intro entry hMem hKey
    obtain ⟨suffix, hSuffix⟩ := hKeys entry hMem
    rw [decide_eq_true_eq, hSuffix, String.ofList_inj] at hKey
    exact h suffix hKey.symm
  rw [lookup, hNone]
  rfl

/-- What stands behind the number: no further digit, and no exponent. -/
theorem rest_spec (suffix : Option Suffix) (lineEnd : Bool) :
    (∀ c, (suffixText suffix ++ if lineEnd then ['\n'] else []).head? = some c →
      isMantissa c = false) ∧ exponentGroup (suffixText suffix ++ if lineEnd then ['\n']
      else []) = [] := by
  constructor
  · rcases suffix with _ | suffix
    · cases lineEnd <;> rintro c hHead <;> cases hHead
      rfl
    · cases suffix <;> rintro c hHead <;> cases hHead <;> rfl
  · rcases suffix with _ | suffix
    · cases lineEnd <;> rfl
    · cases suffix <;> cases lineEnd <;> rfl

theorem toList_sign (sign : Option Sign) : (sign.map Sign.char).toList = signText sign := by
  cases sign <;> rfl

theorem leads_sign {sign : Option Sign} {rest : List Char}
    (h : ∀ c, rest.head? = some c → isSign c = false) :
    (Matcher.optional (Matcher.one isSign)).Leads (signText sign ++ rest)
      (sign.map Sign.char) rest := by
  have hTest : ∀ c, sign.map Sign.char = some c → isSign c = true := by
    intro c hSign
    have hMem : c ∈ signText sign := by simp [← toList_sign, hSign]
    exact isSign_of_mem hMem
  rw [← toList_sign]
  exact Matcher.leads_optional_one hTest fun _ => h

theorem isSign_head {digits rest : List Char} (hNe : digits ≠ [])
    (h : ∀ c ∈ digits, isMantissa c = true) :
    ∀ c, (digits ++ rest).head? = some c → isSign c = false := by
  obtain ⟨d, others, rfl⟩ := List.exists_cons_of_ne_nil hNe
  rintro c hHead
  obtain rfl := Option.some.inj hHead
  exact isSign_of_isMantissa (h d List.mem_cons_self)

theorem leads_exponentGroup (exponent : Exponent) {rest : List Char}
    (h : ∀ c, rest.head? = some c → isMantissa c = false) :
    exponentGroup.Leads (exponent.text ++ rest) exponent.text rest := by
  obtain ⟨mark, sign, digits, hMark, hNe⟩ := exponent
  have hDigits : ∀ c ∈ digitsText digits, isDigit c = true := fun c => isDigit_of_mem
  have hSome : digitsText digits ≠ [] := by simpa [digitsText] using hNe
  have hStop : ∀ c, rest.head? = some c → isDigit c = false := by
    intro c hHead
    by_contra hDigit
    have hMantissa := isMantissa_of_isDigit (by simpa using hDigit)
    simp [h c hHead] at hMantissa
  have hGroup : exponentGroup.Leads (mark :: (signText sign ++ (digitsText digits ++ rest)))
      (mark :: ((sign.map Sign.char).toList ++ digitsText digits)) rest :=
    (Matcher.leads_one (by simpa [isMark] using hMark)).bind
      ((leads_sign (isSign_head hSome fun c hMem => isMantissa_of_isDigit (hDigits c hMem))).bind
        ((Matcher.leads_some hSome hDigits hStop).bind (Matcher.leads_pure _ _)))
  rw [toList_sign] at hGroup
  simpa [Exponent.text] using hGroup

theorem leads_exponent (exponent : Option Exponent) {rest : List Char}
    (hHead : ∀ c, rest.head? = some c → isMantissa c = false) (hGroup : exponentGroup rest = []) :
    (Matcher.optional exponentGroup).Leads (exponentText exponent ++ rest)
      (exponent.map Exponent.text) rest := by
  cases exponent with
  | none => exact Matcher.leads_optional_none hGroup
  | some exponent => exact (leads_exponentGroup exponent hHead).optional

theorem leads_suffix (suffix : Option Suffix) (lineEnd : Bool) : (Matcher.many isLetter).Leads
    (suffixText suffix ++ if lineEnd then ['\n'] else []) (suffixText suffix) (if lineEnd then
      ['\n'] else []) := by
  have hLetters : ∀ c ∈ suffixText suffix, isLetter c = true := by
    rcases suffix with _ | suffix
    · simp [suffixText]
    · cases suffix <;> decide
  refine Matcher.leads_many hLetters fun c hHead => ?_
  cases lineEnd <;> cases hHead
  rfl

/-- The pattern takes a number and its suffix apart. -/
theorem pattern_written (written : Written) : pattern.capture written.text =
    some [("n", written.numeral.text), ("s", suffixText written.suffix)] := by
  obtain ⟨⟨sign, mantissa, exponent⟩, suffix, lineEnd⟩ := written
  obtain ⟨hHead, hGroup⟩ := rest_spec suffix lineEnd
  have hMantissa : ∀ c ∈ mantissa.text, isMantissa c = true := fun c => Mantissa.isMantissa_of_mem
  have hStop :
      ∀ c, (exponentText exponent ++ (suffixText suffix ++ if lineEnd then ['\n'] else [])).head? =
        some c →
      isMantissa c = false := by
    cases exponent with
    | none => exact hHead
    | some exponent =>
        intro c hMark
        obtain rfl := Option.some.inj hMark
        rcases exponent.mark_eq with hChar | hChar <;> rw [hChar] <;> rfl
  have hEnd :
      Matcher.atEnd.Leads (if lineEnd then ['\n'] else []) () (if lineEnd then ['\n'] else []) := by
    cases lineEnd <;> rfl
  have hLeads :
      pattern.Leads
        (signText sign ++ (mantissa.text ++ (exponentText exponent ++ (suffixText suffix ++
      if lineEnd then ['\n'] else []))))
      [("n", (sign.map Sign.char).toList ++ (mantissa.text ++ exponentText exponent)),
       ("s", suffixText suffix)]
      (if lineEnd then ['\n'] else []) :=
    (leads_sign (isSign_head mantissa.text_ne_nil hMantissa)).bind
      ((Matcher.leads_some mantissa.text_ne_nil hMantissa hStop).bind
        ((leads_exponent exponent hHead hGroup).bind
        ((leads_suffix suffix lineEnd).bind (hEnd.bind (Matcher.leads_pure _ _)))))
  have hCapture := hLeads.capture
  rw [toList_sign] at hCapture
  simpa [Written.text, Numeral.text] using hCapture

theorem mem_exponentGroup {text run rest : List Char} (h : (run, rest) ∈ exponentGroup text) :
    text = run ++ rest := by
  simp only [exponentGroup, Matcher.mem_bind, Matcher.mem_one, Matcher.mem_some,
    Matcher.mem_pure] at h
  obtain ⟨mark, _, ⟨rfl, _⟩, sign, _, hSign, digits, _, ⟨rfl, _⟩, rfl, rfl⟩ := h
  rw [(Matcher.mem_optional_one hSign).1]
  simp

/-- What the pattern takes apart stands in the text. -/
theorem pattern_sound {text : List Char} {groups : List (String × List Char)}
    (h : pattern.capture text = some groups) :
    ∃ (n s : List Char) (lineEnd : Bool),
      text = n ++ (s ++ if lineEnd then ['\n'] else []) ∧ groups = [("n", n), ("s", s)] := by
  obtain ⟨rest, hMem⟩ := Matcher.exists_mem_of_capture h
  simp only [pattern, Matcher.mem_bind, Matcher.mem_some, Matcher.mem_many, Matcher.mem_atEnd,
    Matcher.mem_pure] at hMem
  obtain ⟨sign, _, hSign, mantissa, _, ⟨rfl, _⟩, exponent, _, hExponent, s, _, ⟨rfl, _⟩, _, _,
    ⟨rfl, hEnd⟩, hGroups, rfl⟩ := hMem
  rw [(Matcher.mem_optional_one hSign).1, Matcher.mem_optional_run
    (fun run => mem_exponentGroup) hExponent]
  rcases hEnd with rfl | rfl
  · exact ⟨_, s, false, by simp, hGroups⟩
  · exact ⟨_, s, true, by simp, hGroups⟩

/-- What `qty` makes of the groups of a text that the pattern matches. -/
theorem qty_of_capture {value : Value} {n s : List Char}
    (h : pattern.capture (jq.tostring value).toList = some [("n", n), ("s", s)]) :
    qty jq value = alternative (tryCatch (do
        let factor ← alternative (pure (lookup multipliers (String.ofList s))) (pure (.num 0))
        let n ← jq.tonumber (.str (String.ofList n))
        jq.times n factor) (pure (.num 0))) (pure (.num 0)) := by
  have hCapture : capture pattern (.str (jq.tostring value)) =
      pure (.obj [("n", .str (String.ofList n)), ("s", .str (String.ofList s))]) := by
    simp only [capture, h]
    rfl
  have hSuffix : field "s" (.obj [("n", .str (String.ofList n)), ("s", .str (String.ofList s))]) =
      pure (.str (String.ofList s)) := rfl
  have hNumber : field "n" (.obj [("n", .str (String.ofList n)), ("s", .str (String.ofList s))]) =
      pure (.str (String.ofList n)) := rfl
  rw [qty, hCapture, one_bind, hSuffix, hNumber, one_bind, one_bind]
  rfl

theorem qty_of_no_match {value : Value} (h : pattern.capture (jq.tostring value).toList = none) :
    qty jq value = pure (.num 0) := by
  have hCapture : capture pattern (.str (jq.tostring value)) = empty := by simp only [capture, h]
  rw [qty, hCapture, empty_bind]
  rfl

theorem qty_written {value : Value} {written : Written}
    (h : (jq.tostring value).toList = written.text) :
    qty jq value = pure (.num written.value) := by
  rw [qty_of_capture jq (h ▸ pattern_written written), lookup_suffixText, alternative_num, one_bind,
    tonumber_numeral, one_bind]
  rfl

/-- The factor is 0 if the letters are no suffix. -/
theorem factor_cases (s : List Char) : (∃ suffix, s = suffixText suffix) ∨
    alternative (pure (lookup multipliers (String.ofList s))) (pure (.num 0)) = pure (.num 0) := by
  by_cases h : ∃ suffix, s = suffixText suffix
  · exact .inl h
  · rw [lookup_other fun suffix hSuffix => h ⟨suffix, hSuffix⟩]
    exact .inr rfl

theorem exists_factor (s : List Char) :
    ∃ factor, alternative (pure (lookup multipliers (String.ofList s))) (pure (.num 0)) =
      pure (.num factor) := by
  rcases factor_cases s with ⟨suffix, rfl⟩ | hNone
  · exact ⟨suffixFactor suffix, by rw [lookup_suffixText, alternative_num]⟩
  · exact ⟨0, hNone⟩

theorem qty_unreadable {value : Value}
    (h : ∀ written : Written, (jq.tostring value).toList ≠ written.text) :
    qty jq value = pure (.num 0) := by
  cases hCapture : pattern.capture (jq.tostring value).toList with
  | none => exact qty_of_no_match jq hCapture
  | some groups =>
      obtain ⟨n, s, lineEnd, hText, rfl⟩ := pattern_sound hCapture
      rw [qty_of_capture jq hCapture]
      by_cases hNumeral : ∃ numeral : Numeral, n = numeral.text
      · obtain ⟨numeral, rfl⟩ := hNumeral
        have hFactor := (factor_cases s).resolve_left fun ⟨suffix, hSuffix⟩ =>
          h ⟨numeral, suffix, lineEnd⟩ (by rw [hText, hSuffix]; rfl)
        have hProduct : jq.times (.num numeral.value) (.num 0) = pure (.num 0) := by
          rw [Builtins.times, mul_zero]
        rw [hFactor, one_bind, tonumber_numeral, one_bind, hProduct]
        rfl
      · obtain ⟨factor, hFactor⟩ := exists_factor s
        rw [hFactor, one_bind, tonumber_other jq fun numeral hText =>
          hNumeral ⟨numeral, hText⟩, error_bind]
        rfl

/-- Whatever the value is, `qty` puts out what it is worth. -/
theorem qty_eq (value : Value) : qty jq value = pure (.num (worth jq value)) := by
  by_cases h : ∃ written : Written, (jq.tostring value).toList = written.text
  · rw [worth, dif_pos h]
    exact qty_written jq h.choose_spec
  · rw [worth, dif_neg h]
    exact qty_unreadable jq fun written hText => h ⟨written, hText⟩

theorem worth_of_qty {value : Value} {x : ℚ} (h : qty jq value = pure (.num x)) :
    worth jq value = x := by
  have hSame := (qty_eq jq value).symm.trans h
  exact (Value.num.inj (List.cons_eq_cons.mp (congrArg Results.values hSame)).1)

theorem qty_quantity (quantity : Quantity) :
    qty jq (.str (String.ofList quantity.text)) = pure (.num quantity.value) := by
  rw [← quantity.value_written]
  refine qty_written jq ?_
  rw [quantity.text_written]
  exact String.toList_ofList

theorem worth_untruthy {value : Value} (h : value.truthy = false) : worth jq value = 0 := by
  refine worth_of_qty jq (qty_of_no_match jq ?_)
  cases value with
  | null =>
      rw [show jq.tostring .null = "null" from rfl]
      decide
  | bool value =>
      obtain rfl : value = false := h
      rw [show jq.tostring (.bool false) = "false" from rfl]
      decide
  | _ => cases h

theorem worth_zero : worth jq (.str "0") = 0 := by
  let zero : Quantity := ⟨none, ⟨[0], none, .inl (List.cons_ne_nil _ _)⟩, .plain⟩
  have hZero : qty jq (.str "0") = pure (.num zero.value) := qty_quantity jq zero
  rw [worth_of_qty jq hZero]
  simp [zero, Quantity.value, Mantissa.value, digitsValue]

/-- The fallback to "0" changes nothing. -/
theorem worth_alternative (value : Value) :
    (alternative (pure value) (pure (.str "0")) >>= qty jq) =
    pure (.num (worth jq value)) := by
  cases hTruthy : value.truthy with
  | true =>
      have hKept : alternative (pure value) (pure (.str "0")) = pure value := by
        simp [alternative, pure, hTruthy]
      rw [hKept, one_bind, qty_eq]
  | false =>
      have hDropped : alternative (pure value) (pure (.str "0")) = pure (.str "0") := by
        simp [alternative, pure, hTruthy]
      rw [hDropped, one_bind, qty_eq, worth_zero, worth_untruthy jq hTruthy]

end NodeDebugDashboard.Scripts.Quantities
