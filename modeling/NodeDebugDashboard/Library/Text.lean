import Mathlib.Data.List.TakeWhile
import Mathlib.Tactic.Linarith

/-! Python's text methods where they depend on the Unicode tables (version 14,
as in Python 3.11). -/
namespace Library.Text

/-- A statement about the members of a list is decided member by member. -/
instance (priority := 1100) decidableForallMem {α : Type} (items : List α) (P : α → Prop)
    [DecidablePred P] : Decidable (∀ a ∈ items, P a) := List.decidableBAll P items

/-- Texts are compared by their characters. -/
instance lawfulTextEq : LawfulBEq (List Char) := inferInstance

/-- What depends on the Unicode tables that are too long to write out, and what
they say about ASCII. -/
class Unicode where
  isAlnum : Char → Bool
  isPrintable : Char → Bool
  /-- `text.lower()` -/
  lower : List Char → List Char
  isAlnum_ascii : ∀ c : Char, c.toNat < 128 → isAlnum c = c.isAlphanum
  isPrintable_ascii : ∀ c : Char, c.toNat < 128 → isPrintable c = (32 ≤ c.toNat && c.toNat < 127)
  lower_ascii : ∀ text : List Char, (∀ c ∈ text, c.toNat < 128) → lower text = text.map Char.toLower

/-- Tables for text in ASCII. -/
abbrev Unicode.ascii : Unicode where
  isAlnum c := c.isAlphanum
  isPrintable c := 32 ≤ c.toNat && c.toNat < 127
  lower text := text.map Char.toLower
  isAlnum_ascii _ _ := rfl
  isPrintable_ascii _ _ := rfl
  lower_ascii _ _ := rfl

/-- `c.isspace()` -/
def isSpace (c : Char) : Bool :=
  let n := c.toNat
  (9 ≤ n && n ≤ 13) || (28 ≤ n && n ≤ 32) || n = 0x85 || n = 0xa0 || n = 0x1680 ||
    (0x2000 ≤ n && n ≤ 0x200a) || n = 0x2028 || n = 0x2029 || n = 0x202f || n = 0x205f ||
    n = 0x3000

/-- `text.strip()` -/
def strip (text : List Char) : List Char :=
  ((text.dropWhile isSpace).reverse.dropWhile isSpace).reverse

/-- `text.rstrip()` -/
def rstrip (text : List Char) : List Char := (text.reverse.dropWhile isSpace).reverse

/-- `text.split()` -/
def words : List Char → List (List Char) := fun text =>
  (text.splitOnP isSpace).filter (· ≠ [])

/-- `text.split(None, 1)` -/
def splitFirst (text : List Char) : List (List Char) :=
  let start := text.dropWhile isSpace
  let word := start.takeWhile (!isSpace ·)
  let rest := (start.dropWhile (!isSpace ·)).dropWhile isSpace
  if word = [] then [] else if rest = [] then [word] else [word, rest]

/-- The characters with the decimal value 0, each followed by those with the
values 1 to 9. -/
def decimalZeros : List Nat :=
  [0x30, 0x660, 0x6f0, 0x7c0, 0x966, 0x9e6, 0xa66, 0xae6, 0xb66, 0xbe6, 0xc66, 0xce6, 0xd66,
    0xde6, 0xe50, 0xed0, 0xf20, 0x1040, 0x1090, 0x17e0, 0x1810, 0x1946, 0x19d0, 0x1a80, 0x1a90,
    0x1b50, 0x1bb0, 0x1c40, 0x1c50, 0xa620, 0xa8d0, 0xa900, 0xa9d0, 0xa9f0, 0xaa50, 0xabf0,
    0xff10, 0x104a0, 0x10d30, 0x11066, 0x110f0, 0x11136, 0x111d0, 0x112f0, 0x11450, 0x114d0,
    0x11650, 0x116c0, 0x11730, 0x118e0, 0x11950, 0x11c50, 0x11d50, 0x11da0, 0x16a60, 0x16ac0,
    0x16b50, 0x1d7ce, 0x1d7d8, 0x1d7e2, 0x1d7ec, 0x1d7f6, 0x1e140, 0x1e2f0, 0x1e950, 0x1fbf0]

/-- `unicodedata.decimal(c)` -/
def decimal (c : Char) : Option Nat :=
  (decimalZeros.find? fun first => first ≤ c.toNat && c.toNat < first + 10).map (c.toNat - ·)

/-- `\d` in a pattern. -/
def isDecimal (c : Char) : Bool := (decimal c).isSome

/-- Digits without a decimal value, such as superscripts and circled ones. -/
def otherDigits : List (Nat × Nat) :=
  [(0xb2, 0xb3), (0xb9, 0xb9), (0x1369, 0x1371), (0x19da, 0x19da), (0x2070, 0x2070),
    (0x2074, 0x2079), (0x2080, 0x2089), (0x2460, 0x2468), (0x2474, 0x247c), (0x2488, 0x2490),
    (0x24ea, 0x24ea), (0x24f5, 0x24fd), (0x24ff, 0x24ff), (0x2776, 0x277e), (0x2780, 0x2788),
    (0x278a, 0x2792), (0x10a40, 0x10a43), (0x10e60, 0x10e68), (0x11052, 0x1105a),
    (0x1f100, 0x1f10a)]

def isDigitChar (c : Char) : Bool :=
  isDecimal c || otherDigits.any fun range => range.1 ≤ c.toNat && c.toNat ≤ range.2

/-- `text.isdigit()` -/
def isDigit (text : List Char) : Bool := text ≠ [] && text.all isDigitChar

/-- The digit values of an integer literal. An underscore stands between two
digits. -/
def digitValues : Bool → List Char → Option (List Nat)
  | afterDigit, [] => if afterDigit then some [] else none
  | afterDigit, c :: rest =>
      match decimal c with
      | some d => (digitValues true rest).map (d :: ·)
      | none => if c = '_' && afterDigit then digitValues false rest else none

/-- The number of digits up to which `int(text)` converts. -/
def maxDigits : Nat := 4300

def ofDigits (digits : List Nat) : Nat := digits.foldl (fun value d => 10 * value + d) 0

def unsigned (text : List Char) : Option Nat :=
  match digitValues false text with
  | some digits => if digits.length ≤ maxDigits then some (ofDigits digits) else none
  | none => none

/-- `int(text)`; `none` when it raises `ValueError`. -/
def int? (text : List Char) : Option Int :=
  match strip text with
  | '-' :: rest => (unsigned rest).map fun value => -(value : Int)
  | '+' :: rest => (unsigned rest).map Int.ofNat
  | rest => (unsigned rest).map Int.ofNat

/-- The characters that end a line. -/
def isLineEnd (c : Char) : Bool :=
  let n := c.toNat
  (10 ≤ n && n ≤ 13) || (28 ≤ n && n ≤ 30) || n = 0x85 || n = 0x2028 || n = 0x2029

def splitLinesFrom : List Char → List Char → List (List Char)
  | line, [] => if line = [] then [] else [line.reverse]
  | line, '\r' :: '\n' :: rest => line.reverse :: splitLinesFrom [] rest
  | line, c :: rest =>
      if isLineEnd c then line.reverse :: splitLinesFrom [] rest
      else splitLinesFrom (c :: line) rest

/-- `text.splitlines()` -/
def splitLines (text : List Char) : List (List Char) := splitLinesFrom [] text

theorem decimal_of_isDigit {c : Char} (h : c.isDigit = true) :
    decimal c = some (c.toNat - '0'.toNat) := by
  have hRange : 48 ≤ c.toNat ∧ c.toNat < 58 := by
    simp only [Char.isDigit, Bool.and_eq_true, decide_eq_true_eq] at h
    have hLow : 48 ≤ c.toNat := h.1
    have hHigh : c.toNat ≤ 57 := h.2
    omega
  simp [decimal, decimalZeros, hRange.1, hRange.2]

theorem isSpace_of_isDigit {c : Char} (h : c.isDigit = true) : isSpace c = false := by
  have hLow : 48 ≤ c.toNat := by
    simp only [Char.isDigit, Bool.and_eq_true, decide_eq_true_eq] at h
    exact h.1
  have hHigh : c.toNat ≤ 57 := by
    simp only [Char.isDigit, Bool.and_eq_true, decide_eq_true_eq] at h
    exact h.2
  simp [isSpace]
  omega

theorem strip_eq_self {text : List Char} (h : ∀ c ∈ text, isSpace c = false) :
    strip text = text := by
  have hDrop : ∀ l : List Char, (∀ c ∈ l, isSpace c = false) → l.dropWhile isSpace = l := by
    intro l hl
    cases l with
    | nil => rfl
    | cons c rest => rw [List.dropWhile_cons_of_neg (by simp [hl c])]
  rw [strip, hDrop text h, hDrop text.reverse fun c hc => h c (List.mem_reverse.mp hc),
    List.reverse_reverse]

/-- The text contains something else than whitespace. -/
def Visible (text : List Char) : Prop := ∃ c ∈ text, isSpace c = false

theorem toNat_of_isAlphanum {c : Char} (h : c.isAlphanum = true) :
    48 ≤ c.toNat ∧ c.toNat ≤ 122 := by
  delta Char.isAlphanum Char.isAlpha Char.isUpper Char.isLower Char.isDigit at h
  simp only [Bool.or_eq_true, Bool.and_eq_true, decide_eq_true_eq, UInt32.le_iff_toNat_le] at h
  have hVal : c.val.toNat = c.toNat := rfl
  simp only [hVal] at h
  rcases h with (⟨hLow, hHigh⟩ | ⟨hLow, hHigh⟩) | ⟨hLow, hHigh⟩ <;> simp at hLow hHigh <;> omega

theorem isSpace_of_isAlphanum {c : Char} (h : c.isAlphanum = true) : isSpace c = false := by
  have hRange := toNat_of_isAlphanum h
  simp [isSpace]
  omega

theorem strip_ne_nil {text : List Char} (h : Visible text) : strip text ≠ [] := by
  obtain ⟨c, hMem, hSpace⟩ := h
  have hLeft : text.dropWhile isSpace ≠ [] := by
    intro hNil
    have hAll := List.dropWhile_eq_nil_iff.mp hNil c hMem
    simp [hSpace] at hAll
  intro hNil
  rw [strip, List.reverse_eq_nil_iff, List.dropWhile_eq_nil_iff] at hNil
  have hHead := hNil ((text.dropWhile isSpace).head hLeft) (by simp)
  have hKept := List.head_dropWhile_not isSpace hLeft
  simp [hHead] at hKept

theorem strip_isPrefix (text : List Char) : strip text <+: text.dropWhile isSpace := by
  have hDrop : (text.dropWhile isSpace).reverse.dropWhile isSpace <:+
      (text.dropWhile isSpace).reverse := List.dropWhile_suffix _
  rwa [← List.reverse_prefix, List.reverse_reverse] at hDrop

theorem strip_isInfix (text : List Char) : strip text <:+: text :=
  (strip_isPrefix text).isInfix.trans (List.dropWhile_suffix _).isInfix

/-- Where the run of elements that pass the test ends. -/
theorem span_eq_iff {α : Type} {test : α → Bool} {items first later : List α} :
    (items.takeWhile test = first ∧ items.dropWhile test = later) ↔
      items = first ++ later ∧ (∀ a ∈ first, test a = true) ∧
        ∀ a, later.head? = some a → test a = false := by
  constructor
  · rintro ⟨rfl, rfl⟩
    refine ⟨List.takeWhile_append_dropWhile.symm, fun a ha => List.mem_takeWhile_imp ha, ?_⟩
    intro a ha
    have hSome : items.dropWhile test ≠ [] := by
      intro hNil
      simp [hNil] at ha
    have hKept := List.head_dropWhile_not test hSome
    rw [List.head?_eq_some_head hSome, Option.some.injEq] at ha
    rwa [ha] at hKept
  · rintro ⟨rfl, hFirst, hLater⟩
    have hStop : later.takeWhile test = [] ∧ later.dropWhile test = later := by
      cases later with
      | nil => simp
      | cons a rest => simp [hLater a rfl]
    rw [List.takeWhile_append_of_pos hFirst, List.dropWhile_append_of_pos hFirst, hStop.1, hStop.2]
    simp

theorem span_spec {α : Type} (test : α → Bool) (items : List α) :
    items = items.takeWhile test ++ items.dropWhile test ∧
      (∀ a ∈ items.takeWhile test, test a = true) ∧
        ∀ a, (items.dropWhile test).head? = some a → test a = false :=
  span_eq_iff.mp ⟨rfl, rfl⟩

theorem head?_dropWhile {α : Type} {test : α → Bool} {items : List α} {a : α}
    (h : (items.dropWhile test).head? = some a) : test a = false :=
  (span_spec test items).2.2 a h

theorem dropWhile_eq_self {α : Type} {test : α → Bool} {items : List α}
    (h : ∀ a, items.head? = some a → test a = false) : items.dropWhile test = items :=
  (span_eq_iff.mpr ⟨(List.nil_append items).symm, by simp, h⟩).2

/-- What is stripped does not end in whitespace. -/
theorem getLast?_strip {text : List Char} {c : Char} (h : (strip text).getLast? = some c) :
    isSpace c = false := by
  rw [strip, List.getLast?_reverse] at h
  exact head?_dropWhile h

/-- Nothing is stripped off text that does not begin or end in whitespace. -/
theorem strip_eq_self_of_ends {text : List Char}
    (hHead : ∀ c, text.head? = some c → isSpace c = false)
    (hLast : ∀ c, text.getLast? = some c → isSpace c = false) : strip text = text := by
  rw [strip, dropWhile_eq_self hHead, dropWhile_eq_self, List.reverse_reverse]
  simpa using hLast

theorem head?_strip {text : List Char} {c : Char} (h : (strip text).head? = some c) :
    isSpace c = false := by
  obtain ⟨rest, hRest⟩ := strip_isPrefix text
  have hHead : (text.dropWhile isSpace).head? = some c := by
    rw [← hRest, List.head?_append, h]
    rfl
  exact head?_dropWhile hHead

/-- The text is a word, whitespace, and something after it. -/
def SplitsAt (text word rest : List Char) : Prop :=
  ∃ gap, text = word ++ gap ++ rest ∧ word ≠ [] ∧ (∀ c ∈ word, isSpace c = false) ∧ gap ≠ [] ∧
    (∀ c ∈ gap, isSpace c = true) ∧ ∃ c, rest.head? = some c ∧ isSpace c = false

/-- `split` finds the first gap of text that does not begin with whitespace. -/
theorem splitFirst_eq_pair_iff {text word rest : List Char}
    (hHead : ∀ c, text.head? = some c → isSpace c = false) :
    splitFirst text = [word, rest] ↔ SplitsAt text word rest := by
  have hStart := dropWhile_eq_self hHead
  constructor
  · intro h
    simp only [splitFirst, hStart] at h
    split_ifs at h with hWord hRest
    · simp at h
    · obtain ⟨rfl, rfl⟩ :=
        List.cons_eq_cons.mp h |>.imp id (fun hTail => (List.cons_eq_cons.mp hTail).1)
      obtain ⟨hWhole, hWordChars, hMiddle⟩ := span_spec (!isSpace ·) text
      obtain ⟨hParts, hGapChars, hRestHead⟩ := span_spec isSpace (text.dropWhile (!isSpace ·))
      obtain ⟨c, later, hCons⟩ := List.exists_cons_of_ne_nil hRest
      have hFirst := hRestHead c (by rw [hCons]; rfl)
      refine ⟨_, ?_, hWord, fun c hc => by simpa using hWordChars c hc, ?_, hGapChars, c,
        by rw [hCons]; rfl, hFirst⟩
      · rw [List.append_assoc, ← hParts, ← hWhole]
      · intro hGap
        rw [hGap, List.nil_append] at hParts
        have hSpace := hMiddle c (by rw [hParts, hCons]; rfl)
        simp [hFirst] at hSpace
  · rintro ⟨gap, rfl, hWord, hWordChars, hGap, hGapChars, first, hRest, hFirst⟩
    obtain ⟨g, gaps, rfl⟩ := List.exists_cons_of_ne_nil hGap
    have hSpan : (word ++ (g :: gaps) ++ rest).takeWhile (!isSpace ·) = word ∧
        (word ++ (g :: gaps) ++ rest).dropWhile (!isSpace ·) = (g :: gaps) ++ rest := by
      refine span_eq_iff.mpr ⟨List.append_assoc _ _ _, fun c hc => by simp [hWordChars c hc], ?_⟩
      intro c hc
      cases hc
      simp [hGapChars g List.mem_cons_self]
    have hAfter : ((g :: gaps) ++ rest).dropWhile isSpace = rest := by
      refine (span_eq_iff.mpr ⟨rfl, hGapChars, fun c hc => ?_⟩).2
      rw [hRest] at hc
      cases hc
      exact hFirst
    have hSome : rest ≠ [] := by
      rintro rfl
      simp at hRest
    simp only [splitFirst, hStart, hSpan.1, hSpan.2, hAfter, hWord, hSome, if_false]

/-- A line end after the text is stripped off. -/
theorem strip_append_newline {text : List Char} (h : ∀ c ∈ text, isSpace c = false)
    (hSome : text ≠ []) : strip (text ++ ['\n']) = text := by
  obtain ⟨first, rest, rfl⟩ := List.exists_cons_of_ne_nil hSome
  have hFirst : isSpace first = false := h first List.mem_cons_self
  have hStart : ((first :: rest) ++ ['\n']).dropWhile isSpace = (first :: rest) ++ ['\n'] := by
    rw [List.cons_append, List.dropWhile_cons_of_neg (by simp [hFirst])]
  rw [strip, hStart, List.reverse_append, List.reverse_singleton, List.singleton_append,
    List.dropWhile_cons_of_pos (by decide)]
  have hKeep := strip_eq_self h
  rwa [strip, List.dropWhile_cons_of_neg (by simp [hFirst])] at hKeep

theorem digitValues_of_isDigit {digits : List Char} (h : ∀ c ∈ digits, c.isDigit = true)
    (afterDigit : Bool) (hSome : digits ≠ [] ∨ afterDigit = true) :
    digitValues afterDigit digits = some (digits.map fun c => c.toNat - '0'.toNat) := by
  induction digits generalizing afterDigit with
  | nil =>
      have hAfter : afterDigit = true := by simpa using hSome
      simp [digitValues, hAfter]
  | cons c rest ih =>
      have hRest := ih (fun d hd => h d (List.mem_cons_of_mem _ hd)) true (.inr rfl)
      simp [digitValues, decimal_of_isDigit (h c List.mem_cons_self), hRest]

theorem ofDigits_map (digits : List Char) :
    ofDigits (digits.map fun c => c.toNat - '0'.toNat) = Nat.ofDigitChars 10 digits 0 := by
  rw [ofDigits, List.foldl_map, Nat.ofDigitChars_eq_foldl]

/-- The text of a number that is not too long reads back as the number. -/
theorem unsigned_toDigits {n : Nat} (h : n < 10 ^ maxDigits) :
    unsigned (Nat.toDigits 10 n) = some n := by
  have hDigits : ∀ c ∈ Nat.toDigits 10 n, c.isDigit = true :=
    fun c hc => Nat.isDigit_of_mem_toDigits (by omega) (by omega) hc
  have hLength : (Nat.toDigits 10 n).length ≤ maxDigits :=
    (Nat.length_toDigits_le_iff (by omega) (by decide)).mpr h
  rw [unsigned, digitValues_of_isDigit hDigits false (.inl Nat.toDigits_ne_nil)]
  simp only [List.length_map, hLength, if_true]
  rw [ofDigits_map, Nat.ofDigitChars_toDigits (by omega) (by omega)]

/-- A number as the kernel prints it. -/
def line (n : Nat) : List Char := Nat.toDigits 10 n ++ ['\n']

theorem toDigits_not_isSpace (n : Nat) : ∀ c ∈ Nat.toDigits 10 n, isSpace c = false :=
  fun _ hc => isSpace_of_isDigit (Nat.isDigit_of_mem_toDigits (by omega) (by omega) hc)

theorem strip_line (n : Nat) : strip (line n) = Nat.toDigits 10 n :=
  strip_append_newline (toDigits_not_isSpace n) Nat.toDigits_ne_nil

theorem isDigit_toDigits (n : Nat) : isDigit (Nat.toDigits 10 n) = true := by
  have hAll : (Nat.toDigits 10 n).all isDigitChar = true := by
    rw [List.all_eq_true]
    intro c hc
    have hDigit : c.isDigit = true := Nat.isDigit_of_mem_toDigits (by omega) (by omega) hc
    simp [isDigitChar, isDecimal, decimal_of_isDigit hDigit]
  simp [isDigit, hAll, Nat.toDigits_ne_nil]

theorem int?_toDigits {n : Nat} (h : n < 10 ^ maxDigits) :
    int? (Nat.toDigits 10 n) = some (n : Int) := by
  have hStrip := strip_eq_self (toDigits_not_isSpace n)
  have hSign : ∀ c ∈ Nat.toDigits 10 n, c ≠ '-' ∧ c ≠ '+' := by
    intro c hc
    have hDigit : c.isDigit = true := Nat.isDigit_of_mem_toDigits (by omega) (by omega) hc
    constructor <;> rintro rfl <;> simp at hDigit
  unfold int?
  rw [hStrip]
  split
  · rename_i rest hText
    exact absurd rfl (hSign '-' (by simp [hText])).1
  · rename_i rest hText
    exact absurd rfl (hSign '+' (by simp [hText])).2
  · rw [unsigned_toDigits h]
    rfl

end Library.Text
