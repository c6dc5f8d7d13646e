import Mathlib.Data.List.Forall2
import Mathlib.Data.List.Infix
import NodeDebugDashboard.Library.Bytes
import NodeDebugDashboard.Library.Pattern

/-! `re.sub` for patterns that keep a prefix of each match and mask the run of
characters after it. -/
namespace Library.Text

namespace Pattern

/-- The text matches between the character before it and the one after it. -/
def Matches : Pattern → Option Char → List Char → Option Char → Prop
  | empty, _, text, _ => text = []
  | one test, _, text, _ => ∃ c, text = [c] ∧ test c = true
  | many test, _, text, _ => ∀ c ∈ text, test c = true
  | boundary test, before, text, next => text = [] ∧ before.any test ≠ next.any test
  | seq first second, before, text, next => ∃ left right, text = left ++ right ∧
      first.Matches before left (right.head?.or next) ∧
        second.Matches (left.getLast?.or before) right next
  | alt first second, before, text, next =>
      first.Matches before text next ∨ second.Matches before text next

/-- The ways to match at the start of the text, in the order in which they are
tried: the character before what is left, and what is left. -/
def ways : Pattern → Option Char → List Char → List (Option Char × List Char)
  | empty, before, text => [(before, text)]
  | one test, _, c :: rest => if test c then [(some c, rest)] else []
  | one _, _, [] => []
  | many test, before, text => manyWays test before text
  | boundary test, before, text =>
      if before.any test ≠ text.head?.any test then [(before, text)] else []
  | seq first second, before, text =>
      (first.ways before text).flatMap fun middle => second.ways middle.1 middle.2
  | alt first second, before, text => first.ways before text ++ second.ways before text
where
  manyWays (test : Char → Bool) (before : Option Char) : List Char → List (Option Char × List Char)
    | [] => [(before, [])]
    | c :: rest => (if test c then manyWays test (some c) rest else []) ++ [(before, c :: rest)]

theorem mem_manyWays_iff {test : Char → Bool} {before last : Option Char} {text rest : List Char} :
    (last, rest) ∈ ways.manyWays test before text ↔
      ∃ kept, text = kept ++ rest ∧ last = kept.getLast?.or before ∧ ∀ c ∈ kept, test c = true := by
  induction text generalizing before with
  | nil =>
      simp only [ways.manyWays, List.mem_singleton, Prod.mk.injEq]
      constructor
      · rintro ⟨rfl, rfl⟩
        exact ⟨[], by simp⟩
      · rintro ⟨kept, hText, rfl, _⟩
        obtain ⟨rfl, rfl⟩ := List.append_eq_nil_iff.mp hText.symm
        simp
  | cons c text ih =>
      rw [ways.manyWays, List.mem_append, List.mem_singleton, Prod.mk.injEq]
      constructor
      · rintro (hMem | ⟨rfl, rfl⟩)
        · split_ifs at hMem with hTest
          · obtain ⟨kept, rfl, rfl, hKept⟩ := ih.mp hMem
            refine ⟨c :: kept, rfl, ?_, List.forall_mem_cons.mpr ⟨hTest, hKept⟩⟩
            cases hLast : kept.getLast? <;> simp [List.getLast?_cons, hLast]
          · simp at hMem
        · exact ⟨[], by simp⟩
      · rintro ⟨kept, hText, rfl, hKept⟩
        cases kept with
        | nil => exact .inr ⟨by simp, by simpa using hText.symm⟩
        | cons d kept =>
            obtain ⟨rfl, rfl⟩ := List.cons_eq_cons.mp hText
            obtain ⟨hTest, hKept⟩ := List.forall_mem_cons.mp hKept
            left
            rw [if_pos hTest]
            refine ih.mpr ⟨kept, rfl, ?_, hKept⟩
            cases hLast : kept.getLast? <;> simp [List.getLast?_cons, hLast]

/-- The ways to match are the prefixes that match. -/
theorem mem_ways_iff {pattern : Pattern} {before last : Option Char} {text rest : List Char} :
    (last, rest) ∈ pattern.ways before text ↔
      ∃ kept, text = kept ++ rest ∧ last = kept.getLast?.or before ∧
        pattern.Matches before kept rest.head? := by
  induction pattern generalizing before last text rest with
  | empty =>
      simp only [ways, Matches, List.mem_singleton, Prod.mk.injEq]
      constructor
      · rintro ⟨rfl, rfl⟩
        exact ⟨[], by simp⟩
      · rintro ⟨_, rfl, rfl, rfl⟩
        simp
  | one test =>
      simp only [Matches]
      constructor
      · intro h
        cases text with
        | nil => simp [ways] at h
        | cons c text =>
            rw [ways] at h
            split_ifs at h with hTest
            · obtain ⟨rfl, rfl⟩ := Prod.mk.injEq _ _ _ _ ▸ List.mem_singleton.mp h
              exact ⟨[c], rfl, rfl, c, rfl, hTest⟩
            · simp at h
      · rintro ⟨_, rfl, rfl, c, rfl, hTest⟩
        simp [ways, hTest]
  | many test =>
      rw [ways]
      exact mem_manyWays_iff
  | boundary test =>
      simp only [ways, Matches]
      constructor
      · intro h
        split_ifs at h with hEdge
        · obtain ⟨rfl, rfl⟩ := Prod.mk.injEq _ _ _ _ ▸ List.mem_singleton.mp h
          exact ⟨[], rfl, rfl, rfl, hEdge⟩
        · simp at h
      · rintro ⟨_, rfl, rfl, rfl, hEdge⟩
        simp only [List.nil_append, if_pos hEdge]
        simp
  | seq first second ihFirst ihSecond =>
      simp only [ways, Matches, List.mem_flatMap, Prod.exists, ihFirst, ihSecond]
      constructor
      · rintro ⟨_, _, ⟨left, rfl, rfl, hLeft⟩, right, rfl, rfl, hRight⟩
        refine ⟨left ++ right, by simp, ?_, left, right, rfl, ?_, hRight⟩
        · rw [List.getLast?_append, Option.or_assoc]
        · rwa [List.head?_append] at hLeft
      · rintro ⟨_, rfl, rfl, left, right, rfl, hLeft, hRight⟩
        refine ⟨_, right ++ rest, ⟨left, by simp, rfl, ?_⟩, right, rfl, ?_, hRight⟩
        · rwa [List.head?_append]
        · rw [List.getLast?_append, Option.or_assoc]
  | alt first second ihFirst ihSecond =>
      simp only [ways, Matches, List.mem_append, ihFirst, ihSecond]
      constructor
      · rintro (⟨kept, hText, hLast, h⟩ | ⟨kept, hText, hLast, h⟩)
        · exact ⟨kept, hText, hLast, .inl h⟩
        · exact ⟨kept, hText, hLast, .inr h⟩
      · rintro ⟨kept, hText, hLast, h | h⟩
        · exact .inl ⟨kept, hText, hLast, h⟩
        · exact .inr ⟨kept, hText, hLast, h⟩

/-- The first success among the ways to match one pattern after another. -/
theorem findSome?_ways_seq {α : Type} {f : Option Char × List Char → Option α}
    (first second : Pattern) (before : Option Char) (text : List Char) :
    ((seq first second).ways before text).findSome? f =
      (first.ways before text).findSome? fun middle =>
        (second.ways middle.1 middle.2).findSome? f := by
  rw [ways]
  induction first.ways before text with
  | nil => rfl
  | cons middle others ih =>
      rw [List.flatMap_cons, List.findSome?_append, List.findSome?_cons, ih]
      cases (second.ways middle.1 middle.2).findSome? f <;> rfl

/-- The first success among the ways to match a pattern or nothing. -/
theorem findSome?_ways_optional {α : Type} {f : Option Char × List Char → Option α}
    (pattern : Pattern) (before : Option Char) (text : List Char) :
    ((alt pattern empty).ways before text).findSome? f =
      ((pattern.ways before text).findSome? f).or (f (before, text)) := by
  rw [ways, List.findSome?_append, ways, List.findSome?_singleton]

/-- The letters spell the name, in any case. -/
def Spells (name : String) (letters : List Char) : Prop :=
  List.Forall₂ (fun expected c => sameLetter expected c = true) name.toList letters

theorem matches_lit_iff {name : String} {before next : Option Char} {text : List Char} :
    (lit name).Matches before text next ↔ Spells name text := by
  suffices h : ∀ (names : List Char) (before : Option Char) (text : List Char),
      (all (names.map fun c => one (sameLetter c))).Matches before text next ↔
        List.Forall₂ (fun expected c => sameLetter expected c = true) names text from h _ _ _
  intro names
  induction names with
  | nil => simp [all, Matches]
  | cons expected names ih =>
      intro before text
      rw [List.forall₂_cons_left_iff]
      constructor
      · rintro ⟨_, right, rfl, ⟨c, rfl, hLetter⟩, hRight⟩
        exact ⟨c, right, hLetter, (ih _ _).mp hRight, rfl⟩
      · rintro ⟨c, right, hLetter, hRight, rfl⟩
        exact ⟨[c], right, rfl, ⟨c, rfl, hLetter⟩, (ih _ _).mpr hRight⟩

theorem matches_anyOf_iff {first : String} {others : List String} {before next : Option Char}
    {text : List Char} : (anyOf first others).Matches before text next ↔
      ∃ name ∈ first :: others, Spells name text := by
  suffices h : ∀ (others : List String) (pattern : Pattern),
      (others.foldl (fun pattern name => alt pattern (lit name)) pattern).Matches before text next ↔
        pattern.Matches before text next ∨ ∃ name ∈ others, Spells name text by
    rw [anyOf, h, matches_lit_iff]
    simp
  intro others
  induction others with
  | nil => simp
  | cons other others ih =>
      intro pattern
      rw [List.foldl_cons, ih]
      simp only [Matches, matches_lit_iff, List.mem_cons, exists_eq_or_imp, or_assoc]

/-- A character that is not a letter has no case. -/
theorem sameLetter_iff_eq {expected c : Char}
    (h : ¬(0x41 ≤ expected.toNat ∧ expected.toNat ≤ 0x5a) ∧
      ¬(0x61 ≤ expected.toNat ∧ expected.toNat ≤ 0x7a)) :
    sameLetter expected c = true ↔ c = expected := by
  have hLower : expected.toLower = expected := by
    rw [← Char.toNat_inj, toNat_toLower, if_neg h.1]
  constructor
  · intro hLetter
    have hNot : ∀ letter : Char, 0x61 ≤ letter.toNat ∧ letter.toNat ≤ 0x7a → expected ≠ letter := by
      rintro letter hRange rfl
      exact h.2 hRange
    simp only [sameLetter, hLower, hNot 'i' (by decide), hNot 's' (by decide), hNot 'k' (by decide),
      decide_false, Bool.false_and, Bool.or_false, decide_eq_true_eq] at hLetter
    rw [← Char.toNat_inj, toNat_toLower] at hLetter
    rw [← Char.toNat_inj]
    split_ifs at hLetter <;> omega
  · rintro rfl
    simp [sameLetter]

/-- A name of one character that is not a letter. -/
theorem spells_symbol_iff {name : String} {expected : Char} (hName : name.toList = [expected])
    (h : ¬(0x41 ≤ expected.toNat ∧ expected.toNat ≤ 0x5a) ∧
      ¬(0x61 ≤ expected.toNat ∧ expected.toNat ≤ 0x7a)) {text : List Char} :
    Spells name text ↔ text = [expected] := by
  rw [Spells, hName, List.forall₂_cons_left_iff]
  constructor
  · rintro ⟨c, rest, hLetter, hRest, rfl⟩
    rw [List.forall₂_nil_left_iff.mp hRest, (sameLetter_iff_eq h).mp hLetter]
  · rintro rfl
    exact ⟨expected, [], (sameLetter_iff_eq h).mpr rfl, .nil, rfl⟩

theorem isSpace_of_sameLetter {expected c : Char} (h : sameLetter expected c = true)
    (hExpected : isSpace expected = false) : isSpace c = false := by
  have hLetter : c.toLower.toNat = expected.toLower.toNat ∨ c.toNat = 0x130 ∨ c.toNat = 0x131 ∨
      c.toNat = 0x17f ∨ c.toNat = 0x212a := by
    simp only [sameLetter, Bool.or_eq_true, Bool.and_eq_true, decide_eq_true_eq] at h
    rcases h with ((hLower | ⟨_, hSpecial⟩) | ⟨_, hSpecial⟩) | ⟨_, hSpecial⟩
    · exact .inl (congrArg Char.toNat hLower)
    · tauto
    · tauto
    · tauto
  rw [toNat_toLower, toNat_toLower] at hLetter
  simp only [isSpace, Bool.or_eq_false_iff, Bool.and_eq_false_iff, decide_eq_false_iff_not]
    at hExpected ⊢
  split_ifs at hLetter <;> omega

theorem Spells.exists_of_mem {name : String} {letters : List Char} (h : Spells name letters)
    {c : Char} (hc : c ∈ letters) : ∃ expected ∈ name.toList, sameLetter expected c = true := by
  unfold Spells at h
  generalize name.toList = names at h ⊢
  induction h with
  | nil => simp at hc
  | cons hLetter _ ih =>
      rcases List.mem_cons.mp hc with rfl | hc
      · exact ⟨_, List.mem_cons_self, hLetter⟩
      · obtain ⟨expected, hExpected, hLetter⟩ := ih hc
        exact ⟨expected, List.mem_cons_of_mem _ hExpected, hLetter⟩

/-- A character that is none of the letters. -/
theorem Spells.notMem {name : String} {letters : List Char} (h : Spells name letters) {c : Char}
    (hc : ∀ expected ∈ name.toList, sameLetter expected c = false) : c ∉ letters := by
  intro hMem
  obtain ⟨expected, hExpected, hLetter⟩ := h.exists_of_mem hMem
  simp [hc expected hExpected] at hLetter

theorem Spells.getLast? {name : String} {letters : List Char} (h : Spells name letters)
    {expected : Char} (hName : name.toList.getLast? = some expected) :
    ∃ c, letters.getLast? = some c ∧ sameLetter expected c = true := by
  unfold Spells at h
  generalize name.toList = names at h hName
  induction h with
  | nil => cases hName
  | @cons first c names letters hLetter hRest ih =>
      cases hRest with
      | nil =>
          cases hName
          exact ⟨c, rfl, hLetter⟩
      | cons =>
          rw [List.getLast?_cons_cons] at hName ⊢
          exact ih hName

theorem Spells.getLast?_ne {name : String} {letters : List Char}
    (h : Spells name letters) {c : Char}
    (hc : name.toList.getLast?.any (fun expected => !sameLetter expected c) = true) :
    letters.getLast? ≠ some c := by
  intro hLast
  obtain ⟨expected, hName, hOther⟩ := (Option.any_eq_true _ _).mp hc
  obtain ⟨d, hEnd, hLetter⟩ := h.getLast? hName
  rw [hLast] at hEnd
  cases hEnd
  simp [hLetter] at hOther

theorem Spells.length_eq {name : String} {letters : List Char} (h : Spells name letters) :
    letters.length = name.toList.length := (List.Forall₂.length_eq h).symm

theorem Spells.ne_nil {name : String} {letters : List Char} (h : Spells name letters)
    (hName : name ≠ "") : letters ≠ [] := by
  rintro rfl
  exact hName (String.toList_eq_nil_iff.mp (List.length_eq_zero_iff.mp h.length_eq.symm))

theorem Spells.ink {name : String} {letters : List Char} (h : Spells name letters)
    (hName : ∀ c ∈ name.toList, isSpace c = false) : ∀ c ∈ letters, isSpace c = false := by
  intro c hc
  obtain ⟨expected, hExpected, hLetter⟩ := h.exists_of_mem hc
  exact isSpace_of_sameLetter hLetter (hName expected hExpected)

end Pattern

/-- The character before what follows the text. -/
def lastChar (before : Option Char) (text : List Char) : Option Char := text.getLast?.or before

@[simp] theorem lastChar_nil (before : Option Char) : lastChar before [] = before := rfl

@[simp] theorem lastChar_cons (before : Option Char) (c : Char) (text : List Char) :
    lastChar before (c :: text) = lastChar (some c) text := by
  cases hLast : text.getLast? <;> simp [lastChar, List.getLast?_cons, hLast]

@[simp] theorem lastChar_append (before : Option Char) (first second : List Char) :
    lastChar before (first ++ second) = lastChar (lastChar before first) second := by
  rw [lastChar, lastChar, lastChar, List.getLast?_append, Option.or_assoc]

/-- A substitution that keeps the first part of a match, a pattern with a
lookahead in it, and puts a mask in the place of the run after it. -/
structure Rule where
  first : Pattern
  /-- `(?![…])` between the two parts of what is kept -/
  notNext : Char → Bool := fun _ => false
  second : Pattern := .empty
  hidden : Char → Bool
  /-- the text after the run -/
  closing : List Char := []
  mask : List Char
  /-- A shorter run is not followed by the closing text. -/
  hClosing : ∀ c, closing.head? = some c → hidden c = false

namespace Rule

variable (rule : Rule)

/-- What is left of the text after each way to match the part that is kept. -/
def rests (before : Option Char) (text : List Char) : List (List Char) :=
  ((rule.first.ways before text).filter fun middle => !middle.2.head?.any rule.notNext).flatMap
    fun middle => (rule.second.ways middle.1 middle.2).map Prod.snd

/-- What is kept and what is hidden when this is left of the text. -/
def found (text rest : List Char) : Option (List Char × List Char) :=
  let hidden := rest.takeWhile rule.hidden
  if hidden ≠ [] ∧ rule.closing <+: rest.dropWhile rule.hidden then
    some (text.take (text.length - rest.length), hidden)
  else none

/-- The match at the start of the text. -/
def find (before : Option Char) (text : List Char) : Option (List Char × List Char) :=
  (rule.rests before text).findSome? (rule.found text)

/-- The first argument is the number of characters left of the last match. -/
def subFrom : Nat → Option Char → List Char → List Char
  | _, _, [] => []
  | skip + 1, _, c :: rest => subFrom skip (some c) rest
  | 0, before, c :: rest =>
      match rule.find before (c :: rest) with
      | none => c :: subFrom 0 (some c) rest
      | some (kept, hidden) => kept ++ rule.mask ++ rule.closing ++
          subFrom ((kept ++ hidden ++ rule.closing).length - 1) (some c) rest

/-- The replacement in text that follows a character. -/
def subAfter (before : Option Char) (text : List Char) : List Char := rule.subFrom 0 before text

/-- `pattern.sub(replacement, text)` -/
def sub (text : List Char) : List Char := rule.subAfter none text

/-- The part that is kept matches. -/
def Keeps (before : Option Char) (text : List Char) (next : Option Char) : Prop :=
  ∃ left right, text = left ++ right ∧ rule.first.Matches before left (right.head?.or next) ∧
    (right.head?.or next).any rule.notNext = false ∧
      rule.second.Matches (left.getLast?.or before) right next

/-- A match of the whole pattern at the start of the text. -/
structure Finds (before : Option Char) (text kept hidden later : List Char) : Prop where
  text_eq : text = kept ++ hidden ++ rule.closing ++ later
  keeps : rule.Keeps before kept hidden.head?
  hidden_ne_nil : hidden ≠ []
  hidden_all : ∀ c ∈ hidden, rule.hidden c = true
  stop : ∀ c, (rule.closing ++ later).head? = some c → rule.hidden c = false

variable {rule}

theorem keeps_iff_matches (hNext : rule.notNext = fun _ => false) (hSecond : rule.second = .empty)
    {before next : Option Char} {text : List Char} :
    rule.Keeps before text next ↔ rule.first.Matches before text next := by
  simp only [Keeps, hNext, hSecond, Pattern.Matches]
  constructor
  · rintro ⟨left, right, rfl, hLeft, _, rfl⟩
    simpa using hLeft
  · intro h
    exact ⟨text, [], by simp, by simpa using h, by cases next <;> rfl, rfl⟩

theorem rests_eq_map (hNext : rule.notNext = fun _ => false) (hSecond : rule.second = .empty)
    (before : Option Char) (text : List Char) :
    rule.rests before text = (rule.first.ways before text).map Prod.snd := by
  have hAll : ∀ middle : Option Char × List Char,
      (!middle.2.head?.any rule.notNext) = true := by
    intro middle
    cases middle.2.head? <;> simp [hNext]
  rw [rests, List.filter_eq_self.mpr fun middle _ => hAll middle, hSecond, List.map_eq_flatMap]
  rfl

theorem mem_rests_iff {before : Option Char} {text rest : List Char} :
    rest ∈ rule.rests before text ↔
      ∃ kept, text = kept ++ rest ∧ rule.Keeps before kept rest.head? := by
  simp only [rests, List.mem_flatMap, List.mem_filter, List.mem_map, Prod.exists,
    Pattern.mem_ways_iff, exists_eq_right]
  constructor
  · rintro ⟨_, _, ⟨⟨left, rfl, rfl, hLeft⟩, hNext⟩, _, right, rfl, rfl, hRight⟩
    rw [List.head?_append] at hLeft hNext
    exact ⟨left ++ right, by simp, left, right, rfl, hLeft, by simpa using hNext, hRight⟩
  · rintro ⟨_, rfl, left, right, rfl, hLeft, hNext, hRight⟩
    refine ⟨_, right ++ rest, ⟨⟨left, by simp, rfl, ?_⟩, ?_⟩, _, right, rfl, rfl, hRight⟩
    · rwa [List.head?_append]
    · rw [List.head?_append]
      simpa using hNext

theorem found_eq_some_iff {front rest kept hidden : List Char} :
    rule.found (front ++ rest) rest = some (kept, hidden) ↔
      kept = front ∧ ∃ later, rest = hidden ++ (rule.closing ++ later) ∧ hidden ≠ [] ∧
        (∀ c ∈ hidden, rule.hidden c = true) ∧
          ∀ c, (rule.closing ++ later).head? = some c → rule.hidden c = false := by
  have hFront : (front ++ rest).take ((front ++ rest).length - rest.length) = front := by simp
  simp only [found, hFront]
  constructor
  · intro h
    split_ifs at h with hRun
    obtain ⟨hHidden, later, hLater⟩ := hRun
    obtain ⟨rfl, rfl⟩ := Prod.mk.injEq _ _ _ _ ▸ Option.some.inj h
    obtain ⟨hSpan, hAll, hStop⟩ := span_spec rule.hidden rest
    refine ⟨rfl, later, ?_, hHidden, hAll, ?_⟩
    · rwa [hLater]
    · rwa [hLater]
  · rintro ⟨rfl, later, rfl, hHidden, hAll, hStop⟩
    obtain ⟨hTake, hDrop⟩ := span_eq_iff.mpr ⟨rfl, hAll, hStop⟩
    rw [hTake, hDrop, if_pos ⟨hHidden, later, rfl⟩]

/-- What the search returns is a match, and when it returns nothing there is none. -/
theorem finds_of_find {before : Option Char} {text kept hidden : List Char}
    (h : rule.find before text = some (kept, hidden)) :
    ∃ later, rule.Finds before text kept hidden later := by
  obtain ⟨rest, hRest, hSome⟩ := List.exists_of_findSome?_eq_some h
  obtain ⟨front, rfl, hKeeps⟩ := mem_rests_iff.mp hRest
  obtain ⟨rfl, later, rfl, hHidden, hAll, hStop⟩ := found_eq_some_iff.mp hSome
  rw [List.head?_append_of_ne_nil _ hHidden] at hKeeps
  exact ⟨later, by simp, hKeeps, hHidden, hAll, hStop⟩

theorem Finds.found {before : Option Char} {text kept hidden later : List Char}
    (h : rule.Finds before text kept hidden later) :
    rule.found text (hidden ++ (rule.closing ++ later)) = some (kept, hidden) := by
  have hText : text = kept ++ (hidden ++ (rule.closing ++ later)) := by
    rw [h.text_eq]
    simp
  rw [hText, found_eq_some_iff]
  exact ⟨rfl, later, rfl, h.hidden_ne_nil, h.hidden_all, h.stop⟩

theorem find_eq_none_iff {before : Option Char} {text : List Char} :
    rule.find before text = none ↔
    ∀ kept hidden later, ¬rule.Finds before text kept hidden later := by
  constructor
  · intro hNone kept hidden later hFinds
    rw [find, List.findSome?_eq_none_iff] at hNone
    have hRest : hidden ++ (rule.closing ++ later) ∈ rule.rests before text := by
      refine mem_rests_iff.mpr ⟨kept, by simpa using hFinds.text_eq, ?_⟩
      rw [List.head?_append_of_ne_nil _ hFinds.hidden_ne_nil]
      exact hFinds.keeps
    have hSkipped := hNone _ hRest
    rw [hFinds.found] at hSkipped
    cases hSkipped
  · intro h
    cases hFind : rule.find before text with
    | none => rfl
    | some found =>
        obtain ⟨later, hFinds⟩ := finds_of_find hFind
        exact absurd hFinds (h _ _ _)

/-- A match is told by what is kept of it. -/
theorem Finds.unique {before : Option Char} {text kept hidden hidden' later later' : List Char}
    (h : rule.Finds before text kept hidden later)
    (h' : rule.Finds before text kept hidden' later') :
    hidden = hidden' ∧ later = later' := by
  have hText := h.text_eq.symm.trans h'.text_eq
  simp only [List.append_assoc, List.append_cancel_left_eq] at hText
  obtain ⟨hTake, hDrop⟩ := span_eq_iff.mpr ⟨rfl, h.hidden_all, h.stop⟩
  obtain ⟨hTake', hDrop'⟩ := span_eq_iff.mpr ⟨rfl, h'.hidden_all, h'.stop⟩
  rw [hText] at hTake hDrop
  exact ⟨hTake.symm.trans hTake', List.append_cancel_left (hDrop.symm.trans hDrop')⟩

variable (rule) in
/-- Of all matches at a place, the search returns the one that keeps most. -/
def Greedy : Prop :=
  ∀ ⦃before text kept hidden kept' hidden' later'⦄, rule.find before text = some (kept, hidden) →
    rule.Finds before text kept' hidden' later' → kept'.length ≤ kept.length

theorem Greedy.find_eq_some {before : Option Char} {text kept hidden later : List Char}
    (hGreedy : rule.Greedy) (h : rule.Finds before text kept hidden later)
    (hMost : ∀ kept' hidden' later', rule.Finds before text kept' hidden' later' →
      kept'.length ≤ kept.length) : rule.find before text = some (kept, hidden) := by
  cases hFind : rule.find before text with
  | none => exact absurd h (find_eq_none_iff.mp hFind _ _ _)
  | some found =>
      obtain ⟨kept', hidden'⟩ := found
      obtain ⟨later', h'⟩ := finds_of_find hFind
      have hLength : kept'.length = kept.length := le_antisymm (hMost _ _ _ h') (hGreedy hFind h)
      have hText := h'.text_eq.symm.trans h.text_eq
      simp only [List.append_assoc] at hText
      obtain ⟨rfl, _⟩ := List.append_inj hText hLength
      obtain ⟨rfl, _⟩ := h'.unique h
      rfl

/-- Two texts with the same matches give the same result. -/
theorem Greedy.find_congr {before : Option Char} {text text' : List Char} (hGreedy : rule.Greedy)
    (h : ∀ kept hidden, (∃ later, rule.Finds before text kept hidden later) ↔
      ∃ later, rule.Finds before text' kept hidden later) :
    rule.find before text = rule.find before text' := by
  cases hFind : rule.find before text with
  | none =>
      refine (find_eq_none_iff.mpr fun kept hidden later hFinds => ?_).symm
      obtain ⟨later', hFinds'⟩ := (h kept hidden).mpr ⟨later, hFinds⟩
      exact find_eq_none_iff.mp hFind _ _ _ hFinds'
  | some found =>
      obtain ⟨kept, hidden⟩ := found
      obtain ⟨later, hFinds⟩ := (h kept hidden).mp (finds_of_find hFind)
      refine (hGreedy.find_eq_some hFinds fun kept' hidden' later' hOther => ?_).symm
      obtain ⟨_, hOther'⟩ := (h kept' hidden').mpr ⟨later', hOther⟩
      exact hGreedy hFind hOther'

/-- A pattern with at most one match at each place. -/
theorem greedy_of_unique (h : ∀ {before text kept hidden later kept' hidden' later'},
    rule.Finds before text kept hidden later → rule.Finds before text kept' hidden' later' →
      kept'.length = kept.length) : rule.Greedy := by
  intro _ _ _ _ _ _ _ hFind hOther
  obtain ⟨_, hFinds⟩ := finds_of_find hFind
  exact (h hFinds hOther).le

theorem subFrom_append (front rest : List Char) (before : Option Char) :
    rule.subFrom front.length before (front ++ rest) =
      rule.subAfter (lastChar before front) rest := by
  induction front generalizing before with
  | nil => rfl
  | cons c front ih => simpa [subFrom] using ih (some c)

@[simp] theorem subAfter_nil (before : Option Char) : rule.subAfter before [] = [] := rfl

theorem subAfter_cons {before : Option Char} {c : Char} {rest : List Char}
    (h : rule.find before (c :: rest) = none) :
    rule.subAfter before (c :: rest) = c :: rule.subAfter (some c) rest := by
  simp [subAfter, subFrom, h]

/-- Text in which no match starts is left alone. -/
theorem subAfter_append_of_none {before : Option Char} {front rest : List Char}
    (h : ∀ first second, front = first ++ second → second ≠ [] →
      rule.find (lastChar before first) (second ++ rest) = none) :
    rule.subAfter before (front ++ rest) = front ++ rule.subAfter (lastChar before front) rest := by
  induction front generalizing before with
  | nil => rfl
  | cons c front ih =>
      have hRest := ih fun first second hSplit hSome => by
        have hNone := h (c :: first) second (by simp [hSplit]) hSome
        rwa [lastChar_cons] at hNone
      have hFirst : rule.find before (c :: (front ++ rest)) = none :=
        h [] (c :: front) rfl (by simp)
      rw [List.cons_append, subAfter_cons hFirst, hRest, lastChar_cons]
      rfl

theorem subAfter_of_find {before : Option Char} {kept hidden later : List Char}
    (h : rule.find before (kept ++ hidden ++ rule.closing ++ later) = some (kept, hidden)) :
    rule.subAfter before (kept ++ hidden ++ rule.closing ++ later) =
      kept ++ rule.mask ++ rule.closing ++
        rule.subAfter (lastChar before (kept ++ hidden ++ rule.closing)) later := by
  obtain ⟨_, hFinds⟩ := finds_of_find h
  have hSome : kept ++ hidden ++ rule.closing ≠ [] := by
    simp [hFinds.hidden_ne_nil]
  obtain ⟨c, front, hCons⟩ := List.exists_cons_of_ne_nil hSome
  rw [hCons, List.cons_append] at h ⊢
  rw [subAfter, subFrom, h]
  simp only [hCons, List.length_cons, Nat.add_sub_cancel]
  rw [subFrom_append, lastChar_cons]

/-- The substitution goes through the text, with more text behind it, and comes
to its end: no match reaches further. -/
inductive Scans (rule : Rule) (later : List Char) : Option Char → List Char → List Char → Prop
  | stop {before : Option Char} : Scans rule later before [] []
  | copy {before : Option Char} {c : Char} {text out : List Char}
      (hNone : rule.find before (c :: (text ++ later)) = none)
      (hRest : Scans rule later (some c) text out) : Scans rule later before (c :: text) (c :: out)
  | mask {before : Option Char} {kept hidden text out : List Char}
      (hFind : rule.find before (kept ++ hidden ++ rule.closing ++ (text ++ later)) =
        some (kept, hidden))
      (hRest : Scans rule later (lastChar before (kept ++ hidden ++ rule.closing)) text out) :
      Scans rule later before (kept ++ hidden ++ rule.closing ++ text)
        (kept ++ rule.mask ++ rule.closing ++ out)

/-- A match at some place in the text that reaches behind its end. -/
structure Crosses (rule : Rule) (later : List Char) (before : Option Char)
    (text done : List Char) (place kept hidden : List Char) : Prop where
  intro ::
  exists_front : ∃ front, text = front ++ place ∧ Scans rule (place ++ later) before front done ∧
    rule.find (lastChar before front) (place ++ later) = some (kept, hidden)
  place_ne_nil : place ≠ []
  length_lt : place.length < (kept ++ hidden ++ rule.closing).length

theorem Scans.subAfter_append {later : List Char} {before : Option Char} {text out : List Char}
    (h : rule.Scans later before text out) :
    rule.subAfter before (text ++ later) = out ++ rule.subAfter (lastChar before text) later := by
  induction h with
  | stop => rfl
  | copy hNone _ ih =>
      rw [List.cons_append, subAfter_cons hNone, ih, lastChar_cons]
      rfl
  | mask hFind _ ih =>
      rw [List.append_assoc, subAfter_of_find hFind, ih]
      simp only [List.append_assoc, lastChar_append]

theorem Scans.append {later first second out out' : List Char} {before : Option Char}
    (hFirst : rule.Scans (second ++ later) before first out)
    (hSecond : rule.Scans later (lastChar before first) second out') :
    rule.Scans later before (first ++ second) (out ++ out') := by
  induction hFirst with
  | stop => exact hSecond
  | copy hNone _ ih =>
      refine .copy ?_ (ih (by simpa using hSecond))
      simpa using hNone
  | @mask before kept hidden text out hFind _ ih =>
      have hRest := ih (by simpa using hSecond)
      rw [← List.append_assoc] at hFind
      have hAll := Scans.mask (by simpa using hFind) hRest
      simpa using hAll

/-- Without text behind it, every text is gone through. -/
theorem scans_nil (before : Option Char) (text : List Char) :
    rule.Scans [] before text (rule.subAfter before text) := by
  induction hLength : text.length using Nat.strong_induction_on generalizing before text with
  | _ n ih =>
      cases text with
      | nil => exact .stop
      | cons c rest =>
          cases hFind : rule.find before (c :: rest) with
          | none =>
              rw [subAfter_cons hFind]
              refine .copy (by simpa using hFind) (ih rest.length ?_ _ _ rfl)
              simp [← hLength]
          | some found =>
              obtain ⟨kept, hidden⟩ := found
              obtain ⟨later, hFinds⟩ := finds_of_find hFind
              rw [hFinds.text_eq] at hFind ⊢
              rw [subAfter_of_find hFind]
              refine .mask (by simpa using hFind) (ih later.length ?_ _ _ rfl)
              have hSome := List.length_pos_iff.mpr hFinds.hidden_ne_nil
              rw [← hLength, hFinds.text_eq]
              simp only [List.length_append]
              omega

/-- The substitution comes to the end of the text, or a match crosses it. -/
theorem scans_or_crosses (later : List Char) (before : Option Char) (text : List Char) :
    (∃ out, rule.Scans later before text out) ∨
      ∃ done place kept hidden, rule.Crosses later before text done place kept hidden := by
  induction hLength : text.length using Nat.strong_induction_on generalizing before text with
  | _ n ih =>
      cases text with
      | nil => exact .inl ⟨[], .stop⟩
      | cons c rest =>
          cases hFind : rule.find before (c :: rest ++ later) with
          | none =>
              rcases ih rest.length (by simp [← hLength]) (some c) rest rfl with
                ⟨out, hOut⟩ | ⟨done, place, kept, hidden, ⟨front, rfl, hScans, hFound⟩,
                 hSome, hShort⟩
              · exact .inl ⟨c :: out, .copy hFind hOut⟩
              · right
                refine ⟨c :: done, place, kept, hidden, ⟨c :: front, rfl, .copy ?_ hScans, ?_⟩,
                  hSome, hShort⟩
                · simpa using hFind
                · rwa [lastChar_cons]
          | some found =>
              obtain ⟨kept, hidden⟩ := found
              by_cases hInside : (kept ++ hidden ++ rule.closing).length ≤ (c :: rest).length
              · obtain ⟨after, hFinds⟩ := finds_of_find hFind
                obtain ⟨text, hText, rfl⟩ :
                    ∃ text, c :: rest = kept ++ hidden ++ rule.closing ++ text ∧
                    after = text ++ later := by
                  obtain ⟨text, hText⟩ := List.prefix_of_prefix_length_le
                    ⟨after, hFinds.text_eq.symm⟩ (List.prefix_append _ later) hInside
                  have hAfter := hFinds.text_eq
                  rw [← hText, List.append_assoc, List.append_cancel_left_eq] at hAfter
                  exact ⟨text, hText.symm, hAfter.symm⟩
                have hHidden := List.length_pos_iff.mpr hFinds.hidden_ne_nil
                have hShorter : text.length < n := by
                  rw [← hLength, hText]
                  simp only [List.length_append]
                  omega
                rw [hText] at hFind ⊢
                rw [List.append_assoc] at hFind
                rcases ih text.length hShorter
                  (lastChar before (kept ++ hidden ++ rule.closing)) text rfl with
                  ⟨out, hOut⟩ | ⟨done, place, kept', hidden', ⟨front, rfl, hScans, hFound⟩,
                   hSome, hShort⟩
                · exact .inl ⟨_, .mask hFind hOut⟩
                · right
                  refine ⟨_, place, kept', hidden', ⟨_, (List.append_assoc _ _ _).symm,
                    .mask ?_ hScans, ?_⟩, hSome, hShort⟩
                  · simpa using hFind
                  · rwa [lastChar_append]
              · right
                refine ⟨[], c :: rest, kept, hidden, ⟨[], rfl, .stop, hFind⟩, by simp, ?_⟩
                omega

/-- What a match that crosses leaves: everything up to the end of the match is
gone through. -/
theorem Crosses.subAfter_eq {later text done place kept hidden rest : List Char}
    {before : Option Char} (h : rule.Crosses later before text done place kept hidden)
    (hRest : place ++ later = kept ++ hidden ++ rule.closing ++ rest) :
    ∃ last, rule.subAfter before (text ++ later) =
      done ++ (kept ++ rule.mask ++ rule.closing ++ rule.subAfter last rest) := by
  obtain ⟨front, rfl, hScans, hFind⟩ := h.exists_front
  rw [hRest] at hFind
  exact ⟨_, by rw [List.append_assoc, hScans.subAfter_append, hRest, subAfter_of_find hFind]⟩

/-- The same text is gone through when other text stands behind it, as long as
the same is found at each place. -/
theorem Scans.congr {later later' : List Char} {before : Option Char} {text out : List Char}
    (h : rule.Scans later before text out)
    (hFind : ∀ front place, text = front ++ place → place ≠ [] →
      (∀ kept hidden, rule.find (lastChar before front) (place ++ later) = some (kept, hidden) →
        (kept ++ hidden ++ rule.closing).length ≤ place.length) →
      rule.find (lastChar before front) (place ++ later') =
        rule.find (lastChar before front)
          (place ++ later)) : rule.Scans later' before text out := by
  induction h with
  | stop => exact .stop
  | @copy before c text out hNone hRest ih =>
      refine .copy ?_ (ih fun front place hText hSome hInside => ?_)
      · have hSame := hFind [] (c :: text) rfl (by simp) fun kept hidden hFound => by
          simp only [lastChar_nil, List.cons_append, hNone] at hFound
          cases hFound
        simpa [hNone] using hSame
      · have hSame := hFind (c :: front) place (by simp [hText]) hSome
        rw [lastChar_cons] at hSame
        exact hSame hInside
  | @mask before kept hidden text out hFound hRest ih =>
      have hHidden : hidden ≠ [] := by
        obtain ⟨_, hFinds⟩ := finds_of_find hFound
        exact hFinds.hidden_ne_nil
      refine .mask ?_ (ih fun front place hText hSome hInside => ?_)
      · have hSame := hFind [] (kept ++ hidden ++ rule.closing ++ text) rfl (by simp [hHidden])
        simp only [lastChar_nil] at hSame
        rw [List.append_assoc _ text later, hFound, List.append_assoc _ text later'] at hSame
        refine hSame fun kept' hidden' hOther => ?_
        cases hOther
        simp only [List.length_append]
        omega
      · have hSame := hFind (kept ++ hidden ++ rule.closing ++ front) place (by simp [hText]) hSome
        rw [lastChar_append] at hSame
        exact hSame hInside

/-- The rewritten text ends as the text does, or with the mask. -/
theorem getLast?_subAfter (hClosing : rule.closing = []) {star : Char}
    (hMask : rule.mask.getLast? = some star) {before : Option Char} {text : List Char} {c : Char}
    (hLast : text.getLast? = some c) :
    (rule.subAfter before text).getLast? = some c ∨
    (rule.subAfter before text).getLast? = some star := by
  suffices h : ∀ {before text out}, rule.Scans [] before text out → (text = [] → out = []) ∧
      ∀ c, text.getLast? = some c → out.getLast? = some c ∨ out.getLast? = some star from
    (h (scans_nil before text)).2 c hLast
  intro before text out hScans
  induction hScans with
  | stop => exact ⟨fun _ => rfl, by simp⟩
  | @copy before d text out _ _ ih =>
      refine ⟨by simp, fun c hc => ?_⟩
      cases hEnd : text.getLast? with
      | none =>
          rw [List.getLast?_eq_none_iff] at hEnd
          rw [ih.1 hEnd]
          exact .inl (hEnd ▸ hc)
      | some e =>
          rw [List.getLast?_cons, hEnd] at hc
          cases hc
          rcases ih.2 _ hEnd with hOut | hOut
          · exact .inl (by simp [List.getLast?_cons, hOut])
          · exact .inr (by simp [List.getLast?_cons, hOut])
  | @mask before kept hidden text out hFind _ ih =>
      obtain ⟨_, hFinds⟩ := finds_of_find hFind
      refine ⟨by simp [hFinds.hidden_ne_nil], fun c hc => ?_⟩
      cases hEnd : text.getLast? with
      | none =>
          rw [List.getLast?_eq_none_iff] at hEnd
          rw [ih.1 hEnd]
          exact .inr (by simp [hClosing, List.getLast?_append, hMask])
      | some e =>
          rw [List.getLast?_append, hEnd] at hc
          cases hc
          rcases ih.2 _ hEnd with hOut | hOut
          · exact .inl (by rw [List.getLast?_append, hOut]; rfl)
          · exact .inr (by rw [List.getLast?_append, hOut]; rfl)

/-- With closing text, the rewritten text ends as the text does. -/
theorem getLast?_subAfter_of_closing (hClosing : rule.closing ≠ []) (before : Option Char)
    (text : List Char) : (rule.subAfter before text).getLast? = text.getLast? := by
  have hScans := rule.scans_nil before text
  generalize rule.subAfter before text = out at hScans
  induction hScans with
  | stop => rfl
  | copy _ _ ih => rw [List.getLast?_cons, List.getLast?_cons, ih]
  | mask _ _ ih =>
      have hLast := List.getLast?_eq_some_getLast hClosing
      simp only [List.getLast?_append, ih, hLast, Option.or_some, Option.some_or]

/-- A substitution that hides no character of a kind keeps all of them. -/
theorem filter_subAfter {kind : Char → Bool} (hHidden : ∀ c, rule.hidden c = true → kind c = false)
    (hMask : ∀ c ∈ rule.mask, kind c = false) (before : Option Char) (text : List Char) :
    (rule.subAfter before text).filter kind = text.filter kind := by
  have hScans := rule.scans_nil before text
  generalize rule.subAfter before text = out at hScans
  induction hScans with
  | stop => rfl
  | copy _ _ ih => rw [List.filter_cons, List.filter_cons, ih]
  | mask hFind _ ih =>
      obtain ⟨_, hFinds⟩ := finds_of_find hFind
      have hRun : ∀ run : List Char, (∀ c ∈ run, kind c = false) → run.filter kind = [] :=
        fun run hAll => List.filter_eq_nil_iff.mpr fun c hc => by simp [hAll c hc]
      simp only [List.filter_append, ih, hRun _ hMask,
        hRun _ fun c hc => hHidden c (hFinds.hidden_all c hc)]

/-- A single character is left alone. -/
theorem subAfter_singleton (hKeeps : ∀ {before kept next}, rule.Keeps before kept next → kept ≠ [])
    (before : Option Char) (c : Char) : rule.subAfter before [c] = [c] := by
  refine subAfter_cons (find_eq_none_iff.mpr fun kept hidden later hFinds => ?_)
  have hLength := congrArg List.length hFinds.text_eq
  have hKept := List.length_pos_iff.mpr (hKeeps hFinds.keeps)
  have hRun := List.length_pos_iff.mpr hFinds.hidden_ne_nil
  simp only [List.length_append, List.length_cons, List.length_nil] at hLength
  omega

end Rule

end Library.Text
