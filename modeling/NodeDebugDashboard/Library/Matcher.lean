import Mathlib.Data.List.Basic

/-! Regular expressions with groups, as programs that backtrack: a matcher lists the ways to
match at the start of a text, in the order in which they are tried. -/
namespace Library

/-- Each way to match: what was captured, and what is left of the text. -/
def Matcher (α : Type) : Type := List Char → List (α × List Char)

namespace Matcher

variable {α β : Type} {test : Char → Bool}

instance : Monad Matcher where
  pure value := fun text => [(value, text)]
  bind matcher next := fun text => (matcher text).flatMap fun way => next way.1 way.2

/-- `[…]` -/
def one (test : Char → Bool) : Matcher Char := fun text =>
  match text with
  | c :: rest => if test c then [(c, rest)] else []
  | [] => []

def manyWays (test : Char → Bool) : List Char → List (List Char × List Char)
  | [] => [([], [])]
  | c :: rest => (if test c then (manyWays test rest).map fun way => (c :: way.1, way.2) else []) ++
        [([], c :: rest)]

/-- `[…]*` -/
def many (test : Char → Bool) : Matcher (List Char) := manyWays test

/-- `[…]+` -/
def some (test : Char → Bool) : Matcher (List Char) := do
  let c ← one test
  let rest ← many test
  return c :: rest

def fewestWays (test : Char → Bool) : List Char → List (List Char × List Char)
  | [] => [([], [])]
  | c :: rest => ([], c :: rest) :: if test c then (fewestWays test rest).map fun way =>
        (c :: way.1, way.2) else []

/-- `[…]*?` -/
def fewest (test : Char → Bool) : Matcher (List Char) := fewestWays test

/-- `[…]{n}` -/
def exactly (test : Char → Bool) : Nat → Matcher (List Char)
  | 0 => return []
  | n + 1 => do
      let c ← one test
      let rest ← exactly test n
      return c :: rest

/-- `(…)?` -/
def optional (matcher : Matcher α) : Matcher (Option α) := fun text =>
  ((matcher text).map fun way => (Option.some way.1, way.2)) ++ [(none, text)]

/-- The characters of a word, one by one. -/
def literal (word : List Char) : Matcher Unit := fun text =>
  if word.isPrefixOf text then [((), text.drop word.length)] else []

/-- `$`, which also matches in front of a line end that ends the text. -/
def atEnd : Matcher Unit := fun text => if text = [] ∨ text = ['\n'] then [((), text)] else []

/-- What is captured when the text is matched from its start. -/
def capture (matcher : Matcher α) (text : List Char) : Option α := (matcher text).head?.map Prod.fst

section Ways

variable {text rest run : List Char}

theorem mem_pure {value captured : α} :
    (captured, rest) ∈ (pure value : Matcher α) text ↔ captured = value ∧ rest = text := by
  simp [pure]

theorem mem_bind {matcher : Matcher α} {next : α → Matcher β} {captured : β} :
    (captured, rest) ∈ (matcher >>= next) text ↔
      ∃ value middle, (value, middle) ∈ matcher text ∧ (captured, rest) ∈ next value middle := by
  simp only [bind, List.mem_flatMap, Prod.exists]

theorem mem_one {c : Char} : (c, rest) ∈ one test text ↔ text = c :: rest ∧ test c = true := by
  unfold one
  cases text with
  | nil => simp
  | cons d text =>
      by_cases hTest : test d
      · simp only [hTest, if_true, List.mem_singleton, Prod.mk.injEq, List.cons.injEq]
        constructor
        · rintro ⟨rfl, rfl⟩
          exact ⟨⟨rfl, rfl⟩, hTest⟩
        · rintro ⟨⟨rfl, rfl⟩, _⟩
          exact ⟨rfl, rfl⟩
      · simp only [hTest, Bool.false_eq_true, if_false, List.not_mem_nil, false_iff]
        rintro ⟨hText, hOther⟩
        exact hTest ((List.cons.inj hText).1 ▸ hOther)

theorem mem_many :
    (run, rest) ∈ many test text ↔ text = run ++ rest ∧ ∀ c ∈ run, test c = true := by
  unfold many
  induction text generalizing run with
  | nil =>
      rw [manyWays, List.mem_singleton, Prod.mk.injEq, List.nil_eq_append_iff, and_assoc]
      refine and_congr_right fun hRun => ?_
      simp [hRun]
  | cons c text ih =>
      cases run with
      | nil => by_cases hTest : test c <;> simp only [manyWays, hTest] <;>
            simp [Eq.comm (a := c :: text)]
      | cons d run =>
          by_cases hTest : test c
          · simp only [manyWays, hTest, if_true, List.mem_append, List.mem_map,
              Prod.mk.injEq, Prod.exists, List.cons.injEq, List.mem_singleton, reduceCtorEq,
              false_and, or_false, List.cons_append, List.forall_mem_cons]
            constructor
            · rintro ⟨_, _, hMem, ⟨rfl, rfl⟩, rfl⟩
              obtain ⟨rfl, hRun⟩ := ih.mp hMem
              exact ⟨⟨rfl, rfl⟩, hTest, hRun⟩
            · rintro ⟨⟨rfl, rfl⟩, _, hRun⟩
              exact ⟨run, rest, ih.mpr ⟨rfl, hRun⟩, ⟨rfl, rfl⟩, rfl⟩
          · simp only [manyWays, hTest, Bool.false_eq_true, if_false, List.nil_append,
              List.mem_singleton, Prod.mk.injEq, reduceCtorEq, false_and, List.cons_append,
              List.cons.injEq, List.forall_mem_cons, false_iff]
            rintro ⟨⟨rfl, _⟩, hOther, _⟩
            exact hTest hOther

theorem mem_some :
    (run, rest) ∈ some test text ↔ text = run ++ rest ∧ run ≠ [] ∧ ∀ c ∈ run, test c = true := by
  simp only [some, mem_bind, mem_one, mem_many, mem_pure]
  constructor
  · rintro ⟨c, _, ⟨rfl, hTest⟩, others, _, ⟨rfl, hOthers⟩, rfl, rfl⟩
    exact ⟨rfl, List.cons_ne_nil _ _, List.forall_mem_cons.mpr ⟨hTest, hOthers⟩⟩
  · rintro ⟨rfl, hNe, hRun⟩
    obtain ⟨c, others, rfl⟩ := List.exists_cons_of_ne_nil hNe
    obtain ⟨hTest, hOthers⟩ := List.forall_mem_cons.mp hRun
    exact ⟨c, others ++ rest, ⟨rfl, hTest⟩, others, rest, ⟨rfl, hOthers⟩, rfl, rfl⟩

theorem mem_fewest :
    (run, rest) ∈ fewest test text → text = run ++ rest ∧ ∀ c ∈ run, test c = true := by
  unfold fewest
  induction text generalizing run with
  | nil =>
      intro hMem
      obtain ⟨rfl, rfl⟩ := Prod.mk.inj (List.mem_singleton.mp hMem)
      simp
  | cons c text ih =>
      rw [fewestWays, List.mem_cons]
      rintro (hStop | hLater)
      · obtain ⟨rfl, rfl⟩ := Prod.mk.inj hStop
        simp
      · split_ifs at hLater with hTest
        · obtain ⟨⟨others, _⟩, hMem, hWay⟩ := List.mem_map.mp hLater
          obtain ⟨rfl, rfl⟩ := Prod.mk.inj hWay
          obtain ⟨rfl, hOthers⟩ := ih hMem
          exact ⟨rfl, List.forall_mem_cons.mpr ⟨hTest, hOthers⟩⟩
        · cases hLater

theorem mem_exactly {n : Nat} : (run, rest) ∈ exactly test n text ↔
    text = run ++ rest ∧ run.length = n ∧ ∀ c ∈ run, test c = true := by
  induction n generalizing text run rest with
  | zero =>
      simp only [exactly, mem_pure, List.length_eq_zero_iff]
      constructor
      · rintro ⟨rfl, rfl⟩
        simp
      · rintro ⟨rfl, rfl, _⟩
        simp
  | succ n ih =>
      simp only [exactly, mem_bind, mem_one, ih, mem_pure]
      constructor
      · rintro ⟨c, _, ⟨rfl, hTest⟩, others, _, ⟨rfl, rfl, hOthers⟩, rfl, rfl⟩
        exact ⟨rfl, rfl, List.forall_mem_cons.mpr ⟨hTest, hOthers⟩⟩
      · rintro ⟨rfl, hLength, hRun⟩
        obtain ⟨c, others, rfl⟩ := List.exists_cons_of_length_eq_add_one hLength
        obtain ⟨hTest, hOthers⟩ := List.forall_mem_cons.mp hRun
        exact ⟨c, others ++ rest, ⟨rfl, hTest⟩, others, rest,
          ⟨rfl, by simpa using hLength, hOthers⟩, rfl, rfl⟩

theorem mem_literal {word : List Char} {found : Unit} :
    (found, rest) ∈ literal word text ↔ text = word ++ rest := by
  unfold literal
  split_ifs with hWord
  · obtain ⟨later, rfl⟩ := List.isPrefixOf_iff_prefix.mp hWord
    simp [Eq.comm]
  · simp only [List.not_mem_nil, false_iff]
    rintro rfl
    exact hWord (List.isPrefixOf_iff_prefix.mpr (List.prefix_append _ _))

theorem mem_optional {matcher : Matcher α} {captured : Option α} :
    (captured, rest) ∈ optional matcher text ↔
    (∃ value, captured = Option.some value ∧ (value, rest) ∈ matcher text) ∨ captured = none ∧
    rest = text := by
  simp only [optional, List.mem_append, List.mem_map, Prod.mk.injEq, Prod.exists,
    List.mem_singleton]
  constructor
  · rintro (⟨value, _, hMem, rfl, rfl⟩ | hNone)
    · exact Or.inl ⟨value, rfl, hMem⟩
    · exact Or.inr hNone
  · rintro (⟨value, rfl, hMem⟩ | hNone)
    · exact Or.inl ⟨value, rest, hMem, rfl, rfl⟩
    · exact Or.inr hNone

theorem mem_optional_one {captured : Option Char}
    (h : (captured, rest) ∈ optional (one test) text) :
    text = captured.toList ++ rest ∧ ∀ c, captured = Option.some c → test c = true := by
  rcases mem_optional.mp h with ⟨c, rfl, hMem⟩ | ⟨rfl, rfl⟩
  · obtain ⟨rfl, hTest⟩ := mem_one.mp hMem
    exact ⟨rfl, fun d hSame => Option.some.inj hSame ▸ hTest⟩
  · exact ⟨rfl, fun _ hNone => by cases hNone⟩

/-- A group that captures what it consumes. -/
theorem mem_optional_run {matcher : Matcher (List Char)} {captured : Option (List Char)}
    (hRun : ∀ run, (run, rest) ∈ matcher text → text = run ++ rest)
    (h : (captured, rest) ∈ optional matcher text) :
    text = captured.getD [] ++ rest := by
  rcases mem_optional.mp h with ⟨run, rfl, hMem⟩ | ⟨rfl, rfl⟩
  · exact hRun run hMem
  · rfl

theorem mem_atEnd {found : Unit} :
    (found, rest) ∈ atEnd text ↔ rest = text ∧ (text = [] ∨ text = ['\n']) := by
  unfold atEnd
  by_cases hEnd : text = [] ∨ text = ['\n'] <;> simp [hEnd]

theorem exists_mem_of_capture {matcher : Matcher α} {captured : α}
    (h : matcher.capture text = Option.some captured) :
    ∃ rest, (captured, rest) ∈ matcher text := by
  obtain ⟨⟨_, rest⟩, hFirst, rfl⟩ := Option.map_eq_some_iff.mp h
  exact ⟨rest, List.mem_of_head? hFirst⟩

end Ways

/-- The way that is tried first. -/
def Leads (matcher : Matcher α) (text : List Char) (captured : α) (rest : List Char) : Prop :=
  (matcher text).head? = Option.some (captured, rest)

section Leads

variable {text middle rest run : List Char}

theorem Leads.mem {matcher : Matcher α} {captured : α} (h : matcher.Leads text captured rest) :
    (captured, rest) ∈ matcher text := List.mem_of_head? h

theorem Leads.capture {matcher : Matcher α} {captured : α} (h : matcher.Leads text captured rest) :
    matcher.capture text = Option.some captured := by
  rw [Matcher.capture, show (matcher text).head? = _ from h]
  rfl

theorem leads_pure (value : α) (text : List Char) :
    (pure value : Matcher α).Leads text value text := rfl

theorem Leads.bind {matcher : Matcher α} {next : α → Matcher β} {value : α} {captured : β}
    (h : matcher.Leads text value middle) (hNext : (next value).Leads middle captured rest) :
    (matcher >>= next).Leads text captured rest := by
  obtain ⟨others, hWays⟩ := List.head?_eq_some_iff.mp h
  change ((matcher text).flatMap fun way => next way.1 way.2).head? = _
  rw [hWays, List.flatMap_cons, List.head?_append, hNext]
  rfl

theorem leads_one {c : Char} (hTest : test c = true) : (one test).Leads (c :: rest) c rest := by
  simp [Leads, one, hTest]

theorem leads_literal (word rest : List Char) : (literal word).Leads (word ++ rest) () rest := by
  have hStart : word.isPrefixOf (word ++ rest) = true :=
    List.isPrefixOf_iff_prefix.mpr (List.prefix_append _ _)
  simp [Leads, literal, hStart]

/-- The longest run is tried first. -/
theorem leads_many (hRun : ∀ c ∈ run, test c = true)
    (hStop : ∀ c, rest.head? = Option.some c → test c = false) :
    (many test).Leads (run ++ rest) run rest := by
  unfold Leads many
  induction run with
  | nil =>
      cases rest with
      | nil => rfl
      | cons c rest => simp [manyWays, hStop c rfl]
  | cons c run ih =>
      obtain ⟨hTest, hOthers⟩ := List.forall_mem_cons.mp hRun
      rw [List.cons_append, manyWays, if_pos hTest, List.head?_append, List.head?_map, ih hOthers]
      rfl

theorem leads_some (hNe : run ≠ []) (hRun : ∀ c ∈ run, test c = true)
    (hStop : ∀ c, rest.head? = Option.some c → test c = false) :
    (some test).Leads (run ++ rest) run rest := by
  obtain ⟨c, others, rfl⟩ := List.exists_cons_of_ne_nil hNe
  obtain ⟨hTest, hOthers⟩ := List.forall_mem_cons.mp hRun
  exact (leads_one hTest).bind ((leads_many hOthers hStop).bind (leads_pure _ _))

theorem leads_exactly (hRun : ∀ c ∈ run, test c = true) (rest : List Char) :
    (exactly test run.length).Leads (run ++ rest) run rest := by
  induction run with
  | nil => exact leads_pure [] rest
  | cons c run ih =>
      obtain ⟨hTest, hOthers⟩ := List.forall_mem_cons.mp hRun
      exact (leads_one hTest).bind ((ih hOthers).bind (leads_pure _ _))

theorem Leads.optional {matcher : Matcher α} {value : α} (h : matcher.Leads text value rest) :
    (Matcher.optional matcher).Leads text (Option.some value) rest := by
  rw [Leads, Matcher.optional, List.head?_append, List.head?_map,
    show (matcher text).head? = _ from h]
  rfl

theorem leads_optional_none {matcher : Matcher α} (h : matcher text = []) :
    (Matcher.optional matcher).Leads text none text := by
  rw [Leads, Matcher.optional, h]
  rfl

theorem leads_optional_one {captured : Option Char}
    (hTest : ∀ c, captured = Option.some c → test c = true)
    (hStop : captured = none → ∀ c, rest.head? = Option.some c → test c = false) :
    (Matcher.optional (one test)).Leads (captured.toList ++ rest) captured rest := by
  cases captured with
  | some c => exact (leads_one (hTest c rfl)).optional
  | none =>
      refine leads_optional_none ?_
      cases rest with
      | nil => rfl
      | cons c rest => simp [one, hStop rfl c rfl]

theorem leads_atEnd : atEnd.Leads [] () [] := rfl

/-- The shortest run is taken from which the match goes on. -/
theorem leads_fewest {next : List Char → Matcher β} {captured : β} {out : List Char}
    (hRun : ∀ c ∈ run, test c = true)
    (hShort : ∀ first later, first ++ later = run → later ≠ [] → next first (later ++ rest) = [])
    (hNext : (next run).Leads rest captured out) :
    (fewest test >>= next).Leads (run ++ rest) captured out := by
  change ((fewestWays test (run ++ rest)).flatMap fun way => next way.1 way.2).head? = _
  induction run generalizing next with
  | nil =>
      have hFirst : ∃ others, fewestWays test rest = ([], rest) :: others := by
        cases rest with
        | nil => exact ⟨[], rfl⟩
        | cons c rest => exact ⟨_, rfl⟩
      obtain ⟨others, hWays⟩ := hFirst
      rw [List.nil_append, hWays, List.flatMap_cons, List.head?_append,
        show (next [] rest).head? = _ from hNext]
      rfl
  | cons c run ih =>
      obtain ⟨hTest, hOthers⟩ := List.forall_mem_cons.mp hRun
      have hNone : next [] (c :: (run ++ rest)) = [] :=
        hShort [] (c :: run) rfl (List.cons_ne_nil _ _)
      rw [List.cons_append, fewestWays, if_pos hTest, List.flatMap_cons, hNone, List.nil_append,
        List.flatMap_map]
      have hLonger : ∀ first later, first ++ later = run → later ≠ [] →
          next (c :: first) (later ++ rest) = [] := by
        intro first later hSplit hLater
        exact hShort (c :: first) later (by rw [List.cons_append, hSplit]) hLater
      exact ih hOthers hLonger hNext

end Leads

end Matcher

end Library
