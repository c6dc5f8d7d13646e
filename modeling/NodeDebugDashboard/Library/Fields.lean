import Mathlib.Data.List.Induction
import NodeDebugDashboard.Library.Text

/-! Text made of lines and lines made of fields: what `splitlines`, `split` and `partition`
find in it. -/
namespace Library.Text

/-- Each line with a newline after it. -/
def unlines (lines : List (List Char)) : List Char := lines.flatMap (· ++ ['\n'])

/-- Nothing in the text ends a line. -/
def OneLine (text : List Char) : Prop := ∀ c ∈ text, isLineEnd c = false

/-- The text is a word, as `split` finds them. -/
def IsWord (text : List Char) : Prop := text ≠ [] ∧ ∀ c ∈ text, isSpace c = false

/-- The parts of `text.partition(sep)` before and after `sep`, if `sep` occurs. -/
def partition (sep : List Char) : List Char → Option (List Char × List Char)
  | [] => none
  | c :: rest =>
      if sep.isPrefixOf (c :: rest) then some ([], (c :: rest).drop sep.length)
      else (partition sep rest).map fun parts => (c :: parts.1, parts.2)

/-- `text.rsplit(None, count)` -/
def rsplit : Nat → List Char → List (List Char)
  | 0, text => if rstrip text = [] then [] else [rstrip text]
  | count + 1, text =>
      let back := (rstrip text).reverse
      if back = [] then []
      else rsplit count (back.dropWhile (!isSpace ·)).reverse ++
      [(back.takeWhile (!isSpace ·)).reverse]

/-- The lines that end within the text. -/
def endedLines (text : List Char) : List (List Char) := (splitLines (text ++ [' '])).dropLast

/-- What stands after the last line end of the text. -/
def openLine (text : List Char) : List Char := ((splitLines (text ++ [' '])).getLastD []).dropLast

instance (text : List Char) : Decidable (OneLine text) :=
  inferInstanceAs (Decidable (∀ c ∈ text, _))

instance (text : List Char) : Decidable (IsWord text) := inferInstanceAs (Decidable (_ ∧ _))

theorem isSpace_of_isLineEnd {c : Char} (h : isLineEnd c = true) : isSpace c = true := by
  simp only [isLineEnd, Bool.or_eq_true, Bool.and_eq_true, decide_eq_true_eq] at h
  simp only [isSpace, Bool.or_eq_true, Bool.and_eq_true, decide_eq_true_eq]
  omega

theorem IsWord.oneLine {text : List Char} (h : IsWord text) : OneLine text := by
  intro c hMem
  by_contra hEnd
  have hSpace := isSpace_of_isLineEnd (by simpa using hEnd)
  simp [h.2 c hMem] at hSpace

theorem oneLine_append {first second : List Char} (hFirst : OneLine first)
    (hSecond : OneLine second) :
    OneLine (first ++ second) := by
  intro c hMem
  rcases List.mem_append.mp hMem with hFront | hBack
  · exact hFirst c hFront
  · exact hSecond c hBack

/-- One more character of a line. -/
theorem splitLinesFrom_cons {c : Char} (h : isLineEnd c = false) (line rest : List Char) :
    splitLinesFrom line (c :: rest) = splitLinesFrom (c :: line) rest := by
  rw [splitLinesFrom, if_neg (by simp [h])]
  rintro _ rfl
  simp [isLineEnd] at h

theorem splitLinesFrom_append {text : List Char} (h : OneLine text) (line rest : List Char) :
    splitLinesFrom line (text ++ rest) = splitLinesFrom (text.reverse ++ line) rest := by
  induction text generalizing line with
  | nil => rfl
  | cons c text ih =>
      rw [List.cons_append, splitLinesFrom_cons (h c List.mem_cons_self),
        ih fun d hd => h d (List.mem_cons_of_mem _ hd)]
      simp

theorem splitLines_line {line : List Char} (h : OneLine line) (rest : List Char) :
    splitLines (line ++ '\n' :: rest) = line :: splitLines rest := by
  rw [splitLines, splitLinesFrom_append h, List.append_nil, splitLinesFrom, if_pos (by decide),
    List.reverse_reverse]
  · rfl
  · nofun

theorem splitLines_unlines {lines : List (List Char)} (h : ∀ line ∈ lines, OneLine line) :
    splitLines (unlines lines) = lines := by
  induction lines with
  | nil => rfl
  | cons line rest ih =>
      have hText : unlines (line :: rest) = line ++ '\n' :: unlines rest := by simp [unlines]
      rw [hText, splitLines_line (h line List.mem_cons_self), ih fun other hOther =>
        h other (List.mem_cons_of_mem _ hOther)]

theorem infix_later {α : Type} {piece rest : List α} (h : piece <:+: rest) (front : List α) :
    piece <:+: front ++ rest :=
  h.trans (List.suffix_append _ _).isInfix

/-- What `splitlines` finds stands in the text. -/
theorem infix_of_mem_splitLinesFrom {line text piece : List Char}
    (h : piece ∈ splitLinesFrom line text) :
    piece <:+: line.reverse ++ text := by
  fun_induction splitLinesFrom line text with
  | case1 => cases h
  | case2 line hLine =>
      obtain rfl := List.mem_singleton.mp h
      exact (List.prefix_append _ _).isInfix
  | case3 line rest ih =>
      rcases List.mem_cons.mp h with rfl | hLater
      · exact (List.prefix_append _ _).isInfix
      · exact infix_later (infix_later (ih hLater) ['\r', '\n']) line.reverse
  | case4 line c rest _ hEnd ih =>
      rcases List.mem_cons.mp h with rfl | hLater
      · exact (List.prefix_append _ _).isInfix
      · exact infix_later (infix_later (ih hLater) [c]) line.reverse
  | case5 line c rest _ hEnd ih => simpa using ih h

theorem infix_of_mem_splitLines {text line : List Char} (h : line ∈ splitLines text) :
    line <:+: text :=
  infix_of_mem_splitLinesFrom h

theorem oneLine_of_mem_splitLinesFrom {line text piece : List Char} (hLine : OneLine line)
    (h : piece ∈ splitLinesFrom line text) : OneLine piece := by
  have hReverse : ∀ line : List Char, OneLine line → OneLine line.reverse :=
    fun line hLine c hMem => hLine c (List.mem_reverse.mp hMem)
  fun_induction splitLinesFrom line text with
  | case1 => cases h
  | case2 line =>
      obtain rfl := List.mem_singleton.mp h
      exact hReverse line hLine
  | case3 line rest ih =>
      rcases List.mem_cons.mp h with rfl | hLater
      · exact hReverse line hLine
      · exact ih (by simp [OneLine]) hLater
  | case4 line c rest _ hEnd ih =>
      rcases List.mem_cons.mp h with rfl | hLater
      · exact hReverse line hLine
      · exact ih (by simp [OneLine]) hLater
  | case5 line c rest _ hEnd ih => exact ih (by simpa [OneLine, hEnd] using hLine) h

/-- What `splitlines` finds is on one line. -/
theorem oneLine_of_mem_splitLines {text line : List Char} (h : line ∈ splitLines text) :
    OneLine line :=
  oneLine_of_mem_splitLinesFrom (by simp [OneLine]) h

theorem splitLinesFrom_end {c : Char} (h : isLineEnd c = true) {rest : List Char}
    (hPair : ∀ later, c = '\r' → rest = '\n' :: later → False) (line : List Char) :
    splitLinesFrom line (c :: rest) = line.reverse :: splitLinesFrom [] rest := by
  rw [splitLinesFrom, if_pos h]
  exact hPair

/-- Some lines end within a text, and one goes on with what follows. -/
theorem exists_splitLinesFrom_append (line text : List Char) : ∃ ended last,
    ∀ tail, OneLine tail → tail ≠ [] → ∀ rest,
      splitLinesFrom line (text ++ tail) = ended ++ [last ++ tail] ∧
        splitLinesFrom line (text ++ (tail ++ '\n' :: rest)) = ended ++
        (last ++ tail) :: splitLines rest := by
  have hOpen : ∀ line : List Char, ∀ tail, OneLine tail → tail ≠ [] → ∀ rest,
      splitLinesFrom line tail = [line.reverse ++ tail] ∧
        splitLinesFrom line (tail ++ '\n' :: rest) = (line.reverse ++ tail) :: splitLines rest := by
    intro line tail hTail hSome rest
    constructor
    · have hEnd := splitLinesFrom_append hTail line []
      rw [List.append_nil] at hEnd
      rw [hEnd, splitLinesFrom, if_neg (by simp [hSome])]
      simp
    · rw [splitLinesFrom_append hTail, splitLinesFrom_end (by decide) (by simp)]
      simp [splitLines]
  fun_induction splitLinesFrom line text with
  | case1 => exact ⟨[], [], hOpen []⟩
  | case2 line => exact ⟨[], line.reverse, hOpen line⟩
  | case3 line rest ih =>
      obtain ⟨ended, last, hRest⟩ := ih
      refine ⟨line.reverse :: ended, last, fun tail hTail hSome later => ?_⟩
      obtain ⟨hFirst, hSecond⟩ := hRest tail hTail hSome later
      exact ⟨by simp [splitLinesFrom, hFirst], by simp [splitLinesFrom, hSecond]⟩
  | case4 line c rest hPair hEnd ih =>
      obtain ⟨ended, last, hRest⟩ := ih
      refine ⟨line.reverse :: ended, last, fun tail hTail hSome later => ?_⟩
      obtain ⟨hFirst, hSecond⟩ := hRest tail hTail hSome later
      have hNext : ∀ more others, c = '\r' → rest ++ (tail ++ more) = '\n' :: others → False := by
        intro more others hReturn hNewline
        cases rest with
        | nil =>
            obtain ⟨d, tail, rfl⟩ := List.exists_cons_of_ne_nil hSome
            obtain ⟨rfl, _⟩ := List.cons_eq_cons.mp hNewline
            exact absurd (hTail '\n' List.mem_cons_self) (by decide)
        | cons d rest =>
            obtain ⟨rfl, _⟩ := List.cons_eq_cons.mp hNewline
            exact hPair rest hReturn rfl
      have hAlone := hNext []
      rw [List.append_nil] at hAlone
      constructor
      · rw [List.cons_append, splitLinesFrom_end hEnd hAlone, hFirst, List.cons_append]
      · rw [List.cons_append, splitLinesFrom_end hEnd (hNext _), hSecond, List.cons_append]
  | case5 line c rest hPair hEnd ih =>
      obtain ⟨ended, last, hRest⟩ := ih
      refine ⟨ended, last, fun tail hTail hSome later => ?_⟩
      have hKept : isLineEnd c = false := by simpa using hEnd
      simp only [List.cons_append, splitLinesFrom_cons hKept]
      exact hRest tail hTail hSome later

theorem splitLines_append (text : List Char) {tail : List Char} (hTail : OneLine tail)
    (hSome : tail ≠ []) (rest : List Char) :
    splitLines (text ++ (tail ++ '\n' :: rest)) = endedLines text ++
    (openLine text ++ tail) :: splitLines rest := by
  obtain ⟨ended, last, hText⟩ := exists_splitLinesFrom_append [] text
  have hBlank : splitLines (text ++ [' ']) = ended ++ [last ++ [' ']] :=
    (hText [' '] (by decide) (by simp) []).1
  have hEnded : endedLines text = ended := by rw [endedLines, hBlank, List.dropLast_concat]
  have hOpen : openLine text = last := by simp [openLine, hBlank]
  rw [hEnded, hOpen]
  exact (hText tail hTail hSome rest).2

theorem splitLines_blank {text : List Char} (h : OneLine text) :
    splitLines (text ++ [' ']) = [text ++ [' ']] := by
  rw [splitLines, splitLinesFrom_append h, splitLinesFrom_cons (by decide), splitLinesFrom,
    if_neg (by simp)]
  simp

/-- A line goes on as a whole. -/
theorem endedLines_of_oneLine {text : List Char} (h : OneLine text) :
    endedLines text = [] ∧ openLine text = text := by
  rw [endedLines, openLine, splitLines_blank h]
  simp

theorem words_append_cons {c : Char} (h : isSpace c = true) (first rest : List Char) :
    words (first ++ c :: rest) = words first ++ words rest := by
  rw [words, words, words, List.splitOnP_append_cons _ _ h, List.filter_append]

theorem words_of_isWord {word : List Char} (h : IsWord word) : words word = [word] := by
  rw [words, List.splitOnP_eq_singleton h.2]
  simp [h.1]

@[simp] theorem words_nil : words [] = [] := rfl

/-- The first of several words. -/
theorem words_word_cons {word : List Char} (h : IsWord word) (rest : List Char) :
    words (word ++ ' ' :: rest) = word :: words rest := by
  rw [words_append_cons (by decide), words_of_isWord h, List.singleton_append]

theorem mem_splitOnP {α : Type} {test : α → Bool} (items : List α) :
    ∃ first rest, items.splitOnP test = first :: rest ∧ first <+: items ∧
      (∀ piece ∈ rest, piece <:+: items) ∧ ∀ piece ∈ first :: rest, ∀ a ∈ piece,
      test a = false := by
  induction items with
  | nil => exact ⟨[], [], rfl, List.prefix_rfl, by simp, by simp⟩
  | cons a items ih =>
      obtain ⟨first, rest, hSplit, hFirst, hRest, hKept⟩ := ih
      rw [List.splitOnP_cons_eq_if_modifyHead, hSplit]
      split_ifs with hTest
      · refine ⟨[], first :: rest, rfl, List.nil_prefix, fun piece hPiece => ?_, ?_⟩
        · rcases List.mem_cons.mp hPiece with rfl | hLater
          · exact List.infix_cons hFirst.isInfix
          · exact List.infix_cons (hRest piece hLater)
        · simpa using hKept
      · refine ⟨a :: first, rest, rfl, (List.cons_prefix_cons).mpr ⟨rfl, hFirst⟩,
          fun piece hPiece => List.infix_cons (hRest piece hPiece), ?_⟩
        simp only [List.mem_cons, forall_eq_or_imp] at hKept ⊢
        exact ⟨⟨by simpa using hTest, hKept.1⟩, hKept.2⟩

/-- The words of a text stand in it. -/
theorem mem_words {text word : List Char} (h : word ∈ words text) :
    IsWord word ∧ word <:+: text := by
  obtain ⟨first, rest, hSplit, hFirst, hRest, hKept⟩ := @mem_splitOnP Char isSpace text
  rw [words, hSplit, List.mem_filter] at h
  refine ⟨⟨by simpa using h.2, hKept word h.1⟩, ?_⟩
  rcases List.mem_cons.mp h.1 with rfl | hLater
  · exact hFirst.isInfix
  · exact hRest word hLater

theorem partition_eq_some {sep text first rest : List Char}
    (h : partition sep text = some (first, rest)) :
    text = first ++ sep ++ rest := by
  induction text generalizing first with
  | nil => cases h
  | cons c text ih =>
      rw [partition] at h
      split_ifs at h with hPrefix
      · cases h
        obtain ⟨rest, hRest⟩ := List.isPrefixOf_iff_prefix.mp hPrefix
        rw [← hRest]
        simp
      · obtain ⟨⟨before, after⟩, hParts, hEq⟩ := Option.map_eq_some_iff.mp h
        cases hEq
        rw [ih hParts]
        rfl

/-- Nothing is found in front of the separator's first character. -/
theorem partition_append {first : Char} {sep word : List Char} (h : first ∉ word)
    (rest : List Char) :
    partition (first :: sep) (word ++ rest) =
      (partition (first :: sep) rest).map fun parts => (word ++ parts.1, parts.2) := by
  induction word with
  | nil => simp
  | cons c word ih =>
      rw [List.mem_cons, not_or] at h
      rw [List.cons_append, partition, if_neg (by simp [h.1]), ih h.2, Option.map_map]
      rfl

/-- Each field with a blank after it. -/
def spaced (fields : List (List Char)) : List Char := fields.flatMap (· ++ [' '])

theorem spaced_cons (field : List Char) (rest : List (List Char)) :
    spaced (field :: rest) = field ++ ' ' :: spaced rest := by
  simp [spaced]

theorem words_spaced {fields : List (List Char)} (h : ∀ field ∈ fields, IsWord field)
    (rest : List Char) :
    words (spaced fields ++ rest) = fields ++ words rest := by
  induction fields with
  | nil => rfl
  | cons field fields ih =>
      rw [List.forall_mem_cons] at h
      rw [spaced_cons, List.append_assoc, List.cons_append, words_word_cons h.1, ih h.2,
        List.cons_append]

/-- A word other than a dash is no separator. -/
theorem dash_not_prefix {word : List Char} (h : IsWord word) (hDash : word ≠ ['-'])
    (rest : List Char) :
    [' ', '-', ' '].isPrefixOf (' ' :: (word ++ ' ' :: rest)) = false := by
  obtain ⟨c, more, rfl⟩ := List.exists_cons_of_ne_nil h.1
  by_cases hFirst : c = '-'
  · subst hFirst
    cases more with
    | nil => exact absurd rfl hDash
    | cons d more =>
        have hSpace : ' ' ≠ d := by
          rintro rfl
          exact absurd (h.2 ' ' (by simp)) (by decide)
        simp [List.isPrefixOf, hSpace]
  · simp [List.isPrefixOf, Ne.symm hFirst]

/-- The separator is found after the last of the fields in front of it. -/
theorem partition_spaced {fields : List (List Char)} (h : ∀ field ∈ fields, IsWord field)
    (hDash : ∀ field ∈ fields, field ≠ ['-']) (hSome : fields ≠ []) (rest : List Char) :
    ∃ before, partition [' ', '-', ' '] (spaced fields ++ '-' :: ' ' :: rest) =
      some (before, rest) ∧ words before = fields := by
  induction fields with
  | nil => exact absurd rfl hSome
  | cons field fields ih =>
      rw [List.forall_mem_cons] at h hDash
      have hBlank : ' ' ∉ field := fun hMem => absurd (h.1.2 ' ' hMem) (by decide)
      rw [spaced_cons, List.append_assoc, partition_append hBlank]
      cases fields with
      | nil =>
          refine ⟨field, ?_, words_of_isWord h.1⟩
          simp [spaced, partition]
      | cons next fields =>
          obtain ⟨before, hBefore, hWords⟩ := ih h.2 hDash.2 (by simp)
          have hNext :=
            dash_not_prefix (h.2 next List.mem_cons_self) (hDash.2 next List.mem_cons_self)
            (spaced fields ++ '-' :: ' ' :: rest)
          refine ⟨field ++ ' ' :: before, ?_, by rw [words_word_cons h.1, hWords]⟩
          rw [spaced_cons, List.append_assoc, List.cons_append] at hBefore
          simp only [spaced_cons, List.append_assoc, List.cons_append, partition, hNext, hBefore]
          rfl

/-- A column of a table: blanks, and a word. -/
structure Column where
  gap : List Char
  word : List Char
  gap_ne : gap ≠ []
  gap_blank : ∀ c ∈ gap, c = ' ' ∨ c = '\t'
  isWord : IsWord word

def Column.text (column : Column) : List Char := column.gap ++ column.word

theorem Column.isSpace_gap (column : Column) : ∀ c ∈ column.gap, isSpace c = true := by
  intro c hMem
  rcases column.gap_blank c hMem with rfl | rfl <;> decide

theorem Column.oneLine (column : Column) : OneLine column.text := by
  intro c hMem
  rcases List.mem_append.mp hMem with hGap | hWord
  · rcases column.gap_blank c hGap with rfl | rfl <;> decide
  · exact column.isWord.oneLine c hWord

theorem rstrip_append_blank (text : List Char) {gap : List Char} (h : ∀ c ∈ gap, isSpace c = true) :
    rstrip (text ++ gap) = rstrip text := by
  have hGap : ∀ c ∈ gap.reverse, isSpace c = true := fun c hMem => h c (List.mem_reverse.mp hMem)
  rw [rstrip, List.reverse_append, List.dropWhile_append_of_pos hGap, rstrip]

theorem rstrip_append_word (text : List Char) {word : List Char} (h : IsWord word) :
    rstrip (text ++ word) = text ++ word := by
  have hLast : word.getLast? = some (word.getLast h.1) := List.getLast?_eq_some_getLast h.1
  rw [rstrip, dropWhile_eq_self, List.reverse_reverse]
  intro c hMem
  rw [List.head?_reverse, List.getLast?_append, hLast] at hMem
  cases hMem
  exact h.2 _ (List.getLast_mem h.1)

/-- The last word is split off at the blanks in front of it. -/
theorem rsplit_append_column (count : Nat) (front : List Char) (column : Column) :
    rsplit (count + 1) (front ++ column.text) = rsplit count front ++ [column.word] := by
  have hBlank : ∀ count, rsplit count (front ++ column.gap) = rsplit count front := by
    intro count
    cases count <;> simp only [rsplit, rstrip_append_blank front column.isSpace_gap]
  have hSpan : (column.word.reverse ++ (front ++ column.gap).reverse).takeWhile (!isSpace ·) =
      column.word.reverse ∧
      (column.word.reverse ++ (front ++ column.gap).reverse).dropWhile (!isSpace ·) =
        (front ++ column.gap).reverse := by
    refine span_eq_iff.mpr ⟨rfl, fun c hMem => by
      simp [column.isWord.2 c (List.mem_reverse.mp hMem)], fun c hMem => ?_⟩
    have hLast : column.gap.getLast? = some (column.gap.getLast column.gap_ne) :=
      List.getLast?_eq_some_getLast column.gap_ne
    rw [List.head?_reverse, List.getLast?_append, hLast] at hMem
    cases hMem
    simp [column.isSpace_gap _ (List.getLast_mem column.gap_ne)]
  rw [Column.text, ← List.append_assoc, rsplit, rstrip_append_word _ column.isWord]
  rw [List.reverse_append, hSpan.1, hSpan.2, List.reverse_reverse, List.reverse_reverse, hBlank,
    if_neg (by simp [column.isWord.1])]

theorem rsplit_append_columns (front : List Char) (columns : List Column) (count : Nat) :
    rsplit (count + columns.length) (front ++ columns.flatMap Column.text) =
      rsplit count front ++ columns.map Column.word := by
  induction columns using List.reverseRecOn with
  | nil => simp
  | append_singleton columns column ih =>
      rw [List.flatMap_append, List.flatMap_singleton, ← List.append_assoc, List.length_append,
        List.length_singleton, ← Nat.add_assoc, rsplit_append_column, ih]
      simp

theorem rstrip_rstrip (text : List Char) : rstrip (rstrip text) = rstrip text := by
  rw [rstrip, rstrip, List.reverse_reverse, dropWhile_eq_self fun c hMem => head?_dropWhile hMem]

theorem rsplit_rstrip (count : Nat) (text : List Char) :
    rsplit count (rstrip text) = rsplit count text := by
  cases count <;> simp only [rsplit, rstrip_rstrip]

/-- `rsplit` does not see the blanks at the end that `strip` takes off. -/
theorem rsplit_strip_eq (count : Nat) (text : List Char) :
    rsplit count (strip text) = rsplit count (text.dropWhile isSpace) :=
  rsplit_rstrip count (text.dropWhile isSpace)

theorem rsplit_word (count : Nat) {word : List Char} (h : IsWord word) :
    rsplit (count + 1) word = [word] := by
  have hAll : ∀ c ∈ word.reverse, (!isSpace c) = true :=
    fun c hMem => by simp [h.2 c (List.mem_reverse.mp hMem)]
  have hNil : rsplit count [] = [] := by cases count <;> simp [rsplit, rstrip]
  have hKeep := rstrip_append_word [] h
  rw [List.nil_append] at hKeep
  rw [rsplit, hKeep, List.takeWhile_eq_self_iff.mpr hAll, List.dropWhile_eq_nil_iff.mpr hAll,
    List.reverse_nil, hNil, if_neg (by simp [h.1]), List.reverse_reverse, List.nil_append]

/-- The columns of a stripped line, and what stands in front of them. -/
theorem rsplit_strip (front : List Char) (first : Column) (others : List Column) :
    rsplit (others.length + 1) (strip (front ++ (first :: others).flatMap Column.text)) =
      rsplit 0 (strip front) ++ (first :: others).map Column.word := by
  rw [rsplit_strip_eq, rsplit_strip_eq]
  by_cases hFront : front.dropWhile isSpace = []
  · have hGap : ∀ c ∈ front ++ first.gap, isSpace c = true := by
      intro c hMem
      rcases List.mem_append.mp hMem with hIn | hIn
      · exact List.dropWhile_eq_nil_iff.mp hFront c hIn
      · exact first.isSpace_gap c hIn
    have hStart : (front ++ (first :: others).flatMap Column.text).dropWhile isSpace =
        first.word ++ others.flatMap Column.text := by
      rw [List.flatMap_cons, Column.text, List.append_assoc, ← List.append_assoc,
        List.dropWhile_append_of_pos hGap, dropWhile_eq_self]
      intro c hMem
      obtain ⟨d, word, hWord⟩ := List.exists_cons_of_ne_nil first.isWord.1
      rw [hWord] at hMem
      cases hMem
      exact first.isWord.2 c (by simp [hWord])
    rw [hStart, hFront, Nat.add_comm, rsplit_append_columns, rsplit_word 0 first.isWord]
    simp [rsplit, rstrip]
  · have hStart : (front ++ (first :: others).flatMap Column.text).dropWhile isSpace =
        front.dropWhile isSpace ++ (first :: others).flatMap Column.text := by
      rw [List.dropWhile_append, if_neg (by simpa using hFront)]
    have hCount : others.length + 1 = 0 + (first :: others).length := by simp
    rw [hStart, hCount, rsplit_append_columns]

theorem reverse_dropWhile_isPrefix (test : Char → Bool) (text : List Char) :
    (text.reverse.dropWhile test).reverse <+: text := by
  have hSuffix := @List.dropWhile_suffix Char text.reverse test
  rwa [← List.reverse_prefix, List.reverse_reverse] at hSuffix

/-- The first piece of a full split is what is left of a beginning of the text. -/
theorem rsplit_eq_cons {count : Nat} {text first : List Char} {others : List (List Char)}
    (h : rsplit count text = first :: others) (hFull : others.length = count) :
    ∃ front, front <+: text ∧ first = rstrip front ∧ first ≠ [] := by
  induction count generalizing text others with
  | zero =>
      rw [rsplit] at h
      split_ifs at h with hNil
      obtain ⟨rfl, _⟩ := List.cons_eq_cons.mp h
      exact ⟨text, List.prefix_rfl, rfl, hNil⟩
  | succ count ih =>
      simp only [rsplit] at h
      split_ifs at h with hNil
      have hBefore : ((rstrip text).reverse.dropWhile (!isSpace ·)).reverse <+: text :=
        (reverse_dropWhile_isPrefix _ _).trans (reverse_dropWhile_isPrefix _ _)
      cases hPieces : rsplit count ((rstrip text).reverse.dropWhile (!isSpace ·)).reverse with
      | nil =>
          rw [hPieces] at h
          obtain ⟨_, rfl⟩ := List.cons_eq_cons.mp h
          simp at hFull
      | cons piece pieces =>
          rw [hPieces] at h
          obtain ⟨rfl, rfl⟩ := List.cons_eq_cons.mp h
          obtain ⟨front, hFront, hFirst⟩ := ih hPieces (by simpa using hFull)
          exact ⟨front, hFront.trans hBefore, hFirst⟩

/-- The first piece of a full split of a stripped line has no blanks at its ends. -/
theorem strip_of_rsplit {count : Nat} {line first : List Char} {others : List (List Char)}
    (h : rsplit count (strip line) = first :: others) (hFull : others.length = count) :
    first <:+: line ∧ strip first = first := by
  obtain ⟨front, hFront, rfl, hSome⟩ := rsplit_eq_cons h hFull
  have hPrefix : rstrip front <+: strip line := (reverse_dropWhile_isPrefix _ _).trans hFront
  refine ⟨hPrefix.isInfix.trans (strip_isInfix line), strip_eq_self_of_ends
    (fun c hHead => ?_) fun c hLast => ?_⟩
  · obtain ⟨rest, hRest⟩ := hPrefix
    have hFirst : (strip line).head? = some c := by rw [← hRest, List.head?_append, hHead]; rfl
    exact head?_strip hFirst
  · rw [rstrip, List.getLast?_reverse] at hLast
    exact head?_dropWhile hLast

end Library.Text
