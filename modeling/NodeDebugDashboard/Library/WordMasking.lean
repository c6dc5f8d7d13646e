import NodeDebugDashboard.Library.Substitution

/-! Substitutions that mask whole words: what is hidden runs to the end of a
word, and what is kept before it has no gap in it but one in front of the
hidden word. -/
namespace Library.Text

/-- Tables in which whitespace is not alphanumeric, as in all versions. -/
class UnicodeSpaces extends Unicode where
  isAlnum_space : ∀ c, isSpace c = true → isAlnum c = false

abbrev UnicodeSpaces.ascii : UnicodeSpaces where
  toUnicode := Unicode.ascii
  isAlnum_space c hSpace := by
    cases hAlnum : c.isAlphanum with
    | false => exact hAlnum
    | true => simp [isSpace_of_isAlphanum hAlnum] at hSpace

/-- Whitespace between two words. -/
structure Gap (gap : List Char) : Prop where
  ne_nil : gap ≠ []
  isSpace : ∀ c ∈ gap, isSpace c = true

theorem gap_blank : Gap [' '] := ⟨by simp, by simp [show isSpace ' ' = true by decide]⟩

/-- The text is not empty and does not end in whitespace. -/
def EndsInWord (text : List Char) : Prop := ∃ c, text.getLast? = some c ∧ isSpace c = false

theorem EndsInWord.ne_nil {text : List Char} (h : EndsInWord text) : text ≠ [] := by
  rintro rfl
  obtain ⟨c, hLast, _⟩ := h
  simp at hLast

theorem EndsInWord.of_append {first second : List Char} (h : EndsInWord (first ++ second))
    (hSome : second ≠ []) : EndsInWord second := by
  obtain ⟨c, hLast, hInk⟩ := h
  exact ⟨c, by rwa [List.getLast?_append_of_ne_nil _ hSome] at hLast, hInk⟩

theorem EndsInWord.append {first second : List Char} (h : EndsInWord second) :
    EndsInWord (first ++ second) := by
  obtain ⟨c, hLast, hInk⟩ := h
  exact ⟨c, by rw [List.getLast?_append, hLast]; rfl, hInk⟩

theorem endsInWord_of_ink {text : List Char} (hSome : text ≠ [])
    (hInk : ∀ c ∈ text, isSpace c = false) : EndsInWord text :=
  ⟨text.getLast hSome, List.getLast?_eq_some_getLast hSome, hInk _ (List.getLast_mem hSome)⟩

/-- The whitespace at the end of a text is told from the words before it. -/
theorem trailing_gap_unique {first second gap gap' : List Char} (h : first ++ gap = second ++ gap')
    (hFirst : EndsInWord first) (hSecond : EndsInWord second)
    (hGap : ∀ c ∈ gap, isSpace c = true) (hGap' : ∀ c ∈ gap', isSpace c = true) :
    first = second ∧ gap = gap' := by
  have hShorter : ∀ {first second gap gap' tail : List Char}, second = first ++ tail →
      gap = tail ++ gap' → EndsInWord second → (∀ c ∈ gap, isSpace c = true) → tail = [] := by
    intro first second gap gap' tail hEq hTail hSecond hGap
    by_contra hSome
    obtain ⟨c, hLast, hInk⟩ := (hEq ▸ hSecond).of_append hSome
    have hSpace := hGap c (by simp [hTail, List.mem_of_getLast? hLast])
    simp [hInk] at hSpace
  rcases List.append_eq_append_iff.mp h with ⟨tail, hEq, hTail⟩ | ⟨tail, hEq, hTail⟩
  · have hNil := hShorter hEq hTail hSecond hGap
    subst hNil
    exact ⟨by simpa using hEq.symm, by simpa using hTail⟩
  · have hNil := hShorter hEq hTail hFirst hGap'
    subst hNil
    exact ⟨by simpa using hEq, by simpa using hTail.symm⟩

theorem leading_gap_unique {gap gap' rest rest' : List Char} (h : gap ++ rest = gap' ++ rest')
    (hGap : ∀ c ∈ gap, isSpace c = true) (hGap' : ∀ c ∈ gap', isSpace c = true)
    (hRest : ∀ c, rest.head? = some c → isSpace c = false)
    (hRest' : ∀ c, rest'.head? = some c → isSpace c = false) : gap = gap' := by
  have hTake := (span_eq_iff.mpr ⟨rfl, hGap, hRest⟩).1
  rw [h] at hTake
  exact hTake.symm.trans (span_eq_iff.mpr ⟨rfl, hGap', hRest'⟩).1

theorem leading_word_unique {word word' rest rest' : List Char} (h : word ++ rest = word' ++ rest')
    (hWord : ∀ c ∈ word, isSpace c = false) (hWord' : ∀ c ∈ word', isSpace c = false)
    (hRest : ∀ c, rest.head? = some c → isSpace c = true)
    (hRest' : ∀ c, rest'.head? = some c → isSpace c = true) : word = word' := by
  have hSpan : ∀ word rest : List Char, (∀ c ∈ word, isSpace c = false) →
      (∀ c, rest.head? = some c → isSpace c = true) →
        (word ++ rest).takeWhile (!isSpace ·) = word := by
    intro word rest hWord hRest
    exact (span_eq_iff.mpr ⟨rfl, fun c hc => by simp [hWord c hc], fun c hc => by
      simp [hRest c hc]⟩).1
  have hTake := hSpan word rest hWord hRest
  rw [h] at hTake
  exact hTake.symm.trans (hSpan word' rest' hWord' hRest')

/-- The text stands in a new word. -/
inductive WordAfterGap : List Char → Prop
  | intro {gap rest : List Char} {c : Char} (hGap : Gap gap) (hWord : isSpace c = false) :
      WordAfterGap (gap ++ c :: rest)

/-- What stands before a word: nothing, or words and a gap. -/
inductive Lead : List Char → List Char → Prop
  | nothing : Lead [] []
  | words {text gap : List Char} (hText : EndsInWord text) (hGap : Gap gap) : Lead text gap

theorem Lead.endsInWord {text gap : List Char} (h : Lead text gap) :
    text = [] ∨ EndsInWord text := by
  cases h with
  | nothing => exact .inl rfl
  | words hText _ => exact .inr hText

/-- A word behind which the text ends or a gap begins. -/
structure Word (word rest : List Char) : Prop where
  ne_nil : word ≠ []
  ink : ∀ c ∈ word, isSpace c = false
  stop : ∀ c, rest.head? = some c → isSpace c = true

/-- A run of characters of a word does not go over a gap: it stands in front of
it or behind it. -/
theorem run_before_or_after {kept run later text gap rest : List Char}
    (h : kept ++ run ++ later = text ++ (gap ++ rest)) (hRun : run ≠ [])
    (hInk : ∀ c ∈ run, isSpace c = false) (hGap : Gap gap) :
    (∃ tail, text = kept ++ run ++ tail ∧ later = tail ++ (gap ++ rest)) ∨
      ∃ more, kept = text ++ gap ++ more ∧ rest = more ++ run ++ later := by
  obtain ⟨first, run', rfl⟩ := List.exists_cons_of_ne_nil hRun
  obtain ⟨g, gaps, rfl⟩ := List.exists_cons_of_ne_nil hGap.ne_nil
  have hApart : first ≠ g := by
    rintro rfl
    have hSpace := hGap.isSpace first List.mem_cons_self
    simp [hInk first List.mem_cons_self] at hSpace
  rw [List.append_assoc] at h
  rcases List.append_eq_append_iff.mp h with ⟨tail, rfl, hTail⟩ | ⟨more, rfl, hMore⟩
  · left
    rcases List.append_eq_append_iff.mp hTail with ⟨tail', rfl, rfl⟩ | ⟨excess, hOver, hGapped⟩
    · exact ⟨tail', by simp, rfl⟩
    · cases excess with
      | nil =>
          exact ⟨[], by simpa using congrArg (kept ++ ·) hOver.symm, by simpa using hGapped.symm⟩
      | cons d excess =>
          obtain ⟨rfl, _⟩ := List.cons_eq_cons.mp hGapped
          have hMem : g ∈ first :: run' := by simp [hOver]
          have hSpace := hGap.isSpace g List.mem_cons_self
          simp [hInk g hMem] at hSpace
  · right
    rcases List.append_eq_append_iff.mp hMore with ⟨more', rfl, hRest⟩ | ⟨tail, hTail, hRest⟩
    · exact ⟨more', by simp, by simpa using hRest⟩
    · cases tail with
      | nil => exact ⟨[], by simpa using hTail.symm, by simpa using hRest.symm⟩
      | cons d tail =>
          obtain ⟨rfl, _⟩ := List.cons_eq_cons.mp hRest
          have hSpace := hGap.isSpace first (by simp [hTail])
          simp [hInk first List.mem_cons_self] at hSpace

/-- What follows a word: nothing, or a gap and more words. -/
def Behind (rest : List Char) : Prop := rest = [] ∨ WordAfterGap rest

theorem Behind.head_space {rest : List Char} (h : Behind rest) :
    ∀ c, rest.head? = some c → isSpace c = true := by
  intro c hc
  rcases h with rfl | @⟨gap, _, _, hGap, _⟩
  · cases hc
  · rw [List.head?_append_of_ne_nil _ hGap.ne_nil] at hc
    exact hGap.isSpace c (List.mem_of_mem_head? hc)

/-- Whitespace is stripped off the end of a text, and nothing else. -/
theorem exists_rstrip (text : List Char) : ∃ gap, text = rstrip text ++ gap ∧
    (∀ c ∈ gap, isSpace c = true) ∧ (rstrip text = [] ∨ EndsInWord (rstrip text)) := by
  obtain ⟨hWhole, hGap, hStop⟩ := span_spec isSpace text.reverse
  refine ⟨(text.reverse.takeWhile isSpace).reverse, ?_, fun c hc =>
    hGap c (List.mem_reverse.mp hc), ?_⟩
  · rw [rstrip, ← List.reverse_append, ← hWhole, List.reverse_reverse]
  · cases hRest : text.reverse.dropWhile isSpace with
    | nil => exact .inl (by rw [rstrip, hRest]; rfl)
    | cons c rest =>
        refine .inr ⟨c, ?_, hStop c (by rw [hRest]; rfl)⟩
        rw [rstrip, hRest, List.getLast?_reverse]
        rfl

theorem rstrip_append {first second : List Char} (h : EndsInWord first) :
    rstrip (first ++ second) = first ++ rstrip second := by
  obtain ⟨c, hLast, hInk⟩ := h
  have hFirst : first.reverse.dropWhile isSpace = first.reverse := by
    refine dropWhile_eq_self fun d hd => ?_
    rw [List.head?_reverse, hLast] at hd
    cases hd
    exact hInk
  rw [rstrip, rstrip, List.reverse_append, List.dropWhile_append, hFirst]
  split_ifs with hNil
  · rw [List.isEmpty_iff.mp hNil]
    simp
  · simp

/-- What is stripped of the text behind a word. -/
theorem behind_rstrip {text : List Char} (h : ∀ c, text.head? = some c → isSpace c = true) :
    Behind (rstrip text) := by
  obtain ⟨gap, hText, _, hNil | hEnds⟩ := exists_rstrip text
  · exact .inl hNil
  · right
    obtain ⟨hWhole, hGap, hStop⟩ := span_spec isSpace (rstrip text)
    obtain ⟨last, hLast, hInk⟩ := hEnds
    cases hRest : (rstrip text).dropWhile isSpace with
    | nil =>
        have hSpace := List.dropWhile_eq_nil_iff.mp hRest last (List.mem_of_getLast? hLast)
        simp [hInk] at hSpace
    | cons c rest =>
        rw [hWhole, hRest]
        refine ⟨⟨?_, hGap⟩, hStop c (by rw [hRest]; rfl)⟩
        intro hNone
        rw [hNone, List.nil_append, hRest] at hWhole
        have hHead : text.head? = some c := by
          rw [hText, hWhole]
          rfl
        have hSpace := h c hHead
        rw [hStop c (by rw [hRest]; rfl)] at hSpace
        cases hSpace

/-- Text before a word is stripped at its start, and text behind it at its end. -/
theorem strip_around {front word back : List Char} {c : Char} (hHead : word.head? = some c)
    (hInk : isSpace c = false) (hEnds : EndsInWord word) :
    strip (front ++ (word ++ back)) = front.dropWhile isSpace ++ (word ++ rstrip back) := by
  have hStart : (front ++ (word ++ back)).dropWhile isSpace =
      front.dropWhile isSpace ++ (word ++ back) := by
    have hWord : (word ++ back).dropWhile isSpace = word ++ back := by
      refine dropWhile_eq_self fun d hd => ?_
      rw [List.head?_append, hHead] at hd
      cases hd
      exact hInk
    rw [List.dropWhile_append, hWord]
    split_ifs with hNil
    · rw [List.isEmpty_iff.mp hNil]
      rfl
    · rfl
  have hSplit : front.dropWhile isSpace ++ (word ++ back) =
      (front.dropWhile isSpace ++ word) ++ back := by simp
  have hStrip : strip (front ++ (word ++ back)) =
      rstrip ((front ++ (word ++ back)).dropWhile isSpace) := rfl
  rw [hStrip, hStart, hSplit, rstrip_append hEnds.append]
  simp

namespace Rule

/-- A blank in front of the last character is not crossed when what is kept does
not end in whitespace. -/
theorem exists_sub_blank {rule : Rule} (hHidden : ∀ c, rule.hidden c = true → isSpace c = false)
    (hClosing : ∀ c ∈ rule.closing, isSpace c = false)
    (hKeeps : ∀ {before kept next}, rule.Keeps before kept next → EndsInWord kept)
    (text : List Char) (last : Char) :
    ∃ out, rule.sub (text ++ [' ', last]) = out ++ [' ', last] := by
  have hPlace : ∀ {before} (place) {kept hidden later},
      rule.Finds before (place ++ [' ', last]) kept hidden later →
        (kept ++ hidden ++ rule.closing).length ≤ place.length := by
    intro before place kept hidden later hFinds
    have hInk : ∀ c ∈ hidden ++ rule.closing, isSpace c = false := by
      intro c hc
      rcases List.mem_append.mp hc with hc | hc
      · exact hHidden c (hFinds.hidden_all c hc)
      · exact hClosing c hc
    have hEq : kept ++ (hidden ++ rule.closing) ++ later = place ++ ([' '] ++ [last]) := by
      simpa using hFinds.text_eq.symm
    rcases run_before_or_after hEq (by simp [hFinds.hidden_ne_nil]) hInk gap_blank with
      ⟨tail, rfl, _⟩ | ⟨more, rfl, hMore⟩
    · simp only [List.length_append]
      omega
    · have hLength := congrArg List.length hMore
      have hRun := List.length_pos_iff.mpr hFinds.hidden_ne_nil
      simp only [List.length_append, List.length_singleton] at hLength
      obtain rfl : more = [] := List.length_eq_zero_iff.mp (by omega)
      obtain ⟨c, hEnd, hInk⟩ := hKeeps hFinds.keeps
      rw [List.append_nil, List.getLast?_concat] at hEnd
      cases hEnd
      cases hInk
  obtain ⟨out, hOut⟩ : ∃ out, rule.Scans [' ', last] none text out := by
    refine (scans_or_crosses [' ', last] none text).resolve_right ?_
    rintro ⟨done, place, kept, hidden, ⟨front, hText, _, hFind⟩, hSome, hShort⟩
    obtain ⟨later, hFinds⟩ := finds_of_find hFind
    exact absurd (hPlace place hFinds) (not_le.mpr hShort)
  have hBlank : rule.find (lastChar none text) [' ', last] = none := by
    refine find_eq_none_iff.mpr fun kept hidden later hFinds => ?_
    have hShort := hPlace [] hFinds
    have hRun := List.length_pos_iff.mpr hFinds.hidden_ne_nil
    simp only [List.length_append, List.length_nil] at hShort
    omega
  refine ⟨out, ?_⟩
  rw [sub, hOut.subAfter_append, subAfter_cons hBlank,
    subAfter_singleton fun h => (hKeeps h).ne_nil]

/-- Whether a word behind the text is hidden. -/
def hidesNext (rule : Rule) (text : List Char) : Bool :=
  (rule.sub (text ++ [' ', '@'])).getLast? ≠ some '@'

/-- Whether a word behind the text is hidden by one of the substitutions, made in
turn. -/
def anyHidesNext : List Rule → List Char → Bool
  | [], _ => false
  | rule :: rules, text => rule.hidesNext text || anyHidesNext rules (rule.sub text)

/-- The laws of a substitution that masks whole words. -/
structure MasksWords (rule : Rule) : Prop where
  hidden_eq : ∀ c, rule.hidden c = !isSpace c
  closing_eq : rule.closing = []
  mask_last : rule.mask.getLast? = some '*'
  greedy : rule.Greedy
  starts : ∀ {before text next}, rule.Keeps before text next →
    ∃ c rest, text = c :: rest ∧ isSpace c = false
  /-- Any gap does. -/
  gap : ∀ {before text gap gap' c c'}, rule.Keeps before (text ++ gap) (some c) →
    EndsInWord text → Gap gap → Gap gap' → isSpace c' = false →
      rule.Keeps before (text ++ gap') (some c')
  /-- What is kept of a second word may as well be hidden. -/
  word : ∀ {before text gap c rest next}, rule.Keeps before (text ++ gap ++ c :: rest) next →
    EndsInWord text → Gap gap → isSpace c = false →
      rule.Keeps before (text ++ gap) (some c) ∧ c ≠ '-'

variable {rule : Rule} (hRule : rule.MasksWords)
include hRule

namespace MasksWords

theorem keeps_ne_nil {before next : Option Char} {text : List Char}
    (h : rule.Keeps before text next) : text ≠ [] := by
  obtain ⟨c, rest, rfl, _⟩ := hRule.starts h
  simp

theorem ink_of_finds {before : Option Char} {text kept hidden later : List Char}
    (h : rule.Finds before text kept hidden later) : ∀ c ∈ hidden, isSpace c = false := by
  intro c hc
  have hHidden := h.hidden_all c hc
  rwa [hRule.hidden_eq, Bool.not_eq_true'] at hHidden

/-- A match ends in the first word or takes the second one for hidden. -/
theorem inside_or_keeps {before : Option Char} {text gap rest kept hidden later : List Char}
    {c : Char} (hText : EndsInWord text) (hGap : Gap gap) (hWord : isSpace c = false)
    (h : rule.Finds before (text ++ (gap ++ c :: rest)) kept hidden later) :
    (∃ tail, text = kept ++ hidden ++ tail) ∨ rule.Keeps before (text ++ gap) (some c) := by
  have hEq := h.text_eq.symm
  rw [hRule.closing_eq, List.append_nil] at hEq
  rcases run_before_or_after hEq h.hidden_ne_nil (hRule.ink_of_finds h) hGap with
    ⟨tail, hTail, _⟩ | ⟨more, rfl, hRest⟩
  · exact .inl ⟨tail, hTail⟩
  · right
    cases more with
    | nil =>
        have hHead : hidden.head? = some c := by
          rw [← List.head?_append_of_ne_nil _ h.hidden_ne_nil, ← List.nil_append (hidden ++ later),
            ← List.append_assoc, ← hRest]
          rfl
        have hKeeps := h.keeps
        rwa [List.append_nil, hHead] at hKeeps
    | cons d more =>
        obtain ⟨rfl, _⟩ := List.cons_eq_cons.mp hRest
        exact (hRule.word h.keeps hText hGap hWord).1

/-- A match that ends in the text is one whatever stands behind the text. -/
theorem finds_of_inside {before : Option Char} {text kept hidden later front back : List Char}
    (h : rule.Finds before (text ++ front) kept hidden later)
    (hInside : ∃ tail, text = kept ++ hidden ++ tail)
    (hBack : ∀ c, back.head? = some c → isSpace c = true) :
    ∃ later', rule.Finds before (text ++ back) kept hidden later' := by
  obtain ⟨tail, rfl⟩ := hInside
  have hLater := h.text_eq
  rw [hRule.closing_eq, List.append_nil, List.append_assoc _ tail,
    List.append_cancel_left_eq] at hLater
  refine ⟨tail ++ back, ?_, h.keeps, h.hidden_ne_nil, h.hidden_all, fun c hc => ?_⟩
  · simp [hRule.closing_eq]
  · rw [hRule.closing_eq, List.nil_append] at hc
    cases tail with
    | nil =>
        rw [hRule.hidden_eq, hBack c (by simpa using hc)]
        rfl
    | cons d tail =>
        apply h.stop
        rw [hRule.closing_eq, ← hLater]
        simpa using hc

/-- What may be kept is followed by a word that is hidden. -/
theorem finds_of_keeps {before : Option Char} {text gap : List Char} {c : Char} (rest : List Char)
    (h : rule.Keeps before (text ++ gap) (some c)) (hWord : isSpace c = false) :
    ∃ hidden later, rule.Finds before (text ++ (gap ++ c :: rest)) (text ++ gap) hidden later := by
  obtain ⟨hWhole, hInk, hStop⟩ := span_spec (!isSpace ·) (c :: rest)
  have hHidden : (c :: rest).takeWhile (!isSpace ·) = c :: rest.takeWhile (!isSpace ·) := by
    simp [hWord]
  refine ⟨(c :: rest).takeWhile (!isSpace ·), (c :: rest).dropWhile (!isSpace ·), ?_, ?_, ?_,
    fun d hd => ?_, fun d hd => ?_⟩
  · simp only [hRule.closing_eq, List.append_nil, List.append_assoc, ← hWhole]
  · rwa [hHidden]
  · simp [hHidden]
  · rw [hRule.hidden_eq]
    exact hInk d hd
  · rw [hRule.closing_eq, List.nil_append] at hd
    rw [hRule.hidden_eq]
    exact hStop d hd

/-- What is found in the first word does not depend on the words behind it, as
long as they are not hidden themselves. -/
theorem find_congr {before : Option Char} {text later later' : List Char} (hText : EndsInWord text)
    (hLater : WordAfterGap later) (hLater' : Behind later')
    (hInside : ∀ kept hidden, rule.find before (text ++ later) = some (kept, hidden) →
      (kept ++ hidden).length ≤ text.length) :
    rule.find before (text ++ later') = rule.find before (text ++ later) := by
  obtain @⟨gap, rest, c, hGap, hWord⟩ := hLater
  have hNot : ¬rule.Keeps before (text ++ gap) (some c) := by
    intro hKeeps
    obtain ⟨hidden, later, hFinds⟩ := hRule.finds_of_keeps rest hKeeps hWord
    cases hFind : rule.find before (text ++ (gap ++ c :: rest)) with
    | none => exact find_eq_none_iff.mp hFind _ _ _ hFinds
    | some found =>
        obtain ⟨kept', hidden'⟩ := found
        have hMost := hRule.greedy hFind hFinds
        have hShort := hInside kept' hidden' hFind
        have hSome := List.length_pos_iff.mpr hGap.ne_nil
        simp only [List.length_append] at hMost hShort
        omega
  have hSpace : ∀ d, (gap ++ c :: rest).head? = some d → isSpace d = true := by
    intro d hd
    rw [List.head?_append_of_ne_nil _ hGap.ne_nil] at hd
    exact hGap.isSpace d (List.mem_of_mem_head? hd)
  refine hRule.greedy.find_congr fun kept hidden => ⟨?_, ?_⟩
  · rintro ⟨_, hFinds⟩
    refine hRule.finds_of_inside hFinds ?_ hSpace
    rcases hLater' with rfl | @⟨gap', rest', c', hGap', hWord'⟩
    · have hText := hFinds.text_eq
      rw [List.append_nil, hRule.closing_eq, List.append_nil] at hText
      exact ⟨_, hText⟩
    · refine (hRule.inside_or_keeps hText hGap' hWord' hFinds).resolve_right fun hKeeps => ?_
      exact hNot (hRule.gap hKeeps hText hGap' hGap hWord)
  · rintro ⟨_, hFinds⟩
    refine hRule.finds_of_inside hFinds
      ((hRule.inside_or_keeps hText hGap hWord hFinds).resolve_right hNot) fun d hd => ?_
    rcases hLater' with rfl | @⟨gap', rest', c', hGap', hWord'⟩
    · cases hd
    · rw [List.head?_append_of_ne_nil _ hGap'.ne_nil] at hd
      exact hGap'.isSpace d (List.mem_of_mem_head? hd)

/-- Nothing is found where a gap begins. -/
theorem find_space {before : Option Char} {c : Char} {rest : List Char}
    (hSpace : isSpace c = true) :
    rule.find before (c :: rest) = none := by
  refine find_eq_none_iff.mpr fun kept hidden later hFinds => ?_
  obtain ⟨d, kept', rfl, hInk⟩ := hRule.starts hFinds.keeps
  have hEq := hFinds.text_eq
  simp only [List.cons_append, List.cons.injEq] at hEq
  rw [← hEq.1, hSpace] at hInk
  cases hInk

theorem subAfter_blank (before : Option Char) (last : Char) :
    rule.subAfter before [' ', last] = [' ', last] := by
  rw [subAfter_cons (hRule.find_space (by decide)), subAfter_singleton hRule.keeps_ne_nil]

/-- A gap is left alone. -/
theorem subAfter_gap {before : Option Char} {gap rest : List Char}
    (hSpace : ∀ c ∈ gap, isSpace c = true) :
    rule.subAfter before (gap ++ rest) = gap ++ rule.subAfter (lastChar before gap) rest := by
  induction gap generalizing before with
  | nil => rfl
  | cons c gap ih =>
      rw [List.cons_append, subAfter_cons (hRule.find_space (hSpace c List.mem_cons_self)),
        ih fun d hd => hSpace d (List.mem_cons_of_mem c hd), lastChar_cons]
      rfl

/-- The words behind the text are left alone up to where it ends, or not,
whatever they are. -/
theorem scans_congr {before : Option Char} {text later later' out : List Char}
    (hText : text = [] ∨ EndsInWord text) (hLater : WordAfterGap later)
    (hLater' : Behind later') (h : rule.Scans later before text out) :
    rule.Scans later' before text out := by
  refine h.congr fun front place hPlace hSome hInside => ?_
  have hEnds : EndsInWord place := by
    rcases hText with rfl | hText
    · simp [hSome] at hPlace
    · rw [hPlace] at hText
      exact hText.of_append hSome
  refine hRule.find_congr hEnds hLater hLater' fun kept hidden hFind => ?_
  have hShort := hInside kept hidden hFind
  rwa [hRule.closing_eq, List.append_nil] at hShort

/-- What stands before a gap has no part in what is found behind it. -/
theorem subAfter_eq_sub {later : List Char} (hLater : Behind later)
    (before : Option Char) : rule.subAfter before later = rule.sub later := by
  rcases hLater with rfl | @⟨gap, rest, c, hGap, _⟩
  · rfl
  · obtain ⟨g, gaps, rfl⟩ := List.exists_cons_of_ne_nil hGap.ne_nil
    rw [sub, hRule.subAfter_gap hGap.isSpace, hRule.subAfter_gap hGap.isSpace, lastChar_cons,
      lastChar_cons]

/-- When a match crosses the gap, it hides a word that starts with a dash, and
what stands before it depends on the text only. -/
theorem exists_hiding {before : Option Char} {text gap : List Char} (hGap : Gap gap)
    (hText : EndsInWord text) (h : ∀ out, ¬rule.Scans (gap ++ ['-']) before text out) :
    ∃ front, ∀ word rest, Word ('-' :: word) rest → ∃ last,
      rule.subAfter before (text ++ (gap ++ '-' :: (word ++ rest))) =
        front ++ rule.mask ++ rule.subAfter last rest := by
  have hDash : isSpace '-' = false := by decide
  obtain ⟨done, place, kept, hidden, ⟨front, rfl, hFront, hFind⟩, hSome, hShort⟩ :=
    (scans_or_crosses (gap ++ ['-']) before text).resolve_left fun ⟨out, hOut⟩ => h out hOut
  have hPlace := hText.of_append hSome
  obtain ⟨_, hFinds⟩ := finds_of_find hFind
  have hKeeps : rule.Keeps (lastChar before front) (place ++ gap) (some '-') := by
    refine (hRule.inside_or_keeps hPlace hGap hDash hFinds).resolve_left ?_
    rintro ⟨tail, rfl⟩
    rw [hRule.closing_eq] at hShort
    simp only [List.length_append, List.length_nil] at hShort
    omega
  refine ⟨done ++ (place ++ gap), fun word rest hWord => ?_⟩
  have hLater : WordAfterGap (gap ++ '-' :: (word ++ rest)) := ⟨hGap, hDash⟩
  have hScans : rule.Scans (place ++ (gap ++ '-' :: (word ++ rest))) before front done := by
    refine hFront.congr fun first second hSplit hSecond hInside => ?_
    have hEnds : EndsInWord (second ++ place) := by
      rw [hSplit, List.append_assoc] at hText
      exact hText.of_append (by simp [hSome])
    have hSame := hRule.find_congr hEnds ⟨hGap, hDash⟩ (.inr hLater) fun kept' hidden' hFound => by
      rw [List.append_assoc] at hFound
      have hLength := hInside kept' hidden' hFound
      rw [hRule.closing_eq, List.append_nil] at hLength
      exact hLength.trans (by simp)
    rwa [List.append_assoc, List.append_assoc] at hSame
  have hFound : rule.Finds (lastChar before front) (place ++ (gap ++ '-' :: (word ++ rest)))
      (place ++ gap) ('-' :: word) rest := by
    refine ⟨?_, hKeeps, hWord.ne_nil, fun c hc => ?_, fun c hc => ?_⟩
    · simp [hRule.closing_eq]
    · simp [hRule.hidden_eq, hWord.ink c hc]
    · rw [hRule.closing_eq, List.nil_append] at hc
      simp [hRule.hidden_eq, hWord.stop c hc]
  have hFind' := hRule.greedy.find_eq_some hFound fun kept' hidden' later' hOther => by
    have hEq := hOther.text_eq.symm
    rw [hRule.closing_eq, List.append_nil] at hEq
    rcases run_before_or_after hEq hOther.hidden_ne_nil (hRule.ink_of_finds hOther) hGap with
      ⟨tail, rfl, _⟩ | ⟨more, rfl, hMore⟩
    · simp only [List.length_append]
      omega
    · cases more with
      | nil => simp
      | cons d more =>
          obtain ⟨rfl, _⟩ := List.cons_eq_cons.mp hMore
          exact absurd rfl (hRule.word hOther.keeps hPlace hGap hDash).2
  have hWhole := subAfter_of_find (hFound.text_eq ▸ hFind')
  rw [← hFound.text_eq, hRule.closing_eq] at hWhole
  refine ⟨lastChar (lastChar before front) (place ++ gap ++ '-' :: word ++ []), ?_⟩
  rw [List.append_assoc, hScans.subAfter_append, hWhole]
  simp only [List.append_assoc, List.append_nil]

/-- A match that crosses a gap hides the word behind it. -/
theorem keeps_of_crosses {text gap rest done place kept hidden : List Char} {c : Char}
    {before : Option Char} (hText : EndsInWord text) (hGap : Gap gap) (hWord : isSpace c = false)
    (h : rule.Crosses (gap ++ c :: rest) before text done place kept hidden) :
    ∃ front, text = front ++ place ∧
    rule.Keeps (lastChar before front) (place ++ gap) (some c) := by
  obtain ⟨⟨front, rfl, _, hFind⟩, hSome, hShort⟩ := h
  obtain ⟨later, hFinds⟩ := finds_of_find hFind
  refine ⟨front, rfl,
    (hRule.inside_or_keeps (hText.of_append hSome) hGap hWord hFinds).resolve_left ?_⟩
  rintro ⟨tail, rfl⟩
  rw [hRule.closing_eq] at hShort
  simp only [List.length_append, List.length_nil] at hShort
  omega

/-- A word that follows the text is hidden. -/
theorem hidesNext_eq_false_iff {text : List Char} (hText : text = [] ∨ EndsInWord text) :
    rule.hidesNext text = false ↔ ∃ out, rule.Scans [' ', '@'] none text out := by
  have hAt : isSpace '@' = false := by decide
  have hSub : rule.hidesNext text = false ↔
      (rule.sub (text ++ [' ', '@'])).getLast? = some '@' := by
    simp [hidesNext]
  rw [hSub]
  constructor
  · intro h
    refine (scans_or_crosses [' ', '@'] none text).resolve_right ?_
    rintro ⟨done, place, kept, hidden, hCrosses⟩
    have hEnds : EndsInWord text := by
      obtain ⟨⟨front, hFront, _⟩, hSome, _⟩ := hCrosses
      exact hText.resolve_left (by simp [hFront, hSome])
    obtain ⟨front, hFront, hKeeps⟩ := hRule.keeps_of_crosses hEnds gap_blank hAt hCrosses
    obtain ⟨⟨front', hFront', _, hFind⟩, _, hShort⟩ := id hCrosses
    obtain rfl := List.append_cancel_right (hFront'.symm.trans hFront)
    obtain ⟨later, hFinds⟩ := finds_of_find hFind
    obtain ⟨_, _, hOther⟩ := hRule.finds_of_keeps [] hKeeps hAt
    have hLength := hRule.greedy hFind hOther
    have hEq := hFinds.text_eq
    rw [hRule.closing_eq, List.append_nil] at hEq
    have hSplit : place ++ [' '] ++ ['@'] = kept ++ (hidden ++ later) := by simpa using hEq
    have hRun := List.length_pos_iff.mpr hFinds.hidden_ne_nil
    have hSizes := congrArg List.length hSplit
    simp only [List.length_append, List.length_singleton] at hSizes hLength
    obtain ⟨last, hOut⟩ := hCrosses.subAfter_eq hFinds.text_eq
    obtain rfl : later = [] := List.length_eq_zero_iff.mp (by omega)
    rw [sub, hOut, hRule.closing_eq, subAfter_nil, List.append_nil, List.append_nil,
      ← List.append_assoc, List.getLast?_append, hRule.mask_last] at h
    cases h
  · rintro ⟨out, hOut⟩
    rw [sub, hOut.subAfter_append, hRule.subAfter_blank, List.getLast?_append]
    rfl

/-- Nothing is hidden behind a word that ends no kept part. -/
theorem hidesNext_of_last {text : List Char} {c : Char} (hLast : text.getLast? = some c)
    (hInk : isSpace c = false) (hEnds : ∀ {before place next},
      rule.Keeps before (place ++ [' ']) next → place.getLast? ≠ some c) :
    rule.hidesNext text = false := by
  have hText : EndsInWord text := ⟨c, hLast, hInk⟩
  refine (hRule.hidesNext_eq_false_iff (.inr hText)).mpr
    ((scans_or_crosses [' ', '@'] none text).resolve_right ?_)
  rintro ⟨done, place, kept, hidden, hCrosses⟩
  obtain ⟨front, rfl, hKeeps⟩ := hRule.keeps_of_crosses hText gap_blank (by decide) hCrosses
  rw [List.getLast?_append_of_ne_nil _ hCrosses.place_ne_nil] at hLast
  exact hEnds hKeeps hLast

theorem sub_append {text later : List Char} (hText : text = [] ∨ EndsInWord text)
    (hHides : rule.hidesNext text = false) (hLater : Behind later) :
    rule.sub (text ++ later) = rule.sub text ++ rule.sub later := by
  obtain ⟨out, hOut⟩ := (hRule.hidesNext_eq_false_iff hText).mp hHides
  have hAt : WordAfterGap ([' '] ++ ['@']) := ⟨gap_blank, by decide⟩
  have hScans := hRule.scans_congr hText hAt hLater hOut
  have hAlone := (hRule.scans_congr hText hAt (.inl rfl) hOut).subAfter_append
  rw [List.append_nil, subAfter_nil, List.append_nil] at hAlone
  rw [sub, hScans.subAfter_append, hRule.subAfter_eq_sub hLater, ← hAlone]
  rfl

/-- A word that starts with a dash, hidden because of the text before it. -/
theorem exists_sub_hides {text gap : List Char} (hText : EndsInWord text) (hGap : Gap gap)
    (hHides : rule.hidesNext text = true) :
    ∃ front, ∀ word rest, Word ('-' :: word) rest → ∃ last,
      rule.sub (text ++ (gap ++ '-' :: (word ++ rest))) =
        front ++ rule.mask ++ rule.subAfter last rest := by
  refine hRule.exists_hiding hGap hText fun out hScans => ?_
  have hDash : WordAfterGap (gap ++ ['-']) := ⟨hGap, by decide⟩
  have hAt : WordAfterGap ([' '] ++ ['@']) := ⟨gap_blank, by decide⟩
  have hFalse := (hRule.hidesNext_eq_false_iff (.inr hText)).mpr
    ⟨out, hRule.scans_congr (.inr hText) hDash (.inr hAt) hScans⟩
  simp [hFalse] at hHides

/-- The first character of a word is rewritten to itself. -/
theorem exists_subAfter_cons (before : Option Char) (c : Char) (rest : List Char) :
    ∃ rest', rule.subAfter before (c :: rest) = c :: rest' := by
  cases hFind : rule.find before (c :: rest) with
  | none => exact ⟨_, subAfter_cons hFind⟩
  | some found =>
      obtain ⟨kept, hidden⟩ := found
      obtain ⟨later, hFinds⟩ := finds_of_find hFind
      obtain ⟨d, kept', rfl, _⟩ := hRule.starts hFinds.keeps
      have hText := hFinds.text_eq
      rw [hText] at hFind
      have hOut := subAfter_of_find hFind
      rw [← hText] at hOut
      obtain ⟨rfl, _⟩ := List.cons_eq_cons.mp hText
      exact ⟨_, hOut⟩

theorem wordAfterGap_sub {later : List Char} (h : WordAfterGap later) :
    WordAfterGap (rule.sub later) := by
  obtain @⟨gap, rest, c, hGap, hWord⟩ := h
  obtain ⟨rest', hRest⟩ := hRule.exists_subAfter_cons (lastChar none gap) c rest
  rw [sub, hRule.subAfter_gap hGap.isSpace, hRest]
  exact ⟨hGap, hWord⟩

theorem hidesNext_nil : rule.hidesNext [] = false :=
  (hRule.hidesNext_eq_false_iff (.inl rfl)).mpr ⟨[], .stop⟩

theorem endsInWord_sub {text : List Char} (h : EndsInWord text) : EndsInWord (rule.sub text) := by
  obtain ⟨c, hLast, hInk⟩ := h
  rcases getLast?_subAfter hRule.closing_eq hRule.mask_last hLast with hOut | hOut
  · exact ⟨c, hOut, hInk⟩
  · exact ⟨'*', hOut, by decide⟩

theorem lead_sub {text gap : List Char} (h : Lead text gap) : Lead (rule.sub text) gap := by
  cases h with
  | nothing => exact .nothing
  | words hText hGap => exact .words (hRule.endsInWord_sub hText) hGap

/-- A word that is not hidden because of the text before it is rewritten by itself. -/
theorem sub_lead {text gap : List Char} (hLead : Lead text gap)
    (hHides : rule.hidesNext text = false) {c : Char} (hWord : isSpace c = false)
    (rest : List Char) :
    rule.sub (text ++ (gap ++ c :: rest)) =
      rule.sub text ++ (gap ++ rule.subAfter (lastChar none gap) (c :: rest)) := by
  cases hLead with
  | nothing => rfl
  | words hText hGap =>
      rw [hRule.sub_append (.inr hText) hHides (.inr ⟨hGap, hWord⟩), sub, sub,
        hRule.subAfter_gap hGap.isSpace]

/-- A word is rewritten to a word. -/
theorem subAfter_word (before : Option Char) {word : List Char}
    (hMask : ∀ c ∈ rule.mask, isSpace c = false) (hSome : word ≠ [])
    (hInk : ∀ c ∈ word, isSpace c = false) :
    rule.subAfter before word ≠ [] ∧ ∀ c ∈ rule.subAfter before word, isSpace c = false := by
  constructor
  · obtain ⟨c, rest, rfl⟩ := List.exists_cons_of_ne_nil hSome
    obtain ⟨rest', hOut⟩ := hRule.exists_subAfter_cons before c rest
    simp [hOut]
  · have hKeeps :=
      filter_subAfter (fun c hc => by simpa [hRule.hidden_eq] using hc) hMask before word
    have hNone : word.filter isSpace = [] :=
      List.filter_eq_nil_iff.mpr fun c hc => by simp [hInk c hc]
    intro c hc
    simpa using List.filter_eq_nil_iff.mp (hKeeps.trans hNone) c hc

theorem behind_sub {later : List Char} (h : Behind later) : Behind (rule.sub later) := by
  rcases h with rfl | hLater
  · exact .inl rfl
  · exact .inr (hRule.wordAfterGap_sub hLater)

/-- A word and what follows it are rewritten to such. -/
theorem word_sub (hMask : ∀ c ∈ rule.mask, isSpace c = false) (before : Option Char)
    {word later : List Char} (hWord : Word word later) (hLater : Behind later) :
    Word (rule.subAfter before word) (rule.sub later) := by
  obtain ⟨hSome, hInk⟩ := hRule.subAfter_word before hMask hWord.ne_nil hWord.ink
  exact ⟨hSome, hInk, (hRule.behind_sub hLater).head_space⟩

end MasksWords

end Rule

end Library.Text
