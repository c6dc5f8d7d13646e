import NodeDebugDashboard.Library.Substitution

/-! Substitutions at a boundary inside a run of hidden characters: what stands
before the boundary decides whether what stands behind it is hidden. -/
namespace Library.Text

namespace Rule

/-- A run that is hidden when something is kept in front of it. -/
structure Run (rule : Rule) (run later : List Char) : Prop where
  hidden : ∀ c ∈ run, rule.hidden c = true
  stop : ∀ c, (rule.closing ++ later).head? = some c → rule.hidden c = false

/-- No match that starts in the text keeps anything of the rest. -/
def KeptIn (rule : Rule) (text rest : List Char) : Prop :=
  ∀ ⦃front place⦄, text = front ++ place → place ≠ [] → ∀ ⦃before kept hidden later⦄,
    rule.Finds before (place ++ rest) kept hidden later → kept.length ≤ place.length

/-- The laws of a substitution that masks runs of characters. -/
structure MasksRuns (rule : Rule) : Prop where
  greedy : rule.Greedy
  /-- What may be kept does not depend on the character behind it. -/
  blind : ∀ {before text next} (other : Option Char), rule.Keeps before text next →
    rule.Keeps before text other
  two_le : ∀ {before text next}, rule.Keeps before text next → 2 ≤ text.length
  closing_le : rule.closing.length ≤ 1
  mask_last : rule.mask.getLast? = some '*'

/-- Whether a character behind the text, with the closing text behind it, is
hidden because of the text. -/
def hidesAfter (rule : Rule) (before : Option Char) (text : List Char) (c : Char) : Bool :=
  !(c :: rule.closing).isSuffixOf (rule.subAfter before (text ++ c :: rule.closing))

/-- Whether a character behind the text is hidden. -/
def hides (rule : Rule) (text : List Char) (c : Char) : Bool := rule.hidesAfter none text c

variable {rule : Rule}

theorem KeptIn.of_append {first second rest : List Char} (h : rule.KeptIn (first ++ second) rest) :
    rule.KeptIn second rest := by
  intro front place hSplit
  have hWhole : first ++ second = (first ++ front) ++ place := by rw [hSplit, List.append_assoc]
  exact h hWhole

theorem keptIn_nil (text : List Char) : rule.KeptIn text [] := by
  intro _ place _ _ _ kept hidden later hFinds
  have hLength := congrArg List.length hFinds.text_eq
  simp only [List.length_append, List.length_nil] at hLength
  omega

/-- A match that ends in the place is one whatever stands behind the place. -/
theorem Finds.of_inside {before : Option Char} {place rest kept hidden later tail : List Char}
    (h : rule.Finds before (place ++ rest) kept hidden later)
    (hPlace : place = kept ++ hidden ++ rule.closing ++ tail) (hTail : rule.closing ++ tail ≠ [])
    (rest' : List Char) : rule.Finds before (place ++ rest') kept hidden (tail ++ rest') := by
  subst hPlace
  have hLater : later = tail ++ rest := by
    have hText := h.text_eq
    rw [List.append_assoc _ tail, List.append_cancel_left_eq] at hText
    exact hText.symm
  refine ⟨by simp, h.keeps, h.hidden_ne_nil, h.hidden_all, fun c hc => h.stop c ?_⟩
  rw [← List.append_assoc, List.head?_append_of_ne_nil _ hTail] at hc
  rw [hLater, ← List.append_assoc, List.head?_append_of_ne_nil _ hTail]
  exact hc

/-- What stops a hidden run that ends in the place is in the place as well. -/
theorem Finds.exists_stop {c : Char} (hc : rule.hidden c = true) {before : Option Char}
    {place kept hidden later : List Char}
    (h : rule.Finds before (place ++ c :: rule.closing) kept hidden later)
    (hInside : (kept ++ hidden ++ rule.closing).length ≤ place.length) :
    ∃ d tail, place = kept ++ hidden ++ d :: tail ∧ rule.hidden d = false := by
  obtain ⟨tail, hTail⟩ := List.prefix_of_prefix_length_le ⟨later, h.text_eq.symm⟩
    (List.prefix_append place _) hInside
  have hStop := h.stop
  have hLater := h.text_eq
  rw [← hTail, List.append_assoc _ tail, List.append_cancel_left_eq] at hLater
  rw [← hLater] at hStop
  cases hClosing : rule.closing with
  | cons d closing =>
      refine ⟨d, closing ++ tail, ?_, hStop d (by rw [hClosing]; rfl)⟩
      rw [← hTail, hClosing]
      simp
  | nil =>
      cases tail with
      | cons d tail =>
          refine ⟨d, tail, ?_, hStop d (by rw [hClosing]; rfl)⟩
          rw [← hTail, hClosing]
          simp
      | nil =>
          have hPlain := hStop c (by rw [hClosing]; rfl)
          simp [hc] at hPlain

theorem run_singleton {c : Char} (hc : rule.hidden c = true) : rule.Run [c] [] := by
  refine ⟨by simpa using hc, fun d hd => rule.hClosing d ?_⟩
  rwa [List.append_nil] at hd

/-- A text that is gone through ends as before, when what stands behind it would be
hidden. -/
theorem Scans.getLast?_eq {later text out : List Char} {before : Option Char}
    (h : rule.Scans later before text out) {c : Char} (hHead : later.head? = some c)
    (hc : rule.hidden c = true) : out.getLast? = text.getLast? := by
  induction h with
  | stop => rfl
  | copy _ _ ih => rw [List.getLast?_cons, List.getLast?_cons, ih]
  | @mask before kept hidden text out hFind _ ih =>
      obtain ⟨later', hFinds⟩ := finds_of_find hFind
      have hStop := hFinds.stop
      rw [List.append_cancel_left hFinds.text_eq.symm] at hStop
      have hSome : rule.closing.getLast? ≠ none ∨ text.getLast? ≠ none := by
        by_contra hNone
        simp only [not_or, not_not, List.getLast?_eq_none_iff] at hNone
        rw [hNone.1, hNone.2, List.nil_append, List.nil_append] at hStop
        rw [hStop c hHead] at hc
        cases hc
      simp only [List.getLast?_append, ih]
      cases hText : text.getLast? with
      | some d => rfl
      | none =>
          obtain ⟨d, hEnd⟩ := Option.ne_none_iff_exists'.mp (hSome.resolve_right (by simp [hText]))
          simp [hEnd]

/-- A run that is gone through is left alone. -/
theorem Scans.eq_of_hidden {later text out : List Char} {before : Option Char}
    (h : rule.Scans later before text out) (hClosing : rule.closing = []) {c : Char}
    (hHead : later.head? = some c) (hc : rule.hidden c = true)
    (hText : ∀ d ∈ text, rule.hidden d = true) : out = text := by
  induction h with
  | stop => rfl
  | copy _ _ ih => rw [ih fun d hd => hText d (List.mem_cons_of_mem _ hd)]
  | @mask before kept hidden text out hFind _ ih =>
      obtain ⟨later', hFinds⟩ := finds_of_find hFind
      have hStop := hFinds.stop
      rw [List.append_cancel_left hFinds.text_eq.symm, hClosing, List.nil_append,
        List.head?_append, hHead] at hStop
      cases hNext : text.head? with
      | none =>
          have hPlain := hStop c (by simp [hNext])
          simp [hc] at hPlain
      | some d =>
          have hPlain := hStop d (by simp [hNext])
          rw [hText d (List.mem_append_right _ (List.mem_of_mem_head? hNext))] at hPlain
          cases hPlain

/-- What holds for all characters of the text and of what may stand in place of
some holds for the result. -/
theorem forall_subAfter {P : Char → Prop} (hMask : ∀ c ∈ rule.mask, P c) {before : Option Char}
    {text : List Char} (hText : ∀ c ∈ text, P c) : ∀ c ∈ rule.subAfter before text, P c := by
  have hScans := rule.scans_nil before text
  generalize rule.subAfter before text = out at hScans
  induction hScans with
  | stop => exact hText
  | copy _ _ ih =>
      obtain ⟨hFirst, hRest⟩ := List.forall_mem_cons.mp hText
      exact List.forall_mem_cons.mpr ⟨hFirst, ih hRest⟩
  | mask _ _ ih =>
      simp only [List.forall_mem_append] at hText ⊢
      exact ⟨⟨⟨hText.1.1.1, hMask⟩, hText.1.2⟩, ih hText.2⟩

/-- Behind the last closing text, everything is left alone. -/
theorem Greedy.subAfter_append_of_notMem (hGreedy : rule.Greedy) {close : Char}
    (hClosing : rule.closing = [close]) {rest : List Char} (hRest : close ∉ rest)
    (before : Option Char) (text : List Char) :
    rule.subAfter before (text ++ rest) = rule.subAfter before text ++ rest := by
  have hFind : ∀ (before : Option Char) (place : List Char),
      rule.find before (place ++ rest) = rule.find before (place ++ []) := by
    intro before place
    refine hGreedy.find_congr fun kept hidden => ⟨?_, ?_⟩
    · rintro ⟨later, hFinds⟩
      have hText := hFinds.text_eq
      rcases List.append_eq_append_iff.mp hText with ⟨excess, hOver, hRest'⟩ | ⟨tail, rfl, hTail⟩
      · cases hLast : excess.getLast? with
        | none =>
            rw [List.getLast?_eq_none_iff] at hLast
            subst hLast
            rw [List.append_nil] at hOver
            refine ⟨[], ?_, hFinds.keeps, hFinds.hidden_ne_nil, hFinds.hidden_all, ?_⟩
            · simpa using hOver.symm
            · simpa [hClosing] using hFinds.stop
        | some d =>
            have hEnd := congrArg List.getLast? hOver
            rw [hClosing, List.getLast?_concat, List.getLast?_append, hLast] at hEnd
            cases hEnd
            exact absurd (by simp [hRest', List.mem_of_getLast? hLast]) hRest
      · refine ⟨tail, by simp, hFinds.keeps, hFinds.hidden_ne_nil, hFinds.hidden_all, ?_⟩
        simpa [hClosing] using hFinds.stop
    · rintro ⟨later, hFinds⟩
      have hText := hFinds.text_eq
      rw [List.append_nil] at hText
      subst hText
      refine ⟨later ++ rest, by simp, hFinds.keeps, hFinds.hidden_ne_nil, hFinds.hidden_all, ?_⟩
      simpa [hClosing] using hFinds.stop
  have hScans := (rule.scans_nil before text).congr fun front place _ _ _ =>
    hFind (lastChar before front) place
  have hAlone : ∀ before, rule.subAfter before (rest ++ []) = rest ++
      rule.subAfter (lastChar before rest) [] :=
    fun before => subAfter_append_of_none fun first second hSplit _ => by
      refine find_eq_none_iff.mpr fun kept hidden later hFinds => ?_
      have hText := hFinds.text_eq
      rw [List.append_nil, hClosing] at hText
      exact hRest (by simp [hSplit, hText])
  have hEnd := hAlone (lastChar before text)
  rw [List.append_nil, subAfter_nil, List.append_nil] at hEnd
  rw [hScans.subAfter_append, hEnd]

variable (hRule : rule.MasksRuns)
include hRule

namespace MasksRuns

theorem keeps_ne_nil {before next : Option Char} {text : List Char}
    (h : rule.Keeps before text next) : text ≠ [] := by
  rintro rfl
  have hLength := hRule.two_le h
  simp at hLength

/-- A text that is no longer than the closing text and two more is left alone. -/
theorem subAfter_short {before : Option Char} {text : List Char}
    (h : text.length ≤ rule.closing.length + 2) : rule.subAfter before text = text := by
  induction text generalizing before with
  | nil => rfl
  | cons c rest ih =>
      have hNone : rule.find before (c :: rest) = none := by
        refine find_eq_none_iff.mpr fun kept hidden later hFinds => ?_
        have hLength := congrArg List.length hFinds.text_eq
        have hKept := hRule.two_le hFinds.keeps
        have hRun := List.length_pos_iff.mpr hFinds.hidden_ne_nil
        simp only [List.length_append] at hLength
        omega
      rw [List.length_cons] at h
      rw [subAfter_cons hNone, ih (by omega)]

/-- A match ends in the place, or hides all of it from what it keeps on. -/
theorem inside_or_over {before : Option Char} {place rest kept hidden later : List Char}
    (h : rule.Finds before (place ++ rest) kept hidden later) (hKept : kept.length ≤ place.length) :
    (∃ tail, place = kept ++ hidden ++ rule.closing ++ tail ∧ rule.closing ++ tail ≠ []) ∨
      ∃ mid, place = kept ++ mid ∧ ∀ c ∈ mid, rule.hidden c = true := by
  have hText := h.text_eq
  obtain ⟨mid, rfl⟩ : ∃ mid, place = kept ++ mid := by
    rw [List.append_assoc, List.append_assoc] at hText
    obtain ⟨mid, hMid⟩ :=
      List.prefix_of_prefix_length_le ⟨_, hText.symm⟩ (List.prefix_append _ _) hKept
    exact ⟨mid, hMid.symm⟩
  have hRest : mid ++ rest = hidden ++ (rule.closing ++ later) := by simpa using hText
  rcases List.append_eq_append_iff.mp hRest with ⟨excess, rfl, _⟩ | ⟨tail, rfl, hTail⟩
  · exact .inr ⟨mid, rfl, fun c hc => h.hidden_all c (List.mem_append_left excess hc)⟩
  · cases tail with
    | nil => exact .inr ⟨hidden, by simp, h.hidden_all⟩
    | cons c tail =>
        left
        have hShort := hRule.closing_le
        cases hClosing : rule.closing with
        | nil => exact ⟨c :: tail, by simp, by simp⟩
        | cons d closing =>
            rw [hClosing] at hShort hTail
            obtain rfl : closing = [] := List.length_eq_zero_iff.mp (by simpa using hShort)
            obtain ⟨rfl, _⟩ := List.cons_eq_cons.mp hTail
            exact ⟨tail, by simp, by simp⟩

/-- A run behind the place is hidden with what the place has of it. -/
theorem finds_of_over {before next : Option Char} {kept mid run later : List Char}
    (hKeeps : rule.Keeps before kept next) (hMid : ∀ c ∈ mid, rule.hidden c = true)
    (hRun : rule.Run run later) (hSome : mid ++ run ≠ []) :
    rule.Finds before (kept ++ mid ++ (run ++ (rule.closing ++ later))) kept
      (mid ++ run) later := by
  refine ⟨by simp, hRule.blind _ hKeeps, hSome, ?_, hRun.stop⟩
  exact List.forall_mem_append.mpr ⟨hMid, hRun.hidden⟩

section

variable {c : Char} (hc : rule.hidden c = true)
include hc

theorem finds_probe {before next : Option Char} {kept mid : List Char}
    (hKeeps : rule.Keeps before kept next) (hMid : ∀ d ∈ mid, rule.hidden d = true) :
    rule.Finds before (kept ++ mid ++ c :: rule.closing) kept (mid ++ [c]) [] := by
  have hFinds := hRule.finds_of_over hKeeps hMid (run_singleton hc) (by simp)
  rwa [List.append_nil] at hFinds

/-- When what is found ends in the place, no other match hides everything behind
what it keeps. -/
theorem not_over {before next : Option Char} {place kept mid : List Char}
    (hInside : ∀ kept hidden, rule.find before (place ++ c :: rule.closing) = some (kept, hidden) →
      (kept ++ hidden ++ rule.closing).length ≤ place.length)
    (hKeeps : rule.Keeps before kept next) (hPlace : place = kept ++ mid) :
    ¬∀ d ∈ mid, rule.hidden d = true := by
  intro hMid
  have hOver := hRule.finds_probe hc hKeeps hMid
  rw [← hPlace] at hOver
  cases hFind : rule.find before (place ++ c :: rule.closing) with
  | none => exact find_eq_none_iff.mp hFind _ _ _ hOver
  | some found =>
      obtain ⟨kept', hidden'⟩ := found
      obtain ⟨later', hFinds⟩ := finds_of_find hFind
      obtain ⟨d, tail, hSplit, hPlain⟩ := hFinds.exists_stop hc (hInside _ _ hFind)
      have hBoth : kept ++ mid = kept' ++ (hidden' ++ d :: tail) := by
        rw [← hPlace, hSplit, List.append_assoc]
      obtain ⟨more, rfl⟩ : ∃ more, kept' = kept ++ more := by
        obtain ⟨more, hMore⟩ := List.prefix_of_prefix_length_le ⟨mid, rfl⟩ ⟨_, hBoth.symm⟩
          (hRule.greedy hFind hOver)
        exact ⟨more, hMore.symm⟩
      rw [List.append_assoc, List.append_cancel_left_eq] at hBoth
      have hHidden := hMid d (by simp [hBoth])
      simp [hPlain] at hHidden

/-- What is found in the place does not depend on what stands behind it. -/
theorem find_congr {before : Option Char} {place rest : List Char}
    (hProbe : ∀ kept hidden later, rule.Finds before
      (place ++ c :: rule.closing) kept hidden later → kept.length ≤ place.length)
    (hRest : ∀ kept hidden later, rule.Finds before (place ++ rest) kept hidden later →
      kept.length ≤ place.length)
    (hInside : ∀ kept hidden, rule.find before (place ++ c :: rule.closing) = some (kept, hidden) →
      (kept ++ hidden ++ rule.closing).length ≤ place.length) :
    rule.find before (place ++ rest) = rule.find before (place ++ c :: rule.closing) := by
  refine hRule.greedy.find_congr fun kept hidden => ⟨?_, ?_⟩
  · rintro ⟨_, hFinds⟩
    rcases hRule.inside_or_over hFinds (hRest _ _ _ hFinds) with ⟨tail, hPlace,
      hTail⟩ | ⟨mid, hPlace, hMid⟩
    · exact ⟨_, hFinds.of_inside hPlace hTail _⟩
    · exact absurd hMid (hRule.not_over hc hInside hFinds.keeps hPlace)
  · rintro ⟨_, hFinds⟩
    rcases hRule.inside_or_over hFinds (hProbe _ _ _ hFinds) with ⟨tail, hPlace,
      hTail⟩ | ⟨mid, hPlace, hMid⟩
    · exact ⟨_, hFinds.of_inside hPlace hTail rest⟩
    · exact absurd hMid (hRule.not_over hc hInside hFinds.keeps hPlace)

/-- A text that hides nothing behind it is gone through whatever stands there. -/
theorem scans_congr {before : Option Char} {text rest out : List Char}
    (hProbe : rule.KeptIn text (c :: rule.closing)) (hRest : rule.KeptIn text rest)
    (h : rule.Scans (c :: rule.closing) before text out) : rule.Scans rest before text out := by
  refine h.congr fun front place hPlace hSome hInside => ?_
  exact hRule.find_congr hc (fun _ _ _ hFinds => hProbe hPlace hSome hFinds)
    (fun _ _ _ hFinds => hRest hPlace hSome hFinds) hInside

end

theorem hidesAfter_eq_false_of_scans {before : Option Char} {text out : List Char} {c : Char}
    (h : rule.Scans (c :: rule.closing) before text out) :
    rule.hidesAfter before text c = false := by
  rw [hidesAfter, h.subAfter_append, hRule.subAfter_short (by simp)]
  simp

section

variable {text rest : List Char} {before : Option Char} {c : Char} (hc : rule.hidden c = true)
  (hProbe : rule.KeptIn text (c :: rule.closing)) (hRest : rule.KeptIn text rest)
include hc hProbe

/-- A match that crosses into the probe hides everything from what it keeps on. -/
theorem exists_mid {done place kept hidden : List Char}
    (h : rule.Crosses (c :: rule.closing) before text done place kept hidden) :
    ∃ mid, place = kept ++ mid ∧ (∀ d ∈ mid, rule.hidden d = true) ∧ hidden = mid ++ [c] := by
  obtain ⟨front, rfl, _, hFind⟩ := h.exists_front
  obtain ⟨later, hFinds⟩ := finds_of_find hFind
  obtain ⟨mid, rfl, hMid⟩ : ∃ mid, place = kept ++ mid ∧ ∀ d ∈ mid, rule.hidden d = true := by
    refine (hRule.inside_or_over hFinds (hProbe rfl h.place_ne_nil hFinds)).resolve_left ?_
    rintro ⟨tail, hSplit, _⟩
    have hLength := congrArg List.length hSplit
    have hShort := h.length_lt
    rw [List.length_append] at hLength
    omega
  exact ⟨mid, rfl, hMid, (hFinds.unique (hRule.finds_probe hc hFinds.keeps hMid)).1⟩

theorem exists_scans (h : rule.hidesAfter before text c = false) (hLast : c ≠ '*') :
    ∃ out, rule.Scans (c :: rule.closing) before text out := by
  refine (scans_or_crosses _ before text).resolve_right ?_
  rintro ⟨done, place, kept, hidden, hCrosses⟩
  obtain ⟨mid, rfl, _, rfl⟩ := hRule.exists_mid hc hProbe hCrosses
  have hEnd : kept ++ mid ++ c :: rule.closing = kept ++ (mid ++ [c]) ++ rule.closing ++ [] := by
    simp
  obtain ⟨last, hSub⟩ := hCrosses.subAfter_eq hEnd
  rw [hidesAfter, hSub, subAfter_nil, List.append_nil, Bool.not_eq_false'] at h
  obtain ⟨init, hInit⟩ := List.isSuffixOf_iff_suffix.mp h
  have hBoth : (init ++ [c]) ++ rule.closing = (done ++ (kept ++ rule.mask)) ++ rule.closing := by
    simpa using hInit
  have hCut := List.append_cancel_right hBoth
  have hEnd := congrArg List.getLast? hCut
  rw [List.getLast?_concat, ← List.append_assoc, List.getLast?_append, hRule.mask_last] at hEnd
  exact hLast (Option.some.inj hEnd)

include hRest

/-- When the text hides nothing behind it, it is rewritten on its own. -/
theorem subAfter_append (h : rule.hidesAfter before text c = false) (hLast : c ≠ '*') :
    rule.subAfter before (text ++ rest) =
      rule.subAfter before text ++ rule.subAfter (lastChar before text) rest := by
  obtain ⟨out, hOut⟩ := hRule.exists_scans hc hProbe h hLast
  have hAlone := (hRule.scans_congr hc hProbe (keptIn_nil text) hOut).subAfter_append
  rw [List.append_nil, subAfter_nil, List.append_nil] at hAlone
  rw [(hRule.scans_congr hc hProbe hRest hOut).subAfter_append, hAlone]

end

/-- When the text hides what stands behind it, the result does not depend on the
run that is hidden. -/
theorem exists_subAfter_hides {text : List Char} {before : Option Char} {c : Char}
    (hc : rule.hidden c = true) (hProbe : rule.KeptIn text (c :: rule.closing))
    (h : rule.hidesAfter before text c = true) :
    ∃ front, ∀ run later, rule.Run run later → rule.KeptIn text (run ++ (rule.closing ++ later)) →
      (run = [] → ∀ first before next second, text = first ++ second →
        ¬rule.Keeps before second next) →
        rule.subAfter before (text ++ (run ++ (rule.closing ++ later))) =
          front ++ rule.mask ++ rule.closing ++
            rule.subAfter (lastChar (lastChar before text) (run ++ rule.closing)) later := by
  rcases scans_or_crosses (c :: rule.closing) before text with ⟨out, hOut⟩ |
    ⟨done, place, kept, hidden, hCrosses⟩
  · rw [hRule.hidesAfter_eq_false_of_scans hOut] at h
    cases h
  · obtain ⟨mid, rfl, hMid, rfl⟩ := hRule.exists_mid hc hProbe hCrosses
    have hPlace := hCrosses.place_ne_nil
    obtain ⟨front, rfl, hFront, hFind⟩ := hCrosses.exists_front
    obtain ⟨_, hFinds⟩ := finds_of_find hFind
    refine ⟨done ++ kept, fun run later hRun hKept hEmpty => ?_⟩
    have hSome : mid ++ run ≠ [] := by
      intro hNil
      obtain ⟨rfl, rfl⟩ := List.append_eq_nil_iff.mp hNil
      exact hEmpty rfl front _ _ kept (by simp) hFinds.keeps
    have hFound := hRule.finds_of_over hFinds.keeps hMid hRun hSome
    have hFind' := hRule.greedy.find_eq_some hFound fun kept' hidden' later' hOther => by
      rcases hRule.inside_or_over hOther (hKept rfl hPlace hOther) with
        ⟨tail, hSplit, hTail⟩ | ⟨mid', hSplit, hMid'⟩
      · exact hRule.greedy hFind (hOther.of_inside hSplit hTail _)
      · have hProbed := hRule.finds_probe hc hOther.keeps hMid'
        rw [← hSplit] at hProbed
        exact hRule.greedy hFind hProbed
    have hScans :
        rule.Scans (kept ++ mid ++ (run ++ (rule.closing ++ later))) before front done := by
      refine hFront.congr fun first second hSplit hSecond hInside => ?_
      have hSome : second ++ (kept ++ mid) ≠ [] := by simp [hSecond]
      have hText : front ++ (kept ++ mid) = first ++ (second ++ (kept ++ mid)) := by
        rw [hSplit, List.append_assoc]
      have hSame := hRule.find_congr hc (fun _ _ _ hOther => hProbe hText hSome hOther)
        (fun _ _ _ hOther => hKept hText hSome hOther) fun kept' hidden' hFound => by
          rw [List.append_assoc] at hFound
          exact (hInside kept' hidden' hFound).trans (by simp)
      rwa [List.append_assoc, List.append_assoc second] at hSame
    rw [List.append_assoc, hScans.subAfter_append]
    have hWhole : kept ++ mid ++ (run ++ (rule.closing ++ later)) =
        kept ++ (mid ++ run) ++ rule.closing ++ later := by simp
    rw [hWhole] at hFind' ⊢
    rw [subAfter_of_find hFind']
    simp

end MasksRuns

end Rule

end Library.Text
