import NodeDebugDashboard.Collectors.ProcessRules
import NodeDebugDashboard.Library.RunMasking

/-! What the patterns keep around the colon and the at sign of a URL. -/
namespace NodeDebugDashboard.Collectors

open Library.Text Pattern

/-- What the first four patterns have in common. -/
structure RunRule (rule : Rule) : Prop extends Rule.MasksRuns rule where
  closing_eq : rule.closing = []
  at_hidden : rule.hidden '@' = true
  ink : ∀ c, rule.hidden c = true → isSpace c = false
  at_notMem : ∀ {before text next}, rule.Keeps before text next → '@' ∉ text
  /-- Nothing is kept behind a colon but what has a gap in it. -/
  colon : ∀ {before place more next}, rule.Keeps before (place ++ ':' :: more) next →
    more = [] ∨ ∃ c ∈ more, isSpace c = true

theorem notMem_gap {gap : List Char} (hGap : ∀ c ∈ gap, isSpace c = true) {c : Char}
    (hc : isSpace c = false) : c ∉ gap := by
  intro hMem
  have hSpace := hGap c hMem
  simp [hc] at hSpace

theorem SchemePart.notMem {part : List Char} (h : SchemePart part) {c : Char}
    (hc : isSpace c = false)
    (hNames : ∀ name ∈ schemeNames, ∀ expected ∈ name.toList, sameLetter expected c = false) :
    c ∉ part := by
  cases h with
  | absent => simp
  | present hName hScheme hGap =>
      simp only [List.mem_append, not_or]
      exact ⟨hScheme.notMem (hNames _ hName), notMem_gap hGap.isSpace hc⟩

theorem notMem_key {names : List String} (hNames : ∀ name ∈ names, ∀ expected ∈ name.toList,
    sameLetter expected ':' = false ∧
    sameLetter expected '@' = false) {name : String} (hName : name ∈ names)
    {key : List Char} (hKey : Spells name key) {c : Char} (hc : c = ':' ∨ c = '@') : c ∉ key := by
  refine hKey.notMem fun expected hExpected => ?_
  rcases hc with rfl | rfl
  · exact (hNames name hName expected hExpected).1
  · exact (hNames name hName expected hExpected).2

/-- The colon of the header's name is its last character. -/
theorem authorization_colon {place more : List Char}
    (h : Spells "authorization:" (place ++ ':' :: more)) : more = [] := by
  have hSplit : ∀ {names place : List Char},
      List.Forall₂ (fun expected c => sameLetter expected c = true) names (place ++ ':' :: more) →
        ∃ first expected others, names = first ++ expected :: others ∧
          sameLetter expected ':' = true ∧ more.length = others.length := by
    intro names place hNames
    induction place generalizing names with
    | nil =>
        obtain ⟨expected, others, hLetter, hRest, rfl⟩ := List.forall₂_cons_right_iff.mp hNames
        exact ⟨[], expected, others, rfl, hLetter, hRest.length_eq.symm⟩
    | cons c place ih =>
        obtain ⟨expected, others, _, hRest, rfl⟩ := List.forall₂_cons_right_iff.mp hNames
        obtain ⟨first, expected', others', rfl, hLetter, hLength⟩ := ih hRest
        exact ⟨expected :: first, expected', others', rfl, hLetter, hLength⟩
  have hTails : ∀ tail ∈ "authorization:".toList.tails,
      tail.head?.any (sameLetter · ':') = true → tail.length = 1 := by decide
  obtain ⟨first, expected, others, hNames, hLetter, hLength⟩ := hSplit h
  have hLast := hTails (expected :: others) ((List.mem_tails _ _).mpr ⟨first, hNames.symm⟩)
    (by simpa using hLetter)
  rw [List.length_cons] at hLast
  exact List.length_eq_zero_iff.mp (by omega)

theorem authorizationRule_runRule [Unicode] : RunRule authorizationRule where
  greedy := authorizationRule_greedy
  blind _ h := by
    rw [authorizationRule_keeps_iff] at h ⊢
    exact h
  two_le h := by
    obtain ⟨letters, gap, part, rfl, hLetters, _⟩ := authorizationRule_keeps_iff.mp h
    have hLength := hLetters.length_eq
    rw [show "authorization:".toList.length = 14 by decide] at hLength
    rw [List.length_append]
    omega
  closing_le := by decide
  mask_last := rfl
  closing_eq := rfl
  at_hidden := by decide
  ink c hc := by simpa [authorizationRule] using hc
  at_notMem h := by
    obtain ⟨letters, gap, part, rfl, hLetters, hGap, hPart⟩ := authorizationRule_keeps_iff.mp h
    simp only [List.mem_append, not_or]
    exact ⟨hLetters.notMem (by decide), notMem_gap hGap (by decide),
      hPart.notMem (by decide) (by decide)⟩
  colon := by
    intro _ place more _ h
    obtain ⟨letters, gap, part, hEq, hLetters, hGap, hPart⟩ := authorizationRule_keeps_iff.mp h
    have hRest : ':' ∉ gap ++ part := by
      simp only [List.mem_append, not_or]
      exact ⟨notMem_gap hGap (by decide), hPart.notMem (by decide) (by decide)⟩
    have hMore : more = gap ++ part := by
      rcases List.append_eq_append_iff.mp hEq with ⟨excess, rfl, hOver⟩ | ⟨excess, rfl, hOver⟩
      · cases excess with
        | nil => exact absurd (by rw [← List.nil_append (gap ++ part), ← hOver]; simp) hRest
        | cons c excess =>
            obtain ⟨rfl, rfl⟩ := List.cons_eq_cons.mp hOver
            obtain rfl := authorization_colon hLetters
            rfl
      · exact absurd (by simp [hOver]) hRest
    cases hPart with
    | absent =>
        rw [List.append_nil] at hMore
        cases gap with
        | nil => exact .inl hMore
        | cons c gap => exact .inr ⟨c, by simp [hMore], hGap c List.mem_cons_self⟩
    | present _ _ hLast =>
        obtain ⟨c, rest, rfl⟩ := List.exists_cons_of_ne_nil hLast.ne_nil
        exact .inr ⟨c, by simp [hMore], hLast.isSpace c List.mem_cons_self⟩

theorem bearerRule_notMem [Unicode] {before next : Option Char} {text : List Char}
    (h : bearerRule.Keeps before text next) {c : Char} (hc : isSpace c = false)
    (hName : ∀ expected ∈ "bearer".toList, sameLetter expected c = false) : c ∉ text := by
  obtain ⟨letters, gap, rfl, hLetters, hGap, _⟩ := bearerRule_keeps_iff.mp h
  simp only [List.mem_append, not_or]
  exact ⟨hLetters.notMem hName, notMem_gap hGap.isSpace hc⟩

theorem bearerRule_runRule [Unicode] : RunRule bearerRule where
  greedy := bearerRule_masksWords.greedy
  blind _ h := by
    rw [bearerRule_keeps_iff] at h ⊢
    exact h
  two_le h := by
    obtain ⟨letters, gap, rfl, hLetters, _⟩ := bearerRule_keeps_iff.mp h
    have hLength := hLetters.length_eq
    rw [show "bearer".toList.length = 6 by decide] at hLength
    rw [List.length_append]
    omega
  closing_le := Nat.zero_le 1
  mask_last := rfl
  closing_eq := rfl
  at_hidden := rfl
  ink c hc := by simpa [bearerRule] using hc
  at_notMem h := bearerRule_notMem h (by decide) (by decide)
  colon h := absurd (by simp) (bearerRule_notMem h (by decide : isSpace ':' = false) (by decide))

/-- A run is told from what follows when that starts with another character. -/
theorem run_unique {test : Char → Bool} {stop : Char} (hStop : test stop = false)
    {run run' rest rest' : List Char} (h : run ++ stop :: rest = run' ++ stop :: rest')
    (hRun : ∀ c ∈ run, test c = true) (hRun' : ∀ c ∈ run', test c = true) : run = run' := by
  have hTake : ∀ run rest : List Char, (∀ c ∈ run, test c = true) →
      (run ++ stop :: rest).takeWhile test = run := fun run rest hRun =>
    (span_eq_iff.mpr ⟨rfl, hRun, fun c hc => by cases hc; exact hStop⟩).1
  have hSame := hTake run rest hRun
  rw [h] at hSame
  exact hSame.symm.trans (hTake run' rest' hRun')

section

variable [Unicode]

/-- Neither the colon nor the at sign is part of a flag or a key. -/
theorem plain_symbol {c : Char} (hc : c = ':' ∨ c = '@' ∨ c = '=') :
    flagChar c = false ∧ wordChar c = false ∧ isSpace c = false := by
  have hAlnum : Unicode.isAlnum c = false := by
    refine isAlnum_of_not_ascii ?_ ?_
    · rcases hc with rfl | rfl | rfl <;> decide
    · rcases hc with rfl | rfl | rfl <;> decide
  rcases hc with rfl | rfl | rfl <;> simp [flagChar, wordChar, hAlnum] <;> decide

theorem flagRule_notMem {before next : Option Char} {text : List Char}
    (h : flagRule.Keeps before text next) {c : Char} (hc : c = ':' ∨ c = '@') : c ∉ text := by
  have hPlain := plain_symbol (show c = ':' ∨ c = '@' ∨ c = '=' by tauto)
  obtain ⟨flag, sep, rfl, @⟨name, dashes, body, key, hDashes, hBody, hName, hKey⟩, _, hSep⟩ :=
    flagRule_keeps_iff.mp h
  have hDash : c ∉ dashes := by
    rcases hc with rfl | rfl
    · rcases hDashes with rfl | rfl <;> decide
    · rcases hDashes with rfl | rfl <;> decide
  have hIn : c ∉ body := by
    intro hMem
    have hLetter := hBody c hMem
    simp [hPlain.1] at hLetter
  have hKeyed : c ∉ key := notMem_key (by decide) hName hKey hc
  have hSepted : c ∉ sep := by
    rcases hSep with rfl | hGap
    · rcases hc with rfl | rfl <;> decide
    · exact notMem_gap hGap.isSpace hPlain.2.2
  simp only [List.mem_append, not_or]
  exact ⟨⟨hDash, hIn, hKeyed⟩, hSepted⟩

theorem assignmentRule_notMem {before next : Option Char} {text : List Char}
    (h : assignmentRule.Keeps before text next) {c : Char} (hc : c = ':' ∨ c = '@') : c ∉ text := by
  have hPlain := plain_symbol (show c = ':' ∨ c = '@' ∨ c = '=' by tauto)
  obtain ⟨body, key, rfl, hBody, ⟨name, hName, hKey⟩, _⟩ := assignmentRule_keeps_iff.mp h
  have hIn : c ∉ body := by
    intro hMem
    have hLetter := hBody c hMem
    simp [hPlain.2.1] at hLetter
  have hKeyed : c ∉ key := notMem_key (by decide) hName hKey hc
  simp only [List.mem_append, not_or]
  refine ⟨hIn, hKeyed, ?_⟩
  rcases hc with rfl | rfl <;> decide

/-- A key ends at the first equals sign. -/
theorem assignmentRule_unique {before : Option Char}
    {text kept hidden later kept' hidden' later' : List Char}
    (h : assignmentRule.Finds before text kept hidden later)
    (h' : assignmentRule.Finds before text kept' hidden' later') : kept'.length = kept.length := by
  have hPlain := plain_symbol (show '=' = ':' ∨ '=' = '@' ∨ '=' = '=' by simp)
  have hNames : ∀ name ∈ assignmentNames, ∀ expected ∈ name.toList,
      sameLetter expected '=' = false := by decide
  have hWord : ∀ {kept : List Char} {next : Option Char}, assignmentRule.Keeps before kept next →
      ∃ word, kept = word ++ ['='] ∧ ∀ c ∈ word, decide (c ≠ '=') = true := by
    intro kept next hKeeps
    obtain ⟨body, key, rfl, hBody, ⟨name, hName, hKey⟩, _⟩ := assignmentRule_keeps_iff.mp hKeeps
    refine ⟨body ++ key, by simp, fun c hc => ?_⟩
    rw [decide_eq_true_eq]
    rintro rfl
    rcases List.mem_append.mp hc with hMem | hMem
    · have hLetter := hBody _ hMem
      simp [hPlain.2.1] at hLetter
    · exact hKey.notMem (hNames name hName) hMem
  obtain ⟨word, rfl, hPlainWord⟩ := hWord h.keeps
  obtain ⟨word', rfl, hPlainWord'⟩ := hWord h'.keeps
  have hText := h'.text_eq.symm.trans h.text_eq
  simp only [List.append_assoc, List.cons_append, List.nil_append] at hText
  rw [run_unique (by simp) hText hPlainWord' hPlainWord]

theorem assignmentRule_runRule : RunRule assignmentRule where
  greedy := Rule.greedy_of_unique assignmentRule_unique
  blind _ h := by
    rw [assignmentRule_keeps_iff] at h ⊢
    exact h
  two_le h := by
    obtain ⟨body, key, rfl, _, ⟨name, hName, hKey⟩, _⟩ := assignmentRule_keeps_iff.mp h
    have hSome : ∀ name ∈ assignmentNames, name ≠ "" := by decide
    have hLength := List.length_pos_iff.mpr (hKey.ne_nil (hSome name hName))
    simp only [List.length_append, List.length_singleton]
    omega
  closing_le := Nat.zero_le 1
  mask_last := rfl
  closing_eq := rfl
  at_hidden := rfl
  ink := assignmentRule_ink
  at_notMem h := assignmentRule_notMem h (.inr rfl)
  colon h := absurd (by simp) (assignmentRule_notMem h (.inl rfl))

end

theorem flagRule_runRule [UnicodeSpaces] : RunRule flagRule where
  greedy := flagRule_masksWords.greedy
  blind _ h := by
    rw [flagRule_keeps_iff] at h ⊢
    exact h
  two_le h := by
    obtain ⟨flag, sep, rfl, hFlag, _, hSep⟩ := flagRule_keeps_iff.mp h
    obtain ⟨rest, rfl⟩ := hFlag.exists_cons
    have hLength : 1 ≤ sep.length := by
      rcases hSep with rfl | hGap
      · simp
      · exact List.length_pos_iff.mpr hGap.ne_nil
    simp only [List.length_append, List.length_cons]
    omega
  closing_le := Nat.zero_le 1
  mask_last := rfl
  closing_eq := rfl
  at_hidden := rfl
  ink c hc := by simpa [flagRule] using hc
  at_notMem h := flagRule_notMem h (.inr rfl)
  colon h := absurd (by simp) (flagRule_notMem h (.inl rfl))

/-- A user ends at the first colon. -/
theorem urlRule_unique {before : Option Char}
    {text kept hidden later kept' hidden' later' : List Char}
    (h : urlRule.Finds before text kept hidden later)
    (h' : urlRule.Finds before text kept' hidden' later') : kept'.length = kept.length := by
  obtain ⟨user, rfl, _, hUser⟩ := urlRule_keeps_iff.mp h.keeps
  obtain ⟨user', rfl, _, hUser'⟩ := urlRule_keeps_iff.mp h'.keeps
  have hText := h'.text_eq.symm.trans h.text_eq
  simp only [List.append_assoc, List.cons_append, List.nil_append, List.cons.injEq,
    true_and] at hText
  rw [run_unique rfl hText hUser' hUser]

theorem urlRule_masksRuns : urlRule.MasksRuns where
  greedy := Rule.greedy_of_unique urlRule_unique
  blind _ h := by
    rw [urlRule_keeps_iff] at h ⊢
    exact h
  two_le h := by
    obtain ⟨user, rfl, _⟩ := urlRule_keeps_iff.mp h
    simp
  closing_le := le_refl 1
  mask_last := rfl

namespace RunRule

variable {rule : Rule} (hRule : RunRule rule)
include hRule

theorem keptIn_at (text rest : List Char) : rule.KeptIn text ('@' :: rest) := by
  intro _ place _ _ _ kept hidden later hFinds
  by_contra hLong
  have hText := hFinds.text_eq
  rw [List.append_assoc, List.append_assoc] at hText
  obtain ⟨more, rfl⟩ :=
    List.prefix_of_prefix_length_le ⟨_, rfl⟩ ⟨_, hText.symm⟩ (not_le.mp hLong).le
  rw [List.append_assoc, List.append_cancel_left_eq] at hText
  cases more with
  | nil => simp at hLong
  | cons c more =>
      obtain ⟨rfl, _⟩ := List.cons_eq_cons.mp hText
      exact hRule.at_notMem hFinds.keeps (by simp)

/-- Behind a colon, a text without a gap is not kept. -/
theorem keptIn_colon {text : List Char} (hLast : text.getLast? = some ':') {p : List Char}
    (hInk : ∀ c ∈ p, isSpace c = false) (rest : List Char) :
    rule.KeptIn text (p ++ '@' :: rest) := by
  intro front place hPlace hSome before kept hidden later hFinds
  by_contra hLong
  have hText := hFinds.text_eq
  rw [List.append_assoc, List.append_assoc] at hText
  obtain ⟨more, rfl⟩ :=
    List.prefix_of_prefix_length_le ⟨_, rfl⟩ ⟨_, hText.symm⟩ (not_le.mp hLong).le
  rw [List.append_assoc, List.append_cancel_left_eq] at hText
  obtain ⟨init, rfl⟩ : ∃ init, place = init ++ [':'] := by
    rw [hPlace, List.getLast?_append_of_ne_nil _ hSome] at hLast
    exact ⟨_, (List.dropLast_append_getLast? ':' hLast).symm⟩
  have hKeeps : rule.Keeps before (init ++ ':' :: more) hidden.head? := by
    have hKept := hFinds.keeps
    rwa [List.append_assoc] at hKept
  rcases hRule.colon hKeeps with rfl | ⟨c, hMem, hSpace⟩
  · simp at hLong
  · -- a gap in what is kept would be in front of the at sign
    have hNot : c ∉ p ++ ['@'] := by
      intro hIn
      rcases List.mem_append.mp hIn with hIn | hIn
      · simp [hInk c hIn] at hSpace
      · rw [List.mem_singleton.mp hIn] at hSpace
        cases hSpace
    have hAt : '@' ∉ more := fun hIn => hRule.at_notMem hKeeps (by simp [hIn])
    rcases List.append_eq_append_iff.mp hText with ⟨excess, rfl, hOver⟩ | ⟨excess, rfl, _⟩
    · cases excess with
      | nil => exact hNot (List.mem_append_left _ (by simpa using hMem))
      | cons d excess =>
          obtain ⟨rfl, _⟩ := List.cons_eq_cons.mp hOver
          exact hAt (by simp)
    · exact hNot (List.mem_append_left _ (List.mem_append_left _ hMem))

theorem find_at (before : Option Char) (rest : List Char) :
    rule.find before ('@' :: rest) = none := by
  refine Rule.find_eq_none_iff.mpr fun kept hidden later hFinds => ?_
  obtain ⟨c, kept', rfl⟩ := List.exists_cons_of_ne_nil (hRule.keeps_ne_nil hFinds.keeps)
  obtain ⟨rfl, _⟩ := List.cons_eq_cons.mp hFinds.text_eq
  exact hRule.at_notMem hFinds.keeps List.mem_cons_self

theorem probe : '@' :: rule.closing = ['@'] := by rw [hRule.closing_eq]

theorem keptIn_probe (text : List Char) : rule.KeptIn text ('@' :: rule.closing) :=
  hRule.keptIn_at text _

section

variable {text : List Char} (hLast : text.getLast? = some ':')
    (hHides : rule.hides text '@' = false)
include hLast hHides

theorem sub_append {p : List Char} (hInk : ∀ c ∈ p, isSpace c = false) (rest : List Char) :
    rule.sub (text ++ (p ++ '@' :: rest)) = rule.sub text ++
    rule.subAfter (some ':') (p ++ '@' :: rest) := by
  have hSub := hRule.subAfter_append hRule.at_hidden (hRule.keptIn_probe text)
    (hRule.keptIn_colon hLast hInk rest) hHides (by decide)
  rwa [lastChar, hLast] at hSub

/-- When neither the text nor the password hides what stands behind it, all three
parts are rewritten on their own. -/
theorem sub_through {p : List Char} (hInk : ∀ c ∈ p, isSpace c = false)
    (hPasses : rule.hidesAfter (some ':') p '@' = false) (rest : List Char) :
    rule.sub (text ++ (p ++ '@' :: rest)) =
      rule.sub text ++ (rule.subAfter (some ':') p ++ '@' :: rule.subAfter (some '@') rest) := by
  rw [hRule.sub_append hLast hHides hInk, hRule.subAfter_append hRule.at_hidden
    (hRule.keptIn_probe p) (hRule.keptIn_at p rest) hPasses (by decide),
    Rule.subAfter_cons (hRule.find_at _ rest)]

theorem getLast?_sub : (rule.sub text).getLast? = some ':' := by
  obtain ⟨out, hOut⟩ :=
    hRule.exists_scans hRule.at_hidden (hRule.keptIn_probe text) hHides (by decide)
  have hAlone := (hRule.scans_congr hRule.at_hidden (hRule.keptIn_probe text) (Rule.keptIn_nil text)
    hOut).subAfter_append
  rw [List.append_nil, Rule.subAfter_nil, List.append_nil] at hAlone
  rw [Rule.sub, hAlone, hOut.getLast?_eq rfl hRule.at_hidden, hLast]

end

/-- A password without a gap is left alone when it hides nothing behind it. -/
theorem subAfter_eq_self {p : List Char} (hHidden : ∀ c ∈ p, rule.hidden c = true)
    (hPasses : rule.hidesAfter (some ':') p '@' = false) : rule.subAfter (some ':') p = p := by
  obtain ⟨out, hOut⟩ :=
    hRule.exists_scans hRule.at_hidden (hRule.keptIn_probe p) hPasses (by decide)
  have hAlone := (hRule.scans_congr hRule.at_hidden (hRule.keptIn_probe p) (Rule.keptIn_nil p)
    hOut).subAfter_append
  rw [List.append_nil, Rule.subAfter_nil, List.append_nil] at hAlone
  rw [hAlone, hOut.eq_of_hidden hRule.closing_eq rfl hRule.at_hidden hHidden]

/-- When the text hides what stands behind it, the password is hidden with it. -/
theorem exists_sub_hides {text : List Char} (hLast : text.getLast? = some ':')
    (hHides : rule.hides text '@' = true) :
    ∃ front, ∀ p, (∀ c ∈ p, rule.hidden c = true) → ∀ rest,
      rule.sub (text ++ (p ++ '@' :: rest)) = front ++ rule.mask ++
        rule.subAfter (lastChar (some '@') (rest.takeWhile rule.hidden))
          (rest.dropWhile rule.hidden) := by
  obtain ⟨front, hFront⟩ :=
    hRule.exists_subAfter_hides hRule.at_hidden (hRule.keptIn_probe text) hHides
  refine ⟨front, fun p hHidden rest => ?_⟩
  obtain ⟨hWhole, hAll, hStop⟩ := span_spec rule.hidden rest
  have hRun : rule.Run (p ++ '@' :: rest.takeWhile rule.hidden) (rest.dropWhile rule.hidden) := by
    refine ⟨List.forall_mem_append.mpr
      ⟨hHidden, List.forall_mem_cons.mpr ⟨hRule.at_hidden, hAll⟩⟩, ?_⟩
    rwa [hRule.closing_eq, List.nil_append]
  have hEq : p ++ '@' :: rest = (p ++ '@' :: rest.takeWhile rule.hidden) ++
      (rule.closing ++ rest.dropWhile rule.hidden) := by
    rw [hRule.closing_eq, List.nil_append, List.append_assoc, List.cons_append, ← hWhole]
  have hKept := hRule.keptIn_colon hLast (fun c hc => hRule.ink c (hHidden c hc)) rest
  rw [hEq] at hKept ⊢
  rw [Rule.sub, hFront _ _ hRun hKept (by simp)]
  simp [hRule.closing_eq]

/-- When the password hides what stands behind it, the text ends in the mask. -/
theorem exists_sub_of_password {text : List Char} (hLast : text.getLast? = some ':')
    (hHides : rule.hides text '@' = false) {p : List Char} (hInk : ∀ c ∈ p, isSpace c = false)
    (hBehind : rule.hidesAfter (some ':') p '@' = true) {run later : List Char}
    (hRun : ∀ c ∈ run, rule.hidden c = true)
    (hLater : ∀ c, later.head? = some c → rule.hidden c = false) :
    ∃ front last, rule.sub (text ++ (p ++ '@' :: (run ++ later))) =
      front ++ rule.mask ++ rule.subAfter last later := by
  obtain ⟨front, hFront⟩ :=
    hRule.exists_subAfter_hides hRule.at_hidden (hRule.keptIn_probe p) hBehind
  have hWhole : '@' :: (run ++ later) = ('@' :: run) ++ (rule.closing ++ later) := by
    rw [hRule.closing_eq, List.nil_append, List.cons_append]
  have hStop : rule.Run ('@' :: run) later := by
    refine ⟨List.forall_mem_cons.mpr ⟨hRule.at_hidden, hRun⟩, ?_⟩
    rwa [hRule.closing_eq, List.nil_append]
  have hKept := hRule.keptIn_at p (run ++ later)
  rw [hRule.sub_append hLast hHides hInk]
  rw [hWhole] at hKept ⊢
  rw [hFront _ _ hStop hKept (by simp)]
  exact ⟨rule.sub text ++ front, lastChar (some '@') run, by simp [hRule.closing_eq]⟩

end RunRule

end NodeDebugDashboard.Collectors
