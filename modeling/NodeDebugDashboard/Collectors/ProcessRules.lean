import NodeDebugDashboard.Collectors.Processes
import NodeDebugDashboard.Library.WordMasking

/-! What each of the five patterns keeps and hides. -/
namespace NodeDebugDashboard.Collectors

open Library.Text Pattern

/-- A gap is matched wherever it stands. -/
theorem matches_gapPattern_iff {before next : Option Char} {text : List Char} :
    gapPattern.Matches before text next ↔ Gap text := by
  simp only [gapPattern, spaces, Matches]
  constructor
  · rintro ⟨_, right, rfl, ⟨c, rfl, hSpace⟩, hRight⟩
    exact ⟨by simp, by simpa using ⟨hSpace, hRight⟩⟩
  · rintro ⟨hSome, hAll⟩
    obtain ⟨c, right, rfl⟩ := List.exists_cons_of_ne_nil hSome
    obtain ⟨hSpace, hRight⟩ := List.forall_mem_cons.mp hAll
    exact ⟨[c], right, rfl, ⟨c, rfl, hSpace⟩, hRight⟩

/-- The schemes that are skipped after `Authorization:`. -/
def schemeNames : List String := ["bearer", "basic", "token", "digest", "negotiate", "bot"]

/-- A known scheme and the gap behind it, or nothing. -/
inductive SchemePart : List Char → Prop
  | absent : SchemePart []
  | present {name : String} {scheme gap : List Char} (hName : name ∈ schemeNames)
      (hScheme : Spells name scheme) (hGap : Gap gap) : SchemePart (scheme ++ gap)

/-- What the first rule keeps: the header's name, a gap and the scheme, if there is one. -/
theorem authorizationRule_keeps_iff {before next : Option Char} {text : List Char} :
    authorizationRule.Keeps before text next ↔ ∃ letters gap part, text = letters ++ (gap ++ part) ∧
      Spells "authorization:" letters ∧ (∀ c ∈ gap, isSpace c = true) ∧ SchemePart part := by
  rw [Rule.keeps_iff_matches rfl rfl]
  simp only [authorizationRule, all, List.foldr_cons, List.foldr_nil, Matches, spaces,
    matches_lit_iff, matches_anyOf_iff, matches_gapPattern_iff]
  constructor
  · rintro ⟨letters, _, rfl, hLetters, gap, _, rfl, hGap, part, _, rfl, hPart, rfl⟩
    refine ⟨letters, gap, part ++ [], by simp, hLetters, hGap, ?_⟩
    rw [List.append_nil]
    rcases hPart with ⟨scheme, gap', rfl, ⟨name, hName, hScheme⟩, hGap'⟩ | rfl
    · exact .present hName hScheme hGap'
    · exact .absent
  · rintro ⟨letters, gap, part, rfl, hLetters, hGap, hPart⟩
    refine ⟨letters, gap ++ part, rfl, hLetters, gap, part, rfl, hGap, part, [], by simp, ?_, rfl⟩
    cases hPart with
    | absent => exact .inr rfl
    | present hName hScheme hGap' => exact .inl ⟨_, _, rfl, ⟨_, hName, hScheme⟩, hGap'⟩

/-- What the second rule keeps: the word at a word boundary, and a gap. -/
theorem bearerRule_keeps_iff [Unicode] {before next : Option Char} {text : List Char} :
    bearerRule.Keeps before text next ↔ ∃ letters gap, text = letters ++ gap ∧
      Spells "bearer" letters ∧ Gap gap ∧ before.any wordChar ≠ letters.head?.any wordChar := by
  have hHead : ∀ {letters : List Char} (other : Option Char), Spells "bearer" letters →
      letters.head?.or other = letters.head? := by
    intro letters other hLetters
    obtain ⟨c, rest, rfl⟩ := List.exists_cons_of_ne_nil (hLetters.ne_nil (by decide))
    rfl
  rw [Rule.keeps_iff_matches rfl rfl]
  simp only [bearerRule, all, List.foldr_cons, List.foldr_nil, Matches, wordEdge, matches_lit_iff,
    matches_gapPattern_iff]
  constructor
  · rintro ⟨_, _, rfl, ⟨rfl, hEdge⟩, letters, _, rfl, hLetters, gap, _, rfl, hGap, rfl⟩
    refine ⟨letters, gap, by simp, hLetters, hGap, ?_⟩
    rwa [List.head?_append, Option.or_assoc, hHead _ hLetters] at hEdge
  · rintro ⟨letters, gap, rfl, hLetters, hGap, hEdge⟩
    refine ⟨[], letters ++ gap, rfl, ⟨rfl, ?_⟩, letters, gap, rfl, hLetters, gap, [],
      by simp, hGap, rfl⟩
    rwa [List.head?_append, Option.or_assoc, hHead _ hLetters]

section

variable [Unicode]

/-- `[\w-]` -/
def flagChar (c : Char) : Bool := wordChar c || c = '-'

/-- The words that make a flag a secret one. -/
def flagNames : List String := ["token", "password", "passwd", "secret"]

/-- `--?[\w-]*(?:token|password|passwd|secret)` -/
inductive FlagPart : List Char → Prop
  | intro {name : String} {dashes body key : List Char} (hDashes : dashes = ['-'] ∨
      dashes = ['-', '-'])
      (hBody : ∀ c ∈ body, flagChar c = true) (hName : name ∈ flagNames) (hKey : Spells name key) :
      FlagPart (dashes ++ (body ++ key))

/-- What the third rule keeps: a flag with a secret name, and what separates it from its
value. -/
theorem flagRule_keeps_iff {before next : Option Char} {text : List Char} :
    flagRule.Keeps before text next ↔ ∃ flag sep, text = flag ++ sep ∧ FlagPart flag ∧
      sep.head?.any flagChar = false ∧ (sep = ['='] ∨ Gap sep) := by
  have hDash : ∀ letters, Spells "-" letters ↔ letters = ['-'] :=
    fun letters => spells_symbol_iff rfl (by decide)
  have hEquals : ∀ letters, Spells "=" letters ↔ letters = ['='] :=
    fun letters => spells_symbol_iff rfl (by decide)
  simp only [Rule.Keeps, flagRule, all, List.foldr_cons, List.foldr_nil, Matches, matches_lit_iff,
    matches_anyOf_iff, matches_gapPattern_iff, hDash, hEquals]
  have hHead : ∀ {sep : List Char}, sep = ['='] ∨ Gap sep → sep.head?.or next = sep.head? := by
    rintro sep (rfl | hGap)
    · rfl
    · obtain ⟨c, rest, rfl⟩ := List.exists_cons_of_ne_nil hGap.ne_nil
      rfl
  constructor
  · rintro ⟨_, sep, rfl, ⟨_, _, rfl, rfl, second, _, rfl, hSecond, body, _, rfl, hBody, key, _, rfl,
      ⟨name, hName, hKey⟩, rfl⟩, hNext, hSep⟩
    rw [hHead hSep] at hNext
    refine ⟨['-'] ++ (second ++ (body ++ (key ++ []))), sep, rfl, ?_, hNext, hSep⟩
    rcases hSecond with rfl | rfl
    · simpa using FlagPart.intro (.inr rfl) hBody hName hKey
    · simpa using FlagPart.intro (.inl rfl) hBody hName hKey
  · rintro ⟨_, sep, rfl, @⟨name, dashes, body, key, hDashes, hBody, hName, hKey⟩, hNext, hSep⟩
    rw [← hHead hSep] at hNext
    refine ⟨_, sep, rfl, ?_, hNext, hSep⟩
    rcases hDashes with rfl | rfl
    · exact ⟨['-'], [] ++ (body ++ key), rfl, rfl, [], body ++ key, rfl, .inr rfl, body, key, rfl,
        hBody, key, [], by simp, ⟨name, hName, hKey⟩, rfl⟩
    · exact ⟨['-'], ['-'] ++ (body ++ key), rfl, rfl, ['-'], body ++ key, rfl, .inl rfl, body, key,
        rfl, hBody, key, [], by simp, ⟨name, hName, hKey⟩, rfl⟩

end

/-- What is hidden by a rule that hides whatever is not whitespace starts with a
character of a word. -/
theorem head?_hidden {rule : Rule} (hHidden : ∀ c, rule.hidden c = !isSpace c)
    {before : Option Char} {text kept hidden later : List Char}
    (h : rule.Finds before text kept hidden later) (rest : List Char) :
    ∀ c, (hidden ++ rest).head? = some c → isSpace c = false := by
  intro c hc
  rw [List.head?_append_of_ne_nil _ h.hidden_ne_nil] at hc
  have hAll := h.hidden_all c (List.mem_of_mem_head? hc)
  rwa [hHidden, Bool.not_eq_true'] at hAll

theorem bearer_ink : ∀ c ∈ "bearer".toList, isSpace c = false := by decide

/-- The second rule masks the word behind the gap, all of it and nothing else. -/
theorem bearerRule_masksWords [Unicode] : bearerRule.MasksWords where
  hidden_eq _ := rfl
  closing_eq := rfl
  mask_last := rfl
  greedy := by
    refine Rule.greedy_of_unique fun h h' => ?_
    obtain ⟨letters, gap, rfl, hLetters, hGap, _⟩ := bearerRule_keeps_iff.mp h.keeps
    obtain ⟨letters', gap', rfl, hLetters', hGap', _⟩ := bearerRule_keeps_iff.mp h'.keeps
    have hText := h'.text_eq.symm.trans h.text_eq
    simp only [List.append_assoc] at hText
    obtain ⟨rfl, hRest⟩ := List.append_inj hText (hLetters'.length_eq.trans hLetters.length_eq.symm)
    rw [leading_gap_unique hRest hGap'.isSpace hGap.isSpace (head?_hidden (fun _ => rfl) h' _)
      (head?_hidden (fun _ => rfl) h _)]
  starts := by
    intro _ _ _ h
    obtain ⟨letters, gap, rfl, hLetters, _⟩ := bearerRule_keeps_iff.mp h
    obtain ⟨c, rest, rfl⟩ := List.exists_cons_of_ne_nil (hLetters.ne_nil (by decide))
    exact ⟨c, rest ++ gap, rfl, hLetters.ink bearer_ink c List.mem_cons_self⟩
  gap := by
    intro _ _ _ _ _ _ h hText hGap hGap' _
    obtain ⟨letters, gap, hEq, hLetters, hOwn, hEdge⟩ := bearerRule_keeps_iff.mp h
    have hEnds := endsInWord_of_ink (hLetters.ne_nil (by decide)) (hLetters.ink bearer_ink)
    obtain ⟨rfl, rfl⟩ := trailing_gap_unique hEq hText hEnds hGap.isSpace hOwn.isSpace
    exact bearerRule_keeps_iff.mpr ⟨_, _, rfl, hLetters, hGap', hEdge⟩
  word := by
    intro _ text gap c rest _ h hText hGap hWord
    obtain ⟨letters, gap', hEq, hLetters, hGap', _⟩ := bearerRule_keeps_iff.mp h
    have hRun : [] ++ letters ++ gap' = text ++ (gap ++ c :: rest) := by
      rw [← List.append_assoc, hEq, List.nil_append]
    rcases run_before_or_after hRun (hLetters.ne_nil (by decide))
        (hLetters.ink bearer_ink) hGap with
      ⟨tail, _, hTail⟩ | ⟨more, hMore, _⟩
    · have hSpace := hGap'.isSpace c (by simp [hTail])
      simp [hWord] at hSpace
    · simp [hGap.ne_nil] at hMore

theorem flagNames_ink : ∀ name ∈ flagNames, ∀ c ∈ name.toList, isSpace c = false := by decide

/-- Among the ASCII characters there are no other letters and digits than the usual ones. -/
theorem isAlnum_of_not_ascii [Unicode] {c : Char} (hAscii : c.toNat < 128)
    (h : c.isAlphanum = false) : Unicode.isAlnum c = false := by
  rw [Unicode.isAlnum_ascii c hAscii, h]

theorem flagChar_equals [Unicode] : flagChar '=' = false := by
  have hAlnum : Unicode.isAlnum '=' = false := isAlnum_of_not_ascii (by decide) (by decide)
  simp [flagChar, wordChar, hAlnum]

/-- A flag ends at whitespace. -/
theorem flagChar_of_isSpace [UnicodeSpaces] {c : Char} (h : isSpace c = true) :
    flagChar c = false := by
  have hNot : c ≠ '_' ∧ c ≠ '-' := by
    constructor
    · rintro rfl
      simp [show isSpace '_' = false by decide] at h
    · rintro rfl
      simp [show isSpace '-' = false by decide] at h
  simp [flagChar, wordChar, UnicodeSpaces.isAlnum_space c h, hNot.1, hNot.2]

/-- A flag has neither whitespace nor an equals sign in it. -/
theorem FlagPart.ink [UnicodeSpaces] {flag : List Char} (h : FlagPart flag) :
    ∀ c ∈ flag, isSpace c = false ∧ c ≠ '=' := by
  obtain @⟨name, dashes, body, key, hDashes, hBody, hName, hKey⟩ := h
  have hDash : ∀ c ∈ dashes, c = '-' := by
    rcases hDashes with rfl | rfl
    · simp
    · simp
  have hPlain : ∀ c, flagChar c = true → isSpace c = false ∧ c ≠ '=' := by
    intro c hc
    constructor
    · by_contra hSpace
      rw [flagChar_of_isSpace (by simpa using hSpace)] at hc
      cases hc
    · rintro rfl
      rw [flagChar_equals] at hc
      cases hc
  have hNames : ∀ name ∈ flagNames, ∀ expected ∈ name.toList, sameLetter expected '=' = false := by
    decide
  intro c hc
  rcases List.mem_append.mp hc with hc | hc
  · rw [hDash c hc]
    decide
  · rcases List.mem_append.mp hc with hc | hc
    · exact hPlain c (hBody c hc)
    · refine ⟨hKey.ink (flagNames_ink name hName) c hc, ?_⟩
      rintro rfl
      exact hKey.notMem (hNames name hName) hc

theorem FlagPart.exists_cons {flag : List Char} [Unicode] (h : FlagPart flag) :
    ∃ rest, flag = '-' :: rest := by
  obtain @⟨name, dashes, body, key, rfl | rfl, _, _, _⟩ := h
  · exact ⟨body ++ key, rfl⟩
  · exact ⟨'-' :: (body ++ key), rfl⟩

/-- No whitespace stands at the end of a flag. -/
theorem FlagPart.endsInWord [UnicodeSpaces] {flag : List Char} (h : FlagPart flag) :
    EndsInWord flag := by
  obtain ⟨rest, rfl⟩ := h.exists_cons
  exact endsInWord_of_ink (by simp) fun c hc => (h.ink c hc).1

/-- The flag is told from what stands between it and its value. -/
theorem flag_unique [UnicodeSpaces] {flag flag' sep sep' rest rest' : List Char}
    (h : flag ++ (sep ++ rest) = flag' ++ (sep' ++ rest')) (hFlag : FlagPart flag)
    (hFlag' : FlagPart flag') (hSep : sep = ['='] ∨ Gap sep) (hSep' : sep' = ['='] ∨ Gap sep') :
    flag = flag' ∧ sep ++ rest = sep' ++ rest' := by
  let plain : Char → Bool := fun c => !isSpace c && c ≠ '='
  have hPlain : ∀ flag, FlagPart flag → ∀ c ∈ flag, plain c = true := by
    intro flag hFlag c hc
    simp [plain, hFlag.ink c hc]
  have hStop : ∀ sep rest : List Char, sep = ['='] ∨ Gap sep →
      ∀ c, (sep ++ rest).head? = some c → plain c = false := by
    rintro sep rest (rfl | hGap) c hc
    · cases hc
      rfl
    · rw [List.head?_append_of_ne_nil _ hGap.ne_nil] at hc
      simp [plain, hGap.isSpace c (List.mem_of_mem_head? hc)]
  obtain ⟨hTake, hDrop⟩ := span_eq_iff.mpr ⟨rfl, hPlain flag hFlag, hStop sep rest hSep⟩
  obtain ⟨hTake', hDrop'⟩ := span_eq_iff.mpr ⟨rfl, hPlain flag' hFlag', hStop sep' rest' hSep'⟩
  rw [h] at hTake hDrop
  exact ⟨hTake.symm.trans hTake', hDrop.symm.trans hDrop'⟩

/-- The sign and a gap are never taken for each other. -/
theorem equals_ne_gap {gap rest rest' : List Char} (hGap : Gap gap) :
    ['='] ++ rest ≠ gap ++ rest' := by
  intro h
  have hHead := congrArg List.head? h
  rw [List.head?_append_of_ne_nil _ hGap.ne_nil] at hHead
  exact absurd (hGap.isSpace '=' (List.mem_of_mem_head? hHead.symm)) (by decide)

/-- There is one way to find a flag at a place. -/
theorem flagRule_unique [UnicodeSpaces] {before : Option Char}
    {text kept hidden later kept' hidden' later' : List Char}
    (h : flagRule.Finds before text kept hidden later)
    (h' : flagRule.Finds before text kept' hidden' later') : kept'.length = kept.length := by
  obtain ⟨flag, sep, rfl, hFlag, _, hSep⟩ := flagRule_keeps_iff.mp h.keeps
  obtain ⟨flag', sep', rfl, hFlag', _, hSep'⟩ := flagRule_keeps_iff.mp h'.keeps
  have hText := h'.text_eq.symm.trans h.text_eq
  simp only [List.append_assoc] at hText
  obtain ⟨rfl, hRest⟩ := flag_unique hText hFlag' hFlag hSep' hSep
  rcases hSep with rfl | hGap
  · rcases hSep' with rfl | hGap'
    · rfl
    · exact absurd hRest.symm (equals_ne_gap hGap')
  · rcases hSep' with rfl | hGap'
    · exact absurd hRest (equals_ne_gap hGap)
    · rw [leading_gap_unique hRest hGap'.isSpace hGap.isSpace (head?_hidden (fun _ => rfl) h' _)
        (head?_hidden (fun _ => rfl) h _)]

/-- The third rule masks the word behind the flag. -/
theorem flagRule_masksWords [UnicodeSpaces] : flagRule.MasksWords where
  hidden_eq _ := rfl
  closing_eq := rfl
  mask_last := rfl
  greedy := Rule.greedy_of_unique flagRule_unique
  starts := by
    intro _ _ _ h
    obtain ⟨flag, sep, rfl, hFlag, _⟩ := flagRule_keeps_iff.mp h
    obtain ⟨rest, rfl⟩ := hFlag.exists_cons
    exact ⟨'-', rest ++ sep, rfl, by decide⟩
  gap := by
    intro _ text gap gap' _ _ h hText hGap hGap' _
    obtain ⟨flag, sep, hEq, hFlag, hNext, hSep⟩ := flagRule_keeps_iff.mp h
    rcases hSep with rfl | hOwn
    · have hEnd := congrArg List.getLast? hEq
      rw [List.getLast?_append_of_ne_nil _ hGap.ne_nil, List.getLast?_concat] at hEnd
      exact absurd (hGap.isSpace '=' (List.mem_of_getLast? hEnd)) (by decide)
    · obtain ⟨rfl, rfl⟩ := trailing_gap_unique hEq hText hFlag.endsInWord hGap.isSpace hOwn.isSpace
      refine flagRule_keeps_iff.mpr ⟨_, _, rfl, hFlag, ?_, .inr hGap'⟩
      obtain ⟨c, rest, rfl⟩ := List.exists_cons_of_ne_nil hGap'.ne_nil
      simpa using flagChar_of_isSpace (hGap'.isSpace c List.mem_cons_self)
  word := by
    intro _ text gap c rest _ h hText hGap hWord
    obtain ⟨flag, sep, hEq, hFlag, _, hSep⟩ := flagRule_keeps_iff.mp h
    have hRun : [] ++ flag ++ sep = text ++ (gap ++ c :: rest) := by
      rw [← List.append_assoc, hEq, List.nil_append]
    rcases run_before_or_after hRun hFlag.endsInWord.ne_nil
        (fun c hc => (hFlag.ink c hc).1) hGap with
      ⟨tail, _, hTail⟩ | ⟨more, hMore, _⟩
    · rcases hSep with rfl | hOwn
      · have hLength := congrArg List.length hTail
        have hSome := List.length_pos_iff.mpr hGap.ne_nil
        simp only [List.length_append, List.length_cons, List.length_nil] at hLength
        omega
      · have hSpace := hOwn.isSpace c (by simp [hTail])
        simp [hWord] at hSpace
    · simp [hGap.ne_nil] at hMore

theorem schemeNames_ink : ∀ name ∈ schemeNames, ∀ c ∈ name.toList, isSpace c = false := by decide

theorem authorization_ink : ∀ c ∈ "authorization:".toList, isSpace c = false := by decide

theorem head?_gap {gap : List Char} (hGap : Gap gap) (rest : List Char) :
    ∀ c, (gap ++ rest).head? = some c → isSpace c = true := by
  intro c hc
  rw [List.head?_append_of_ne_nil _ hGap.ne_nil] at hc
  exact hGap.isSpace c (List.mem_of_mem_head? hc)

/-- A scheme is not empty. -/
theorem schemeName_ne_nil {name : String} {scheme : List Char} (hName : name ∈ schemeNames)
    (hScheme : Spells name scheme) : scheme ≠ [] := by
  refine hScheme.ne_nil ?_
  rintro rfl
  revert hName
  decide

/-- Whatever follows the gap begins with a character that is seen. -/
theorem SchemePart.head_ink {part rest : List Char} (h : SchemePart part)
    (hRest : ∀ c, rest.head? = some c → isSpace c = false) :
    ∀ c, (part ++ rest).head? = some c → isSpace c = false := by
  intro c hc
  cases h with
  | absent => exact hRest c (by simpa using hc)
  | @present name scheme gap hName hScheme _ =>
      have hSome := schemeName_ne_nil hName hScheme
      rw [List.append_assoc, List.head?_append_of_ne_nil _ hSome] at hc
      exact hScheme.ink (schemeNames_ink name hName) c (List.mem_of_mem_head? hc)

/-- A known scheme is tried before none, so it is skipped when something follows
it. -/
theorem authorizationRule_greedy [Unicode] : authorizationRule.Greedy := by
  intro before text kept hidden kept' hidden' later' hFind h'
  obtain ⟨letters', own', part', rfl, hLetters', hOwn', hPart'⟩ :=
    authorizationRule_keeps_iff.mp h'.keeps
  have hInk' := head?_hidden (fun _ => rfl) h' later'
  let scheme : Pattern :=
    .seq (.anyOf "bearer" ["basic", "token", "digest", "negotiate", "bot"]) gapPattern
  have hScheme : ∀ {before next : Option Char} {part : List Char},
      scheme.Matches before part next ↔ ∃ name ∈ schemeNames, ∃ word gap, part = word ++ gap ∧
        Spells name word ∧ Gap gap := by
    intro before next part
    simp only [scheme, Matches, matches_anyOf_iff, matches_gapPattern_iff]
    constructor
    · rintro ⟨word, gap, rfl, ⟨name, hName, hWord⟩, hGap⟩
      exact ⟨name, hName, word, gap, rfl, hWord, hGap⟩
    · rintro ⟨name, hName, word, gap, rfl, hWord, hGap⟩
      exact ⟨word, gap, rfl, ⟨name, hName, hWord⟩, hGap⟩
  have hPattern : authorizationRule.first =
      .seq (.lit "authorization:") (.seq .spaces (.seq (.alt scheme .empty) .empty)) := rfl
  have hEmpty : ∀ middle : Option Char × List Char,
      (empty.ways middle.1 middle.2).findSome? (authorizationRule.found text ∘ Prod.snd) =
        authorizationRule.found text middle.2 := by
    intro middle
    rw [ways, List.findSome?_singleton]
    rfl
  rw [Rule.find, Rule.rests_eq_map rfl rfl, List.findSome?_map, hPattern,
    findSome?_ways_seq] at hFind
  obtain ⟨⟨before₁, text₁⟩, hFirst, hFind⟩ := List.exists_of_findSome?_eq_some hFind
  rw [findSome?_ways_seq] at hFind
  obtain ⟨⟨before₂, text₂⟩, hSecond, hFind⟩ := List.exists_of_findSome?_eq_some hFind
  rw [findSome?_ways_seq, funext hEmpty, findSome?_ways_optional] at hFind
  obtain ⟨letters, rfl, _, hLetters⟩ := mem_ways_iff.mp hFirst
  obtain ⟨gap, rfl, _, hGap⟩ := mem_ways_iff.mp hSecond
  rw [matches_lit_iff] at hLetters
  have hText := h'.text_eq
  rw [List.append_assoc, List.append_assoc, List.append_assoc] at hText
  obtain ⟨rfl, hRest⟩ := List.append_inj hText (hLetters.length_eq.trans hLetters'.length_eq.symm)
  change gap ++ text₂ = own' ++ part' ++ (hidden' ++ ([] ++ later')) at hRest
  rw [List.nil_append, List.append_assoc] at hRest
  rcases Option.or_eq_some_iff.mp hFind with hSkipped | ⟨hNone, hFound⟩
  · -- a scheme is skipped: nothing longer can be kept
    obtain ⟨⟨_, text₃⟩, hThird, hFound⟩ := List.exists_of_findSome?_eq_some hSkipped
    obtain ⟨part, rfl, _, hMatches⟩ := mem_ways_iff.mp hThird
    obtain ⟨name, hName, word, last, rfl, hWord, hLast⟩ := hScheme.mp hMatches
    have hFront : letters ++ (gap ++ (word ++ last ++ text₃)) =
        (letters ++ (gap ++ (word ++ last))) ++ text₃ := by simp
    rw [hFront, Rule.found_eq_some_iff] at hFound
    obtain ⟨rfl, later, rfl, hHidden, hAll, _⟩ := hFound
    have hInk : ∀ c, (hidden ++ (authorizationRule.closing ++ later)).head? = some c →
        isSpace c = false := by
      intro c hc
      rw [List.head?_append_of_ne_nil _ hHidden] at hc
      simpa [authorizationRule] using hAll c (List.mem_of_mem_head? hc)
    obtain rfl :=
      leading_gap_unique hRest hGap hOwn' ((SchemePart.present hName hWord hLast).head_ink hInk)
      (hPart'.head_ink hInk')
    cases hPart' with
    | absent => simp
    | @present name' word' last' hName' hWord' hLast' =>
        have hTail := List.append_cancel_left hRest
        simp only [List.append_assoc] at hTail
        obtain rfl := leading_word_unique hTail (hWord.ink (schemeNames_ink name hName))
          (hWord'.ink (schemeNames_ink name' hName')) (head?_gap hLast _) (head?_gap hLast' _)
        rw [leading_gap_unique
          (List.append_cancel_left hTail) hLast.isSpace hLast'.isSpace hInk hInk']
  · -- no scheme can be skipped here
    rw [← List.append_assoc, Rule.found_eq_some_iff] at hFound
    obtain ⟨rfl, later, rfl, hHidden, hAll, _⟩ := hFound
    have hInk : ∀ c, (hidden ++ (authorizationRule.closing ++ later)).head? = some c →
        isSpace c = false := by
      intro c hc
      rw [List.head?_append_of_ne_nil _ hHidden] at hc
      simpa [authorizationRule] using hAll c (List.mem_of_mem_head? hc)
    obtain rfl := leading_gap_unique hRest hGap hOwn' hInk (hPart'.head_ink hInk')
    cases hPart' with
    | absent => simp
    | @present name' word' last' hName' hWord' hLast' =>
        exfalso
        have hTail := List.append_cancel_left hRest
        have hWay : (lastChar before₂ (word' ++ last'), hidden' ++ later') ∈
            scheme.ways before₂ (hidden ++ (authorizationRule.closing ++ later)) := by
          rw [hTail]
          exact mem_ways_iff.mpr ⟨_, rfl, rfl,
            hScheme.mpr ⟨name', hName', word', last', rfl, hWord', hLast'⟩⟩
        have hTried := List.findSome?_eq_none_iff.mp hNone _ hWay
        have hSuccess := h'.found
        change authorizationRule.found _ (hidden' ++ ([] ++ later')) = _ at hSuccess
        rw [List.nil_append] at hSuccess
        simp only [hSuccess] at hTried
        cases hTried

/-- The first rule masks the word behind the scheme, or behind the name where there is none. -/
theorem authorizationRule_masksWords [Unicode] : authorizationRule.MasksWords where
  hidden_eq _ := rfl
  closing_eq := rfl
  mask_last := rfl
  greedy := authorizationRule_greedy
  starts := by
    intro _ _ _ h
    obtain ⟨letters, gap, part, rfl, hLetters, _⟩ := authorizationRule_keeps_iff.mp h
    obtain ⟨c, rest, rfl⟩ := List.exists_cons_of_ne_nil (hLetters.ne_nil (by decide))
    exact ⟨c, rest ++ (gap ++ part), rfl, hLetters.ink authorization_ink c List.mem_cons_self⟩
  gap := by
    intro _ text gap gap' _ _ h hText hGap hGap' _
    obtain ⟨letters, own, part, hEq, hLetters, hOwn, hPart⟩ := authorizationRule_keeps_iff.mp h
    have hEnds := endsInWord_of_ink (hLetters.ne_nil (by decide)) (hLetters.ink authorization_ink)
    cases hPart with
    | absent =>
        rw [List.append_nil] at hEq
        obtain ⟨rfl, rfl⟩ := trailing_gap_unique hEq hText hEnds hGap.isSpace hOwn
        exact authorizationRule_keeps_iff.mpr
          ⟨_, gap', [], by simp, hLetters, hGap'.isSpace, .absent⟩
    | @present name scheme last hName hScheme hLast =>
        have hSchemeEnds := endsInWord_of_ink
          (schemeName_ne_nil hName hScheme) (hScheme.ink (schemeNames_ink name hName))
        have hSplit : text ++ gap = (letters ++ (own ++ scheme)) ++ last := by simpa using hEq
        obtain ⟨rfl, rfl⟩ := trailing_gap_unique hSplit hText hSchemeEnds.append.append hGap.isSpace
          hLast.isSpace
        exact authorizationRule_keeps_iff.mpr ⟨letters, own, scheme ++ gap', by simp,
          hLetters, hOwn, .present hName hScheme hGap'⟩
  word := by
    intro _ text gap c rest _ h hText hGap hWord
    obtain ⟨letters, own, part, hEq, hLetters, hOwn, hPart⟩ := authorizationRule_keeps_iff.mp h
    have hRun : [] ++ letters ++ (own ++ part) = text ++ (gap ++ c :: rest) := by
      simpa using hEq.symm
    rcases run_before_or_after hRun (hLetters.ne_nil (by decide)) (hLetters.ink authorization_ink)
      hGap with ⟨tail, rfl, hTail⟩ | ⟨more, hMore, _⟩
    · cases hPart with
      | absent =>
          have hSpace := hOwn c (by rw [← List.append_nil own, hTail]; simp)
          simp [hWord] at hSpace
      | @present name scheme last hName hScheme hLast =>
          have hInk := hScheme.ink (schemeNames_ink name hName)
          have hSome := schemeName_ne_nil hName hScheme
          rw [← List.append_assoc] at hTail
          rcases run_before_or_after hTail hSome hInk hGap with ⟨excess, _,
            hOver⟩ | ⟨more, rfl, hMore⟩
          · have hSpace := hLast.isSpace c (by simp [hOver])
            simp [hWord] at hSpace
          · have hTailNil : tail = [] := by
              by_contra hTailSome
              obtain ⟨d, hEnd, hInk⟩ := hText.of_append hTailSome
              have hSpace := hOwn d (by simp [List.mem_of_getLast? hEnd])
              simp [hInk] at hSpace
            have hMoreNil : more = [] := by
              cases more with
              | nil => rfl
              | cons d more =>
                  cases hMore
                  have hSpace := hOwn c (by simp)
                  simp [hWord] at hSpace
            subst hTailNil hMoreNil
            refine ⟨authorizationRule_keeps_iff.mpr
              ⟨letters, gap, [], by simp, hLetters, hGap.isSpace, .absent⟩, ?_⟩
            rintro rfl
            have hDash : ∀ name ∈ schemeNames, ∀ expected ∈ name.toList,
                sameLetter expected '-' = false := by decide
            refine hScheme.notMem (hDash name hName) ?_
            obtain ⟨first, others, rfl⟩ := List.exists_cons_of_ne_nil hSome
            cases hMore
            exact List.mem_cons_self
    · simp [hGap.ne_nil] at hMore

/-- The words that make an assignment a secret one. -/
def assignmentNames : List String := ["password", "passwd", "pwd", "token", "secret"]

/-- What the fourth rule keeps: a variable with a secret name, and the sign behind it. -/
theorem assignmentRule_keeps_iff [Unicode] {before next : Option Char} {text : List Char} :
    assignmentRule.Keeps before text next ↔ ∃ body key, text = body ++ (key ++ ['=']) ∧
      (∀ c ∈ body, wordChar c = true) ∧ (∃ name ∈ assignmentNames, Spells name key) ∧
        before.any wordChar ≠ text.head?.any wordChar := by
  have hEquals : ∀ letters, Spells "=" letters ↔ letters = ['='] :=
    fun letters => spells_symbol_iff rfl (by decide)
  have hHead : ∀ (body key : List Char) (other : Option Char),
      (body ++ (key ++ ['='])).head?.or other = (body ++ (key ++ ['='])).head? := by
    intro body key other
    obtain ⟨c, rest, hCons⟩ := List.exists_cons_of_ne_nil (show body ++ (key ++ ['=']) ≠ [] by simp)
    rw [hCons]
    rfl
  rw [Rule.keeps_iff_matches rfl rfl]
  simp only [assignmentRule, all, List.foldr_cons, List.foldr_nil, Matches, wordEdge,
    matches_lit_iff, matches_anyOf_iff, hEquals]
  constructor
  · rintro ⟨_, _, rfl, ⟨rfl, hEdge⟩, body, _, rfl, hBody, key, _, rfl, hKey, _, _, rfl, rfl, rfl⟩
    refine ⟨body, key, by simp, hBody, hKey, ?_⟩
    rwa [List.append_nil, hHead] at hEdge
  · rintro ⟨body, key, rfl, hBody, hKey, hEdge⟩
    refine ⟨[], body ++ (key ++ ['=']), rfl, ⟨rfl, ?_⟩, body, key ++ ['='], rfl, hBody,
      key, ['='], rfl, hKey, ['='], [], rfl, rfl, rfl⟩
    rwa [hHead]

/-- What the last rule keeps: the user of a URL, up to the colon. -/
theorem urlRule_keeps_iff {before next : Option Char} {text : List Char} :
    urlRule.Keeps before text next ↔ ∃ user, text = [':', '/', '/'] ++ (user ++ [':']) ∧ user ≠ [] ∧
      ∀ c ∈ user, userChar c = true := by
  have hColon : ∀ letters, Spells ":" letters ↔ letters = [':'] :=
    fun letters => spells_symbol_iff rfl (by decide)
  have hScheme : ∀ letters, Spells "://" letters ↔ letters = [':', '/', '/'] := by
    intro letters
    have hAlone : ∀ expected ∈ [':', '/'], ∀ c, sameLetter expected c = true ↔ c = expected := by
      simp only [List.mem_cons, List.not_mem_nil, or_false]
      rintro expected (rfl | rfl) c
      · exact sameLetter_iff_eq (by decide)
      · exact sameLetter_iff_eq (by decide)
    have hName : "://".toList = [':', '/', '/'] := by decide
    simp only [Spells, hName, List.forall₂_cons_left_iff, List.forall₂_nil_left_iff,
      hAlone ':' (by simp), hAlone '/' (by simp)]
    constructor
    · rintro ⟨_, _, rfl, ⟨_, _, rfl, ⟨_, _, rfl, rfl, rfl⟩, rfl⟩, rfl⟩
      rfl
    · rintro rfl
      exact ⟨_, _, rfl, ⟨_, _, rfl, ⟨_, _, rfl, rfl, rfl⟩, rfl⟩, rfl⟩
  rw [Rule.keeps_iff_matches rfl rfl]
  simp only [urlRule, all, List.foldr_cons, List.foldr_nil, Matches, matches_lit_iff,
    hColon, hScheme]
  constructor
  · rintro ⟨_, _, rfl, rfl, _, _, rfl, ⟨c, rfl, hFirst⟩, body, _, rfl, hBody, _, _, rfl, rfl, rfl⟩
    refine ⟨c :: body, by simp, by simp, ?_⟩
    simpa using ⟨hFirst, hBody⟩
  · rintro ⟨user, rfl, hSome, hUser⟩
    obtain ⟨c, body, rfl⟩ := List.exists_cons_of_ne_nil hSome
    obtain ⟨hFirst, hBody⟩ := List.forall_mem_cons.mp hUser
    exact ⟨[':', '/', '/'], c :: (body ++ [':']), rfl, rfl, [c], body ++
      [':'], rfl, ⟨c, rfl, hFirst⟩, body, [':'], rfl, hBody, [':'], [], rfl, rfl, rfl⟩

theorem assignmentRule_endsInWord [Unicode] {before next : Option Char} {kept : List Char}
    (h : assignmentRule.Keeps before kept next) : EndsInWord kept := by
  obtain ⟨body, key, rfl, _⟩ := assignmentRule_keeps_iff.mp h
  exact ⟨'=', by rw [← List.append_assoc, List.getLast?_concat], by decide⟩

theorem urlRule_endsInWord {before next : Option Char} {kept : List Char}
    (h : urlRule.Keeps before kept next) : EndsInWord kept := by
  obtain ⟨user, rfl, _⟩ := urlRule_keeps_iff.mp h
  exact ⟨':', by rw [← List.append_assoc, List.getLast?_concat], by decide⟩

theorem assignmentRule_ink [Unicode] : ∀ c, assignmentRule.hidden c = true → isSpace c = false := by
  intro c hc
  simp only [assignmentRule, Bool.and_eq_true, Bool.not_eq_true'] at hc
  exact hc.1.1

theorem urlRule_ink : ∀ c, urlRule.hidden c = true → isSpace c = false := by
  intro c hc
  simp only [urlRule, Bool.and_eq_true, Bool.not_eq_true'] at hc
  exact hc.1.2

/-- No word that ends in one of these is followed by a secret. -/
def idleEnds : List Char := ['*', 'y', 'z']

theorem idleEnds_ink : ∀ c ∈ idleEnds, isSpace c = false := by decide

section

variable {c : Char} (hc : c ∈ idleEnds) {before next : Option Char} {place : List Char}
include hc

/-- The first rule does not end behind a word with this end and a blank. -/
theorem authorizationRule_idle [Unicode]
    (h : authorizationRule.Keeps before (place ++ [' ']) next) : place.getLast? ≠ some c := by
  intro hLast
  have hPlace : EndsInWord place := ⟨c, hLast, idleEnds_ink c hc⟩
  have hColon : ∀ c ∈ idleEnds, "authorization:".toList.getLast?.any
      (fun expected => !sameLetter expected c) = true := by decide
  have hNames : ∀ name ∈ schemeNames, ∀ c ∈ idleEnds, name.toList.getLast?.any
      (fun expected => !sameLetter expected c) = true := by decide
  obtain ⟨letters, gap, part, hEq, hLetters, hGap, hPart⟩ := authorizationRule_keeps_iff.mp h
  cases hPart with
  | absent =>
      rw [List.append_nil] at hEq
      have hEnds := endsInWord_of_ink (hLetters.ne_nil (by decide)) (hLetters.ink authorization_ink)
      obtain ⟨rfl, _⟩ := trailing_gap_unique hEq hPlace hEnds gap_blank.isSpace hGap
      exact hLetters.getLast?_ne (hColon c hc) hLast
  | @present name scheme last hName hScheme hGap' =>
      have hEnds := endsInWord_of_ink (schemeName_ne_nil hName hScheme)
        (hScheme.ink (schemeNames_ink name hName))
      have hSplit : place ++ [' '] = (letters ++ (gap ++ scheme)) ++ last := by simpa using hEq
      obtain ⟨rfl, _⟩ := trailing_gap_unique hSplit hPlace hEnds.append.append gap_blank.isSpace
        hGap'.isSpace
      rw [List.getLast?_append, List.getLast?_append_of_ne_nil _ hEnds.ne_nil,
        List.getLast?_eq_some_getLast hEnds.ne_nil] at hLast
      exact hScheme.getLast?_ne (hNames name hName c hc)
        ((List.getLast?_eq_some_getLast hEnds.ne_nil).trans hLast)

theorem bearerRule_idle [Unicode] (h : bearerRule.Keeps before (place ++ [' ']) next) :
    place.getLast? ≠ some c := by
  intro hLast
  have hName : ∀ c ∈ idleEnds, "bearer".toList.getLast?.any
      (fun expected => !sameLetter expected c) = true := by decide
  obtain ⟨letters, gap, hEq, hLetters, hGap, _⟩ := bearerRule_keeps_iff.mp h
  have hEnds := endsInWord_of_ink (hLetters.ne_nil (by decide)) (hLetters.ink bearer_ink)
  obtain ⟨rfl, _⟩ := trailing_gap_unique hEq ⟨c, hLast, idleEnds_ink c hc⟩ hEnds gap_blank.isSpace
    hGap.isSpace
  exact hLetters.getLast?_ne (hName c hc) hLast

theorem flagRule_idle [UnicodeSpaces] (h : flagRule.Keeps before (place ++ [' ']) next) :
    place.getLast? ≠ some c := by
  intro hLast
  have hNames : ∀ name ∈ flagNames, ∀ c ∈ idleEnds, name.toList.getLast?.any
      (fun expected => !sameLetter expected c) = true := by decide
  obtain ⟨flag, sep, hEq, hFlag, _, rfl | hGap⟩ := flagRule_keeps_iff.mp h
  · have hEnd := congrArg List.getLast? hEq
    rw [List.getLast?_concat, List.getLast?_concat] at hEnd
    cases hEnd
  · obtain ⟨rfl, _⟩ := trailing_gap_unique hEq ⟨c, hLast, idleEnds_ink c hc⟩ hFlag.endsInWord
      gap_blank.isSpace hGap.isSpace
    obtain @⟨name, dashes, body, key, _, _, hName, hKey⟩ := hFlag
    have hSome : key ≠ [] := by
      refine hKey.ne_nil ?_
      rintro rfl
      revert hName
      decide
    rw [List.getLast?_append, List.getLast?_append_of_ne_nil _ hSome,
      List.getLast?_eq_some_getLast hSome] at hLast
    exact hKey.getLast?_ne (hNames name hName c hc)
      ((List.getLast?_eq_some_getLast hSome).trans hLast)

end

end NodeDebugDashboard.Collectors
