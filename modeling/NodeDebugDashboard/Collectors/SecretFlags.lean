import NodeDebugDashboard.Collectors.ProcessRules

/-! Values of secret flags in the published commands. -/
namespace NodeDebugDashboard.Collectors

open Library.Text Pattern

/-- `/proc/<pid>/cmdline` -/
def cmdline (args : List (List Char)) : List Char := args.flatMap (· ++ ['\x00'])

/-- The value of a flag is joined to it or is the next argument. -/
inductive FlagForm where
  | joined
  | separate
  deriving DecidableEq

def FlagForm.args (flag value : List Char) : FlagForm → List (List Char)
  | joined => [flag ++ '=' :: value]
  | separate => [flag, value]

/-- What the command has between the flag and its value. -/
def FlagForm.sep : FlagForm → Char
  | joined => '='
  | separate => ' '

/-- One or two dashes, and characters that end in one of the secret words. -/
inductive SecretFlag : List Char → Prop
  | intro {dashes body key : List Char} {name : String} (hDashes : dashes = ['-'] ∨
      dashes = ['-', '-'])
      (hBody : ∀ c ∈ body, c.isAlphanum = true ∨ c = '_' ∨ c = '-') (hName : name ∈ flagNames)
      (hKey : key.map Char.toLower = name.toList) : SecretFlag (dashes ++ (body ++ key))

/-- The arguments as the command shows them before anything is masked. -/
def shown (args : List (List Char)) : List Char :=
  (cmdline args).map fun c => if c = '\x00' then ' ' else c

/-- The value is masked, whatever follows it. -/
structure Hidden [Unicode] (pre : List (List Char)) (flag : List Char) (form : FlagForm)
    (value : List Char) :
    Prop where
  ink : ∀ c ∈ value, isSpace c = false
  /-- It does not itself look like something that a secret follows. -/
  alone : Rule.anyHidesNext [authorizationRule, bearerRule]
    (strip (shown (pre ++ form.args flag value))) = false
  /-- The flag is not taken for the secret that an argument before it announces. -/
  flag_seen : form = .separate →
    Rule.anyHidesNext [authorizationRule, bearerRule, flagRule] (strip (shown pre)) = false

section

/-- No match of the rule starts in a secret flag or the character behind it. -/
def PassesFlag (rule : Rule) (flag : List Char) (sep : Char) : Prop :=
  ∀ before rest, rule.subAfter before (flag ++ sep :: rest) =
    flag ++ sep :: rule.subAfter (some sep) rest

theorem passesFlag_of_find {rule : Rule} {flag : List Char} {sep : Char}
    (h : ∀ first second before rest, flag = first ++ second →
      rule.find before (second ++ sep :: rest) = none) : PassesFlag rule flag sep := by
  intro before rest
  have hAll : flag ++ sep :: rest = (flag ++ [sep]) ++ rest := by simp
  rw [hAll, Rule.subAfter_append_of_none fun first second hSplit hSome => ?_]
  · simp
  · obtain ⟨init, rfl⟩ : ∃ init, second = init ++ [sep] := by
      have hEnd := congrArg List.getLast? hSplit
      rw [List.getLast?_concat, List.getLast?_append_of_ne_nil _ hSome] at hEnd
      exact ⟨_, (List.dropLast_append_getLast? sep hEnd.symm).symm⟩
    rw [← List.append_assoc, List.append_cancel_right_eq] at hSplit
    simpa using h first init (lastChar before first) rest hSplit

/-- A spelled word ends in front of a character that is none of its letters. -/
theorem spelled_inside {name : String} {letters more text rest : List Char} {sep : Char}
    (hLetters : Spells name letters) (hSep : ∀ c ∈ name.toList, sameLetter c sep = false)
    (h : letters ++ more = text ++ sep :: rest) :
    ∃ tail, text = letters ++ tail ∧ more = tail ++ sep :: rest := by
  rcases List.append_eq_append_iff.mp h with ⟨tail, rfl, hTail⟩ | ⟨excess, rfl, hOver⟩
  · exact ⟨tail, rfl, hTail⟩
  · cases excess with
    | nil => exact ⟨[], by simp, by simpa using hOver.symm⟩
    | cons c excess =>
        obtain ⟨rfl, _⟩ := List.cons_eq_cons.mp hOver
        exact absurd (by simp) (hLetters.notMem hSep)

theorem SecretFlag.flagPart [Unicode] {flag : List Char} (h : SecretFlag flag) : FlagPart flag := by
  obtain @⟨dashes, body, key, name, hDashes, hBody, hName, hKey⟩ := h
  have hNames : ∀ name ∈ flagNames, ∀ c ∈ name.toList, c.toLower = c := by decide
  refine .intro hDashes (fun c hc => ?_) hName ?_
  · have hAlnum : c.isAlphanum = true → Unicode.isAlnum c = true := by
      intro h
      have hRange := toNat_of_isAlphanum h
      rw [Unicode.isAlnum_ascii c (by omega), h]
    rcases hBody c hc with hLetter | rfl | rfl
    · simp [flagChar, wordChar, hAlnum hLetter]
    · simp [flagChar, wordChar]
    · simp [flagChar]
  · rw [Spells, ← hKey, List.forall₂_map_left_iff, List.forall₂_same]
    intro c hc
    have hLower := hNames name hName c.toLower (hKey ▸ List.mem_map_of_mem hc)
    simp [sameLetter, hLower]

theorem SecretFlag.notMem {flag : List Char} (h : SecretFlag flag) {c : Char}
    (hPlain : ¬(c.isAlphanum = true ∨ c = '_' ∨ c = '-'))
    (hLower : ∀ name ∈ flagNames, c.toLower ∉ name.toList) : c ∉ flag := by
  obtain @⟨dashes, body, key, name, hDashes, hBody, hName, hKey⟩ := h
  intro hc
  rcases List.mem_append.mp hc with hc | hc
  · refine hPlain (.inr (.inr ?_))
    rcases hDashes with rfl | rfl
    · simpa using hc
    · simpa using hc
  · rcases List.mem_append.mp hc with hc | hc
    · exact hPlain (hBody c hc)
    · exact hLower name hName (hKey ▸ List.mem_map_of_mem hc)

/-- The last letter of a flag is the one of a secret word. -/
theorem SecretFlag.getLast? {flag : List Char} (h : SecretFlag flag) :
    ∃ c, flag.getLast? = some c ∧ (c.toLower = 'n' ∨ c.toLower = 'd' ∨ c.toLower = 't') := by
  obtain @⟨dashes, body, key, name, hDashes, hBody, hName, hKey⟩ := h
  have hNames : ∀ name ∈ flagNames, name.toList.getLast? = some 'n' ∨
      name.toList.getLast? = some 'd' ∨ name.toList.getLast? = some 't' := by decide
  have hEnd := hNames name hName
  rw [← hKey, List.getLast?_map] at hEnd
  cases hLast : key.getLast? with
  | none => simp [hLast] at hEnd
  | some c =>
      refine ⟨c, by rw [List.getLast?_append, List.getLast?_append, hLast]; rfl, ?_⟩
      simpa [hLast] using hEnd

/-- The text from the start up to the value of the flag. -/
def upTo (lead gap flag : List Char) (form : FlagForm) (value : List Char) : List Char :=
  lead ++ (gap ++ (flag ++ form.sep :: value))

theorem endsInWord_upTo {lead gap flag : List Char} {form : FlagForm} {value : List Char}
    (hSome : value ≠ []) (hInk : ∀ c ∈ value, isSpace c = false) :
    EndsInWord (upTo lead gap flag form value) := by
  have hValue :
      upTo lead gap flag form value = (lead ++ (gap ++ (flag ++ [form.sep]))) ++ value := by
    simp [upTo]
  rw [hValue]
  exact (endsInWord_of_ink hSome hInk).append

variable [UnicodeSpaces] {flag : List Char} (hFlag : SecretFlag flag)
include hFlag

theorem SecretFlag.ink : ∀ c ∈ flag, isSpace c = false := fun c hc => (hFlag.flagPart.ink c hc).1

omit [UnicodeSpaces] in
theorem authorization_passesFlag {sep : Char} (hSep : sep = '=' ∨ sep = ' ') :
    PassesFlag authorizationRule flag sep := by
  have hNot : ∀ c ∈ "authorization:".toList, sameLetter c sep = false := by
    rcases hSep with rfl | rfl
    · decide
    · decide
  refine passesFlag_of_find fun first second before rest hSplit => ?_
  refine Rule.find_eq_none_iff.mpr fun kept hidden later hFinds => ?_
  obtain ⟨letters, gap, part, rfl, hLetters, _⟩ := authorizationRule_keeps_iff.mp hFinds.keeps
  have hText := hFinds.text_eq
  simp only [List.append_assoc] at hText
  obtain ⟨tail, rfl, _⟩ := spelled_inside hLetters hNot hText.symm
  -- the colon would stand in the flag
  have hColon : ':' ∈ letters := by
    obtain ⟨c, hLast, hLetter⟩ :=
      hLetters.getLast? (show "authorization:".toList.getLast? = some ':' by decide)
    rw [(sameLetter_iff_eq (by decide)).mp hLetter] at hLast
    exact List.mem_of_getLast? hLast
  exact hFlag.notMem (by decide) (by decide) (show ':' ∈ flag by simp [hSplit, hColon])

theorem bearer_passesFlag {sep : Char} (hSep : sep = '=' ∨ sep = ' ') :
    PassesFlag bearerRule flag sep := by
  have hNot : ∀ c ∈ "bearer".toList, sameLetter c sep = false := by
    rcases hSep with rfl | rfl
    · decide
    · decide
  refine passesFlag_of_find fun first second before rest hSplit => ?_
  refine Rule.find_eq_none_iff.mpr fun kept hidden later hFinds => ?_
  obtain ⟨letters, gap, rfl, hLetters, hGap, _⟩ := bearerRule_keeps_iff.mp hFinds.keeps
  have hText := hFinds.text_eq
  simp only [List.append_assoc] at hText
  obtain ⟨tail, rfl, hTail⟩ := spelled_inside hLetters hNot hText.symm
  cases tail with
  | nil =>
      -- the flag would end in an r
      obtain ⟨c, hLast, hLower⟩ := hFlag.getLast?
      obtain ⟨d, hEnd, hLetter⟩ :=
        hLetters.getLast? (show "bearer".toList.getLast? = some 'r' by decide)
      rw [hSplit, List.append_nil, List.getLast?_append, hEnd] at hLast
      cases hLast
      have hSame : c.toLower = 'r' := by simpa [sameLetter] using hLetter
      simp [hSame] at hLower
  | cons c tail =>
      -- a gap would begin in the flag
      have hSpace : isSpace c = true := by
        refine hGap.isSpace c (List.mem_of_mem_head? ?_)
        have hHead := congrArg List.head? hTail
        rwa [List.head?_append_of_ne_nil _ hGap.ne_nil] at hHead
      have hInk := hFlag.ink c (by simp [hSplit])
      simp [hInk] at hSpace

/-- The value of a flag is masked. -/
theorem flagRule_masks (before : Option Char) {value rest : List Char} (form : FlagForm)
    (hValue : Word value rest) : ∃ last,
      flagRule.subAfter before (flag ++ form.sep :: (value ++ rest)) =
        flag ++ form.sep :: (redacted ++ flagRule.subAfter last rest) := by
  have hDash : flagChar '=' = false ∧ flagChar ' ' = false :=
    ⟨flagChar_equals, flagChar_of_isSpace (by decide)⟩
  have hSep : [form.sep] = ['='] ∨ Gap [form.sep] := by
    cases form with
    | joined => exact .inl rfl
    | separate => exact .inr ⟨by simp, by simp [FlagForm.sep, show isSpace ' ' = true by decide]⟩
  have hFinds : flagRule.Finds before (flag ++ [form.sep] ++ value ++ flagRule.closing ++ rest)
      (flag ++ [form.sep]) value rest := by
    refine ⟨rfl, flagRule_keeps_iff.mpr ⟨flag, [form.sep], rfl, hFlag.flagPart, ?_, hSep⟩,
      hValue.ne_nil, fun c hc => ?_, fun c hc => ?_⟩
    · cases form with
      | joined => simpa [FlagForm.sep] using hDash.1
      | separate => simpa [FlagForm.sep] using hDash.2
    · simp [flagRule, hValue.ink c hc]
    · simp [flagRule, hValue.stop c hc]
  have hFind := flagRule_masksWords.greedy.find_eq_some hFinds fun _ _ _ hOther =>
    (flagRule_unique hFinds hOther).le
  have hOut := Rule.subAfter_of_find hFind
  refine ⟨lastChar before (flag ++ [form.sep] ++ value ++ flagRule.closing), ?_⟩
  have hText : flag ++ form.sep :: (value ++ rest) =
      flag ++ [form.sep] ++ value ++ flagRule.closing ++ rest := by
    simp [flagRule]
  rw [hText, hOut]
  simp [flagRule]

section

variable {rule : Rule} (hRule : rule.MasksWords) {lead gap : List Char} (hLead : Lead lead gap)
  {form : FlagForm}
include hRule hLead

/-- A substitution that starts in no flag rewrites what stands before the flag,
and the value. -/
theorem sub_upTo (hPasses : PassesFlag rule flag form.sep) (hHides : rule.hidesNext lead = false)
    (value : List Char) : rule.sub (upTo lead gap flag form value) =
      upTo (rule.sub lead) gap flag form (rule.subAfter (some form.sep) value) := by
  obtain ⟨tail, rfl⟩ := hFlag.flagPart.exists_cons
  have hWhole := hPasses (lastChar none gap) value
  rw [upTo, List.cons_append, hRule.sub_lead hLead hHides (by decide), ← List.cons_append, hWhole]
  rfl

/-- A substitution that hides the flag hides the value that is joined to it. -/
theorem exists_sub_upTo (hHides : rule.hidesNext lead = true) :
    ∃ front, ∀ value rest, Word value rest → Behind rest →
      rule.sub (upTo lead gap flag .joined value ++ rest) = front ++ rule.mask ++
      rule.sub rest := by
  obtain ⟨tail, rfl⟩ := hFlag.flagPart.exists_cons
  cases hLead with
  | nothing => simp [hRule.hidesNext_nil] at hHides
  | words hText hGap =>
      obtain ⟨front, hFront⟩ := hRule.exists_sub_hides hText hGap hHides
      refine ⟨front, fun value rest hValue hRest => ?_⟩
      have hWord : Word ('-' :: (tail ++ '=' :: value)) rest := by
        refine ⟨by simp, fun c hc => ?_, hValue.stop⟩
        rw [← List.cons_append] at hc
        rcases List.mem_append.mp hc with hc | hc
        · exact hFlag.ink c hc
        · rcases List.mem_cons.mp hc with rfl | hc
          · decide
          · exact hValue.ink c hc
      obtain ⟨last, hOut⟩ := hFront _ _ hWord
      rw [hRule.subAfter_eq_sub hRest] at hOut
      rw [← hOut]
      simp [upTo, FlagForm.sep]

/-- With nothing hidden behind the flag and its value, what follows is rewritten
apart. -/
theorem sub_upTo_append (hPasses : PassesFlag rule flag form.sep)
    (hHides : rule.hidesNext lead = false) {value rest : List Char} (hValue : Word value rest)
    (hRest : Behind rest) (hAlone : rule.hidesNext (upTo lead gap flag form value) = false) :
    rule.sub (upTo lead gap flag form value ++ rest) =
      upTo (rule.sub lead) gap flag form (rule.subAfter (some form.sep) value) ++
      rule.sub rest := by
  rw [hRule.sub_append (.inr (endsInWord_upTo hValue.ne_nil hValue.ink)) hAlone hRest,
    sub_upTo hFlag hRule hLead hPasses hHides]

end

/-- A flag that is not hidden itself has its value masked. -/
theorem flagRule_sub_upTo {lead gap value rest : List Char} {form : FlagForm}
    (hLead : Lead lead gap) (hHides : flagRule.hidesNext lead = false) (hValue : Word value rest)
    (hRest : Behind rest) :
    flagRule.sub (upTo lead gap flag form value ++ rest) =
      flagRule.sub lead ++ (gap ++ (flag ++ form.sep :: (redacted ++ flagRule.sub rest))) := by
  have hRule := flagRule_masksWords
  obtain ⟨last, hMasked⟩ := flagRule_masks hFlag (lastChar none gap) form hValue
  rw [hRule.subAfter_eq_sub hRest] at hMasked
  obtain ⟨tail, rfl⟩ := hFlag.flagPart.exists_cons
  have hText : upTo lead gap ('-' :: tail) form value ++ rest =
      lead ++ (gap ++ '-' :: (tail ++ form.sep :: (value ++ rest))) := by
    simp [upTo]
  rw [hText, hRule.sub_lead hLead hHides (by decide), ← List.cons_append, hMasked]

/-- Two values that are hidden whatever follows them give the same command. -/
theorem redactCommand_eq {lead gap rest value value' : List Char} {form : FlagForm}
    (hLead : Lead lead gap) (hRest : Behind rest)
    (hValue : Word value rest) (hValue' : Word value' rest)
    (hAlone :
      Rule.anyHidesNext [authorizationRule, bearerRule] (upTo lead gap flag form value) = false)
    (hAlone' :
      Rule.anyHidesNext [authorizationRule, bearerRule] (upTo lead gap flag form value') = false)
    (hSeen : form = .separate →
      Rule.anyHidesNext [authorizationRule, bearerRule, flagRule] lead = false) :
    redactCommand (upTo lead gap flag form value ++ rest) =
      redactCommand (upTo lead gap flag form value' ++ rest) := by
  have hMask : ∀ c ∈ redacted, isSpace c = false := by decide
  have hSep : form.sep = '=' ∨ form.sep = ' ' := by
    cases form with
    | joined => exact .inl rfl
    | separate => exact .inr rfl
  simp only [Rule.anyHidesNext, Bool.or_false, Bool.or_eq_false_iff] at hAlone hAlone' hSeen
  -- each of the first three substitutions either hides flag and value together or neither
  have hStage : ∀ {rule : Rule}, rule.MasksWords → ∀ {lead rest value value' : List Char},
      Lead lead gap → Behind rest → Word value rest → Word value' rest →
        (form = .separate → rule.hidesNext lead = false) → rule.hidesNext lead = false ∨
          rule.sub (upTo lead gap flag form value ++ rest) =
            rule.sub (upTo lead gap flag form value' ++ rest) := by
    intro rule hRule lead rest value value' hLead hRest hValue hValue' hSeen
    cases hHides : rule.hidesNext lead with
    | false => exact .inl rfl
    | true =>
        cases form with
        | separate => simp [hSeen rfl] at hHides
        | joined =>
            obtain ⟨front, hFront⟩ := exists_sub_upTo hFlag hRule hLead hHides
            exact .inr
              ((hFront value rest hValue hRest).trans (hFront value' rest hValue' hRest).symm)
  have hFirst := authorizationRule_masksWords
  have hSecond := bearerRule_masksWords
  have hThird := flagRule_masksWords
  simp only [redactCommand, secretPatterns, List.foldl_cons, List.foldl_nil]
  rcases hStage hFirst hLead hRest hValue hValue' fun h => (hSeen h).1 with hPass₁ | hSame
  · have hFlag₁ := authorization_passesFlag hFlag hSep
    rw [sub_upTo_append hFlag hFirst hLead hFlag₁ hPass₁ hValue hRest hAlone.1,
      sub_upTo_append hFlag hFirst hLead hFlag₁ hPass₁ hValue' hRest hAlone'.1]
    rw [sub_upTo hFlag hFirst hLead hFlag₁ hPass₁] at hAlone hAlone'
    have hLead₁ := hFirst.lead_sub hLead
    have hRest₁ := hFirst.behind_sub hRest
    have hValue₁ := hFirst.word_sub hMask (some form.sep) hValue hRest
    have hValue₁' := hFirst.word_sub hMask (some form.sep) hValue' hRest
    rcases hStage hSecond hLead₁ hRest₁ hValue₁ hValue₁' fun h => (hSeen h).2.1 with hPass₂ | hSame
    · have hFlag₂ := bearer_passesFlag hFlag hSep
      rw [sub_upTo_append hFlag hSecond hLead₁ hFlag₂ hPass₂ hValue₁ hRest₁ hAlone.2,
        sub_upTo_append hFlag hSecond hLead₁ hFlag₂ hPass₂ hValue₁' hRest₁ hAlone'.2]
      have hLead₂ := hSecond.lead_sub hLead₁
      have hRest₂ := hSecond.behind_sub hRest₁
      have hValue₂ := hSecond.word_sub hMask (some form.sep) hValue₁ hRest₁
      have hValue₂' := hSecond.word_sub hMask (some form.sep) hValue₁' hRest₁
      rcases hStage hThird hLead₂ hRest₂ hValue₂ hValue₂' fun h => (hSeen h).2.2 with hPass₃ | hSame
      · rw [flagRule_sub_upTo hFlag hLead₂ hPass₃ hValue₂ hRest₂,
          flagRule_sub_upTo hFlag hLead₂ hPass₃ hValue₂' hRest₂]
      · rw [hSame]
    · rw [hSame]
  · rw [hSame]

end

end NodeDebugDashboard.Collectors
