import NodeDebugDashboard.Collectors.SecretFlags

/-! Which values of secret flags leak. -/
namespace NodeDebugDashboard.Collectors

open Library.Text Pattern

theorem shown_append (first second : List (List Char)) :
    shown (first ++ second) = shown first ++ shown second := by
  simp [shown, cmdline]

theorem shown_singleton {arg : List Char} (h : '\x00' ∉ arg) : shown [arg] = arg ++ [' '] := by
  have hEach : ∀ c ∈ arg, (if c = '\x00' then ' ' else c) = c := by
    intro c hc
    refine if_neg ?_
    rintro rfl
    exact h hc
  simp only [shown, cmdline, List.flatMap_cons, List.flatMap_nil, List.append_nil, List.map_append]
  rw [List.map_congr_left hEach, List.map_id']
  rfl

theorem getLast?_shown {pre : List (List Char)} (h : pre ≠ []) :
    (shown pre).getLast? = some ' ' := by
  obtain ⟨init, arg, rfl⟩ := (List.eq_nil_or_concat pre).resolve_left h
  rw [List.concat_eq_append, shown_append, List.getLast?_append]
  simp [shown, cmdline]

/-- What stands before the next argument: nothing, or words and a gap. -/
theorem exists_lead (pre : List (List Char)) :
    ∃ gap, (shown pre).dropWhile isSpace = strip (shown pre) ++ gap ∧
    Lead (strip (shown pre)) gap := by
  have hStrip : strip (shown pre) = rstrip ((shown pre).dropWhile isSpace) := rfl
  obtain ⟨gap, hText, hGap, hEnds⟩ := exists_rstrip ((shown pre).dropWhile isSpace)
  refine ⟨gap, hText, ?_⟩
  rcases hEnds with hNil | hEnds
  · have hNone : (shown pre).dropWhile isSpace = [] := by
      rw [hNil, List.nil_append] at hText
      cases hRest : (shown pre).dropWhile isSpace with
      | nil => rfl
      | cons c rest =>
          have hInk : isSpace c = false := head?_dropWhile (by rw [hRest]; rfl)
          have hSpace := hGap c (by rw [← hText, hRest]; exact List.mem_cons_self)
          simp [hInk] at hSpace
    have hGapNil : gap = [] := by
      rw [hNil, hNone] at hText
      simpa using hText.symm
    rw [hStrip, hNil, hGapNil]
    exact .nothing
  · rw [hStrip]
    refine .words hEnds ⟨?_, hGap⟩
    rintro rfl
    obtain ⟨c, hLast, hInk⟩ := hEnds
    rw [List.append_nil] at hText
    have hEnd : (shown pre).getLast? = some c := by
      obtain ⟨front, hFront⟩ := List.dropWhile_suffix isSpace (l := shown pre)
      rw [← hFront, List.getLast?_append, hText, hLast]
      rfl
    have hSome : pre ≠ [] := by
      rintro rfl
      cases hEnd
    rw [getLast?_shown hSome] at hEnd
    cases hEnd
    cases hInk

theorem shown_args {flag : List Char} (hFlag : SecretFlag flag) {form : FlagForm}
    {value : List Char} (hValue : '\x00' ∉ value) :
    shown (form.args flag value) = (flag ++ form.sep :: value) ++ [' '] := by
  have hNul : '\x00' ∉ flag := hFlag.notMem (by decide) (by decide)
  cases form with
  | joined =>
      rw [FlagForm.args, shown_singleton]
      · rfl
      · simp [hNul, hValue]
  | separate =>
      have hSplit : FlagForm.separate.args flag value = [flag] ++ [value] := rfl
      rw [hSplit, shown_append, shown_singleton hNul, shown_singleton hValue]
      simp [FlagForm.sep]

theorem command_cmdline [Unicode] {pre post : List (List Char)} {form : FlagForm}
    {flag value : List Char} (stat : List Char) :
      command (cmdline (pre ++ form.args flag value ++ post)) stat =
      redactCommand (strip (shown (pre ++ form.args flag value ++ post))) := by
  have hSome : cmdline (pre ++ form.args flag value ++ post) ≠ [] := by
    cases form <;> simp [cmdline, FlagForm.args]
  rw [command, if_pos hSome]
  rfl

section

variable [UnicodeSpaces] {flag : List Char} (hFlag : SecretFlag flag)
include hFlag

/-- The command before anything is masked, with an argument after the value or
with none. -/
theorem strip_shown (pre : List (List Char)) (form : FlagForm) :
    ∃ gap, Lead (strip (shown pre)) gap ∧ ∀ value, '\x00' ∉ value →
      (∀ post, value ≠ [] → (∀ c ∈ value, isSpace c = false) →
        strip (shown (pre ++ form.args flag value ++ post)) =
          upTo (strip (shown pre)) gap flag form value ++ rstrip (' ' :: shown post)) ∧
      strip (shown (pre ++ form.args flag value ++ [['@']])) =
        upTo (strip (shown pre)) gap flag form value ++ [' ', '@'] := by
  obtain ⟨gap, hDrop, hLead⟩ := exists_lead pre
  obtain ⟨tail, rfl⟩ := hFlag.flagPart.exists_cons
  refine ⟨gap, hLead, fun value hNul => ⟨fun post hSome hInk => ?_, ?_⟩⟩
  · have hWord : EndsInWord (('-' :: tail) ++ form.sep :: value) := by
      have hValue : ('-' :: tail) ++ form.sep :: value = ('-' :: tail ++ [form.sep]) ++ value := by
        simp
      rw [hValue]
      exact (endsInWord_of_ink hSome hInk).append
    have hShown : shown (pre ++ form.args ('-' :: tail) value ++ post) =
        shown pre ++ ((('-' :: tail) ++ form.sep :: value) ++ (' ' :: shown post)) := by
      rw [shown_append, shown_append, shown_args hFlag hNul]
      simp
    rw [hShown, strip_around rfl (by decide) hWord, hDrop]
    simp [upTo]
  · have hWord : EndsInWord ((('-' :: tail) ++ form.sep :: value) ++ [' ', '@']) :=
      ⟨'@', by rw [List.getLast?_append]; rfl, by decide⟩
    have hShown : shown (pre ++ form.args ('-' :: tail) value ++ [['@']]) =
        shown pre ++ (((('-' :: tail) ++ form.sep :: value) ++ [' ', '@']) ++ [' ']) := by
      rw [shown_append, shown_append, shown_args hFlag hNul, shown_singleton (by decide)]
      simp
    have hBlank : rstrip [' '] = [] := by decide
    rw [hShown, strip_around rfl (by decide) hWord, hDrop, hBlank]
    simp [upTo]

/-- Two hidden values give the same command. -/
theorem command_eq_of_hidden {pre : List (List Char)} {form : FlagForm} {value value' : List Char}
    (hSome : value ≠ []) (hNul : '\x00' ∉ value) (hValue : Hidden pre flag form value)
    (hSome' : value' ≠ []) (hNul' : '\x00' ∉ value') (hValue' : Hidden pre flag form value')
    (post : List (List Char)) (stat : List Char) :
    command (cmdline (pre ++ form.args flag value ++ post)) stat =
      command (cmdline (pre ++ form.args flag value' ++ post)) stat := by
  obtain ⟨gap, hLead, hShown⟩ := strip_shown hFlag pre form
  have hRest : Behind (rstrip (' ' :: shown post)) := by
    refine behind_rstrip fun c hc => ?_
    cases hc
    decide
  have hAlone : ∀ {value}, '\x00' ∉ value → value ≠ [] → Hidden pre flag form value →
      Rule.anyHidesNext [authorizationRule, bearerRule]
        (upTo (strip (shown pre)) gap flag form value) =
        false := by
    intro value hNul hSome hHidden
    have hNone : rstrip (' ' :: shown []) = [] := by decide
    have hLast := (hShown value hNul).1 [] hSome hHidden.ink
    rw [List.append_nil, hNone, List.append_nil] at hLast
    rw [← hLast]
    exact hHidden.alone
  rw [command_cmdline, command_cmdline, (hShown value hNul).1 post hSome hValue.ink,
    (hShown value' hNul').1 post hSome' hValue'.ink]
  exact redactCommand_eq hFlag hLead hRest ⟨hSome, hValue.ink, hRest.head_space⟩
    ⟨hSome', hValue'.ink, hRest.head_space⟩ (hAlone hNul hSome hValue) (hAlone hNul' hSome' hValue')
    hValue.flag_seen

end

/-- The text ends in a last word of one character, and no word before it makes it
a secret. -/
def Exposed (last : Char) (text : List Char) : Prop :=
  ∃ init c, text = init ++ [' ', last] ∧ init.getLast? = some c ∧ c ∈ idleEnds

theorem exposed_sub {rule : Rule} (hRule : rule.MasksWords) (hIdle : ∀ c ∈ idleEnds,
    ∀ {before place next}, rule.Keeps before (place ++ [' ']) next → place.getLast? ≠ some c)
    {last : Char} (hLast : isSpace last = false) {text : List Char} (h : Exposed last text) :
    Exposed last (rule.sub text) := by
  obtain ⟨init, c, rfl, hEnd, hc⟩ := h
  have hInk := idleEnds_ink c hc
  have hHides := hRule.hidesNext_of_last hEnd hInk (hIdle c hc)
  have hBehind : Behind [' ', last] := .inr (WordAfterGap.intro gap_blank hLast)
  rw [hRule.sub_append (.inr ⟨c, hEnd, hInk⟩) hHides hBehind, Rule.sub, Rule.sub,
    hRule.subAfter_blank]
  rcases Rule.getLast?_subAfter hRule.closing_eq hRule.mask_last hEnd with hOut | hOut
  · exact ⟨_, c, rfl, hOut, hc⟩
  · exact ⟨_, '*', rfl, hOut, by decide⟩

theorem getLast?_urlRule (text : List Char) : (urlRule.sub text).getLast? = text.getLast? :=
  urlRule.getLast?_subAfter_of_closing (by decide) none text

theorem getLast?_sub_mask {rule : Rule} (hClosing : rule.closing = [])
    (hMask : rule.mask = redacted) {text : List Char} (h : text.getLast? = some '*') :
    (rule.sub text).getLast? = some '*' := by
  have hStar : rule.mask.getLast? = some '*' := by
    rw [hMask]
    rfl
  exact (Rule.getLast?_subAfter hClosing hStar h).elim id id

section

variable [UnicodeSpaces]

/-- The last two patterns leave the last word of one character alone. -/
theorem getLast?_of_exposed {last : Char} {text : List Char} (h : Exposed last text) :
    (urlRule.sub (assignmentRule.sub text)).getLast? = some last := by
  obtain ⟨init, _, rfl, _⟩ := h
  have hClosing : ∀ c ∈ urlRule.closing, isSpace c = false := by decide
  obtain ⟨out, hOut⟩ := Rule.exists_sub_blank assignmentRule_ink (by simp [assignmentRule])
    assignmentRule_endsInWord init last
  obtain ⟨out', hOut'⟩ := Rule.exists_sub_blank urlRule_ink hClosing urlRule_endsInWord out last
  rw [hOut, hOut', List.getLast?_append]
  rfl

theorem redactCommand_eq_sub (text : List Char) : redactCommand text =
    urlRule.sub (assignmentRule.sub (flagRule.sub (bearerRule.sub (authorizationRule.sub text)))) :=
      rfl

theorem exposed_first {last : Char} {text : List Char} (hLast : isSpace last = false)
    (h : Exposed last text) : (redactCommand text).getLast? = some last := by
  have h₁ :=
    exposed_sub authorizationRule_masksWords (fun c hc => authorizationRule_idle hc) hLast h
  have h₂ := exposed_sub bearerRule_masksWords (fun c hc => bearerRule_idle hc) hLast h₁
  have h₃ := exposed_sub flagRule_masksWords (fun c hc => flagRule_idle hc) hLast h₂
  exact getLast?_of_exposed h₃

/-- Hiding the flag leaves the value behind it. -/
theorem exposed_of_hides {rule : Rule} (hRule : rule.MasksWords) {flag : List Char}
    (hFlag : SecretFlag flag) {lead gap : List Char} (hLead : Lead lead gap) (last : Char)
    (hHides : rule.hidesNext lead = true) : 
    Exposed last (rule.sub (upTo lead gap flag .separate [last])) := by
  cases hLead with
  | nothing => simp [hRule.hidesNext_nil] at hHides
  | words hText hGap =>
      obtain ⟨front, hFront⟩ := hRule.exists_sub_hides hText hGap hHides
      obtain ⟨tail, rfl⟩ := hFlag.flagPart.exists_cons
      have hWord : Word ('-' :: tail) [' ', last] := by
        refine ⟨by simp, hFlag.ink, fun c hc => ?_⟩
        cases hc
        decide
      obtain ⟨before, hOut⟩ := hFront tail [' ', last] hWord
      rw [hRule.subAfter_blank] at hOut
      refine ⟨front ++ rule.mask, '*', hOut, ?_, by decide⟩
      rw [List.getLast?_append, hRule.mask_last]
      rfl

/-- A value behind a flag that is itself hidden stands in the command. -/
theorem getLast?_flag_hidden {flag : List Char} (hFlag : SecretFlag flag) {lead gap : List Char}
    (hLead : Lead lead gap) {last : Char} (hLast : isSpace last = false)
    (hSeen : Rule.anyHidesNext [authorizationRule, bearerRule, flagRule] lead = true) :
    (redactCommand (upTo lead gap flag .separate [last])).getLast? = some last := by
  have hFirst := authorizationRule_masksWords
  have hSecond := bearerRule_masksWords
  have hThird := flagRule_masksWords
  have hSingle :
      ∀ {rule : Rule}, rule.MasksWords → ∀ before, rule.subAfter before [last] = [last] :=
    fun hRule before => Rule.subAfter_singleton hRule.keeps_ne_nil before last
  simp only [Rule.anyHidesNext, Bool.or_false, Bool.or_eq_true] at hSeen
  rw [redactCommand_eq_sub]
  cases hHides₁ : authorizationRule.hidesNext lead with
  | true =>
      have h₁ := exposed_of_hides hFirst hFlag hLead last hHides₁
      have h₂ := exposed_sub hSecond (fun c hc => bearerRule_idle hc) hLast h₁
      exact getLast?_of_exposed (exposed_sub hThird (fun c hc => flagRule_idle hc) hLast h₂)
  | false =>
      rw [sub_upTo hFlag hFirst hLead (authorization_passesFlag hFlag (.inr rfl)) hHides₁,
        hSingle hFirst]
      have hLead₁ := hFirst.lead_sub hLead
      cases hHides₂ : bearerRule.hidesNext (authorizationRule.sub lead) with
      | true =>
          have h₂ := exposed_of_hides hSecond hFlag hLead₁ last hHides₂
          exact getLast?_of_exposed (exposed_sub hThird (fun c hc => flagRule_idle hc) hLast h₂)
      | false =>
          rw [sub_upTo hFlag hSecond hLead₁ (bearer_passesFlag hFlag (.inr rfl)) hHides₂,
            hSingle hSecond]
          have hHides₃ :
              flagRule.hidesNext (bearerRule.sub (authorizationRule.sub lead)) = true := by
            simpa [hHides₁, hHides₂] using hSeen
          exact getLast?_of_exposed
            (exposed_of_hides hThird hFlag (hSecond.lead_sub hLead₁) last hHides₃)

/-- An argument behind a value of one letter is not masked. -/
theorem getLast?_letter (lead gap flag : List Char) (form : FlagForm) {letter : Char}
    (hLetter : letter ∈ idleEnds) :
    (redactCommand (upTo lead gap flag form [letter] ++ [' ', '@'])).getLast? = some '@' := by
  refine exposed_first (by decide) ⟨_, letter, rfl, ?_, hLetter⟩
  rw [upTo, List.getLast?_append, List.getLast?_append, List.getLast?_append]
  rfl

/-- A command that ends with the mask after one of the patterns ends so after the
others. -/
theorem getLast?_mask {text : List Char} (h : text.getLast? = some '*') :
    (bearerRule.sub text).getLast? = some '*' ∧
      (urlRule.sub (assignmentRule.sub (flagRule.sub text))).getLast? = some '*' := by
  refine ⟨getLast?_sub_mask rfl rfl h, ?_⟩
  rw [getLast?_urlRule]
  exact getLast?_sub_mask rfl rfl (getLast?_sub_mask rfl rfl h)

/-- What a value takes for its secret is masked. -/
theorem getLast?_spilled {text : List Char} (hText : EndsInWord text)
    (hSpills : Rule.anyHidesNext [authorizationRule, bearerRule] text = true) :
    (redactCommand (text ++ [' ', '@'])).getLast? = some '*' := by
  have hFirst := authorizationRule_masksWords
  have hSecond := bearerRule_masksWords
  have hHidden : ∀ {rule : Rule}, rule.MasksWords → ∀ {text : List Char},
      rule.hidesNext text = true → (rule.sub (text ++ [' ', '@'])).getLast? = some '*' := by
    intro rule hRule text hHides
    have hEnd : (text ++ [' ', '@']).getLast? = some '@' := by
      rw [List.getLast?_append]
      rfl
    have hNot : (rule.sub (text ++ [' ', '@'])).getLast? ≠ some '@' := of_decide_eq_true hHides
    exact (Rule.getLast?_subAfter hRule.closing_eq hRule.mask_last hEnd).resolve_left hNot
  simp only [Rule.anyHidesNext, Bool.or_false, Bool.or_eq_true] at hSpills
  rw [redactCommand_eq_sub]
  cases hHides : authorizationRule.hidesNext text with
  | true => exact (getLast?_mask (getLast?_mask (hHidden hFirst hHides)).1).2
  | false =>
      have hHides₂ : bearerRule.hidesNext (authorizationRule.sub text) = true := by
        simpa [hHides] using hSpills
      have hAt : Behind [' ', '@'] := .inr (WordAfterGap.intro gap_blank (by decide))
      have hAlone : authorizationRule.sub [' ', '@'] = [' ', '@'] := hFirst.subAfter_blank none '@'
      rw [hFirst.sub_append (.inr hText) hHides hAt, hAlone]
      exact (getLast?_mask (hHidden hSecond hHides₂)).2

theorem filter_redactCommand (text : List Char) :
    (redactCommand text).filter isSpace = text.filter isSpace := by
  have hMask : ∀ c ∈ redacted, isSpace c = false := by decide
  have hRun : ∀ c : Char, (!isSpace c) = true → isSpace c = false := by simp
  rw [redactCommand_eq_sub, Rule.sub, Rule.filter_subAfter urlRule_ink hMask, Rule.sub,
    Rule.filter_subAfter assignmentRule_ink hMask, Rule.sub, Rule.filter_subAfter hRun hMask,
    Rule.sub, Rule.filter_subAfter hRun hMask, Rule.sub, Rule.filter_subAfter hRun hMask]

/-- A value that gives the same commands as the values of one letter is hidden. -/
theorem hidden_of_command_eq {flag : List Char} (hFlag : SecretFlag flag) {pre : List (List Char)}
    {form : FlagForm} {value : List Char} (hSome : value ≠ []) (hNul : '\x00' ∉ value)
    (stat : List Char)
    (h : ∀ post letter, letter = 'y' ∨ letter = 'z' →
      command (cmdline (pre ++ form.args flag value ++ post)) stat =
        command (cmdline (pre ++ form.args flag [letter] ++ post)) stat) :
    Hidden pre flag form value := by
  obtain ⟨gap, hLead, hShown⟩ := strip_shown hFlag pre form
  have hY := h [['@']] 'y' (.inl rfl)
  rw [command_cmdline, command_cmdline, (hShown value hNul).2, (hShown ['y'] (by decide)).2] at hY
  have hInk : ∀ c ∈ value, isSpace c = false := by
    have hSpaces := congrArg (List.filter isSpace) hY
    rw [filter_redactCommand, filter_redactCommand] at hSpaces
    have hSplit : ∀ value, upTo (strip (shown pre)) gap flag form value ++ [' ', '@'] =
        (strip (shown pre) ++ (gap ++ (flag ++ [form.sep]))) ++ (value ++ [' ', '@']) := by
      simp [upTo]
    rw [hSplit, hSplit, List.filter_append, List.filter_append _ (['y'] ++ _),
      List.append_cancel_left_eq, List.filter_append, List.filter_append,
      List.append_cancel_right_eq] at hSpaces
    intro c hc
    simpa using List.filter_eq_nil_iff.mp (hSpaces.trans (by decide)) c hc
  have hNone : rstrip (' ' :: shown []) = [] := by decide
  refine ⟨hInk, ?_, ?_⟩
  · have hLast := (hShown value hNul).1 [] hSome hInk
    rw [List.append_nil, hNone, List.append_nil] at hLast
    rw [hLast, ← Bool.not_eq_true]
    intro hSpills
    have hEnd := getLast?_spilled (endsInWord_upTo hSome hInk) hSpills
    rw [hY, getLast?_letter _ _ _ _ (by decide)] at hEnd
    cases hEnd
  · rintro rfl
    rw [← Bool.not_eq_true]
    intro hHides
    have hSame := (h [] 'y' (.inl rfl)).symm.trans (h [] 'z' (.inr rfl))
    rw [command_cmdline, command_cmdline, (hShown ['y'] (by decide)).1 [] (by simp) (by decide),
      (hShown ['z'] (by decide)).1 [] (by simp) (by decide), hNone, List.append_nil,
      List.append_nil] at hSame
    have hY := getLast?_flag_hidden hFlag hLead (show isSpace 'y' = false by decide) hHides
    rw [hSame, getLast?_flag_hidden hFlag hLead (by decide) hHides] at hY
    cases hY

/-- For a set of values with two plain letters in it, the published command is
the same for any two of them, whatever stands behind the value, exactly when
each of them is hidden. -/
theorem secretFlags_iff (pre : List (List Char)) (flag : List Char) (form : FlagForm)
    (stat : List Char) (values : List Char → Prop) (hFlag : SecretFlag flag)
    (hValues : ∀ value, values value → value ≠ [] ∧ '\x00' ∉ value)
    (hLetters : values ['y'] ∧ values ['z']) :
    (∀ post value value', values value → values value' →
        command (cmdline (pre ++ form.args flag value ++ post)) stat =
          command (cmdline (pre ++ form.args flag value' ++ post)) stat) ↔
      ∀ value, values value → Hidden pre flag form value := by
  constructor
  · intro h value hValue
    refine hidden_of_command_eq hFlag (hValues value hValue).1 (hValues value hValue).2 stat ?_
    rintro post letter (rfl | rfl)
    · exact h post value ['y'] hValue hLetters.1
    · exact h post value ['z'] hValue hLetters.2
  · intro h post value value' hValue hValue'
    exact command_eq_of_hidden hFlag (hValues value hValue).1 (hValues value hValue).2
      (h value hValue)
      (hValues value' hValue').1 (hValues value' hValue').2 (h value' hValue') post stat

end

theorem secretFlag_token : SecretFlag "--token".toList := by
  have hToken : SecretFlag (['-', '-'] ++ ([] ++ "token".toList)) :=
    .intro (.inr rfl) (by simp) (show "token" ∈ flagNames by decide) (by decide)
  exact hToken

/-- The values of one letter, in the joined form. -/
theorem secretFlags_iff_letters :
    (∀ post value value', (value = ['y'] ∨ value = ['z']) → (value' = ['y'] ∨ value' = ['z']) →
        @command UnicodeSpaces.ascii.toUnicode
            (cmdline (["app".toList] ++ FlagForm.joined.args "--token".toList value ++ post)) [] =
          @command UnicodeSpaces.ascii.toUnicode
            (cmdline (["app".toList] ++ FlagForm.joined.args "--token".toList value' ++ post)) []) ↔
      ∀ value, value = ['y'] ∨ value = ['z'] →
        @Hidden UnicodeSpaces.ascii.toUnicode ["app".toList] "--token".toList .joined value :=
  @secretFlags_iff UnicodeSpaces.ascii ["app".toList] "--token".toList .joined []
    (fun value => value = ['y'] ∨ value = ['z'])
    secretFlag_token (by rintro value (rfl | rfl) <;> decide) ⟨.inl rfl, .inr rfl⟩

/-- A secret flag in front of the flag takes the flag for its value. -/
theorem value_leaks : ¬∀ value value' : List Char, value ≠ [] → '\x00' ∉ value → value' ≠ [] →
    '\x00' ∉ value' →
      @command Unicode.ascii (cmdline (["app".toList, "--password".toList] ++
          FlagForm.separate.args "--token".toList value ++ [])) [] =
        @command Unicode.ascii (cmdline (["app".toList, "--password".toList] ++
          FlagForm.separate.args "--token".toList value' ++ [])) [] := by
  intro h
  have hSame := h "abc".toList "xyz".toList (by decide) (by decide) (by decide) (by decide)
  revert hSame
  decide +kernel

end NodeDebugDashboard.Collectors
