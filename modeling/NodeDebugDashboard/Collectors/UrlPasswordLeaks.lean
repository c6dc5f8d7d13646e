import NodeDebugDashboard.Collectors.UrlPasswords

/-! Which passwords of URLs leak. -/
namespace NodeDebugDashboard.Collectors

open Library.Text

/-- A password of one letter hides nothing behind it. -/
theorem RunRule.letter_passes {rule : Rule} (hRule : RunRule rule) (letter : Char) :
    rule.hidesAfter (some ':') [letter] '@' = false := by
  have hShort : ([letter] ++ '@' :: rule.closing).length ≤ rule.closing.length + 2 := by simp
  rw [Rule.hidesAfter, hRule.subAfter_short hShort]
  simp

/-- What is kept behind a bearer has a gap in it. -/
theorem bearer_passes [Unicode] {p : List Char} (hInk : ∀ c ∈ p, isSpace c = false) :
    bearerRule.hidesAfter (some ':') p '@' = false := by
  have hRule := bearerRule_runRule
  rcases Rule.scans_or_crosses ('@' :: bearerRule.closing) (some ':') p with ⟨out, hOut⟩ |
    ⟨done, place, kept, hidden, hCrosses⟩
  · exact hRule.hidesAfter_eq_false_of_scans hOut
  · exfalso
    obtain ⟨mid, rfl, _, _⟩ := hRule.exists_mid hRule.at_hidden (hRule.keptIn_probe p) hCrosses
    obtain ⟨front, rfl, _, hFind⟩ := hCrosses.exists_front
    obtain ⟨_, hFinds⟩ := Rule.finds_of_find hFind
    obtain ⟨letters, gap, rfl, _, hGap, _⟩ := bearerRule_keeps_iff.mp hFinds.keeps
    obtain ⟨c, rest, rfl⟩ := List.exists_cons_of_ne_nil hGap.ne_nil
    have hSpace := hGap.isSpace c List.mem_cons_self
    simp [hInk c (by simp)] at hSpace

/-- The last pattern does not remove what stands at the end. -/
theorem eq_nil_of_urlRule_sub {front rest : List Char}
    (h : urlRule.sub (front ++ rest) = urlRule.sub front) : rest = [] := by
  by_cases hAt : '@' ∈ rest
  · exfalso
    have hHidden : ∀ c, urlRule.hidden c = true → decide (c = '@') = false := by
      rintro c hc
      simp only [urlRule, Bool.and_eq_true, decide_eq_true_eq] at hc
      simp [hc.1.1]
    have hMask : ∀ c ∈ urlRule.mask, decide (c = '@') = false := by decide
    have hCount := congrArg (List.filter (decide <| · = '@')) h
    rw [Rule.sub, Rule.sub, Rule.filter_subAfter hHidden hMask, Rule.filter_subAfter hHidden hMask,
      List.filter_append] at hCount
    have hIn : '@' ∈ rest.filter (decide <| · = '@') := List.mem_filter.mpr ⟨hAt, by decide⟩
    rw [List.append_right_eq_self.mp hCount] at hIn
    cases hIn
  · rw [Rule.sub, Rule.sub, urlRule_masksRuns.greedy.subAfter_append_of_notMem rfl hAt] at h
    exact List.append_right_eq_self.mp h

section

variable [UnicodeSpaces] {text : List Char} (hLast : text.getLast? = some ':') {p : List Char}
  (hp : Password p)
include hLast hp

/-- The first pattern takes the password for the header that a secret follows. -/
theorem authorization_leaks (hHides : authorizationRule.hides text '@' = false)
    (h : ∀ rest, redactCommand (text ++ (p ++ '@' :: rest)) =
      redactCommand (text ++ (['y'] ++ '@' :: rest))) :
    authorizationRule.hidesAfter (some ':') p '@' = false := by
  have hRule := authorizationRule_runRule
  cases hPasses : authorizationRule.hidesAfter (some ':') p '@' with
  | false => rfl
  | true =>
      exfalso
      have hSame := h ("authorization:".toList ++ [' ', 'w'])
      have hShown : (redactCommand
          (text ++ (p ++ '@' :: ("authorization:".toList ++ [' ', 'w'])))).getLast? = some 'w' := by
        obtain ⟨front, last, hSub⟩ := hRule.exists_sub_of_password hLast hHides hp.ink hPasses
          (show ∀ c ∈ "authorization:".toList, authorizationRule.hidden c = true by decide)
          (show ∀ c, [' ', 'w'].head? = some c → authorizationRule.hidden c = false by
            rintro c ⟨⟩
            rfl)
        rw [hRule.subAfter_short (by simp)] at hSub
        have hExposed : Exposed 'w' (authorizationRule.sub
            (text ++ (p ++ '@' :: ("authorization:".toList ++ [' ', 'w'])))) := by
          refine ⟨front ++ authorizationRule.mask, '*', hSub, ?_, by decide⟩
          rw [List.getLast?_append]
          rfl
        have hInk : isSpace 'w' = false := by decide
        exact getLast?_of_exposed
          (exposed_sub flagRule_masksWords (fun c hc => flagRule_idle hc) hInk
          (exposed_sub bearerRule_masksWords (fun c hc => bearerRule_idle hc) hInk hExposed))
      have hMasked : (redactCommand
          (text ++ (['y'] ++ '@' :: ("authorization:".toList ++ [' ', 'w'])))).getLast? =
            some '*' := by
        have hMask : authorizationRule.subAfter (some '@') ("authorization:".toList ++ [' ', 'w']) =
            "authorization: ***".toList := by decide +kernel
        have hEnd : (authorizationRule.sub
            (text ++ (['y'] ++ '@' :: ("authorization:".toList ++ [' ', 'w'])))).getLast? =
              some '*' := by
          rw [hRule.sub_through hLast hHides (password_letter (.inl rfl)).ink
            (hRule.letter_passes 'y'), hMask, ← List.append_assoc, List.getLast?_append]
          rfl
        exact (getLast?_mask (getLast?_mask hEnd).1).2
      rw [hSame, hMasked] at hShown
      cases hShown

/-- The third pattern takes the password for a flag with its secret. -/
theorem flag_leaks (hHides : flagRule.hides text '@' = false)
    (h : urlRule.sub (assignmentRule.sub (flagRule.sub (text ++ (p ++ '@' :: ['&', 'w'])))) =
      urlRule.sub (assignmentRule.sub (flagRule.sub (text ++ (['y'] ++ '@' :: ['&', 'w']))))) :
    flagRule.hidesAfter (some ':') p '@' = false := by
  have hRule := flagRule_runRule
  have hKey := assignmentRule_runRule
  cases hPasses : flagRule.hidesAfter (some ':') p '@' with
  | false => rfl
  | true =>
      exfalso
      have hMasked : (flagRule.sub (text ++ (p ++ '@' :: ['&', 'w']))).getLast? = some '*' := by
        obtain ⟨front, last, hSub⟩ := hRule.exists_sub_of_password hLast hHides hp.ink hPasses
          (show ∀ c ∈ ['&', 'w'], flagRule.hidden c = true by
            intro c hc
            simp only [List.mem_cons, List.not_mem_nil, or_false] at hc
            rcases hc with rfl | rfl <;> rfl)
          (show ∀ c, ([] : List Char).head? = some c → flagRule.hidden c = false by simp)
        rw [List.append_nil, Rule.subAfter_nil, List.append_nil] at hSub
        rw [hSub, List.getLast?_append]
        rfl
      have hEnd := congrArg List.getLast? h
      rw [getLast?_urlRule, getLast?_urlRule, getLast?_sub_mask rfl rfl hMasked,
        hRule.sub_through hLast hHides (password_letter (.inl rfl)).ink (hRule.letter_passes 'y'),
        hRule.subAfter_short (by simp), hRule.subAfter_short (by simp)] at hEnd
      have hLast' := hRule.getLast?_sub hLast hHides
      cases hNext : assignmentRule.hides (flagRule.sub text) '@' with
      | true =>
          obtain ⟨front, hFront⟩ := hKey.exists_sub_hides hLast' hNext
          have hLetter : ∀ c ∈ ['y'], assignmentRule.hidden c = true := by
            intro c hc
            rw [List.mem_singleton.mp hc]
            rfl
          have hDrop : ['&', 'w'].dropWhile assignmentRule.hidden = ['&', 'w'] := rfl
          rw [hFront _ hLetter, hDrop, hKey.subAfter_short (by simp), List.getLast?_append] at hEnd
          cases hEnd
      | false =>
          rw [hKey.sub_through hLast' hNext (password_letter (.inl rfl)).ink
            (hKey.letter_passes 'y'), hKey.subAfter_short (by simp), hKey.subAfter_short (by simp),
            ← List.append_assoc, List.getLast?_append] at hEnd
          cases hEnd

/-- The fourth pattern hides what stands behind the text, up to `&` or `;`. -/
theorem assignment_spills (hHides : assignmentRule.hides text '@' = true)
    (h : urlRule.sub (assignmentRule.sub (text ++ (p ++ ['@']))) =
      urlRule.sub (assignmentRule.sub (text ++ (['y'] ++ ['@'])))) : '&' ∉ p ∧ ';' ∉ p := by
  have hRule := assignmentRule_runRule
  obtain ⟨front, hFront⟩ :=
    hRule.exists_subAfter_hides hRule.at_hidden (hRule.keptIn_probe text) hHides
  have hLetter : assignmentRule.sub (text ++ (['y'] ++ ['@'])) = front ++ redacted := by
    have hRun : assignmentRule.Run (['y'] ++ ['@']) [] := by
      refine ⟨fun c hc => ?_, by simp [hRule.closing_eq]⟩
      simp only [List.mem_append, List.mem_singleton] at hc
      rcases hc with rfl | rfl <;> rfl
    have hKept := hRule.keptIn_colon hLast (password_letter (.inl rfl)).ink []
    have hWhole := hFront _ _ hRun (by simpa [hRule.closing_eq] using hKept) (by simp)
    rw [hRule.closing_eq, Rule.subAfter_nil, List.append_nil, List.append_nil, List.append_nil,
      List.append_nil] at hWhole
    exact hWhole
  obtain ⟨hSplit, hRun, hStop⟩ := span_spec assignmentRule.hidden p
  cases hSpilled : p.dropWhile assignmentRule.hidden with
  | nil =>
      rw [hSpilled, List.append_nil] at hSplit
      rw [← hSplit] at hRun
      constructor
      · intro hMem
        have hHidden := hRun '&' hMem
        cases hHidden
      · intro hMem
        have hHidden := hRun ';' hMem
        cases hHidden
  | cons c spilled =>
      exfalso
      have hPlain : assignmentRule.hidden c = false := hStop c (by rw [hSpilled]; rfl)
      have hWhole := hFront (p.takeWhile assignmentRule.hidden) (c :: (spilled ++ ['@'])) ⟨hRun, by
        rw [hRule.closing_eq]
        rintro d ⟨⟩
        exact hPlain⟩ (by
          have hKept := hRule.keptIn_colon hLast hp.ink []
          rw [hSplit, hSpilled] at hKept
          simpa [hRule.closing_eq] using hKept) fun _ first before next second hText hKeeps => by
            have hEnds := assignmentRule_endsInWord hKeeps
            obtain ⟨body, key, rfl, _⟩ := assignmentRule_keeps_iff.mp hKeeps
            rw [hText, ← List.append_assoc body, ← List.append_assoc, List.getLast?_concat] at hLast
            cases hLast
      have hPassword : text ++ (p.takeWhile assignmentRule.hidden ++
          (assignmentRule.closing ++ c :: (spilled ++ ['@']))) = text ++ (p ++ ['@']) := by
        conv_rhs => rw [hSplit, hSpilled]
        simp [hRule.closing_eq]
      rw [hPassword, hRule.closing_eq, List.append_nil] at hWhole
      change assignmentRule.sub _ = front ++ redacted ++ _ at hWhole
      generalize hRest : assignmentRule.subAfter _ (c :: (spilled ++ ['@'])) = rest at hWhole
      have hSome : rest ≠ [] := by
        rintro rfl
        have hStar : assignmentRule.mask.getLast? = some '*' := rfl
        rcases Rule.getLast?_subAfter hRule.closing_eq hStar
          (List.getLast?_eq_some_getLast (List.cons_ne_nil c (spilled ++ ['@']))) with hEnd | hEnd
        · rw [hRest] at hEnd
          cases hEnd
        · rw [hRest] at hEnd
          cases hEnd
      rw [hLetter, hWhole] at h
      exact hSome (eq_nil_of_urlRule_sub h)

/-- The fourth pattern takes the password for an assignment. -/
theorem assignment_leaks (hHides : assignmentRule.hides text '@' = false)
    (h : urlRule.sub (assignmentRule.sub (text ++ (p ++ ['@']))) =
      urlRule.sub (assignmentRule.sub (text ++ (['y'] ++ ['@'])))) :
    assignmentRule.hidesAfter (some ':') p '@' = false := by
  have hRule := assignmentRule_runRule
  cases hPasses : assignmentRule.hidesAfter (some ':') p '@' with
  | false => rfl
  | true =>
      exfalso
      have hNone : ∀ c ∈ ([] : List Char), assignmentRule.hidden c = true := by simp
      have hStop : ∀ c, ([] : List Char).head? = some c → assignmentRule.hidden c = false := by simp
      obtain ⟨front, last, hSub⟩ :=
        hRule.exists_sub_of_password hLast hHides hp.ink hPasses hNone hStop
      rw [List.append_nil, Rule.subAfter_nil, List.append_nil] at hSub
      have hEnd := congrArg List.getLast? h
      rw [getLast?_urlRule, getLast?_urlRule, hSub, List.getLast?_append,
        ← List.append_assoc] at hEnd
      rw [List.append_assoc, hRule.sub_through hLast hHides (password_letter (.inl rfl)).ink
        (hRule.letter_passes 'y'), ← List.append_assoc, List.getLast?_append] at hEnd
      cases hEnd

omit hp in
/-- Two letters in the place of the password are both shown when no user is
recognised before them. -/
theorem url_shows (hHides : assignmentRule.hides text '@' = false)
    (h : urlRule.sub (assignmentRule.sub (text ++ (['y'] ++ ['@']))) =
      urlRule.sub (assignmentRule.sub (text ++ (['z'] ++ ['@'])))) :
    urlRule.hides (assignmentRule.sub text) 'y' = true := by
  have hRule := assignmentRule_runRule
  have hLast' := hRule.getLast?_sub hLast hHides
  cases hShows : urlRule.hides (assignmentRule.sub text) 'y' with
  | true => rfl
  | false =>
      exfalso
      have hLetter : ∀ letter, letter = 'y' ∨ letter = 'z' →
          urlRule.sub (assignmentRule.sub (text ++ ([letter] ++ ['@']))) =
            urlRule.sub (assignmentRule.sub text) ++ [letter, '@'] := by
        intro letter hc
        have hPlain : ∀ c ∈ [letter], c ≠ '/' :=
          fun c hMem => ((password_letter hc).plain c hMem).2.1
        have hKept : ∀ {letter : Char}, letter ≠ '/' →
            urlRule.KeptIn (assignmentRule.sub text) (letter :: urlRule.closing) := by
          intro letter hNot
          exact urlRule_keptIn hLast' fun c hHead => by
            cases hHead
            exact hNot
        rw [hRule.sub_through hLast hHides (password_letter hc).ink (hRule.letter_passes letter),
          hRule.subAfter_short (by simp), Rule.subAfter_nil]
        have hUrl := urlRule_masksRuns.subAfter_append (by decide) (hKept (by decide))
          (hKept (hPlain letter (by simp))) hShows (by decide)
        have hShort : (letter :: urlRule.closing).length ≤ urlRule.closing.length + 2 := by simp
        rw [urlRule_masksRuns.subAfter_short hShort] at hUrl
        exact hUrl
      rw [hLetter 'y' (.inl rfl), hLetter 'z' (.inr rfl)] at h
      have hSame := List.append_cancel_left h
      cases hSame

/-- A password that gives the same commands as those of one letter is masked. -/
theorem masked_of_redactCommand_eq
    (h : ∀ letter, letter = 'y' ∨ letter = 'z' →
      ∀ rest, redactCommand (text ++ (p ++ '@' :: rest)) =
      redactCommand (text ++ ([letter] ++ '@' :: rest))) : Masked p wordRules text := by
  have hFirst : WordRule authorizationRule := wordRules_wordRule _ (by simp [wordRules])
  have hSecond : WordRule bearerRule := wordRules_wordRule _ (by simp [wordRules])
  have hThird : WordRule flagRule := wordRules_wordRule _ (by simp [wordRules])
  cases hHides₁ : authorizationRule.hides text '@' with
  | true => exact .inl hHides₁
  | false =>
      have hPasses₁ := authorization_leaks hLast hp hHides₁ (h 'y' (.inl rfl))
      refine .inr ⟨hPasses₁, ?_⟩
      have hLast₁ := hFirst.getLast?_sub hLast hHides₁
      cases hHides₂ : bearerRule.hides (authorizationRule.sub text) '@' with
      | true => exact .inl hHides₂
      | false =>
          have hPasses₂ := bearer_passes hp.ink
          refine .inr ⟨hPasses₂, ?_⟩
          have hLast₂ := hSecond.getLast?_sub hLast₁ hHides₂
          -- the first two patterns leave the password and a short rest alone
          have hThrough : ∀ {q : List Char}, Password q →
              authorizationRule.hidesAfter (some ':') q '@' = false → ∀ {rest : List Char},
                rest.length ≤ 2 → redactCommand (text ++ (q ++ '@' :: rest)) =
                  urlRule.sub (assignmentRule.sub (flagRule.sub
                    (bearerRule.sub (authorizationRule.sub text) ++ (q ++ '@' :: rest)))) := by
            intro q hq hPasses rest hShort
            rw [redactCommand_eq_sub, hFirst.sub_through hLast hHides₁ hq.ink hPasses,
              hFirst.subAfter_short (by simpa [hFirst.closing_eq] using hShort),
              hSecond.sub_through hLast₁ hHides₂ hq.ink (bearer_passes hq.ink),
              hSecond.subAfter_short (by simpa [hSecond.closing_eq] using hShort)]
          have hSame :
              ∀ letter, letter = 'y' ∨ letter = 'z' → ∀ {rest : List Char}, rest.length ≤ 2 →
              urlRule.sub (assignmentRule.sub (flagRule.sub
                (bearerRule.sub (authorizationRule.sub text) ++ (p ++ '@' :: rest)))) =
              urlRule.sub (assignmentRule.sub (flagRule.sub
                (bearerRule.sub (authorizationRule.sub text) ++ ([letter] ++ '@' :: rest)))) := by
            intro letter hc rest hShort
            rw [← hThrough hp hPasses₁ hShort,
              ← hThrough (password_letter hc) (hFirst.letter_passes letter) hShort]
            exact h letter hc rest
          cases hHides₃ : flagRule.hides (bearerRule.sub (authorizationRule.sub text)) '@' with
          | true => exact .inl hHides₃
          | false =>
              have hPasses₃ := flag_leaks hLast₂ hp hHides₃ (hSame 'y' (.inl rfl) (by simp))
              refine .inr ⟨hPasses₃, ?_⟩
              have hLast₃ := hThird.getLast?_sub hLast₂ hHides₃
              have hKeys :
                  ∀ letter, letter = 'y' ∨ letter = 'z' → ∀ {q : List Char}, q = p ∨ q = [letter] →
                  flagRule.sub (bearerRule.sub (authorizationRule.sub text) ++ (q ++ ['@'])) =
                    flagRule.sub (bearerRule.sub (authorizationRule.sub text)) ++ (q ++ ['@']) := by
                rintro letter hc q (rfl | rfl)
                · rw [hThird.sub_through hLast₂ hHides₃ hp.ink hPasses₃, Rule.subAfter_nil]
                · rw [hThird.sub_through hLast₂ hHides₃ (password_letter hc).ink
                    (hThird.letter_passes letter), Rule.subAfter_nil]
              have hLeft : ∀ letter, letter = 'y' ∨ letter = 'z' → urlRule.sub (assignmentRule.sub
                  (flagRule.sub (bearerRule.sub (authorizationRule.sub text)) ++ (p ++ ['@']))) =
                  urlRule.sub (assignmentRule.sub (flagRule.sub
                    (bearerRule.sub (authorizationRule.sub text)) ++ ([letter] ++ ['@']))) := by
                intro letter hc
                have hBoth := hSame letter hc (show ([] : List Char).length ≤ 2 by simp)
                rwa [hKeys letter hc (.inl rfl), hKeys letter hc (.inr rfl)] at hBoth
              cases hHides₄ : assignmentRule.hides
                  (flagRule.sub (bearerRule.sub (authorizationRule.sub text))) '@' with
              | true =>
                  exact .inl ⟨hHides₄, assignment_spills hLast₃ hp hHides₄ (hLeft 'y' (.inl rfl))⟩
              | false =>
                  refine .inr ⟨hHides₄, assignment_leaks hLast₃ hp hHides₄ (hLeft 'y' (.inl rfl)),
                    ?_⟩
                  exact url_shows hLast₃ hHides₄
                    ((hLeft 'y' (.inl rfl)).symm.trans (hLeft 'z' (.inr rfl)))

end

/-- For a set of passwords with two plain letters in it, the command is the same for
any two of them, whatever host and text stand behind them, exactly when each of them
is masked. -/
theorem urlPasswords_iff [UnicodeSpaces] (before scheme user : List Char)
    (passwords : List Char → Prop) (hPasswords : ∀ p, passwords p → Password p)
    (hLetters : passwords ['y'] ∧ passwords ['z']) :
    (∀ host after p p', passwords p → passwords p' →
        redactCommand (urlStart before scheme user ++ (p ++ '@' :: (host ++ after))) =
          redactCommand (urlStart before scheme user ++ (p' ++ '@' :: (host ++ after)))) ↔
      ∀ p, passwords p → Masked p wordRules (urlStart before scheme user) := by
  have hLast := getLast?_urlStart before scheme user
  constructor
  · intro h p hp
    refine masked_of_redactCommand_eq hLast (hPasswords p hp) fun letter hc rest => ?_
    rcases hc with rfl | rfl
    · exact h [] rest p ['y'] hp hLetters.1
    · exact h [] rest p ['z'] hp hLetters.2
  · intro h host after p p' hp hp'
    exact rewrite_eq_of_masked (hPasswords p hp) (hPasswords p' hp') wordRules_wordRule hLast
      (h p hp) (h p' hp') (host ++ after)

/-- The passwords of one letter, behind a user with a name. -/
theorem urlPasswords_iff_letters :
    (∀ host after p p', (p = ['y'] ∨ p = ['z']) → (p' = ['y'] ∨ p' = ['z']) →
        @redactCommand UnicodeSpaces.ascii.toUnicode
            (urlStart "app ".toList "redis".toList "u".toList ++ (p ++ '@' :: (host ++ after))) =
          @redactCommand UnicodeSpaces.ascii.toUnicode
            (urlStart "app ".toList "redis".toList "u".toList ++ (p' ++ '@' :: (host ++ after)))) ↔
      ∀ p, p = ['y'] ∨ p = ['z'] → @Masked UnicodeSpaces.ascii.toUnicode p
        (@wordRules UnicodeSpaces.ascii.toUnicode)
          (urlStart "app ".toList "redis".toList "u".toList) :=
  @urlPasswords_iff UnicodeSpaces.ascii "app ".toList "redis".toList "u".toList
    (fun p => p = ['y'] ∨ p = ['z']) (by rintro p (rfl | rfl) <;> exact password_letter (by simp))
    ⟨.inl rfl, .inr rfl⟩

/-- Without a user, the password stands in the command. -/
theorem urlPassword_leaks : ¬∀ before scheme user host after p p' : List Char,
    (∀ c ∈ user, userChar c = true) → Password p → Password p' →
      @redactCommand Unicode.ascii (urlStart before scheme user ++ (p ++ '@' :: (host ++ after))) =
        @redactCommand Unicode.ascii
          (urlStart before scheme user ++ (p' ++ '@' :: (host ++ after))) := by
  intro h
  have hSame := h [] "redis".toList [] "host".toList [] "abc".toList "xyz".toList (by simp)
    ⟨by decide, by decide⟩ ⟨by decide, by decide⟩
  revert hSame
  decide +kernel

end NodeDebugDashboard.Collectors
