import NodeDebugDashboard.Collectors.RunRules
import NodeDebugDashboard.Collectors.SecretFlagLeaks

/-! Passwords of URLs in the published commands. -/
namespace NodeDebugDashboard.Collectors

open Library.Text

/-- A password that is not empty and has neither `@` nor `/` nor whitespace in it. -/
structure Password (p : List Char) : Prop where
  ne_nil : p ≠ []
  plain : ∀ c ∈ p, c ≠ '@' ∧ c ≠ '/' ∧ isSpace c = false

/-- A URL up to its password, and the text before it. -/
def urlStart (before scheme user : List Char) : List Char :=
  before ++ (scheme ++ ([':', '/', '/'] ++ (user ++ [':'])))

/-- The first three patterns. -/
def wordRules [Unicode] : List Rule := [authorizationRule, bearerRule, flagRule]

/-- The password behind the text is masked in the end, when these patterns are
tried in turn and then the last two: one of them hides what stands behind the text,
and none before it takes the password for the place where a secret begins. -/
def Masked [Unicode] (p : List Char) : List Rule → List Char → Prop
  | [], text => assignmentRule.hides text '@' = true ∧ '&' ∉ p ∧ ';' ∉ p ∨
      assignmentRule.hides text '@' = false ∧ assignmentRule.hidesAfter (some ':') p '@' = false ∧
        urlRule.hides (assignmentRule.sub text) 'y' = true
  | rule :: rules, text => rule.hides text '@' = true ∨
      rule.hidesAfter (some ':') p '@' = false ∧ Masked p rules (rule.sub text)

theorem Password.ink {p : List Char} (h : Password p) : ∀ c ∈ p, isSpace c = false :=
  fun c hc => (h.plain c hc).2.2

theorem Password.hidden {p : List Char} (h : Password p) : ∀ c ∈ p, urlRule.hidden c = true := by
  intro c hc
  obtain ⟨hAt, hSlash, hInk⟩ := h.plain c hc
  simp [urlRule, hAt, hSlash, hInk]

theorem password_letter {c : Char} (hc : c = 'y' ∨ c = 'z') : Password [c] := by
  refine ⟨by simp, ?_⟩
  rcases hc with rfl | rfl
  · decide
  · decide

theorem getLast?_urlStart (before scheme user : List Char) :
    (urlStart before scheme user).getLast? = some ':' := by
  have hSplit : urlStart before scheme user =
      (before ++ (scheme ++ ([':', '/', '/'] ++ user))) ++ [':'] := by simp [urlStart]
  rw [hSplit, List.getLast?_concat]

/-- What is kept of a URL ends with the colon behind the user. -/
theorem urlRule_keptIn {text : List Char} (hLast : text.getLast? = some ':') {rest : List Char}
    (hRest : ∀ c, rest.head? = some c → c ≠ '/') : urlRule.KeptIn text rest := by
  intro front place hPlace hSome before kept hidden later hFinds
  by_contra hLong
  have hText := hFinds.text_eq
  rw [List.append_assoc, List.append_assoc] at hText
  obtain ⟨more, rfl⟩ :=
    List.prefix_of_prefix_length_le ⟨_, rfl⟩ ⟨_, hText.symm⟩ (not_le.mp hLong).le
  rw [List.append_assoc, List.append_cancel_left_eq] at hText
  obtain ⟨init, rfl⟩ : ∃ init, place = init ++ [':'] := by
    rw [hPlace, List.getLast?_append_of_ne_nil _ hSome] at hLast
    exact ⟨_, (List.dropLast_append_getLast? ':' hLast).symm⟩
  obtain ⟨user, hKept, _, hUser⟩ := urlRule_keeps_iff.mp hFinds.keeps
  obtain ⟨more', d, rfl⟩ : ∃ more' d, more = more' ++ [d] := by
    rcases List.eq_nil_or_concat more with rfl | ⟨more', d, hConcat⟩
    · simp at hLong
    · exact ⟨more', d, by simpa using hConcat⟩
  have hCut : init ++ ':' :: more' = [':', '/', '/'] ++ user := by
    have hBoth : (init ++ ':' :: more') ++ [d] = ([':', '/', '/'] ++ user) ++ [':'] := by
      simpa using hKept
    exact (List.append_inj' hBoth rfl).1
  cases init with
  | nil =>
      have hHead : rest.head? = some '/' := by
        obtain ⟨_, hMore⟩ := List.cons_eq_cons.mp hCut
        rw [hText, hMore]
        rfl
      exact hRest '/' hHead rfl
  | cons c init =>
      obtain ⟨_, hTail⟩ := List.cons_eq_cons.mp hCut
      have hColon : ':' ∈ '/' :: '/' :: user := by
        rw [← show init ++ ':' :: more' = '/' :: '/' :: user from hTail]
        simp
      have hIn : ':' ∈ user := by simpa using hColon
      have hChar := hUser ':' hIn
      simp [userChar] at hChar

/-- When the URL rule hides what stands behind the text, the password is hidden
with it. -/
theorem exists_sub_url {text : List Char} (hLast : text.getLast? = some ':')
    (hHides : urlRule.hides text 'y' = true) :
    ∃ front, ∀ p, Password p → ∀ rest, urlRule.sub (text ++ (p ++ '@' :: rest)) =
      front ++ urlRule.mask ++ urlRule.closing ++ urlRule.subAfter (some '@') rest := by
  have hHead : ∀ {p : List Char}, Password p → ∀ rest c, (p ++ rest).head? = some c → c ≠ '/' := by
    intro p hp rest c hc
    rw [List.head?_append_of_ne_nil _ hp.ne_nil] at hc
    exact (hp.plain c (List.mem_of_mem_head? hc)).2.1
  have hProbe : urlRule.KeptIn text ('y' :: urlRule.closing) :=
    urlRule_keptIn hLast fun c hc => by
      cases hc
      decide
  obtain ⟨front, hFront⟩ := urlRule_masksRuns.exists_subAfter_hides (by decide) hProbe hHides
  refine ⟨front, fun p hp rest => ?_⟩
  have hRun : urlRule.Run p rest := ⟨hp.hidden, fun c hc => by
    cases hc
    rfl⟩
  have hWhole := hFront p rest hRun (urlRule_keptIn hLast (hHead hp _))
    fun hNil => absurd hNil hp.ne_nil
  rw [lastChar_append] at hWhole
  exact hWhole

/-- One of the first three patterns. -/
structure WordRule (rule : Rule) : Prop extends RunRule rule where
  hidden_of_ink : ∀ c, isSpace c = false → rule.hidden c = true

/-- A word rule that hides nothing here leaves the password and its place alone. -/
theorem WordRule.sub_through {rule : Rule} (hRule : WordRule rule) {text p : List Char}
    (hLast : text.getLast? = some ':') (hHides : rule.hides text '@' = false)
    (hInk : ∀ c ∈ p, isSpace c = false) (hPasses : rule.hidesAfter (some ':') p '@' = false)
    (rest : List Char) : rule.sub (text ++ (p ++ '@' :: rest)) =
      rule.sub text ++ (p ++ '@' :: rule.subAfter (some '@') rest) := by
  rw [hRule.toRunRule.sub_through hLast hHides hInk hPasses,
    hRule.subAfter_eq_self (fun c hc => hRule.hidden_of_ink c (hInk c hc)) hPasses]

section

variable [UnicodeSpaces]

/-- What is left of a password is one. -/
theorem password_subAfter {p : List Char} (h : Password p) (before : Option Char) :
    Password (assignmentRule.subAfter before p) := by
  have hMask : ∀ c ∈ redacted, c ≠ '@' ∧ c ≠ '/' ∧ isSpace c = false := by decide
  refine ⟨?_, Rule.forall_subAfter hMask h.plain⟩
  intro hNil
  have hStar : assignmentRule.mask.getLast? = some '*' := rfl
  rcases Rule.getLast?_subAfter rfl hStar (List.getLast?_eq_some_getLast h.ne_nil) with hEnd | hEnd
  · rw [hNil] at hEnd
    cases hEnd
  · rw [hNil] at hEnd
    cases hEnd

/-- The patterns of a list, tried in turn. -/
def rewrite (rules : List Rule) (text : List Char) : List Char :=
  rules.foldl (fun text rule => rule.sub text) text

theorem wordRules_wordRule : ∀ rule ∈ wordRules, WordRule rule := by
  intro rule hMem
  simp only [wordRules, List.mem_cons, List.not_mem_nil, or_false] at hMem
  rcases hMem with rfl | rfl | rfl
  · exact ⟨authorizationRule_runRule, fun c hc => by simp [authorizationRule, hc]⟩
  · exact ⟨bearerRule_runRule, fun c hc => by simp [bearerRule, hc]⟩
  · exact ⟨flagRule_runRule, fun c hc => by simp [flagRule, hc]⟩

theorem assignmentRule_hidden {p : List Char} (hp : Password p) (hAnd : '&' ∉ p) (hEnd : ';' ∉ p) :
    ∀ c ∈ p, assignmentRule.hidden c = true := by
  intro c hc
  have hNot : c ≠ '&' ∧ c ≠ ';' := by
    constructor
    · rintro rfl
      exact hAnd hc
    · rintro rfl
      exact hEnd hc
  simp [assignmentRule, hp.ink c hc, hNot]

/-- Two passwords that are masked give the same command. -/
theorem rewrite_eq_of_masked {p p' : List Char} (hp : Password p) (hp' : Password p')
    {rules : List Rule} (hRules : ∀ rule ∈ rules, WordRule rule) {text : List Char}
    (hLast : text.getLast? = some ':') (hMasked : Masked p rules text)
    (hMasked' : Masked p' rules text) (rest : List Char) :
    rewrite (rules ++ [assignmentRule, urlRule]) (text ++ (p ++ '@' :: rest)) =
      rewrite (rules ++ [assignmentRule, urlRule]) (text ++ (p' ++ '@' :: rest)) := by
  induction rules generalizing text rest with
  | nil =>
      have hRule := assignmentRule_runRule
      change urlRule.sub (assignmentRule.sub _) = urlRule.sub (assignmentRule.sub _)
      rcases hMasked with ⟨hHides, hAnd, hEnd⟩ | ⟨hHides, hPasses, hUrl⟩
      · obtain ⟨_, hAnd', hEnd'⟩ | ⟨hShows, _⟩ := hMasked'
        · obtain ⟨front, hFront⟩ := hRule.exists_sub_hides hLast hHides
          rw [hFront p (assignmentRule_hidden hp hAnd hEnd),
            hFront p' (assignmentRule_hidden hp' hAnd' hEnd')]
        · rw [hHides] at hShows
          cases hShows
      · obtain ⟨hShows, _⟩ | ⟨_, hPasses', _⟩ := hMasked'
        · rw [hHides] at hShows
          cases hShows
        · obtain ⟨front, hFront⟩ := exists_sub_url (hRule.getLast?_sub hLast hHides) hUrl
          rw [hRule.sub_through hLast hHides hp.ink hPasses,
            hRule.sub_through hLast hHides hp'.ink hPasses',
            hFront _ (password_subAfter hp _), hFront _ (password_subAfter hp' _)]
  | cons rule rules ih =>
      have hRule := hRules rule List.mem_cons_self
      have hOthers : ∀ rule ∈ rules, WordRule rule := fun other hOther =>
        hRules other (List.mem_cons_of_mem rule hOther)
      change rewrite (rules ++ _) (rule.sub _) = rewrite (rules ++ _) (rule.sub _)
      cases hHides : rule.hides text '@' with
      | true =>
          obtain ⟨front, hFront⟩ := hRule.exists_sub_hides hLast hHides
          rw [hFront p fun c hc => hRule.hidden_of_ink c (hp.ink c hc),
            hFront p' fun c hc => hRule.hidden_of_ink c (hp'.ink c hc)]
      | false =>
          obtain ⟨hPasses, hNext⟩ := hMasked.resolve_left (by simp [hHides])
          obtain ⟨hPasses', hNext'⟩ := hMasked'.resolve_left (by simp [hHides])
          rw [hRule.sub_through hLast hHides hp.ink hPasses,
            hRule.sub_through hLast hHides hp'.ink hPasses']
          exact ih hOthers (hRule.getLast?_sub hLast hHides) hNext hNext' _

end

end NodeDebugDashboard.Collectors
