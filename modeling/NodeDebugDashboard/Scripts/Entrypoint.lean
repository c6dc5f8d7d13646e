import NodeDebugDashboard.Library.Shell
import NodeDebugDashboard.Library.Strip
import NodeDebugDashboard.Library.Text

/-! The SSH settings of the environment as app/config.py and entrypoint.sh read them. -/
namespace NodeDebugDashboard.Scripts.Entrypoint

open Library Shell

/-- The tables of lower case, of Python's `lower` and of the C library's `towlower`. The
only letters of ASCII that other characters turn into are `k` (from the Kelvin sign) and
`i` (from the dotted capital). -/
class Lowercase extends Text.Unicode where
  lower_other : ∀ (text : List Char) (c : Char), c ∈ text → 128 ≤ c.toNat →
    ∃ d ∈ lower text, 128 ≤ d.toNat ∨ d = 'k' ∨ d = 'i'
  towlower : Char → Char
  towlower_ascii : ∀ c : Char, c.toNat < 128 → towlower c = c.toLower
  towlower_other : ∀ c : Char, 128 ≤ c.toNat →
    128 ≤ (towlower c).toNat ∨ towlower c = 'k' ∨ towlower c = 'i'
  isSpace_towlower : ∀ c : Char, isSpace (towlower c) = isSpace c

variable [Lowercase]

def truthyWords : List (List Char) := [['1'], ['t', 'r', 'u', 'e'], ['y', 'e', 's'], ['o', 'n']]

/-- `env_bool` of app/config.py -/
def envBool (environ : String → Option String) (name default : String) : Bool :=
  Text.Unicode.lower (Text.strip ((environ name).getD default).toList) ∈ truthyWords

/-- `SSH_ENABLED` of app/config.py -/
def sshEnabled (environ : String → Option String) : Bool := envBool environ "SSH_ENABLED" "false"

/-- `SSH_PASSWORD_AUTH` of app/config.py -/
def sshPasswordAuth (environ : String → Option String) : Bool :=
  envBool environ "SSH_PASSWORD_AUTH" "false" &&
    Text.strip ((environ "SSH_PASSWORD").getD "").toList ≠ []

/-- `strip` of entrypoint.sh -/
def strip (text : List Char) : List Char := stripBy isSpace text

/-- `is_true` of entrypoint.sh -/
def isTrue (value : String) : Bool :=
  substitution (strip (value.toList.map Lowercase.towlower)) ∈ truthyWords

/-- What comes of the commands that entrypoint.sh ends with when they fail. -/
structure Commands where
  /-- The host keys are generated. -/
  hostKeys : Bool
  /-- By what it reads. -/
  chpasswd : List Char → Bool
  sed : Bool

/-- Which lines of entrypoint.sh are reached. -/
structure Start where
  /-- The branch that starts sshd. -/
  sshd : Bool
  /-- `password_auth=yes` -/
  passwordAuth : Bool

/-- entrypoint.sh up to its `password_auth`. -/
def entrypoint (commands : Commands) (environ : String → Option String) : Start :=
  let sshEnabled := orDefault (environ "SSH_ENABLED") "false"
  let sshPasswordAuth := orDefault (environ "SSH_PASSWORD_AUTH") "false"
  let sshPassword := substitution (strip (orDefault (environ "SSH_PASSWORD") "").toList)
  if isTrue sshEnabled then
    { sshd := true
      passwordAuth := commands.hostKeys && isTrue sshPasswordAuth && sshPassword ≠ [] &&
        commands.chpasswd ("debug:".toList ++ sshPassword ++ ['\n']) && commands.sed }
  else { sshd := false, passwordAuth := false }

/-- The dashboard reports what entrypoint.sh does. -/
def Agree (commands : Commands) (environ : String → Option String) : Prop :=
  (sshEnabled environ ↔ (entrypoint commands environ).sshd) ∧
    ((entrypoint commands environ).sshd →
      (sshPasswordAuth environ ↔ (entrypoint commands environ).passwordAuth))

/-- One of the words, in whatever case. -/
def Truthy (word : List Char) : Prop := word.map Char.toLower ∈ truthyWords

/-- A character that Python strips and the script does not. -/
def OddSpace (c : Char) : Prop := Text.isSpace c ∧ ¬ isSpace c

/-- A truthy word between white space, some of it odd. -/
def Overpadded (value : List Char) : Prop :=
  ∃ left word right, value = left ++ word ++ right ∧ Truthy word ∧
    (∀ c ∈ left ++ right, Text.isSpace c) ∧ ∃ c ∈ left ++ right, OddSpace c

/-- The value of a variable, empty when it is not set. -/
def variableText (environ : String → Option String) (name : String) : List Char :=
  ((environ name).getD "").toList

/-- The commands set the password. -/
def Commands.accept (commands : Commands) (password : List Char) : Prop :=
  commands.hostKeys ∧ commands.chpasswd ("debug:".toList ++ password ++ ['\n']) ∧ commands.sed

/-- The environments in which the two readings differ. -/
inductive Differ (commands : Commands) (environ : String → Option String) : Prop where
  | enabled (padding : Overpadded (variableText environ "SSH_ENABLED"))
  | passwordAuth (sshd : isTrue ((environ "SSH_ENABLED").getD ""))
      (padding : Overpadded (variableText environ "SSH_PASSWORD_AUTH"))
      (password : ∃ c ∈ variableText environ "SSH_PASSWORD", ¬ Text.isSpace c)
  | blankPassword (sshd : isTrue ((environ "SSH_ENABLED").getD ""))
      (passwordAuth : isTrue ((environ "SSH_PASSWORD_AUTH").getD ""))
      (blank : ∀ c ∈ variableText environ "SSH_PASSWORD", Text.isSpace c)
      (odd : ∃ c ∈ variableText environ "SSH_PASSWORD", OddSpace c)
      (accepted : commands.accept (strip (variableText environ "SSH_PASSWORD")))
  | failure (sshd : isTrue ((environ "SSH_ENABLED").getD ""))
      (passwordAuth : isTrue ((environ "SSH_PASSWORD_AUTH").getD ""))
      (password : ∃ c ∈ variableText environ "SSH_PASSWORD", ¬ Text.isSpace c)
      (refused : ¬ commands.accept (strip (variableText environ "SSH_PASSWORD")))

section Characters

omit [Lowercase]

theorem text_isSpace_of_isSpace {c : Char} (h : isSpace c) : Text.isSpace c := by
  simp only [isSpace, Text.isSpace, Bool.or_eq_true, Bool.and_eq_true, decide_eq_true_eq] at h ⊢
  omega

/-- The letters of the words, and what they are not. -/
theorem letters_spec {word : List Char} (hWord : word ∈ truthyWords) {c : Char} (hMem : c ∈ word) :
    c.toNat < 128 ∧ c ≠ 'k' ∧ c ≠ 'i' := by
  have hAll : ∀ word ∈ truthyWords, ∀ c ∈ word, c.toNat < 128 ∧ c ≠ 'k' ∧ c ≠ 'i' := by decide
  exact hAll word hWord c hMem

theorem toLower_other {c : Char} (h : 128 ≤ c.toNat) : c.toLower = c := by
  unfold Char.toLower
  rw [dif_neg]
  rintro ⟨-, hLast⟩
  have hUpper : c.toNat ≤ 90 := hLast
  omega

/-- What lower-cases to one of the words is a word itself, and has no white space in it. -/
theorem Truthy.letter {word : List Char} (h : Truthy word) {c : Char} (hMem : c ∈ word) :
    c.toNat < 128 ∧ Text.isSpace c = false := by
  have hLower : c.toLower ∈ word.map Char.toLower := List.mem_map_of_mem hMem
  have hAscii : c.toNat < 128 := by
    by_contra hLarge
    have hLetter := (letters_spec h hLower).1
    rw [toLower_other (by omega)] at hLetter
    exact hLarge hLetter
  refine ⟨hAscii, ?_⟩
  have hTable : ∀ n < 128, Text.isSpace (Char.ofNat n) → ∀ word ∈ truthyWords,
      (Char.ofNat n).toLower ∉ word := by
    decide +kernel
  rw [← Char.ofNat_toNat c] at hLower ⊢
  by_contra hSpace
  exact hTable _ hAscii (by simpa using hSpace) _ h hLower

/-- `strip` leaves no line end for `$(…)` to take off. -/
theorem substitution_strip (text : List Char) : substitution (strip text) = strip text := by
  have hLineEnd : ∀ c : Char, decide (c = '\n') → isSpace c := by
    intro c h
    rw [of_decide_eq_true h]
    decide
  rw [substitution, strip, stripBy, List.reverse_reverse, dropWhile_dropWhile hLineEnd]

/-- Where the script's trimming gives a word, Python's gives the same one; where only
Python's does, some of the white space is odd. -/
theorem truthy_strip_iff (value : List Char) :
    Truthy (Text.strip value) ↔ Truthy (strip value) ∨ Overpadded value := by
  constructor
  · intro hTruthy
    obtain ⟨left, right, hValue, hLeft, hRight⟩ := exists_stripBy Text.isSpace value
    change value = left ++ Text.strip value ++ right at hValue
    have hBlank : ∀ c ∈ left ++ right, Text.isSpace c := fun c hMem =>
      (List.mem_append.mp hMem).elim (hLeft c) (hRight c)
    by_cases hOdd : ∃ c ∈ left ++ right, OddSpace c
    · exact .inr ⟨left, _, right, hValue, hTruthy, hBlank, hOdd⟩
    · left
      have hPlain : ∀ c ∈ left ++ right, isSpace c := by
        intro c hMem
        by_contra hNot
        exact hOdd ⟨c, hMem, hBlank c hMem, hNot⟩
      have hWord : ∀ c ∈ Text.strip value, isSpace c = false := by
        intro c hMem
        by_contra hSpace
        have hNone := (hTruthy.letter hMem).2
        rw [text_isSpace_of_isSpace (by simpa using hSpace)] at hNone
        cases hNone
      have hStripped := stripBy_append (fun c hMem => hPlain c (List.mem_append_left _ hMem)) hWord
        (fun c hMem => hPlain c (List.mem_append_right _ hMem))
      rw [← hValue] at hStripped
      change strip value = Text.strip value at hStripped
      rwa [hStripped]
  · rintro (hTruthy | ⟨left, word, right, rfl, hTruthy, hBlank, -⟩)
    · obtain ⟨left, right, hValue, hLeft, hRight⟩ := exists_stripBy isSpace value
      change value = left ++ strip value ++ right at hValue
      have hStripped := stripBy_append (fun c hMem => text_isSpace_of_isSpace (hLeft c hMem))
        (fun c hMem => (hTruthy.letter hMem).2) (fun c hMem =>
          text_isSpace_of_isSpace (hRight c hMem))
      rw [← hValue] at hStripped
      change Text.strip value = strip value at hStripped
      rwa [hStripped]
    · have hStripped := stripBy_append (fun c hMem => hBlank c (List.mem_append_left _ hMem))
        (fun c hMem => (hTruthy.letter hMem).2) (fun c hMem =>
          hBlank c (List.mem_append_right _ hMem))
      change Text.strip _ = word at hStripped
      rwa [hStripped]

/-- An odd space keeps the script from seeing a word. -/
theorem not_truthy_of_overpadded {value : List Char} (h : Overpadded value) :
    ¬ Truthy (strip value) := by
  intro hTruthy
  obtain ⟨left, word, right, hValue, -, -, c, hMem, hSpace, hOdd⟩ := h
  obtain ⟨front, back, hStripped, hFront, hBack⟩ := exists_stripBy isSpace value
  have hIn : c ∈ value := by
    rw [hValue, List.append_assoc]
    rcases List.mem_append.mp hMem with hLeft | hRight
    · exact List.mem_append_left _ hLeft
    · exact List.mem_append_right _ (List.mem_append_right _ hRight)
  rw [hStripped, List.append_assoc] at hIn
  rcases List.mem_append.mp hIn with hLeft | hRest
  · exact hOdd (hFront c hLeft)
  · rcases List.mem_append.mp hRest with hWord | hRight
    · have hNone := (hTruthy.letter hWord).2
      rw [hSpace] at hNone
      cases hNone
    · exact hOdd (hBack c hRight)

/-- A password is blank for the script when it is so for Python and none of it is odd. -/
theorem strip_ne_nil_iff (password : List Char) :
    strip password ≠ [] ↔
      (∃ c ∈ password, ¬ Text.isSpace c) ∨
        (∀ c ∈ password, Text.isSpace c) ∧ ∃ c ∈ password, OddSpace c := by
  rw [Ne, strip, stripBy_eq_nil_iff]
  constructor
  · intro hSome
    by_cases hBlank : ∀ c ∈ password, Text.isSpace c
    · push Not at hSome
      obtain ⟨c, hMem, hNot⟩ := hSome
      exact .inr ⟨hBlank, c, hMem, hBlank c hMem, hNot⟩
    · push Not at hBlank
      exact .inl hBlank
  · rintro (⟨c, hMem, hNot⟩ | ⟨-, c, hMem, -, hNot⟩) hAll
    · exact hNot (text_isSpace_of_isSpace (hAll c hMem))
    · exact hNot (hAll c hMem)

theorem not_truthy_false : ¬ Truthy (Text.strip "false".toList) ∧ ¬ Truthy (Text.strip "".toList) ∧
    ¬ Truthy (strip "false".toList) ∧ ¬ Truthy (strip "".toList) := by
  unfold Truthy
  decide +kernel

/-- Only the words' own letters, in either case, have them as lower case, when a letter
outside ASCII keeps out of the words. -/
theorem mem_truthyWords_iff {text lowered : List Char}
    (hAscii : (∀ c ∈ text, c.toNat < 128) → lowered = text.map Char.toLower)
    (hOther : ∀ c ∈ text, 128 ≤ c.toNat → ∃ d ∈ lowered, 128 ≤ d.toNat ∨ d = 'k' ∨ d = 'i') :
    lowered ∈ truthyWords ↔ Truthy text := by
  by_cases hAll : ∀ c ∈ text, c.toNat < 128
  · rw [hAscii hAll]
    rfl
  · constructor
    · intro hWord
      push Not at hAll
      obtain ⟨c, hMem, hLarge⟩ := hAll
      obtain ⟨d, hLower, hLetter⟩ := hOther c hMem hLarge
      obtain ⟨hSmall, hK, hI⟩ := letters_spec hWord hLower
      rcases hLetter with hLetter | hLetter | hLetter
      · omega
      · exact absurd hLetter hK
      · exact absurd hLetter hI
    · intro hTruthy
      exact absurd (fun c hMem => (hTruthy.letter hMem).1) hAll

end Characters

theorem lower_mem_iff (text : List Char) : Text.Unicode.lower text ∈ truthyWords ↔ Truthy text :=
  mem_truthyWords_iff (Text.Unicode.lower_ascii text) (Lowercase.lower_other text)

theorem map_towlower_mem_iff (text : List Char) :
    text.map Lowercase.towlower ∈ truthyWords ↔ Truthy text := by
  apply mem_truthyWords_iff
  · intro hAscii
    exact List.map_congr_left fun c hMem => Lowercase.towlower_ascii c (hAscii c hMem)
  · intro c hMem hLarge
    exact ⟨_, List.mem_map_of_mem hMem, Lowercase.towlower_other c hLarge⟩

theorem isTrue_iff (value : String) : isTrue value ↔ Truthy (strip value.toList) := by
  have hMapped :
      strip (value.toList.map Lowercase.towlower) = (strip value.toList).map Lowercase.towlower :=
    stripBy_map Lowercase.isSpace_towlower _
  rw [isTrue, decide_eq_true_eq, substitution_strip, hMapped, map_towlower_mem_iff]

/-- The default makes no difference: it is as untrue as nothing. -/
theorem envBool_iff (environ : String → Option String) (name : String) :
    envBool environ name "false" ↔ Truthy (Text.strip (variableText environ name)) := by
  rw [envBool, decide_eq_true_eq, lower_mem_iff, variableText]
  obtain ⟨hFalse, hEmpty, -, -⟩ := not_truthy_false
  cases environ name with
  | none => exact iff_of_false hFalse hEmpty
  | some value => rfl

theorem isTrue_orDefault (word : Option String) :
    isTrue (orDefault word "false") ↔ isTrue (word.getD "") := by
  rw [isTrue_iff, isTrue_iff]
  obtain ⟨-, -, hFalse, hEmpty⟩ := not_truthy_false
  cases word with
  | none => exact iff_of_false hFalse hEmpty
  | some value =>
      by_cases hValue : value = ""
      · subst hValue
        exact iff_of_false hFalse hEmpty
      · simp [orDefault, hValue]

/-- What the dashboard takes for true, the script does, unless some padding is odd. -/
theorem envBool_iff_isTrue (environ : String → Option String) (name : String) :
    envBool environ name "false" ↔
      isTrue ((environ name).getD "") ∨ Overpadded (variableText environ name) := by
  rw [envBool_iff, truthy_strip_iff, isTrue_iff]
  rfl

theorem sshPasswordAuth_iff (environ : String → Option String) :
    sshPasswordAuth environ ↔
      (isTrue ((environ "SSH_PASSWORD_AUTH").getD "") ∨
        Overpadded (variableText environ "SSH_PASSWORD_AUTH")) ∧
        ∃ c ∈ variableText environ "SSH_PASSWORD", ¬ Text.isSpace c := by
  have hBlank : Text.strip (variableText environ "SSH_PASSWORD") = [] ↔
      ∀ c ∈ variableText environ "SSH_PASSWORD", Text.isSpace c := stripBy_eq_nil_iff _
  rw [sshPasswordAuth, Bool.and_eq_true, envBool_iff_isTrue, decide_eq_true_eq]
  change _ ∧ Text.strip (variableText environ "SSH_PASSWORD") ≠ [] ↔ _
  rw [Ne, hBlank]
  push Not
  rfl

theorem entrypoint_sshd_iff (commands : Commands) (environ : String → Option String) :
    (entrypoint commands environ).sshd ↔ isTrue ((environ "SSH_ENABLED").getD "") := by
  rw [← isTrue_orDefault, entrypoint]
  cases isTrue (orDefault (environ "SSH_ENABLED") "false") <;> simp

theorem entrypoint_passwordAuth_iff (commands : Commands) (environ : String → Option String)
    (hSshd : isTrue ((environ "SSH_ENABLED").getD "")) :
    (entrypoint commands environ).passwordAuth ↔
      isTrue ((environ "SSH_PASSWORD_AUTH").getD "") ∧
        strip (variableText environ "SSH_PASSWORD") ≠ [] ∧
          commands.accept (strip (variableText environ "SSH_PASSWORD")) := by
  have hText :
      (orDefault (environ "SSH_PASSWORD") "").toList = variableText environ "SSH_PASSWORD" := by
    unfold orDefault variableText
    cases environ "SSH_PASSWORD" with
    | none => rfl
    | some value => by_cases hValue : value = "" <;> simp [hValue]
  rw [← isTrue_orDefault] at hSshd
  rw [← isTrue_orDefault, entrypoint, if_pos hSshd, hText, substitution_strip, Commands.accept]
  generalize "debug:".toList ++ strip (variableText environ "SSH_PASSWORD") ++ ['\n'] = line
  simp only [Bool.and_eq_true, decide_eq_true_eq]
  constructor
  · rintro ⟨⟨⟨⟨hKeys, hTrue⟩, hSome⟩, hSet⟩, hSed⟩
    exact ⟨hTrue, hSome, hKeys, hSet, hSed⟩
  · rintro ⟨hTrue, hSome, hKeys, hSet, hSed⟩
    exact ⟨⟨⟨⟨hKeys, hTrue⟩, hSome⟩, hSet⟩, hSed⟩

/-- The dashboard's report is right except in the environments listed by `Differ`. -/
theorem sshReadingsAgree (commands : Commands) (environ : String → Option String) :
    Agree commands environ ↔ ¬ Differ commands environ := by
  have hEnabled := envBool_iff_isTrue environ "SSH_ENABLED"
  have hPadded :
      ∀ name, Overpadded (variableText environ name) → ¬ isTrue ((environ name).getD "") :=
    fun name hPadding hTrue => not_truthy_of_overpadded hPadding ((isTrue_iff _).mp hTrue)
  have hPassword := strip_ne_nil_iff (variableText environ "SSH_PASSWORD")
  unfold Agree
  rw [sshPasswordAuth_iff, entrypoint_sshd_iff, sshEnabled, hEnabled]
  constructor
  · rintro ⟨hSshd, hAuth⟩ hDiffer
    cases hDiffer with
    | enabled padding => exact hPadded _ padding (hSshd.mp (.inr padding))
    | passwordAuth sshd padding password =>
        rw [entrypoint_passwordAuth_iff commands environ sshd] at hAuth
        exact hPadded _ padding ((hAuth sshd).mp ⟨.inr padding, password⟩).1
    | blankPassword sshd passwordAuth blank odd accepted =>
        rw [entrypoint_passwordAuth_iff commands environ sshd] at hAuth
        obtain ⟨-, c, hMem, hNot⟩ :=
          (hAuth sshd).mpr ⟨passwordAuth, hPassword.mpr (.inr ⟨blank, odd⟩), accepted⟩
        exact hNot (blank c hMem)
    | failure sshd passwordAuth password refused =>
        rw [entrypoint_passwordAuth_iff commands environ sshd] at hAuth
        exact refused ((hAuth sshd).mp ⟨.inl passwordAuth, password⟩).2.2
  · intro hSame
    refine ⟨⟨fun h => h.resolve_right fun hPadding => hSame (.enabled hPadding), .inl⟩,
      fun hSshd => ?_⟩
    rw [entrypoint_passwordAuth_iff commands environ hSshd]
    constructor
    · rintro ⟨hAuth, hSome⟩
      have hTrue := hAuth.resolve_right fun hPadding => hSame (.passwordAuth hSshd hPadding hSome)
      refine ⟨hTrue, hPassword.mpr (.inl hSome), ?_⟩
      by_contra hRefused
      exact hSame (.failure hSshd hTrue hSome hRefused)
    · rintro ⟨hTrue, hStripped, hAccepted⟩
      refine ⟨.inl hTrue, ?_⟩
      rcases hPassword.mp hStripped with hSome | ⟨hBlank, hOdd⟩
      · exact hSome
      · exact absurd (.blankPassword hSshd hTrue hBlank hOdd hAccepted) hSame

omit [Lowercase]

/-- Tables for text in ASCII. -/
abbrev Lowercase.ascii : Lowercase where
  toUnicode := .ascii
  lower_other text c hMem hLarge := ⟨c, by
    have hLower : c.toLower ∈ text.map Char.toLower := List.mem_map_of_mem hMem
    rwa [toLower_other hLarge] at hLower, .inl hLarge⟩
  towlower := Char.toLower
  towlower_ascii _ _ := rfl
  towlower_other c hLarge := .inl (by rwa [toLower_other hLarge])
  isSpace_towlower c := by
    by_cases hAscii : c.toNat < 128
    · have hTable : ∀ n < 128, isSpace (Char.ofNat n).toLower = isSpace (Char.ofNat n) := by
        decide +kernel
      simpa using hTable _ hAscii
    · rw [toLower_other (by omega)]

/-- A no-break space before the word. -/
def nbspTrue : String → Option String :=
  fun name => if name = "SSH_ENABLED" then some "\u00a0true" else none

theorem not_agree_nbspTrue :
    ¬ ∀ (tables : Lowercase) (commands : Commands) (environ : String → Option String),
      @Agree tables commands environ := by
  intro h
  have hSshd := (h .ascii ⟨true, fun _ => true, true⟩ nbspTrue).1
  revert hSshd
  decide +kernel

end NodeDebugDashboard.Scripts.Entrypoint
