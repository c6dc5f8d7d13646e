import NodeDebugDashboard.Library.Templates

/-! The names that the chart gives its objects, and when two releases share the name
of their ClusterRole and ClusterRoleBinding. -/
namespace NodeDebugDashboard.Chart

open Library.Templates

/-- The values that have a say in the names. -/
structure NameValues where
  nameOverride : String := ""
  fullnameOverride : String := ""

def chartName : String := "node-debug-dashboard"

/-- A DNS label, of whatever length. -/
def isLabel (text : List Char) : Bool :=
  text ≠ [] && text.all (fun c => c.isLower || c.isDigit || c = '-') &&
    text.head? ≠ some '-' && text.getLast? ≠ some '-'

/-- A release that Helm accepts, in a namespace that Kubernetes accepts. -/
@[ext] structure Release where
  releaseNamespace : String
  releaseName : String
  namespace_label : isLabel releaseNamespace.toList
  namespace_length : releaseNamespace.toList.length ≤ 63
  name_labels : (releaseName.toList.splitOn '.').all isLabel
  name_length : releaseName.toList.length ≤ 53

/-- `node-debug-dashboard.fullname` -/
def fullname (values : NameValues) (release : Release) : String :=
  if values.fullnameOverride ≠ "" then trimSuffix "-" (trunc 63 values.fullnameOverride)
  else
    let name := defaultTo chartName values.nameOverride
    if contains name release.releaseName then trimSuffix "-" (trunc 63 release.releaseName)
    else trimSuffix "-" (trunc 63 (release.releaseName ++ "-" ++ name))

/-- `node-debug-dashboard.clusterName` -/
def clusterName (values : NameValues) (release : Release) : String :=
  release.releaseNamespace ++ "-" ++ fullname values release

/-- `node-debug-dashboard.secretName` -/
def secretName (values : NameValues) (release : Release) : String :=
  trimSuffix "-" (trunc 63 (fullname values release ++ "-credentials"))

theorem getLast?_ne_of_isLabel {text : List Char} (h : isLabel text) :
    text.getLast? ≠ some '-' := by
  simp only [isLabel, Bool.and_eq_true, decide_eq_true_eq] at h
  exact h.2

/-- A text ends as the last of its parts does. -/
theorem getLast?_intercalate {parts : List (List Char)} (hParts : parts ≠ [])
    (hLabels : ∀ part ∈ parts, isLabel part) :
    (['.'].intercalate parts).getLast? ≠ some '-' := by
  induction parts with
  | nil => exact absurd rfl hParts
  | cons part rest ih =>
      cases rest with
      | nil =>
          rw [List.intercalate_singleton]
          exact getLast?_ne_of_isLabel (hLabels part (by simp))
      | cons next rest =>
          have hRest := ih (List.cons_ne_nil _ _) fun p hp => hLabels p (List.mem_cons_of_mem _ hp)
          rw [List.intercalate_cons_cons, List.getLast?_append]
          cases hLast : (['.'].intercalate (next :: rest)).getLast? with
          | some c =>
              rw [hLast] at hRest
              simpa using hRest
          | none => simp

theorem Release.releaseName_getLast? (release : Release) :
    release.releaseName.toList.getLast? ≠ some '-' := by
  have hJoined :
      ['.'].intercalate (release.releaseName.toList.splitOn '.') = release.releaseName.toList :=
    List.intercalate_splitOn '.'
  rw [← hJoined]
  exact getLast?_intercalate (List.splitOn_ne_nil _ _) (List.all_eq_true.mp release.name_labels)

theorem Release.releaseNamespace_getLast? (release : Release) :
    release.releaseNamespace.toList.getLast? ≠ some '-' :=
  getLast?_ne_of_isLabel release.namespace_label

/-- The letters of `chartName`. -/
def word : List Char :=
  ['n', 'o', 'd', 'e', '-', 'd', 'e', 'b', 'u', 'g', '-', 'd', 'a', 's', 'h', 'b', 'o',
   'a', 'r', 'd']

theorem dash_toList : "-".toList = ['-'] := by decide +kernel

theorem chartName_toList : chartName.toList = word := by decide +kernel

/-- What `fullname` puts after a release name without the chart's name. -/
def border : List Char := '-' :: word

/-- What `trunc` and `trimSuffix` leave of it. -/
def rest (length : Nat) : List Char := dropSuffix ['-'] (border.take (63 - length))

/-- `fullname` on the letters of a release name. -/
def full (name : List Char) : List Char := if word <:+: name then name else name ++ rest name.length

theorem contains_chartName (name : String) :
    contains chartName name = decide (word <:+: name.toList) := by
  rw [contains, chartName_toList]

/-- With the default values only the chart's name comes in. -/
theorem fullname_default (release : Release) :
    fullname {} release =
      if contains chartName release.releaseName then trimSuffix "-" (trunc 63 release.releaseName)
      else trimSuffix "-" (trunc 63 (release.releaseName ++ "-" ++ chartName)) := by
  simp [fullname, defaultTo]

theorem fullname_toList (release : Release) :
    (fullname {} release).toList = full release.releaseName.toList := by
  have hLength := release.name_length
  have hTaken : release.releaseName.toList.take 63 = release.releaseName.toList :=
    List.take_of_length_le (by omega)
  have hTail :
      (release.releaseName ++ "-" ++ chartName).toList = release.releaseName.toList ++ border := by
    rw [String.toList_append, String.toList_append, dash_toList, chartName_toList,
      List.append_assoc]
    rfl
  rw [fullname_default, contains_chartName, full]
  by_cases hNamed : word <:+: release.releaseName.toList
  · rw [if_pos hNamed, if_pos (decide_eq_true hNamed), toList_trimSuffix, toList_trunc,
      hTaken, dash_toList]
    exact dropSuffix_of_getLast?_ne release.releaseName_getLast?
  · rw [if_neg hNamed, if_neg (by simpa using hNamed), toList_trimSuffix, toList_trunc,
      hTail, dash_toList, List.take_append, hTaken]
    apply dropSuffix_append
    simp [border, word]
    omega

/-- The part of the border that `fullname` keeps of it for any release name. -/
def stub : List Char := ['-', 'n', 'o', 'd', 'e', '-', 'd', 'e', 'b', 'u']

theorem rest_of_border (n : Nat) : rest n <+: border := by
  unfold rest dropSuffix
  split_ifs
  · exact (List.take_prefix _ _).trans (List.take_prefix _ _)
  · exact List.take_prefix _ _

theorem stub_in_rest : ∀ n ≤ 53, stub <+: rest n := by decide +kernel

theorem rest_of_short : ∀ n ≤ 42, rest n = border := by decide +kernel

theorem rest_of_long : ∀ n ≤ 53, 42 < n → rest n ≠ border ∧ 53 < n + (rest n).length := by
  decide +kernel

/-- A dash at the cut goes too. -/
theorem length_rest_of_long :
    ∀ n ≤ 53, 42 < n → (rest n).length ≤ 63 - n ∧ 63 - n ≤ (rest n).length + 1 := by
  decide +kernel

/-- Only release names that are cut short at the same place have the same rest. -/
theorem rest_inj : ∀ n ≤ 53, ∀ m, m + 1 < n → rest n = rest m → n ≤ 42 := by
  intro n hn m hm hSame
  by_contra hLong
  rcases Nat.lt_or_ge 42 m with hOther | hShort
  · have hLengthN := (length_rest_of_long n hn (by omega)).1
    have hLengthM := (length_rest_of_long m (by omega) hOther).2
    rw [hSame] at hLengthN
    omega
  · rw [rest_of_short m hShort] at hSame
    exact (rest_of_long n hn (by omega)).1 hSame

/-- The stub starts the border and occurs nowhere else in it. -/
theorem stub_once {front back : List Char} (h : front ++ back <+: border) (hStub : stub <+: back) :
    front = [] := by
  have hOffsets : ∀ k ≤ 21, stub <+: border.drop k → k = 0 := by decide +kernel
  have hLength : front.length ≤ 21 := by
    have hWhole := h.length_le
    simp [border, word] at hWhole
    omega
  have hBack : back <+: border.drop front.length := by
    obtain ⟨after, hAfter⟩ := h
    exact ⟨after, by rw [← hAfter, List.append_assoc, List.drop_left]⟩
  exact List.eq_nil_of_length_eq_zero (hOffsets _ hLength (hStub.trans hBack))

/-- The chart's name occurs in a name with a part of the border only as the end of the
whole border. -/
theorem eq_border_of_word {name tail : List Char} (h : word <:+: name ++ tail)
    (hName : ¬ word <:+: name) (hTail : tail <+: border) : tail = border := by
  have hInside : word <:+: tail := by
    rcases infix_append_cases h hName with hInside | ⟨front, back, hFront, hBack, hWord, hPrefix⟩
    · exact hInside
    · have hSplits : ∀ k ≤ 20, 0 < k → k < 20 → ¬ word.drop k <+: border := by decide +kernel
      have hLength : front.length + back.length = 20 := by
        rw [← List.length_append, ← hWord]
        rfl
      have hFrontPos := List.length_pos_iff.mpr hFront
      have hBackPos := List.length_pos_iff.mpr hBack
      have hDrop : word.drop front.length = back := by rw [hWord, List.drop_left]
      exact absurd (hDrop ▸ hPrefix.trans hTail)
        (hSplits front.length (by omega) hFrontPos (by omega))
  have hPrefixes : ∀ k ≤ 21, word <:+: border.take k → k = 21 := by decide +kernel
  have hTake : tail = border.take tail.length := List.prefix_iff_eq_take.mp hTail
  have hLength := hTail.length_le
  have hWhole : tail.length = 21 :=
    hPrefixes tail.length (by simpa [border, word] using hLength) (hTake ▸ hInside)
  rw [hTake, hWhole]
  rfl

/-- How a release name is made of a lead and another release name, when both get the
same full name but for the lead. -/
def Extends (lead name other : List Char) : Prop :=
  (word <:+: other ∧ name = lead ++ other) ∨
    (¬ word <:+: name ∧ name.length ≤ 42 ∧ name = lead ++ other) ∨
    (¬ word <:+: other ∧ name = lead ++ other ++ border) ∨
    (¬ word <:+: name ∧ word <:+: other ∧ name.length ≤ 42 ∧ name ++ border = lead ++ other)

theorem full_of_word {name : List Char} (h : word <:+: name) : full name = name := if_pos h

theorem full_of_not_word {name : List Char} (h : ¬ word <:+: name) :
    full name = name ++ rest name.length :=
  if_neg h

theorem word_border : word <:+: border := ⟨['-'], [], rfl⟩

/-- The four cases are those of a name with the chart's name in it and one without. -/
theorem full_eq_append_iff {lead name other : List Char} (hName : name.length ≤ 53)
    (hOther : other.length ≤ 53) (hLead : lead.length ≠ 1) (hApart : lead = [] → name ≠ other) :
    full name = lead ++ full other ↔ Extends lead name other := by
  have hBorder : border.length = 21 := rfl
  by_cases hN : word <:+: name <;> by_cases hO : word <:+: other
  · rw [full_of_word hN, full_of_word hO]
    simp [Extends, hN, hO]
  · rw [full_of_word hN, full_of_not_word hO]
    simp only [Extends, hN, hO, not_true, not_false_iff, true_and, false_and, false_or, or_false]
    rw [List.append_assoc]
    constructor
    · intro hEq
      have hLengths := congrArg List.length hEq
      simp only [List.length_append] at hLengths
      have hShort : other.length ≤ 42 := by
        by_contra hLong
        have hRest := (rest_of_long other.length hOther (by omega)).2
        omega
      rwa [rest_of_short _ hShort] at hEq
    · intro hEq
      have hLengths := congrArg List.length hEq
      simp only [List.length_append, hBorder] at hLengths
      rw [rest_of_short _ (by omega)]
      exact hEq
  · rw [full_of_not_word hN, full_of_word hO]
    have hNot : name ≠ lead ++ other :=
      fun hEq => hN (hEq ▸ hO.trans (List.suffix_append _ _).isInfix)
    simp only [Extends, hN, hO, hNot, not_true, not_false_iff, true_and, false_and,
      and_false, false_or]
    constructor
    · intro hEq
      have hInside : word <:+: name ++ rest name.length :=
        hEq ▸ hO.trans (List.suffix_append _ _).isInfix
      have hRest := eq_border_of_word hInside hN (rest_of_border _)
      have hShort : name.length ≤ 42 := by
        by_contra hLong
        exact (rest_of_long name.length hName (by omega)).1 hRest
      exact ⟨hShort, hRest ▸ hEq⟩
    · rintro ⟨hShort, hEq⟩
      rw [rest_of_short _ hShort]
      exact hEq
  · rw [full_of_not_word hN, full_of_not_word hO]
    have hNot : name ≠ lead ++ other ++ border := fun hEq =>
      hN (hEq ▸ word_border.trans (List.suffix_append _ _).isInfix)
    simp only [Extends, hN, hO, hNot, not_false_iff, true_and, false_and, and_false,
      false_or, or_false]
    constructor
    · intro hEq
      rw [← List.append_assoc] at hEq
      have hSame : name = lead ++ other ∧ rest name.length = rest other.length := by
        rcases List.append_eq_append_iff.mp hEq with ⟨gap, hGap, hRest⟩ | ⟨gap, hGap, hRest⟩
        · have hNil := stub_once (hRest ▸ rest_of_border _) (stub_in_rest _ hOther)
          subst hNil
          exact ⟨by simpa using hGap.symm, hRest⟩
        · have hNil := stub_once (hRest ▸ rest_of_border _) (stub_in_rest _ hName)
          subst hNil
          exact ⟨by simpa using hGap, hRest.symm⟩
      obtain ⟨rfl, hRests⟩ := hSame
      refine ⟨?_, rfl⟩
      rcases Nat.lt_or_ge lead.length 2 with hSmall | hLarge
      · have hNil : lead = [] := List.eq_nil_of_length_eq_zero (by omega)
        subst hNil
        exact absurd rfl (hApart rfl)
      · exact rest_inj _ hName other.length (by simp; omega) hRests
    · rintro ⟨hShort, rfl⟩
      simp only [List.length_append] at hShort
      rw [rest_of_short _ (by simp; omega), rest_of_short _ (by omega), List.append_assoc]

/-- The namespace of one release goes on where that of the other ends, and the release
name of the other makes up for it; or the namespace is the same, and one release name has
the chart's name appended. -/
def Clash (a b : Release) : Prop :=
  ∃ lead : List Char,
    b.releaseNamespace.toList ++ ['-'] = a.releaseNamespace.toList ++ ['-'] ++ lead ∧
      Extends lead a.releaseName.toList b.releaseName.toList

theorem clusterName_toList (release : Release) :
    (clusterName {} release).toList =
      release.releaseNamespace.toList ++ ['-'] ++ full release.releaseName.toList := by
  rw [clusterName, String.toList_append, String.toList_append, fullname_toList, dash_toList]

/-- The shorter namespace decides which release name is the longer one. -/
theorem clash_iff {a b : Release} (h : a ≠ b) :
    Clash a b ↔ ∃ lead,
      b.releaseNamespace.toList ++ ['-'] = a.releaseNamespace.toList ++ ['-'] ++ lead ∧
        full a.releaseName.toList = lead ++ full b.releaseName.toList := by
  apply exists_congr
  intro lead
  apply and_congr_right
  intro hNamespace
  symm
  apply full_eq_append_iff a.name_length b.name_length
  · intro hOne
    obtain ⟨c, rfl⟩ := List.length_eq_one_iff.mp hOne
    obtain ⟨hEnd, -⟩ := List.append_inj' hNamespace rfl
    exact b.releaseNamespace_getLast? (by simp [hEnd])
  · rintro rfl hSame
    apply h
    apply Release.ext
    · apply String.toList_inj.mp
      simpa using hNamespace.symm
    · exact String.toList_inj.mp hSame

theorem clusterName_eq_iff {a b : Release} (h : a ≠ b) :
    clusterName {} a = clusterName {} b ↔ Clash a b ∨ Clash b a := by
  rw [← String.toList_inj, clusterName_toList, clusterName_toList, List.append_eq_append_iff,
    clash_iff h, clash_iff h.symm]

/-- The cluster-scoped names of two releases differ unless the two clash. -/
theorem clusterName_ne_iff {a b : Release} (h : a ≠ b) :
    clusterName {} a ≠ clusterName {} b ↔ ¬ (Clash a b ∨ Clash b a) :=
  not_congr (clusterName_eq_iff h)

/-- Releases of one name in different namespaces do not clash. -/
theorem clusterName_of_same_name {a b : Release} (hName : a.releaseName = b.releaseName)
    (h : clusterName {} a = clusterName {} b) : a = b := by
  apply Release.ext _ hName
  have hLists := congrArg String.toList h
  rw [clusterName_toList, clusterName_toList, hName] at hLists
  apply String.toList_inj.mp
  exact List.append_left_injective ['-'] (List.append_left_injective _ hLists)

/-- A release `c` in the namespace `a-b`. -/
def dashedNamespace : Release :=
  ⟨"a-b", "c", by decide +kernel, by decide +kernel, by decide +kernel, by decide +kernel⟩

/-- A release `b-c` in the namespace `a`. -/
def dashedName : Release :=
  ⟨"a", "b-c", by decide +kernel, by decide +kernel, by decide +kernel, by decide +kernel⟩

theorem dashedNamespace_ne_dashedName : dashedNamespace ≠ dashedName := by
  intro hSame
  exact absurd (congrArg Release.releaseName hSame) (by decide)

theorem clusterName_dashed :
    ¬ ∀ a b : Release, a ≠ b → clusterName {} a ≠ clusterName {} b :=
  fun h => h _ _ dashedNamespace_ne_dashedName (by decide +kernel)

theorem clusterName_ne_iff_dashed :
    clusterName {} dashedNamespace ≠ clusterName {} dashedName ↔
      ¬ (Clash dashedNamespace dashedName ∨ Clash dashedName dashedNamespace) :=
  clusterName_ne_iff dashedNamespace_ne_dashedName

end NodeDebugDashboard.Chart
