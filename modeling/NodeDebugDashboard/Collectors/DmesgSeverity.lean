import NodeDebugDashboard.Collectors.DmesgAccounting

/-! Which messages that a critical rule matches are reported under a critical rule. -/
namespace NodeDebugDashboard.Collectors.Dmesg

open Library Library.Python Library.Text Models

section

variable [Unicode]

/-- A rule of severity warning matches the message and stands before all the critical
rules that match it. -/
def Outranked (message : String) : Prop :=
  ∃ (place : Nat) (rule : Rule), rules[place]? = some rule ∧ rule.severity = "warning" ∧
    rule.hits message = true ∧ ∀ (earlier : Nat) (other : Rule), rules[earlier]? = some other →
      earlier < place → other.severity = "critical" → other.hits message = false

theorem severity_cases {rule : Rule} (h : rule ∈ rules) :
    rule.severity = "critical" ∨ rule.severity = "warning" := by
  simp only [rules, List.mem_cons, List.not_mem_nil, or_false] at h
  rcases h with rfl | rfl | rfl | rfl | rfl | rfl | rfl | rfl | rfl <;> simp

/-- The rules at and before the place that a message matches first. -/
theorem matchesFirst_iff {message : String} {place : Nat} : matchesFirst place message = true ↔
    (∃ rule, rules[place]? = some rule ∧ rule.hits message = true) ∧
      ∀ (earlier : Nat) (other : Rule), rules[earlier]? = some other → earlier < place →
        other.hits message = false := by
  rw [matchesFirst, Bool.and_eq_true, Option.any_eq_true, List.all_eq_true]
  refine and_congr Iff.rfl ⟨fun h earlier other hOther hEarlier => ?_, fun h rule hRule => ?_⟩
  · obtain ⟨hLength, rfl⟩ := List.getElem?_eq_some_iff.mp hOther
    have hMem : rules[earlier] ∈ rules.take place :=
      List.mem_take_iff_getElem.mpr ⟨earlier, by omega, rfl⟩
    simpa using h _ hMem
  · obtain ⟨earlier, hEarlier, rfl⟩ := List.mem_take_iff_getElem.mp hRule
    simpa using h earlier _ (List.getElem?_eq_getElem (by omega)) (by omega)

/-- The rule that a message matches first is critical unless the message is outranked. -/
theorem critical_iff {message : String} {place : Nat} {rule : Rule}
    (hPlace : rules[place]? = some rule) (hFirst : matchesFirst place message = true) :
    rule.severity = "critical" ↔ ¬Outranked message := by
  obtain ⟨⟨first, hRule, hHits⟩, hBefore⟩ := matchesFirst_iff.mp hFirst
  cases hPlace.symm.trans hRule
  constructor
  · rintro hCritical ⟨other, warning, hOther, hWarning, hHitsOther, hNone⟩
    rcases Nat.lt_trichotomy other place with hLess | rfl | hMore
    · rw [hBefore other warning hOther hLess] at hHitsOther
      cases hHitsOther
    · cases hOther.symm.trans hPlace
      rw [hCritical] at hWarning
      exact absurd hWarning (by decide)
    · rw [hNone place rule hPlace hMore hCritical] at hHits
      cases hHits
  · intro hNot
    rcases severity_cases (List.mem_of_getElem? hPlace) with hCritical | hWarning
    · exact hCritical
    · exact absurd ⟨place, rule, hPlace, hWarning, hHits, fun earlier other hOther hEarlier _ =>
        hBefore earlier other hOther hEarlier⟩ hNot

theorem exists_matchesFirst {message : String} {rule : Rule} (hMem : rule ∈ rules)
    (hHits : rule.hits message = true) : ∃ place, matchesFirst place message = true := by
  have hSome : (rules.findIdx? fun rule => rule.hits message).isSome = true := by
    rw [List.findIdx?_isSome, List.any_eq_true]
    exact ⟨rule, hMem, hHits⟩
  obtain ⟨place, hPlace⟩ := Option.isSome_iff_exists.mp hSome
  exact ⟨place, findIdx?_eq_some_iff.mp hPlace⟩

/-- A line of the window that a critical rule matches is reported under a critical rule
exactly when no warning rule that matches it stands before all of those. -/
theorem severityDominance_iff {seconds : Seconds} {lines : List String}
    {bootTime cutoff : Option DateTime} {windowHours : Int} {warnings : List NodeWarning}
    {raw message : String} {stamp : Option DateTime}
    (hScan : scan seconds lines bootTime cutoff windowHours = .ok warnings) (hLine : raw ∈ lines)
    (hNotBlank : stripped raw ≠ "")
    (hParsed : parseLine seconds raw bootTime = .ok (stamp, message))
    (hWindow : isOld stamp cutoff = false)
    (hCritical : ∃ rule ∈ rules, rule.severity = "critical" ∧ rule.hits message = true) :
    (∃ place rule sample, rules[place]? = some rule ∧ rule.severity = "critical" ∧
      counts seconds bootTime cutoff place raw = true ∧
        rule.reported windowHours (count seconds lines bootTime cutoff place) sample ∈ warnings) ↔
      ¬Outranked message := by
  obtain ⟨critical, hMem, _, hHits⟩ := hCritical
  obtain ⟨first, hFirst⟩ := exists_matchesFirst hMem hHits
  have hCounts : ∀ place, counts seconds bootTime cutoff place raw = true ↔
      matchesFirst place message = true := by
    intro place
    simp [counts, hNotBlank, hParsed, hWindow]
  constructor
  · rintro ⟨place, rule, _, hRule, hSeverity, hPlace, _⟩
    exact (critical_iff hRule ((hCounts place).mp hPlace)).mp hSeverity
  · intro hNot
    obtain ⟨⟨rule, hRule, _⟩, _⟩ := matchesFirst_iff.mp hFirst
    obtain ⟨samples, rfl⟩ := scan_eq hScan
    refine ⟨first, rule, samples first, hRule, (critical_iff hRule hFirst).mpr hNot,
      (hCounts first).mpr hFirst, ?_⟩
    have hSome : count seconds lines bootTime cutoff first ≠ 0 :=
      (List.countP_pos_iff.mpr ⟨raw, hLine, (hCounts first).mpr hFirst⟩).ne'
    refine List.mem_map.mpr ⟨(rule, first), List.mem_filter.mpr ⟨?_, by simpa using hSome⟩, rfl⟩
    exact List.mk_mem_zipIdx_iff_getElem?.mpr hRule

end

section

attribute [local instance] Unicode.ascii

/-- A line without a stamp, whatever there is behind it. -/
theorem scan_unstamped (raw : String) (hIso : isoMatch raw.toList = none)
    (hMono : monotonicMatch raw.toList = none) :
    parseLine noSeconds raw none = .ok (none, raw) ∧ ∃ warnings,
    scan noSeconds [raw] none none 24 = .ok warnings := by
  have hParsed : parseLine noSeconds raw none = .ok (none, raw) := by
    simp only [parseLine, hIso, hMono]
  obtain ⟨found, hFound⟩ := (hit_isOk_iff none).mpr fun _ => parseLine_isOk_iff.mp ⟨_, hParsed⟩
  obtain ⟨results, hResults⟩ := mapM_isOk_iff.mpr (List.forall_mem_singleton.mpr ⟨found, hFound⟩)
  exact ⟨hParsed, _, bind_eq_ok.mpr ⟨results, hResults, rfl⟩⟩

/-- The line is reported as a disk error, which is critical, and no warning outranks it. -/
theorem severityDominance_iff_diskLine :
    ∃ warnings, scan noSeconds [diskLine] none none 24 = .ok warnings ∧
    ¬Outranked diskLine ∧ ∃ place rule sample, rules[place]? = some rule ∧
      rule.severity = "critical" ∧ counts noSeconds none none place diskLine = true ∧
        rule.reported 24 (count noSeconds [diskLine] none none place) sample ∈ warnings := by
  obtain ⟨hParsed, warnings, hScan⟩ :=
    scan_unstamped diskLine (by decide +kernel) (by decide +kernel)
  have hFirst : matchesFirst 6 diskLine = true := by decide +kernel
  have hPlain : ¬Outranked diskLine := (critical_iff rfl hFirst).mp rfl
  exact ⟨warnings, hScan, hPlain,
    (severityDominance_iff hScan List.mem_cons_self (by decide +kernel) hParsed rfl
    (by decide +kernel)).mpr hPlain⟩

theorem not_severityDominance :
    ¬∀ (lines : List String) (raw message : String) (warnings : List NodeWarning),
    scan noSeconds lines none none 24 = .ok warnings → raw ∈ lines → stripped raw ≠ "" →
      parseLine noSeconds raw none = .ok (none, message) →
        (∃ rule ∈ rules, rule.severity = "critical" ∧ rule.hits message = true) →
          ∃ place rule, rules[place]? = some rule ∧ rule.severity = "critical" ∧
            counts noSeconds none none place raw = true := by
  intro h
  obtain ⟨hParsed, warnings, hScan⟩ :=
    scan_unstamped uncorrectableLine (by decide +kernel) (by decide +kernel)
  obtain ⟨place, rule, hRule, hCritical, hCounts⟩ :=
    h _ uncorrectableLine _ warnings hScan List.mem_cons_self
    (by decide +kernel) hParsed (by decide +kernel)
  have hWarning : counts noSeconds none none 1 uncorrectableLine = true := by decide +kernel
  cases counts_unique hCounts hWarning
  cases hRule
  exact absurd hCritical (by decide)

end

end NodeDebugDashboard.Collectors.Dmesg
