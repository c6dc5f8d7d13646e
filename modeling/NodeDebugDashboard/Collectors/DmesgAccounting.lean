import NodeDebugDashboard.Collectors.Dmesg

/-! What `scan` counts: each line under the first rule that it matches. It counts nothing
when it cannot convert the stamp of a line. -/
namespace NodeDebugDashboard.Collectors.Dmesg

open Library Library.Python Library.Text Models

section

variable [Unicode]

/-- The message matches the rule at the place, and none before it. -/
def matchesFirst (place : Nat) (message : String) : Bool :=
  (rules[place]?.any fun rule => rule.hits message) &&
    (rules.take place).all fun rule => !rule.hits message

/-- Whether a line counts for the rule at the place: it is not blank, not stamped before
the cutoff, and its message matches that rule first. -/
def counts (seconds : Seconds) (bootTime cutoff : Option DateTime) (place : Nat)
    (raw : String) : Bool :=
  stripped raw ≠ "" &&
    match parseLine seconds raw bootTime with
    | .ok (stamp, message) => !isOld stamp cutoff && matchesFirst place message
    | .error _ => false

/-- The number of lines that count for the rule at the place. -/
def count (seconds : Seconds) (lines : List String) (bootTime cutoff : Option DateTime)
    (place : Nat) : Nat :=
  lines.countP (counts seconds bootTime cutoff place)

/-- The warning of a rule that so many lines count for. -/
def Rule.reported (rule : Rule) (windowHours : Int) (lines : Nat) (sample : String) :
    NodeWarning where
  severity := rule.severity
  source := rule.source
  message := rule.label ++ ": " ++ toString lines ++ " in the last " ++ toString windowHours ++
  "h — " ++ sample

/-- The second cutoff is not before the first. -/
def NotBefore : Option DateTime → Option DateTime → Prop
  | none, _ => True
  | some _, none => False
  | some first, some second => first.utc ≤ second.utc

theorem findIdx?_eq_some_iff {message : String} {place : Nat} :
    (rules.findIdx? fun rule => rule.hits message) = some place ↔
    matchesFirst place message = true := by
  rw [List.findIdx?_eq_some_iff_getElem, matchesFirst, Bool.and_eq_true, Option.any_eq_true,
    List.all_eq_true]
  constructor
  · rintro ⟨hPlace, hHits, hBefore⟩
    refine ⟨⟨rules[place], List.getElem?_eq_getElem hPlace, hHits⟩, fun rule hRule => ?_⟩
    obtain ⟨earlier, hEarlier, rfl⟩ := List.mem_take_iff_getElem.mp hRule
    simpa using hBefore earlier (by omega)
  · rintro ⟨⟨rule, hRule, hHits⟩, hBefore⟩
    obtain ⟨hPlace, rfl⟩ := List.getElem?_eq_some_iff.mp hRule
    refine ⟨hPlace, hHits, fun earlier hEarlier => ?_⟩
    have hMem : rules[earlier] ∈ rules.take place :=
      List.mem_take_iff_getElem.mpr ⟨earlier, by omega, rfl⟩
    simpa using hBefore _ hMem

theorem matchesFirst_unique {message : String} {place other : Nat}
    (h : matchesFirst place message = true) (hOther : matchesFirst other message = true) :
    place = other := by
  rw [← findIdx?_eq_some_iff] at h hOther
  rw [h] at hOther
  exact Option.some.inj hOther

theorem counts_unique {seconds : Seconds} {bootTime cutoff : Option DateTime} {place other : Nat}
    {raw : String} (h : counts seconds bootTime cutoff place raw = true)
    (hOther : counts seconds bootTime cutoff other raw = true) : place = other := by
  unfold counts at h hOther
  cases hParsed : parseLine seconds raw bootTime with
  | error error => simp [hParsed] at h
  | ok parsed =>
      simp only [hParsed, Bool.and_eq_true] at h hOther
      exact matchesFirst_unique h.2.2 hOther.2.2

/-- One line: what it adds to the hits of a rule. -/
theorem hit_counts {seconds : Seconds} {bootTime cutoff : Option DateTime} {raw : String}
    {found : Option (Nat × String)} (h : hit seconds bootTime cutoff raw = .ok found)
    (place : Nat) :
    counts seconds bootTime cutoff place raw = true ↔ ∃ message, found = some (place, message) := by
  unfold hit at h
  unfold counts
  by_cases hBlank : stripped raw = ""
  · rw [if_pos hBlank] at h
    cases h
    simp [hBlank]
  · rw [if_neg hBlank] at h
    obtain ⟨⟨stamp, message⟩, hParsed, rfl⟩ := map_eq_ok.mp h
    rw [hParsed]
    cases hOld : isOld stamp cutoff with
    | true => simp [hOld]
    | false => simp [hOld, hBlank, ← findIdx?_eq_some_iff]

theorem length_messagesAt {seconds : Seconds} {bootTime cutoff : Option DateTime}
    {lines : List String} {found : List (Option (Nat × String))}
    (h : lines.mapM (hit seconds bootTime cutoff) = .ok found) (place : Nat) :
    (messagesAt place found).length = count seconds lines bootTime cutoff place := by
  have hAll := mapM_eq_ok h
  clear h
  induction hAll with
  | nil => rfl
  | @cons raw found lines rest hHit _ ih =>
      have hCounts := hit_counts hHit place
      rw [count, List.countP_cons, ← count, ← ih]
      cases found with
      | none => simp_all [messagesAt]
      | some entry =>
          by_cases hPlace : entry.1 = place
          · have hTrue : counts seconds bootTime cutoff place raw = true :=
              hCounts.mpr ⟨entry.2, by rw [← hPlace]⟩
            simp [messagesAt, hPlace, hTrue]
          · have hFalse : ¬counts seconds bootTime cutoff place raw = true := by
              rintro hTrue
              obtain ⟨message, hEntry⟩ := hCounts.mp hTrue
              exact hPlace (congrArg Prod.fst (Option.some.inj hEntry))
            simp [messagesAt, hPlace, hFalse]

omit [Unicode] in
theorem summary_eq (rule : Rule) (windowHours : Int) (messages : List String) :
    rule.summary windowHours messages =
      if messages.length ≠ 0 then
        some (rule.reported windowHours messages.length (sample messages))
      else none := by
  unfold Rule.summary
  cases messages <;> rfl

/-- The warnings of `scan`, by what it counts. -/
theorem scan_eq {seconds : Seconds} {lines : List String} {bootTime cutoff : Option DateTime}
    {windowHours : Int} {warnings : List NodeWarning}
    (h : scan seconds lines bootTime cutoff windowHours = .ok warnings) :
    ∃ samples : Nat → String, warnings =
      (rules.zipIdx.filter fun entry =>
        count seconds lines bootTime cutoff entry.2 ≠ 0).map fun entry =>
          entry.1.reported windowHours (count seconds lines bootTime cutoff entry.2)
            (samples entry.2) := by
  obtain ⟨found, hFound, hWarnings⟩ := bind_eq_ok.mp h
  cases hWarnings
  refine ⟨fun place => sample (messagesAt place found), ?_⟩
  rw [← List.filterMap_eq_filter, List.map_filterMap]
  refine List.filterMap_congr fun entry _ => ?_
  rw [summary_eq, length_messagesAt hFound]
  by_cases hCount : count seconds lines bootTime cutoff entry.2 = 0
  · simp [hCount]
  · simp [hCount]

theorem count_append (seconds : Seconds) (first second : List String)
    (bootTime cutoff : Option DateTime) (place : Nat) :
      count seconds (first ++ second) bootTime cutoff place =
      count seconds first bootTime cutoff place + count seconds second bootTime cutoff place :=
  List.countP_append ..

theorem count_perm {lines other : List String} (h : lines.Perm other) (seconds : Seconds)
    (bootTime cutoff : Option DateTime) (place : Nat) :
    count seconds lines bootTime cutoff place = count seconds other bootTime cutoff place :=
  h.countP_eq _

omit [Unicode] in
theorem isOld_of_notBefore {stamp cutoff later : Option DateTime} (h : NotBefore cutoff later)
    (hOld : isOld stamp cutoff = true) : isOld stamp later = true := by
  cases stamp with
  | none => cases hOld
  | some time =>
      cases cutoff with
      | none => cases hOld
      | some first =>
          cases later with
          | none => cases h
          | some second =>
              simp only [isOld, DateTime.before, decide_eq_true_eq] at hOld ⊢
              exact hOld.trans_le h

theorem count_le {cutoff later : Option DateTime} (h : NotBefore cutoff later) (seconds : Seconds)
    (lines : List String) (bootTime : Option DateTime) (place : Nat) :
    count seconds lines bootTime later place ≤ count seconds lines bootTime cutoff place := by
  refine List.countP_mono_left fun raw _ hCounts => ?_
  unfold counts at hCounts ⊢
  cases hParsed : parseLine seconds raw bootTime with
  | error error => simp [hParsed] at hCounts
  | ok parsed =>
      simp only [hParsed, Bool.and_eq_true, Bool.not_eq_true'] at hCounts ⊢
      obtain ⟨hBlank, hYoung, hFirst⟩ := hCounts
      refine ⟨hBlank, ?_, hFirst⟩
      by_contra hOld
      rw [Bool.not_eq_false] at hOld
      rw [isOld_of_notBefore h hOld] at hYoung
      cases hYoung

/-- The accounts of `scan`: the warnings are those of the rules that lines count for, in
the order of the rules and with the number of lines; a line counts for one rule at most;
and the counts add up over lines that are put together, do not depend on the order of the
lines, and do not grow when the cutoff moves on. -/
theorem dmesgAccounting (seconds : Seconds) (bootTime : Option DateTime) (windowHours : Int) :
    (∀ lines cutoff warnings, scan seconds lines bootTime cutoff windowHours = .ok warnings →
      ∃ samples : Nat → String, warnings =
        (rules.zipIdx.filter fun entry =>
          count seconds lines bootTime cutoff entry.2 ≠ 0).map fun entry =>
            entry.1.reported windowHours (count seconds lines bootTime cutoff entry.2)
              (samples entry.2)) ∧
    (∀ cutoff place other raw, counts seconds bootTime cutoff place raw = true →
      counts seconds bootTime cutoff other raw = true → place = other) ∧
    (∀ first second cutoff place, count seconds (first ++ second) bootTime cutoff place =
      count seconds first bootTime cutoff place + count seconds second bootTime cutoff place) ∧
    (∀ lines other : List String, lines.Perm other → ∀ cutoff place,
      count seconds lines bootTime cutoff place = count seconds other bootTime cutoff place) ∧
    ∀ cutoff later, NotBefore cutoff later → ∀ lines place,
      count seconds lines bootTime later place ≤ count seconds lines bootTime cutoff place :=
  ⟨fun _ _ _ => scan_eq, fun _ _ _ _ => counts_unique, fun _ _ _ _ => count_append ..,
    fun _ _ h _ _ => count_perm h .., fun _ _ h _ _ => count_le h ..⟩

end

section

attribute [local instance] Unicode.ascii

def diskLine : String := "Buffer I/O error on dev sda, logical block 0"

/-- A machine check event, by its tag, that tells of an uncorrectable error. -/
def uncorrectableLine : String := "mce: [Hardware Error]: uncorrectable error"

def noSeconds : Seconds :=
  fun text => .error (.valueError ("could not convert string to float: '" ++ text ++ "'"))

def logLines : List String := [diskLine, "  ", uncorrectableLine, diskLine]

theorem count_logLines :
    (rules.zipIdx.filter fun entry => count noSeconds logLines none none entry.2 ≠ 0).map
      (fun entry => (entry.1.label, entry.2, count noSeconds logLines none none entry.2)) =
      [("Machine check events", 1, 1), ("Disk I/O errors", 6, 2)] := by
  decide +kernel

/-- Two lines about the disk and one about the processor make two warnings, and a blank line
makes none. -/
theorem dmesgAccounting_logLines : ∃ warnings, scan noSeconds logLines none none 24 = .ok warnings ∧
    ∃ samples : Nat → String, warnings.map NodeWarning.message =
      ["Machine check events: 1 in the last 24h — " ++ samples 1,
        "Disk I/O errors: 2 in the last 24h — " ++ samples 6] := by
  have hReturns : (scan noSeconds logLines none none 24).toOption.isSome = true := by decide +kernel
  cases hScan : scan noSeconds logLines none none 24 with
  | error error =>
      rw [hScan] at hReturns
      cases hReturns
  | ok warnings =>
      obtain ⟨samples, hWarnings⟩ := (dmesgAccounting noSeconds none 24).1 _ _ _ hScan
      have hTexts := congrArg (List.map fun entry : String × Nat × Nat =>
        entry.1 ++ ": " ++ toString entry.2.2 ++ " in the last " ++ toString (24 : Int) ++ "h — " ++
          samples entry.2.1) count_logLines
      refine ⟨warnings, rfl, samples, ?_⟩
      rw [List.map_map] at hTexts
      rw [hWarnings, List.map_map]
      exact hTexts

end

section

variable [Unicode]

/-- The message of a line, whatever its stamp is worth. -/
def messageOf (raw : String) : String :=
  match isoMatch raw.toList, monotonicMatch raw.toList with
  | some (_, message), _ => String.ofList message
  | none, some (_, message) => String.ofList message
  | none, none => raw

/-- There is no time in the stamp of the line, if it has one. -/
def Undated (seconds : Seconds) (bootTime : Option DateTime) (raw : String) : Prop :=
  ∀ time message, parseLine seconds raw bootTime ≠ .ok (some time, message)

/-- `scan` returns, and it has matched the lines without a time against the rules. -/
def Total (seconds : Seconds) (lines : List String) (bootTime cutoff : Option DateTime)
    (windowHours : Int) : Prop :=
  (∃ warnings, scan seconds lines bootTime cutoff windowHours = .ok warnings) ∧
    ∀ raw ∈ lines, stripped raw ≠ "" → Undated seconds bootTime raw →
      hit seconds bootTime cutoff raw =
        .ok ((rules.findIdx? fun rule => rule.hits (messageOf raw)).map fun place =>
          (place, stripped (messageOf raw)))

/-- If the line begins with seconds since boot, and the boot time is known, the sum is a
time within the calendar. -/
def Convertible (seconds : Seconds) (bootTime : Option DateTime) (raw : String) : Prop :=
  isoMatch raw.toList = none →
    ∀ stamp message boot, monotonicMatch raw.toList = some (stamp, message) →
    bootTime = some boot → ∃ delta time, seconds (String.ofList stamp) = .ok delta ∧
    boot.add? delta = some time

omit [Unicode] in
theorem parseLine_isOk_iff {seconds : Seconds} {bootTime : Option DateTime} {raw : String} :
    (∃ parsed, parseLine seconds raw bootTime = .ok parsed) ↔ Convertible seconds bootTime raw := by
  unfold parseLine Convertible
  cases hIso : isoMatch raw.toList with
  | some found => simp
  | none =>
      cases hMono : monotonicMatch raw.toList with
      | none => simp
      | some found =>
          obtain ⟨stamp, message⟩ := found
          cases bootTime with
          | none => simp
          | some boot =>
              cases hSeconds : seconds (String.ofList stamp) with
              | error error => simp [hSeconds]
              | ok delta =>
                  cases hTime : boot.add? delta <;> simp [hSeconds, hTime, shift, Except.map]

omit [Unicode] in
theorem parseLine_undated {seconds : Seconds} {bootTime : Option DateTime} {raw : String}
    {parsed : Option DateTime × String} (h : parseLine seconds raw bootTime = .ok parsed)
    (hUndated : Undated seconds bootTime raw) : parsed = (none, messageOf raw) := by
  obtain ⟨stamp, message⟩ := parsed
  cases stamp with
  | some time => exact absurd h (hUndated time message)
  | none =>
      unfold parseLine at h
      unfold messageOf
      cases hIso : isoMatch raw.toList with
      | some found =>
          rw [hIso] at h
          obtain ⟨_, hMessage⟩ := Prod.mk.inj (Except.ok.inj h)
          rw [← hMessage]
      | none =>
          rw [hIso] at h
          cases hMono : monotonicMatch raw.toList with
          | none =>
              rw [hMono] at h
              obtain ⟨_, hMessage⟩ := Prod.mk.inj (Except.ok.inj h)
              rw [← hMessage]
          | some found =>
              rw [hMono] at h
              cases bootTime with
              | none =>
                  obtain ⟨_, hMessage⟩ := Prod.mk.inj (Except.ok.inj h)
                  rw [← hMessage]
              | some boot =>
                  cases hSeconds : seconds (String.ofList found.1) with
                  | error error => simp [hSeconds] at h
                  | ok delta =>
                      simp only [hSeconds] at h
                      obtain ⟨_, _, hTime⟩ := map_eq_ok.mp h
                      cases hTime

theorem hit_isOk_iff {seconds : Seconds} {bootTime : Option DateTime} (cutoff : Option DateTime)
    {raw : String} :
    (∃ found, hit seconds bootTime cutoff raw = .ok found) ↔
      (stripped raw ≠ "" → Convertible seconds bootTime raw) := by
  unfold hit
  by_cases hBlank : stripped raw = ""
  · simp [hBlank]
  · simp only [hBlank, if_false, map_eq_ok, ne_eq, not_false_eq_true, forall_const,
      ← parseLine_isOk_iff]
    exact ⟨fun ⟨_, parsed, hParsed, _⟩ => ⟨parsed, hParsed⟩, fun ⟨parsed, hParsed⟩ =>
      ⟨_, parsed, hParsed, rfl⟩⟩

/-- `scan` is total exactly on the lines whose seconds since boot, if any, can be
converted. -/
theorem dmesgTotality_iff (seconds : Seconds) (lines : List String)
    (bootTime cutoff : Option DateTime) (windowHours : Int) :
      Total seconds lines bootTime cutoff windowHours ↔
      ∀ raw ∈ lines, stripped raw ≠ "" → Convertible seconds bootTime raw := by
  have hScan : (∃ warnings, scan seconds lines bootTime cutoff windowHours = .ok warnings) ↔
      ∀ raw ∈ lines, stripped raw ≠ "" → Convertible seconds bootTime raw := by
    simp only [← hit_isOk_iff cutoff, ← mapM_isOk_iff, scan, bind_eq_ok]
    exact ⟨fun ⟨_, found, hFound, _⟩ => ⟨found, hFound⟩, fun ⟨found, hFound⟩ =>
      ⟨_, found, hFound, rfl⟩⟩
  refine ⟨fun h => hScan.mp h.1, fun h => ⟨hScan.mpr h, fun raw hMem hBlank hUndated => ?_⟩⟩
  obtain ⟨parsed, hParsed⟩ := parseLine_isOk_iff.mpr (h raw hMem hBlank)
  rw [hit, if_neg hBlank, hParsed, parseLine_undated hParsed hUndated]
  rfl

end

section

attribute [local instance] Unicode.ascii

/-- A stamp of 2^38 seconds: a time that is some eight thousand years after the boot. -/
def farLine : String := "[274877906944.0] Buffer I/O error on dev sda"

/-- `timedelta(seconds=float(text))` for this stamp. -/
def farSeconds : Seconds := fun text =>
  if text = "274877906944.0" then .ok (274877906944 * 1000000)
  else .error (.valueError ("could not convert string to float: '" ++ text ++ "'"))

def newYear2026 : DateTime where
  wall := 63902822400000000
  offset := 0
  inRange := by decide

theorem not_dmesgTotality : ¬Total farSeconds [farLine] (some newYear2026) none 24 := by
  rintro ⟨⟨warnings, hWarnings⟩, _⟩
  have hRaised : (scan farSeconds [farLine] (some newYear2026) none 24).toOption = none := by
    decide +kernel
  rw [hWarnings] at hRaised
  cases hRaised

end

end NodeDebugDashboard.Collectors.Dmesg
