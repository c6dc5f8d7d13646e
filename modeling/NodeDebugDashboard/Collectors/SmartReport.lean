import NodeDebugDashboard.Collectors.Smart

/-! What `parse_smart` of app/collectors/storage.py reports: the verdict from the three
places that have a say in it, and the sector counts and the life left from the table of
attributes, whose order does not matter. -/
namespace NodeDebugDashboard.Collectors.Smart

open Library Library.Python Library.Text Models Storage

variable {F : Type}

/-- The drive does not have SMART enabled. -/
def SupportDisabled (json : Json F) : Prop :=
  ∃ support, Json.look "smart_support" (dictOf json) = .obj support ∧
    (Json.field? "enabled" support = some (.bool false) ∨
      Json.field? "enabled" support = none ∧ Json.field? "available" support = some (.bool false))

/-- `smart_status.passed` is a boolean. -/
def StatusPassed (json : Json F) (passed : Bool) : Prop :=
  ∃ status, Json.look "smart_status" (dictOf json) = .obj status ∧
    Json.look "passed" status = .bool passed

/-- The exit status in the output, else that of the process, else 0. -/
def exitStatus (json : Json F) (rc : Option Int) : Int :=
  ((intOf (Json.look "exit_status" (dictOf (Json.look "smartctl" (dictOf json))))).or
    (rc.filter fun status => 0 ≤ status)).getD 0

/-- No `rc` counts as a negative one. -/
theorem effectiveStatus_getD (json : Json F) (rc : Option Int) :
    effectiveStatus json (rc.getD (-1)) = exitStatus json rc := by
  unfold effectiveStatus exitStatusOf exitStatus
  cases intOf (Json.look "exit_status" (dictOf (Json.look "smartctl" (dictOf json)))) with
  | some status => rfl
  | none =>
      cases rc with
      | none => rfl
      | some status => by_cases hStatus : 0 ≤ status <;> simp [Option.filter, hStatus]

theorem disabled_iff {json : Json F} : disabled (dictOf json) = true ↔ SupportDisabled json := by
  unfold disabled SupportDisabled
  cases hSupport : Json.look "smart_support" (dictOf json) with
  | obj support =>
      have hLook : Json.look "available" support = .bool false ↔
          Json.field? "available" support = some (.bool false) := by
        cases hField : Json.field? "available" support <;> simp [Json.look, hField]
      cases hEnabled : Json.field? "enabled" support with
      | none => simp only [hEnabled]; split <;> simp_all
      | some enabled => simp only [hEnabled]; split <;> simp_all
  | _ => simp

theorem passedOf_eq_some_iff {json : Json F} {passed : Bool} :
    passedOf (dictOf json) = some passed ↔ StatusPassed json passed := by
  unfold passedOf StatusPassed
  cases hStatus : Json.look "smart_status" (dictOf json) with
  | obj status => cases hPassed : Json.look "passed" status <;> simp [hPassed]
  | _ => simp

theorem healthPassed_eq_true {data : Fields F} {status : Int}
    (h : healthPassed data status = some true) :
    disabled data = false ∧ bit status 3 = false ∧ passedOf data = some true := by
  unfold healthPassed at h
  split_ifs at h with hDisabled hFailing
  · cases h
  · exact ⟨by simpa using hDisabled, by simpa using hFailing, h⟩

/-- The messages of the bits that are set. -/
theorem issuesOf_eq (status : Int) : issuesOf status =
    ([4, 5, 6, 7].filter fun n => status.testBit n).filterMap fun n => smartctlIssues.lookup n := by
  simp only [issuesOf, smartctlIssues, bit, List.filter_cons, List.filter_nil]
  split_ifs <;> rfl

section

variable [PyFloat F] [Unicode]

/-- A parsed report is available exactly when it has a verdict. -/
theorem smartAvailable_eq {host : Host F} {json : Json F} {devPath : String} {rc : Int}
    {report : SmartHealth} (h : parseSmart host json devPath rc = .ok report) :
    report.smartAvailable = report.healthPassed.isSome := by
  unfold parseSmart at h
  simp only [bind_eq_ok] at h
  obtain ⟨_, _, _, _, hReport⟩ := h
  rw [validated_ok hReport]

/-- Who has the last word on a drive: a support record that says no, then the failing bit of
the exit status, then the status record. -/
theorem smartVerdict {host : Host F} {json : Json F} {devPath : String} {rc : Option Int}
    {report : SmartHealth} (h : parseSmart host json devPath (rc.getD (-1)) = .ok report) :
    (report.smartAvailable = true ↔ report.healthPassed ≠ none) ∧
      (report.healthPassed = some true → StatusPassed json true ∧
        (exitStatus json rc).testBit 3 = false ∧ ¬SupportDisabled json) ∧
      ((exitStatus json rc).testBit 3 = true → ¬SupportDisabled json →
        report.healthPassed = some false) ∧
      (SupportDisabled json → report.healthPassed = none) ∧
      (report.error ≠ none ↔ (exitStatus json rc).testBit 1 = true ∧ report.standby = false) ∧
      (report.standby = true → report.error = none) ∧
      report.smartIssues = ([4, 5, 6, 7].filter fun n => (exitStatus json rc).testBit n).filterMap
        fun n => smartctlIssues.lookup n := by
  obtain ⟨messages, _, _, hHealth, hIssues, hError⟩ := parseSmart_ok h
  rw [effectiveStatus_getD] at hHealth hIssues hError
  rw [← issuesOf_eq]
  refine ⟨?_, fun hPassed => ?_, fun hFailing hEnabled => ?_, fun hDisabled =>
    ?_, ?_, fun hStandby => ?_, hIssues⟩
  · rw [smartAvailable_eq h, Option.isSome_iff_ne_none]
  · obtain ⟨hEnabled, hBit, hStatus⟩ := healthPassed_eq_true (hHealth.symm.trans hPassed)
    refine ⟨passedOf_eq_some_iff.mp hStatus, hBit, fun hDisabled => ?_⟩
    rw [disabled_iff.mpr hDisabled] at hEnabled
    cases hEnabled
  · rw [hHealth, healthPassed_eq_false_iff]
    exact ⟨by rwa [← disabled_iff, Bool.not_eq_true] at hEnabled, .inl hFailing⟩
  · rw [hHealth, healthPassed, if_pos (disabled_iff.mpr hDisabled)]
  · rw [hError, bit]
    split_ifs with hOpen
    · simp [hOpen]
    · simp [hOpen]
  · rw [hError, if_neg]
    simp [hStandby]

end

section

attribute [local instance] Unicode.ascii

/-- A drive that passed, with errors in its log. -/
def passedWithErrors : Json Int :=
  .obj
    [("smartctl", .obj [("exit_status", .int 64)]), ("smart_status", .obj [("passed", .bool true)])]

theorem smartVerdict_passedWithErrors : ∃ report,
    parseSmart unreadable passedWithErrors "/dev/sda" ((none : Option Int).getD (-1)) = .ok report ∧
      (report.smartAvailable = true ↔ report.healthPassed ≠ none) ∧
      report.smartIssues = ["Device error log contains errors"] := by
  obtain ⟨report, hReport⟩ : ∃ report, parseSmart unreadable passedWithErrors "/dev/sda"
    ((none : Option Int).getD (-1)) = .ok report := ⟨_, rfl⟩
  obtain ⟨hAvailable, _, _, _, _, _, hIssues⟩ := smartVerdict hReport
  exact ⟨report, hReport, hAvailable, hIssues⟩

end

/-- The table of attributes, or an empty one. -/
def attributeTable (json : Json F) : List (Json F) :=
  match (Json.field? "table" (dictOf (Json.look "ata_smart_attributes" (dictOf json)))).getD
    (.arr []) with
  | .arr table => table
  | _ => []

def attributeId (attr : Json F) : Option Int := intOf (Json.look "id" (dictOf attr))

/-- The attributes have distinct ids. -/
def DistinctIds (table : List (Json F)) : Prop := (table.filterMap attributeId).Nodup

/-- The first attribute with an id. -/
def withId (n : Int) (table : List (Json F)) : Option (Json F) :=
  table.find? fun attr => attributeId attr = some n

/-- The normalised value of the attribute with an id. -/
def normalisedValue (table : List (Json F)) (n : Int) : Option Int :=
  (withId n table).map fun attr => (intOf (Json.look "value" (dictOf attr))).getD 0

theorem withId_cons (n : Int) (attr : Json F) (rest : List (Json F)) : withId n (attr :: rest) =
    if attributeId attr = some n then some attr else withId n rest := by
  by_cases hId : attributeId attr = some n <;> simp [withId, hId]

theorem DistinctIds.rest {attr : Json F} {rest : List (Json F)} (h : DistinctIds (attr :: rest)) :
    DistinctIds rest :=
  h.sublist ((List.sublist_cons_self _ _).filterMap _)

theorem DistinctIds.withId_rest {attr : Json F} {rest : List (Json F)} {n : Int}
    (h : DistinctIds (attr :: rest)) (hId : attributeId attr = some n) : withId n rest = none := by
  rw [DistinctIds, List.filterMap_cons_some hId, List.nodup_cons] at h
  refine List.find?_eq_none.mpr fun other hMem hOther => h.1 ?_
  exact List.mem_filterMap.mpr ⟨other, hMem, by simpa using hOther⟩

/-- With distinct ids there is at most one attribute to find, wherever it stands. -/
theorem withId_perm {first second : List (Json F)} (hPerm : first.Perm second)
    (hIds : DistinctIds first) (n : Int) : withId n first = withId n second := by
  induction hPerm with
  | nil => rfl
  | cons attr _ ih => rw [withId_cons, withId_cons, ih hIds.rest]
  | swap one other rest =>
      simp only [withId_cons]
      split_ifs with hOther hOne
      · have hNone := hIds.withId_rest hOther
        rw [withId_cons, if_pos hOne] at hNone
        cases hNone
      · rfl
      · rfl
      · rfl
  | trans hFirst _ ihFirst ihSecond =>
      rw [ihFirst hIds, ihSecond (((hFirst.filterMap attributeId).nodup_iff).mp hIds)]

/-- The first of the vendors' ids that the table has decides. -/
def attributeWear (table : List (Json F)) : Option Int :=
  wearAttrs.findSome? (normalisedValue table)

section

variable [PyFloat F]

/-- What a loop over the value runs through, if it can. -/
def entriesOf (value : Json F) : List (Json F) :=
  match Json.eachOrNone value with
  | .ok items => items
  | .error _ => []

/-- The entries of the device statistics, page by page. -/
def statisticsEntries (json : Json F) : List (Json F) :=
  (entriesOf ((Json.field? "pages" (dictOf (Json.look "ata_device_statistics" (dictOf json)))).getD
    (.arr []))).flatMap fun page => entriesOf ((Json.field? "table" (dictOf page)).getD (.arr []))

/-- The value of an endurance indicator. -/
def enduranceUsed (entry : Json F) : Option Int :=
  match Json.look "name" (dictOf entry) with
  | .str name =>
      if name = "Percentage Used Endurance Indicator" then
        intOf (Json.look "value" (dictOf entry))
      else none
  | _ => none

def lifeLeftOf (used : Int) : Int := max 0 (100 - used)

/-- Where the life left comes from, in order of preference. -/
def wearOf (json : Json F) : Option Int :=
  match intOf (Json.look "percentage_used"
      (dictOf (Json.look "nvme_smart_health_information_log" (dictOf json)))) with
  | some used => some (lifeLeftOf used)
  | none =>
      match attributeWear (attributeTable json) with
      | some wear => some wear
      | none => ((statisticsEntries json).filterMap enduranceUsed).getLast?.map lifeLeftOf

theorem entriesOf_eq {value : Json F} {items : List (Json F)}
    (h : Json.eachOrNone value = .ok items) :
    entriesOf value = items := by
  rw [entriesOf, h]

variable [Unicode]

/-- The count at the start of the raw value. -/
def rawCountOf (attr : Json F) : Option Int := rawCount (smartAttribute (dictOf attr)).rawValue

theorem smartAttribute_id_iff {attr : Fields F} {n : Int} (hNonzero : n ≠ 0) :
    (smartAttribute attr).id = n ↔ attributeId (.obj attr) = some n := by
  unfold smartAttribute attributeId
  cases hId : intOf (Json.look "id" attr) with
  | none => simp [dictOf, hId, Ne.symm hNonzero]
  | some id => simp [dictOf, hId]

/-- What one turn of the loop does to the counts and to the table of wear. -/
theorem Found.add_spec (found : Found) (attr : Json F) :
    (found.add attr).reallocated =
        (if attributeId attr = some 5 then rawCountOf attr else found.reallocated) ∧
      (found.add attr).pending =
        (if attributeId attr = some 197 then rawCountOf attr else found.pending) ∧
      (found.add attr).uncorrectable =
        (if attributeId attr = some 198 then rawCountOf attr else found.uncorrectable) ∧
      ∀ n ∈ wearAttrs, (found.add attr).wearById.get? n =
        if attributeId attr = some n then some ((intOf (Json.look "value" (dictOf attr))).getD 0)
        else found.wearById.get? n := by
  cases attr with
  | obj fields =>
      have hIds : ∀ n ≠ 0, attributeId (.obj fields) = some n ↔ (smartAttribute fields).id = n :=
        fun n hNonzero => (smartAttribute_id_iff hNonzero).symm
      have hWear : ∀ n ∈ wearAttrs, n ≠ 0 ∧ n ≠ 5 ∧ n ≠ 197 ∧ n ≠ 198 := by decide
      have hWearIds :
          ∀ n ∈ wearAttrs, attributeId (.obj fields) = some n ↔ (smartAttribute fields).id = n :=
        fun n hMem => hIds n (hWear n hMem).1
      simp only [hIds 5 (by decide), hIds 197 (by decide), hIds 198 (by decide)]
      by_cases hReallocated : (smartAttribute fields).id = 5
      · have hOther : ∀ n ∈ wearAttrs, (5 : Int) ≠ n := by decide
        simp +contextual [Found.add, hReallocated, hWearIds, hOther, rawCountOf, dictOf]
      · by_cases hPending : (smartAttribute fields).id = 197
        · have hOther : ∀ n ∈ wearAttrs, (197 : Int) ≠ n := by decide
          simp +contextual [Found.add, hPending, hWearIds, hOther, rawCountOf, dictOf]
        · by_cases hUncorrectable : (smartAttribute fields).id = 198
          · have hOther : ∀ n ∈ wearAttrs, (198 : Int) ≠ n := by decide
            simp +contextual [Found.add, hUncorrectable, hWearIds, hOther, rawCountOf, dictOf]
          · refine ⟨?_, ?_, ?_, fun n hMem => ?_⟩
            all_goals simp only [Found.add, hReallocated, hPending, hUncorrectable, if_false]
            · split_ifs <;> rfl
            · split_ifs <;> rfl
            · split_ifs <;> rfl
            · simp only [hWearIds n hMem]
              by_cases hId : (smartAttribute fields).id = n
              · rw [if_pos hId, hId, if_pos hMem, Dict.get?_set_self]
                rfl
              · rw [if_neg hId]
                split_ifs
                · rw [Dict.get?_set, if_neg (Ne.symm hId)]
                · rfl
  | _ => exact ⟨rfl, rfl, rfl, fun _ _ => rfl⟩

/-- What a loop leaves in a place that only the attribute with one id writes to. -/
theorem Found.foldl_add {α : Type} (place : Found → α) {value : Json F → α} {n : Int}
    (hStep : ∀ found attr, place (found.add attr) =
      if attributeId attr = some n then value attr else place found)
    {table : List (Json F)} (hIds : DistinctIds table) (found : Found) :
    place (table.foldl Found.add found) = ((withId n table).map value).getD (place found) := by
  induction table generalizing found with
  | nil => rfl
  | cons attr rest ih =>
      rw [List.foldl_cons, ih hIds.rest, hStep, withId_cons]
      split_ifs with hId
      · rw [hIds.withId_rest hId]
        rfl
      · rfl

/-- What the loop has found, read off the table. -/
theorem foundIn_spec (json : Json F) (hIds : DistinctIds (attributeTable json)) :
    (foundIn (dictOf json)).reallocated = (withId 5 (attributeTable json)).bind rawCountOf ∧
      (foundIn (dictOf json)).pending = (withId 197 (attributeTable json)).bind rawCountOf ∧
      (foundIn (dictOf json)).uncorrectable = (withId 198 (attributeTable json)).bind rawCountOf ∧
      (foundIn (dictOf json)).wear = attributeWear (attributeTable json) := by
  have hFound : foundIn (dictOf json) = (attributeTable json).foldl Found.add {} := by
    unfold foundIn attributeTable
    split <;> simp_all
  have hBind :
      ∀ attr : Option (Json F), (attr.map rawCountOf).getD none = attr.bind rawCountOf := by
    intro attr
    cases attr <;> rfl
  rw [hFound]
  refine ⟨?_, ?_, ?_, ?_⟩
  · rw [Found.foldl_add Found.reallocated (fun found attr => (found.add_spec attr).1) hIds]
    exact hBind _
  · rw [Found.foldl_add Found.pending (fun found attr => (found.add_spec attr).2.1) hIds]
    exact hBind _
  · rw [Found.foldl_add Found.uncorrectable (fun found attr => (found.add_spec attr).2.2.1) hIds]
    exact hBind _
  · rw [Found.wear, attributeWear, ← List.head?_filterMap, ← List.head?_filterMap]
    refine congrArg _ (List.filterMap_congr fun n hMem => ?_)
    rw [Found.foldl_add (fun found => found.wearById.get? n)
      (fun found attr => (found.add_spec attr).2.2.2 n hMem) hIds, normalisedValue]
    cases withId n (attributeTable json) <;> rfl

omit [PyFloat F] [Unicode] in
theorem wearEntry_eq (wear : Option Int) (entry : Json F) :
    wearEntry wear entry = ((enduranceUsed entry).map lifeLeftOf).or wear := by
  unfold wearEntry enduranceUsed lifeLeftOf
  cases intOf (Json.look "value" (dictOf entry)) with
  | none => cases Json.look "name" (dictOf entry) <;> simp
  | some used =>
      cases Json.look "name" (dictOf entry) with
      | str name => simp only; split_ifs <;> rfl
      | _ => rfl

omit [PyFloat F] [Unicode] in
/-- The last endurance indicator stays. -/
theorem foldl_wearEntry (wear : Option Int) (entries : List (Json F)) :
    entries.foldl wearEntry wear =
    ((entries.filterMap enduranceUsed).getLast?.map lifeLeftOf).or wear := by
  induction entries generalizing wear with
  | nil => rfl
  | cons entry rest ih =>
      rw [List.foldl_cons, ih, wearEntry_eq]
      cases hUsed : enduranceUsed entry with
      | none => rw [List.filterMap_cons_none hUsed]; rfl
      | some used =>
          rw [List.filterMap_cons_some hUsed, List.getLast?_cons]
          cases (rest.filterMap enduranceUsed).getLast? <;> rfl

omit [Unicode] in
theorem wearPage_eq {wear result : Option Int} {page : Json F}
    (h : wearPage wear page = .ok result) :
    result =
      (entriesOf ((Json.field? "table" (dictOf page)).getD (.arr []))).foldl wearEntry wear := by
  obtain ⟨entries, hEntries, hResult⟩ := bind_eq_ok.mp h
  cases hResult
  rw [entriesOf_eq hEntries]

omit [Unicode] in
theorem foldlM_wearPage {pages : List (Json F)} {wear result : Option Int}
    (h : pages.foldlM wearPage wear = .ok result) : result = (pages.flatMap fun page =>
      entriesOf ((Json.field? "table" (dictOf page)).getD (.arr []))).foldl wearEntry wear := by
  induction pages generalizing wear with
  | nil =>
      cases h
      rfl
  | cons page rest ih =>
      rw [List.foldlM_cons] at h
      obtain ⟨next, hNext, hRest⟩ := bind_eq_ok.mp h
      rw [ih hRest, wearPage_eq hNext, List.flatMap_cons, List.foldl_append]

omit [Unicode] in
theorem wearStatistics_eq {json : Json F} {wear : Option Int}
    (h : wearStatistics (dictOf json) = .ok wear) :
    wear = ((statisticsEntries json).filterMap enduranceUsed).getLast?.map lifeLeftOf := by
  obtain ⟨pages, hPages, hWear⟩ := bind_eq_ok.mp h
  rw [foldlM_wearPage hWear, foldl_wearEntry, statisticsEntries, entriesOf_eq hPages,
    Option.or_none]

/-- The counts and the life left. -/
def summary (report : SmartHealth) : Option Int × Option Int × Option Int × Option Int :=
  (report.reallocatedSectors, report.pendingSectors, report.offlineUncorrectable,
   report.wearLevelingPercent)

/-- Two outputs that differ in the table of attributes only. -/
def SameButTable (first second : Json F) : Prop :=
  ∀ key, key ≠ "ata_smart_attributes" →
    Json.field? key (dictOf first) = Json.field? key (dictOf second)

omit [PyFloat F] [Unicode] in
theorem SameButTable.look {first second : Json F} (h : SameButTable first second) {key : String}
    (hKey : key ≠ "ata_smart_attributes") :
    Json.look key (dictOf first) = Json.look key (dictOf second) := by
  rw [Json.look, Json.look, h key hKey]

omit [PyFloat F] [Unicode] in
theorem attributeWear_perm {first second : List (Json F)} (hPerm : first.Perm second)
    (hIds : DistinctIds first) : attributeWear first = attributeWear second := by
  have hValues : normalisedValue first = normalisedValue second :=
    funext fun n => by rw [normalisedValue, normalisedValue, withId_perm hPerm hIds]
  rw [attributeWear, attributeWear, hValues]

/-- The life left comes from the table, or from what both outputs share. -/
theorem lifeLeft_eq {first second : Json F} (hSame : SameButTable first second)
    (hPerm : (attributeTable first).Perm (attributeTable second))
    (hIds : DistinctIds (attributeTable first)) :
    lifeLeft (dictOf first) = lifeLeft (dictOf second) := by
  have hSecond : DistinctIds (attributeTable second) :=
    ((hPerm.filterMap attributeId).nodup_iff).mp hIds
  have hStatistics : wearStatistics (dictOf first) = wearStatistics (dictOf second) := by
    rw [wearStatistics, wearStatistics, hSame.look (by decide)]
  rw [lifeLeft, lifeLeft, (foundIn_spec first hIds).2.2.2, (foundIn_spec second hSecond).2.2.2,
    attributeWear_perm hPerm hIds, hStatistics]

theorem parseSmart_wear {host : Host F} {json : Json F} {devPath : String} {rc : Int}
    {report : SmartHealth} (h : parseSmart host json devPath rc = .ok report)
    (hIds : DistinctIds (attributeTable json)) : report.wearLevelingPercent = wearOf json := by
  unfold parseSmart at h
  simp only [bind_eq_ok] at h
  obtain ⟨_, _, wear, hWear, hReport⟩ := h
  have hLeft : wear = (attributeWear (attributeTable json)).or
      (((statisticsEntries json).filterMap enduranceUsed).getLast?.map lifeLeftOf) := by
    unfold lifeLeft at hWear
    rw [(foundIn_spec json hIds).2.2.2] at hWear
    cases hAttribute : attributeWear (attributeTable json) with
    | some value =>
        rw [hAttribute] at hWear
        cases hWear
        rfl
    | none =>
        rw [hAttribute] at hWear
        exact wearStatistics_eq hWear
  rw [validated_ok hReport, hLeft, wearOf]
  cases intOf (Json.look "percentage_used"
      (dictOf (Json.look "nvme_smart_health_information_log" (dictOf json)))) with
  | some used => rfl
  | none => cases attributeWear (attributeTable json) <;> rfl

omit [PyFloat F] [Unicode] in
theorem validated_map {α β : Type} (host : Host F) (model : String)
    (rejected : List (String × Json F)) (value : α) (f : α → β) :
    (validated host model rejected value).map f = validated host model rejected (f value) := by
  unfold validated
  split_ifs <;> rfl

omit [PyFloat F] [Unicode] in
theorem healthPassed_eq {first second : Json F} (hSame : SameButTable first second) (status : Int) :
    healthPassed (dictOf first) status = healthPassed (dictOf second) status := by
  rw [healthPassed, healthPassed, disabled, disabled, passedOf, passedOf, hSame.look (by decide),
    hSame.look (by decide)]

/-- The order of the attributes does not matter, and the life left comes from the first
place that has it. -/
theorem smartSummary {host : Host F} {first second : Json F} {devPath : String} {rc : Option Int}
    (hSame : SameButTable first second)
    (hPerm : (attributeTable first).Perm (attributeTable second))
    (hIds : DistinctIds (attributeTable first)) :
    (parseSmart host first devPath (rc.getD (-1))).map summary =
        (parseSmart host second devPath (rc.getD (-1))).map summary ∧
      ∀ report, parseSmart host first devPath (rc.getD (-1)) = .ok report →
        report.wearLevelingPercent = wearOf first := by
  have hSecond : DistinctIds (attributeTable second) :=
    ((hPerm.filterMap attributeId).nodup_iff).mp hIds
  obtain ⟨hReallocated, hPending, hUncorrectable, _⟩ := foundIn_spec first hIds
  obtain ⟨hReallocated', hPending', hUncorrectable', _⟩ := foundIn_spec second hSecond
  rw [← withId_perm hPerm hIds] at hReallocated' hPending' hUncorrectable'
  refine ⟨?_, fun report hReport => parseSmart_wear hReport hIds⟩
  have hLook : ∀ key, key ≠ "ata_smart_attributes" →
      Json.look key (dictOf first) = Json.look key (dictOf second) := fun _ hKey => hSame.look hKey
  unfold parseSmart
  dsimp only
  rw [hLook "smartctl" (by decide), hLook "nvme_smart_health_information_log" (by decide),
    hLook "model_name" (by decide), hLook "model_family" (by decide),
    hLook "scsi_model_name" (by decide), hLook "serial_number" (by decide),
    hLook "scsi_grown_defect_list" (by decide), lifeLeft_eq hSame hPerm hIds, healthPassed_eq hSame]
  cases messagesOf (dictOf (Json.look "smartctl" (dictOf second))) with
  | error error => rfl
  | ok messages =>
      cases lifeLeft (dictOf second) with
      | error error => rfl
      | ok wear =>
          refine (validated_map _ _ _ _ _).trans (Eq.trans ?_ (validated_map _ _ _ _ _).symm)
          simp only [summary, hReallocated, hPending, hUncorrectable, hReallocated', hPending',
            hUncorrectable']

end

section

attribute [local instance] Unicode.ascii

/-- Two attributes, in either order. -/
def twoAttributes (swapped : Bool) : Json Int :=
  let reallocated : Json Int := .obj [("id", .int 5), ("raw", .obj [("string", .str "3")])]
  let worn : Json Int := .obj [("id", .int 177), ("value", .int 98)]
  .obj [("ata_smart_attributes",
    .obj [("table", .arr (if swapped then [worn, reallocated] else [reallocated, worn]))])]

theorem parseSmart_twoAttributes (swapped : Bool) :
    ∃ report, parseSmart unreadable (twoAttributes swapped) "/dev/sda" 0 = .ok report ∧
      summary report = (some 3, none, none, some 98) := by
  cases swapped with
  | false => exact ⟨_, rfl, rfl⟩
  | true => exact ⟨_, rfl, rfl⟩

/-- The drive has three reallocated sectors and 98 percent of its life left. -/
theorem smartSummary_twoAttributes : ∃ report,
    parseSmart unreadable (twoAttributes false) "/dev/sda" ((some 0 : Option Int).getD (-1)) =
      .ok report ∧
      summary report = (some 3, none, none, some 98) ∧
      report.wearLevelingPercent = wearOf (twoAttributes false) ∧ .ok (summary report) =
        (parseSmart unreadable (twoAttributes true) "/dev/sda"
          ((some 0 : Option Int).getD (-1))).map summary := by
  obtain ⟨report, hReport, hSummary⟩ := parseSmart_twoAttributes false
  have hSame : SameButTable (twoAttributes false) (twoAttributes true) :=
    fun key hKey => by simp [twoAttributes, dictOf, Json.field?, Ne.symm hKey]
  have hIds : DistinctIds (attributeTable (twoAttributes false)) :=
    show ([5, 177] : List Int).Nodup by decide
  obtain ⟨hSwapped, hWear⟩ :=
    @smartSummary Int _ _ unreadable _ _ "/dev/sda" (some 0) hSame (.swap _ _ _) hIds
  refine ⟨report, hReport, hSummary, hWear report hReport, ?_⟩
  rw [← hSwapped]
  exact (congrArg (Except.map summary) hReport).symm

end

end NodeDebugDashboard.Collectors.Smart
