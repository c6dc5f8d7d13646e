import Mathlib.Data.Int.Bitwise
import NodeDebugDashboard.Collectors.Storage
import NodeDebugDashboard.Library.Dict
import NodeDebugDashboard.Library.Pattern

/-! `parse_smart`, `collect_smart_for_device` and `collect_all_smart` of
app/collectors/storage.py. -/
namespace NodeDebugDashboard.Collectors.Smart

open Library Library.Python Library.Text Models Storage

/-- The fields of a JSON object. -/
abbrev Fields (F : Type) := List (String × Json F)

/-- `_SMARTCTL_ISSUES` -/
def smartctlIssues : List (Nat × String) :=
  [(4, "Prefail attribute at or below threshold"),
    (5, "Attribute was at or below threshold in the past"),
    (6, "Device error log contains errors"),
    (7, "Self-test log contains errors")]

/-- `_WEAR_ATTRS` -/
def wearAttrs : List Int := [177, 231, 233, 202, 169]

section

open Pattern

variable [Unicode]

/-- `_STANDBY_RE` -/
def standbyRe : Pattern :=
  all [wordEdge, lit "is in ", anyOf "STANDBY" ["SLEEP"], wordEdge]

def saysStandby (text : String) : Bool := standbyRe.search text.toList

end

variable {F : Type}

/-- `_int` -/
def intOf : Json F → Option Int
  | .int value => some value
  | _ => none

/-- `_dict` -/
def dictOf : Json F → Fields F
  | .obj fields => fields
  | _ => []

/-- `_raw_count` -/
def rawCount (raw : String) : Option Int :=
  match words raw.toList with
  | first :: _ => int? first
  | [] => none

/-- `exit_status & (1 << bit)` -/
def bit (exitStatus : Int) (n : Nat) : Bool := exitStatus.testBit n

/-- The exit status in the output, else that of the process. -/
def exitStatusOf (info : Fields F) (rc : Int) : Int :=
  (intOf (Json.look "exit_status" info)).getD (if rc ≥ 0 then rc else 0)

/-- SMART is not enabled on the drive, or not available. -/
def disabled (data : Fields F) : Bool :=
  match Json.look "smart_support" data with
  | .obj support =>
      match (Json.field? "enabled" support).getD (Json.look "available" support) with
      | .bool false => true
      | _ => false
  | _ => false

/-- `smart_status["passed"]`, if it is a `bool`. -/
def passedOf (data : Fields F) : Option Bool :=
  match Json.look "smart_status" data with
  | .obj status =>
      match Json.look "passed" status with
      | .bool passed => some passed
      | _ => none
  | _ => none

def healthPassed (data : Fields F) (exitStatus : Int) : Option Bool :=
  if disabled data then none
  else if bit exitStatus 3 then some false
  else passedOf data

def issuesOf (exitStatus : Int) : List String :=
  (smartctlIssues.filter fun issue => bit exitStatus issue.1).map Prod.snd

/-- The life left, after one more entry of the device statistics. -/
def wearEntry (wear : Option Int) (entry : Json F) : Option Int :=
  match intOf (Json.look "value" (dictOf entry)), Json.look "name" (dictOf entry) with
  | some used, .str name =>
      if name = "Percentage Used Endurance Indicator" then some (max 0 (100 - used)) else wear
  | _, _ => wear

/-- What the loop over the attributes has found. -/
structure Found where
  reallocated : Option Int := none
  pending : Option Int := none
  uncorrectable : Option Int := none
  wearById : Dict Int Int := .empty
  attributes : List SmartAttribute := []

def Found.wear (found : Found) : Option Int := wearAttrs.findSome? found.wearById.get?

section

variable [PyFloat F]

/-- The objects among `meta["messages"]` that have a `string`. -/
def messagesOf (info : Fields F) : Outcome (List (Fields F)) :=
  (Json.eachOrNone ((Json.field? "messages" info).getD (.arr []))).map fun items =>
    (items.map dictOf).filter fun message => (Json.look "string" message).truthy

/-- One more page of the device statistics. -/
def wearPage (wear : Option Int) (page : Json F) : Outcome (Option Int) := do
  let entries ← Json.eachOrNone ((Json.field? "table" (dictOf page)).getD (.arr []))
  return entries.foldl wearEntry wear

/-- The life left by the ATA device statistics. -/
def wearStatistics (data : Fields F) : Outcome (Option Int) := do
  let statistics := dictOf (Json.look "ata_device_statistics" data)
  let pages ← Json.eachOrNone ((Json.field? "pages" statistics).getD (.arr []))
  pages.foldlM wearPage none

/-- `first or second or …` -/
def firstTruthy : List (Json F) → Json F
  | [] => .null
  | [last] => last
  | value :: rest => if value.truthy then value else firstTruthy rest

variable [Unicode]

def messageText (message : Fields F) : String := (Json.look "string" message).text

def isError (message : Fields F) : Bool :=
  match Json.look "severity" message with
  | .str severity => severity = "error"
  | _ => false

/-- Why the device could not be opened. -/
def openError (messages : List (Fields F)) (exitStatus : Int) : String :=
  match (messages.filter isError).map fun message => stripped (messageText message) with
  | first :: _ => first
  | [] => "smartctl could not open the device (exit " ++ toString exitStatus ++ ")"

/-- `SmartAttribute(…)` -/
def smartAttribute (attr : Fields F) : SmartAttribute where
  id := (intOf (Json.look "id" attr)).getD 0
  name := ((Json.field? "name" attr).getD (.str "")).text
  value := (intOf (Json.look "value" attr)).getD 0
  worst := (intOf (Json.look "worst" attr)).getD 0
  threshold := (intOf (Json.look "thresh" attr)).getD 0
  rawValue := ((Json.field? "string" (dictOf (Json.look "raw" attr))).getD (.str "")).text

/-- One turn of the loop over the attributes. -/
def Found.add (found : Found) : Json F → Found
  | .obj attr =>
      let sa := smartAttribute attr
      let found := { found with attributes := found.attributes ++ [sa] }
      if sa.id = 5 then { found with reallocated := rawCount sa.rawValue }
      else if sa.id = 197 then { found with pending := rawCount sa.rawValue }
      else if sa.id = 198 then { found with uncorrectable := rawCount sa.rawValue }
      else if sa.id ∈ wearAttrs then { found with wearById := found.wearById.set sa.id sa.value }
      else found
  | _ => found

/-- The ATA attributes. -/
def foundIn (data : Fields F) : Found :=
  match (Json.field? "table" (dictOf (Json.look "ata_smart_attributes" data))).getD (.arr []) with
  | .arr table => table.foldl Found.add {}
  | _ => {}

/-- The life left by the vendor's attributes, else by the device statistics. -/
def lifeLeft (data : Fields F) : Outcome (Option Int) :=
  match (foundIn data).wear with
  | some wear => .ok (some wear)
  | none => wearStatistics data

/-- `parse_smart` -/
def parseSmart (host : Host F) (json : Json F) (devPath : String) (rc : Int) :
    Outcome SmartHealth := do
  let data := dictOf json
  let info := dictOf (Json.look "smartctl" data)
  let exitStatus := exitStatusOf info rc
  let messages ← messagesOf info
  let standby := messages.any fun message => saysStandby (messageText message)
  let found := foundIn data
  let wear ← lifeLeft data
  let nvme := dictOf (Json.look "nvme_smart_health_information_log" data)
  let model := firstTruthy [Json.look "model_name" data, Json.look "model_family" data,
    Json.look "scsi_model_name" data]
  let serial := Json.look "serial_number" data
  validated host "SmartHealth" (optionalStrField "model" model ++ optionalStrField "serial" serial)
    { device := devPath
      model := asString model
      serial := asString serial
      smartAvailable := (healthPassed data exitStatus).isSome
      healthPassed := healthPassed data exitStatus
      temperatureCelsius := (intOf (Json.look "current" (dictOf (Json.look "temperature" data)))).or
        (intOf (Json.look "temperature" nvme))
      powerOnHours := (intOf (Json.look "hours" (dictOf (Json.look "power_on_time" data)))).or
        (intOf (Json.look "power_on_hours" nvme))
      wearLevelingPercent :=
        ((intOf (Json.look "percentage_used" nvme)).map fun used => max 0 (100 - used)).or wear
      reallocatedSectors := found.reallocated.or (intOf (Json.look "scsi_grown_defect_list" data))
      pendingSectors := found.pending
      offlineUncorrectable := found.uncorrectable
      smartIssues := issuesOf exitStatus
      standby := standby
      error :=
        if bit exitStatus 1 ∧ standby = false then some (openError messages exitStatus) else none
      attributes := found.attributes }

end

def smartctlCommand (devPath : String) : List String :=
  ["smartctl", "-a", "-n", "standby", devPath, "--json"]

/-- `text.rstrip("\0")` -/
def withoutNuls (text : String) : String :=
  String.ofList (text.toList.reverse.dropWhile (· = '\x00')).reverse

/-- Whether one of the processes has these arguments and is not a zombie. -/
def anyRunning (host : Host F) (want procRoot : String) : List String → Outcome Bool
  | [] => .ok false
  | pid :: rest =>
      match host.openBytes? (procRoot ++ "/" ++ pid ++ "/cmdline") with
      | none => anyRunning host want procRoot rest
      | some argv =>
          if withoutNuls argv ≠ want then anyRunning host want procRoot rest
          else
            match host.openText (procRoot ++ "/" ++ pid ++ "/stat") with
            | .error error => .error error
            | .ok none => anyRunning host want procRoot rest
            | .ok (some stat) =>
                if (words (lastPart ')' stat).toList).take 1 = [['Z']] then
                  anyRunning host want procRoot rest
                else .ok true

/-- `_still_running` -/
def stillRunning (host : Host F) (cmd : List String) (procRoot : String) : Outcome Bool :=
  match host.listdir procRoot with
  | .error _ => .ok false
  | .ok names =>
      anyRunning host ("\x00".intercalate cmd) procRoot (names.filter fun name =>
        isDigit name.toList)

section

variable [PyFloat F] [Unicode]

/-- The report on what `smartctl` printed. -/
def reportOn (host : Host F) (devPath stdout : String) (rc : Int) : Outcome SmartHealth :=
  match host.loads stdout with
  | .error .decodeError =>
      if saysStandby stdout then .ok { device := devPath, standby := true }
      else .ok { device := devPath, error := some "smartctl output is not valid JSON" }
  | .error (.other text) => .error (.exception text)
  | .ok data =>
      match parseSmart host data devPath rc with
      | .ok report => .ok report
      | .error (.exception text) =>
          .ok { device := devPath, error := some ("Unparseable smartctl output: " ++ text) }
      | .error (.baseException text) => .error (.baseException text)

/-- The report on a device for which `smartctl` printed nothing. -/
def reportOnSilence (devPath stderr : String) (rc : Int) : SmartHealth :=
  if saysStandby stderr then { device := devPath, standby := true }
  else
    let reason := stripped stderr
    { device := devPath
      error := some (if reason ≠ "" then reason
        else "smartctl exited " ++ toString rc ++ " with no output") }

/-- `collect_smart_for_device` -/
def collectSmartForDevice (host : Host F) (device : String) : Outcome (Option SmartHealth) := do
  let devPath := if startsWith "/dev/" device then device else "/dev/" ++ device
  if ¬host.pathExists devPath then return none
  else
    let cmd := smartctlCommand devPath
    let running ← stillRunning host cmd "/proc"
    if running then
      return some {
        device := devPath
        error :=
          some "A previous smartctl on this device is still running (device not responding)" }
    else
      let (stdout, stderr, rc) ← host.run cmd
      if stripped stdout = "" then return some (reportOnSilence devPath stderr rc)
      else (reportOn host devPath stdout rc).map some

/-- What becomes of one device in the sweep. -/
def sweepDevice (host : Host F) (device : String) : Option SmartHealth :=
  match collectSmartForDevice host device with
  | .ok report => report
  | .error error =>
      some { device := device, error := some ("SMART collection failed: " ++ error.text) }

/-- The devices that are swept. -/
def candidates (host : Host F) : Outcome (List String) := do
  smartCandidates host (← collectDisks host)

/-- `collect_all_smart` -/
def collectAllSmart (host : Host F) : Outcome (List SmartHealth) := do
  let devices ← candidates host
  return devices.filterMap (sweepDevice host)

/-- The strings of the error messages in the output are not blank. -/
def VisibleErrors (json : Json F) : Prop :=
  ∀ messages, messagesOf (dictOf (Json.look "smartctl" (dictOf json))) = .ok messages →
    ∀ message ∈ messages, isError message = true →
      ∀ text, Json.look "string" message = .str text → Visible text.toList

/-- The exit status that `parse_smart` goes by. -/
def effectiveStatus (json : Json F) (rc : Int) : Int :=
  exitStatusOf (dictOf (Json.look "smartctl" (dictOf json))) rc

/-- The output shows nothing wrong: SMART is disabled, or has a good verdict, and
the exit status tells of no other finding. -/
def QuietOutput (json : Json F) (rc : Int) : Prop :=
  (∀ n ∈ [1, 4, 5, 6, 7], bit (effectiveStatus json rc) n = false) ∧
    (disabled (dictOf json) = true ∨
      bit (effectiveStatus json rc) 3 = false ∧ passedOf (dictOf json) ≠ some false)

/-- The report has something that the warnings look for. -/
def Alarming (report : SmartHealth) : Prop :=
  report.healthPassed = some false ∨
    (∃ error, report.error = some error ∧ error ≠ "" ∧ report.standby = false) ∨
    report.smartIssues ≠ []

omit [PyFloat F] [Unicode] in
/-- A report that only says what went wrong. -/
theorem alarming_error (device : String) {error : String} (h : error ≠ "") :
    Alarming { device := device, error := some error } := .inr (.inl ⟨error, rfl, h, rfl⟩)

theorem openError_ne_empty {messages : List (Fields F)} (exitStatus : Int)
    (hStrings : ∀ message ∈ messages, (Json.look "string" message).truthy = true)
    (hVisible : ∀ message ∈ messages, isError message = true →
      ∀ text, Json.look "string" message = .str text → Visible text.toList) :
    openError messages exitStatus ≠ "" := by
  unfold openError
  cases hErrors : messages.filter isError with
  | nil =>
      intro hEmpty
      have hText := congrArg String.toList hEmpty
      simp at hText
  | cons first rest =>
      have hFirst : first ∈ messages.filter isError := by simp [hErrors]
      obtain ⟨hMem, hError⟩ := List.mem_filter.mp hFirst
      exact stripped_ne_empty (Json.text_visible (hStrings first hMem) (hVisible first hMem hError))

omit [Unicode] in
theorem messagesOf_truthy {info : Fields F} {messages : List (Fields F)}
    (h : messagesOf info = .ok messages) :
    ∀ message ∈ messages, (Json.look "string" message).truthy = true := by
  unfold messagesOf at h
  cases hItems : Json.eachOrNone ((Json.field? "messages" info).getD (.arr [])) with
  | error error => simp [hItems, Except.map] at h
  | ok items =>
      rw [hItems] at h
      cases h
      exact fun message hMem => (List.mem_filter.mp hMem).2

/-- The fields of a report that the warnings go by. -/
theorem parseSmart_ok {host : Host F} {json : Json F} {devPath : String} {rc : Int}
    {report : SmartHealth} (h : parseSmart host json devPath rc = .ok report) :
    ∃ messages, messagesOf (dictOf (Json.look "smartctl" (dictOf json))) = .ok messages ∧
      report.device = devPath ∧
      report.healthPassed = healthPassed (dictOf json) (effectiveStatus json rc) ∧
      report.smartIssues = issuesOf (effectiveStatus json rc) ∧
      report.error = if bit (effectiveStatus json rc) 1 ∧ report.standby = false then
        some (openError messages (effectiveStatus json rc)) else none := by
  unfold parseSmart at h
  simp only [bind_eq_ok] at h
  obtain ⟨messages, hMessages, wear, _, hReport⟩ := h
  rw [validated_ok hReport]
  exact ⟨messages, hMessages, rfl, rfl, rfl, rfl⟩

omit [PyFloat F] [Unicode] in
theorem issuesOf_ne_nil {exitStatus : Int} {n : Nat} (hMem : n ∈ [4, 5, 6, 7])
    (hBit : bit exitStatus n = true) : issuesOf exitStatus ≠ [] := by
  have hIssue : ∃ message, (n, message) ∈ smartctlIssues := by
    simp only [List.mem_cons, List.not_mem_nil, or_false] at hMem
    rcases hMem with rfl | rfl | rfl | rfl <;> simp [smartctlIssues]
  obtain ⟨message, hIssue⟩ := hIssue
  have hFound : message ∈ issuesOf exitStatus :=
    List.mem_map.mpr ⟨(n, message), List.mem_filter.mpr ⟨hIssue, hBit⟩, rfl⟩
  exact List.ne_nil_of_mem hFound

omit [PyFloat F] [Unicode] in
/-- A bad verdict counts unless SMART is disabled. -/
theorem healthPassed_eq_false_iff {data : Fields F} {exitStatus : Int} :
    healthPassed data exitStatus = some false ↔
      disabled data = false ∧ (bit exitStatus 3 = true ∨ passedOf data = some false) := by
  unfold healthPassed
  split_ifs with hDisabled hFailing <;> simp_all

/-- A parsed report is about a sleeping drive, a quiet one, or an alarming one. -/
theorem parseSmart_surfaces {host : Host F} {json : Json F} {devPath : String} {rc : Int}
    {report : SmartHealth} (h : parseSmart host json devPath rc = .ok report)
    (hVisible : VisibleErrors json) :
    report.standby = true ∨ QuietOutput json rc ∨ Alarming report := by
  obtain ⟨messages, hMessages, _, hHealth, hIssues, hError⟩ := parseSmart_ok h
  cases hStandby : report.standby with
  | true => exact .inl rfl
  | false =>
      right
      by_cases hOpen : bit (effectiveStatus json rc) 1 = true
      · right; right; left
        rw [if_pos ⟨hOpen, hStandby⟩] at hError
        exact ⟨_, hError, openError_ne_empty _ (messagesOf_truthy hMessages)
          (hVisible messages hMessages), hStandby⟩
      · by_cases hIssue : ∃ n ∈ [4, 5, 6, 7], bit (effectiveStatus json rc) n = true
        · obtain ⟨n, hMem, hBit⟩ := hIssue
          right; right; right
          rw [hIssues]
          exact issuesOf_ne_nil hMem hBit
        · by_cases hFailed : report.healthPassed = some false
          · exact .inr (.inl hFailed)
          · left
            rw [hHealth, healthPassed_eq_false_iff] at hFailed
            constructor
            · simp only [not_exists, not_and, Bool.not_eq_true] at hIssue hOpen
              intro n hMem
              rcases List.mem_cons.mp hMem with rfl | hLater
              · exact hOpen
              · exact hIssue n hLater
            · cases hDisabled : disabled (dictOf json) with
              | true => exact .inl rfl
              | false =>
                  right
                  simpa [hDisabled] using hFailed

/-- `smartctl` was run on the device, and its output shows nothing wrong. -/
def RanQuietly (host : Host F) (device : String) : Prop :=
  stillRunning host (smartctlCommand device) "/proc" = .ok false ∧
    ∃ stdout stderr rc json, host.run (smartctlCommand device) = .ok (stdout, stderr, rc) ∧
      stripped stdout ≠ "" ∧ host.loads stdout = .ok json ∧ QuietOutput json rc

/-- What `smartctl` prints about the device has no blank error message. -/
def VisibleOutput (host : Host F) (device : String) : Prop :=
  ∀ stdout stderr rc json, host.run (smartctlCommand device) = .ok (stdout, stderr, rc) →
    host.loads stdout = .ok json → VisibleErrors json

omit [PyFloat F] in
theorem reportOnSilence_surfaces (devPath stderr : String) (rc : Int) :
    (reportOnSilence devPath stderr rc).device = devPath ∧
      ((reportOnSilence devPath stderr rc).standby = true ∨
        Alarming (reportOnSilence devPath stderr rc)) := by
  unfold reportOnSilence
  split_ifs with hStandby
  · exact ⟨rfl, .inl rfl⟩
  · refine ⟨rfl, .inr (alarming_error devPath ?_)⟩
    split_ifs with hReason
    · exact hReason
    · intro hEmpty
      have hText := congrArg String.toList hEmpty
      simp at hText

theorem reportOn_surfaces {host : Host F} {devPath stdout : String} {rc : Int}
    {report : SmartHealth} (h : reportOn host devPath stdout rc = .ok report)
    (hVisible : ∀ json, host.loads stdout = .ok json → VisibleErrors json) :
    report.device = devPath ∧ (report.standby = true ∨
      (∃ json, host.loads stdout = .ok json ∧ QuietOutput json rc) ∨ Alarming report) := by
  unfold reportOn at h
  cases hLoads : host.loads stdout with
  | error error =>
      cases error with
      | other text => simp [hLoads] at h
      | decodeError =>
          simp only [hLoads] at h
          split_ifs at h <;> cases h
          · exact ⟨rfl, .inl rfl⟩
          · exact ⟨rfl, .inr (.inr (alarming_error devPath (by decide)))⟩
  | ok json =>
      simp only [hLoads] at h
      cases hParsed : parseSmart host json devPath rc with
      | ok parsed =>
          rw [hParsed] at h
          cases h
          obtain ⟨_, _, hDevice, _⟩ := parseSmart_ok hParsed
          refine ⟨hDevice, ?_⟩
          rcases parseSmart_surfaces hParsed (hVisible json hLoads) with hStandby | hQuiet | hAlarm
          · exact .inl hStandby
          · exact .inr (.inl ⟨json, rfl, hQuiet⟩)
          · exact .inr (.inr hAlarm)
      | error error =>
          cases error with
          | baseException text => simp [hParsed] at h
          | exception text =>
              rw [hParsed] at h
              cases h
              exact ⟨rfl, .inr (.inr (alarming_error devPath (prefix_ne_empty (by decide))))⟩

/-- The sweep reports on every device that exists, and what it reports is a
sleeping drive, a quiet one, or an alarming one. -/
theorem sweepDevice_surfaces {host : Host F} {device : String}
    (hPath : startsWith "/dev/" device = true) (hExists : host.pathExists device = true)
    (hVisible : VisibleOutput host device) :
    ∃ report, sweepDevice host device = some report ∧ report.device = device ∧
      (report.standby = true ∨ RanQuietly host device ∨ Alarming report) := by
  unfold sweepDevice
  cases hResult : collectSmartForDevice host device with
  | error error =>
      exact ⟨_, rfl, rfl, .inr (.inr (alarming_error device (prefix_ne_empty (by decide))))⟩
  | ok result =>
      simp only [collectSmartForDevice, hPath, if_true, hExists, not_true_eq_false, if_false,
        bind_eq_ok] at hResult
      obtain ⟨running, hRunning, hResult⟩ := hResult
      cases running with
      | true =>
          cases hResult
          exact ⟨_, rfl, rfl, .inr (.inr (alarming_error device (by decide)))⟩
      | false =>
          simp only [Bool.false_eq_true, if_false, bind_eq_ok] at hResult
          obtain ⟨⟨stdout, stderr, rc⟩, hRun, hResult⟩ := hResult
          simp only at hResult
          split_ifs at hResult with hSilent
          · cases hResult
            obtain ⟨hDevice, hSilence⟩ := reportOnSilence_surfaces device stderr rc
            refine ⟨_, rfl, hDevice, ?_⟩
            rcases hSilence with hStandby | hAlarm
            · exact .inl hStandby
            · exact .inr (.inr hAlarm)
          · cases hReport : reportOn host device stdout rc with
            | error error => simp [hReport, Except.map] at hResult
            | ok report =>
                rw [hReport] at hResult
                cases hResult
                obtain ⟨hDevice, hKind⟩ := reportOn_surfaces hReport fun json hLoads =>
                  hVisible stdout stderr rc json hRun hLoads
                refine ⟨report, rfl, hDevice, ?_⟩
                rcases hKind with hStandby | ⟨json, hLoads, hQuiet⟩ | hAlarm
                · exact .inl hStandby
                · exact .inr
                    (.inl ⟨hRunning, stdout, stderr, rc, json, hRun, hSilent, hLoads, hQuiet⟩)
                · exact .inr (.inr hAlarm)

/-- One report for each candidate, in order. -/
theorem collectAllSmart_surfaces {host : Host F} {devices : List String}
    (hDevices : candidates host = .ok devices)
    (hExist : ∀ device ∈ devices, host.pathExists device = true)
    (hVisible : ∀ device ∈ devices, VisibleOutput host device) :
    ∃ reports, collectAllSmart host = .ok reports ∧
      reports.map SmartHealth.device = devices ∧ ∀ report ∈ reports,
        report.standby = true ∨ RanQuietly host report.device ∨ Alarming report := by
  have hPaths : ∀ device ∈ devices, startsWith "/dev/" device = true := by
    obtain ⟨disks, _, hChosen⟩ := bind_eq_ok.mp hDevices
    obtain ⟨chosen, _, hNames⟩ := bind_eq_ok.mp hChosen
    cases hNames
    intro device hDevice
    obtain ⟨disk, _, rfl⟩ := List.mem_map.mp hDevice
    simp [startsWith]
  refine ⟨devices.filterMap (sweepDevice host), by rw [collectAllSmart, hDevices]; rfl, ?_⟩
  clear hDevices
  induction devices with
  | nil => simp
  | cons device rest ih =>
      obtain ⟨report, hReport, hDevice, hKind⟩ := sweepDevice_surfaces
        (hPaths device List.mem_cons_self) (hExist device List.mem_cons_self)
        (hVisible device List.mem_cons_self)
      obtain ⟨hNames, hKinds⟩ :=
        ih (fun other hOther => hExist other (List.mem_cons_of_mem _ hOther))
        (fun other hOther => hVisible other (List.mem_cons_of_mem _ hOther))
        (fun other hOther => hPaths other (List.mem_cons_of_mem _ hOther))
      rw [List.filterMap_cons_some hReport]
      constructor
      · rw [List.map_cons, hNames, hDevice]
      · intro other hOther
        rcases List.mem_cons.mp hOther with rfl | hLater
        · rwa [hDevice]
        · exact hKinds other hLater

end

end NodeDebugDashboard.Collectors.Smart
