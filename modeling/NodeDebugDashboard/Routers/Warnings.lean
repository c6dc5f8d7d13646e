import NodeDebugDashboard.Library.Python
import NodeDebugDashboard.Routers.Counters

/-! `get_warnings` of app/routers/warnings.py over the outcomes of its ten
collectors, with `gather_sections` of app/routers/degrade.py. Every warning is
tagged with the part of the function that appends it. -/
namespace NodeDebugDashboard.Routers

open Library Library.Python Models

/-- The keyword arguments of `gather_sections`. -/
inductive Source where
  | dmesg
  | smart
  | sensors
  | memory
  | nics
  | diskUsage
  | k8sCerts
  | talosCerts
  | components
  | k8sNode
  deriving DecidableEq

def Source.name : Source → String
  | .dmesg => "dmesg"
  | .smart => "smart"
  | .sensors => "sensors"
  | .memory => "memory"
  | .nics => "nics"
  | .diskUsage => "disk_usage"
  | .k8sCerts => "k8s_certs"
  | .talosCerts => "talos_certs"
  | .components => "components"
  | .k8sNode => "k8s_node"

/-- What the ten collectors end with. A collector that may also return `None`
has an optional value. -/
structure Sections (F : Type) where
  dmesg : Outcome (List NodeWarning)
  smart : Outcome (List SmartHealth)
  sensors : Outcome (List (SensorReading F))
  memory : Outcome (Option (MemoryInfo F))
  nics : Outcome (List NICInfo)
  diskUsage : Outcome (List DiskUsage)
  k8sCerts : Outcome (List CertificateInfo)
  talosCerts : Outcome (List TalosCertificateInfo)
  components : Outcome (List (K8sComponentStatus F))
  k8sNode : Outcome (Option K8sNodeInfo)

def raisedBy {α : Type} : Outcome α → Option Raised
  | .ok _ => none
  | .error e => some e

/-- The collectors in the order they are gathered, with what they raised. -/
def Sections.raised {F : Type} (s : Sections F) : List (Source × Option Raised) :=
  [(.dmesg, raisedBy s.dmesg), (.smart, raisedBy s.smart), (.sensors, raisedBy s.sensors),
    (.memory, raisedBy s.memory), (.nics, raisedBy s.nics),
    (.diskUsage, raisedBy s.diskUsage), (.k8sCerts, raisedBy s.k8sCerts),
    (.talosCerts, raisedBy s.talosCerts), (.components, raisedBy s.components),
    (.k8sNode, raisedBy s.k8sNode)]

/-- `gather_sections`: the names that failed. The first exception that is not
an `Exception` is raised again. -/
def gatherSections : List (Source × Option Raised) → Outcome (List Source)
  | [] => .ok []
  | (_, none) :: rest => gatherSections rest
  | (source, some (.exception _)) :: rest => (gatherSections rest).map (source :: ·)
  | (_, some (.baseException text)) :: _ => .error (.baseException text)

/-- A source is among the failed ones exactly when its collector raised. -/
theorem gatherSections_spec {raised : List (Source × Option Raised)} {failed : List Source}
    (h : gatherSections raised = .ok failed) :
    failed = (raised.filter fun result => result.2.isSome).map Prod.fst := by
  induction raised generalizing failed with
  | nil =>
      cases h
      rfl
  | cons result rest ih =>
      obtain ⟨source, error⟩ := result
      cases error with
      | none => simpa using ih h
      | some error =>
          cases error with
          | baseException text => simp [gatherSections] at h
          | exception text =>
              cases hRest : gatherSections rest with
              | error e => simp [gatherSections, hRest, Except.map] at h
              | ok others =>
                  have hFailed : source :: others = failed := by
                    simpa [gatherSections, hRest, Except.map] using h
                  simp [← hFailed, ← ih hRest]

theorem mem_failed_iff {raised : List (Source × Option Raised)} {failed : List Source}
    (h : gatherSections raised = .ok failed) (source : Source) :
    source ∈ failed ↔ ∃ error, (source, some error) ∈ raised := by
  rw [gatherSections_spec h]
  constructor
  · intro hMem
    obtain ⟨⟨_, error⟩, hFound, rfl⟩ := List.mem_map.mp hMem
    obtain ⟨hResult, hSome⟩ := List.mem_filter.mp hFound
    obtain ⟨error, rfl⟩ := Option.isSome_iff_exists.mp hSome
    exact ⟨error, hResult⟩
  · rintro ⟨error, hResult⟩
    exact List.mem_map.mpr ⟨_, List.mem_filter.mpr ⟨hResult, rfl⟩, rfl⟩

/-- Every collector returned a value or raised an `Exception`. -/
def Sections.OnlyExceptions {F : Type} (sections : Sections F) : Prop :=
  ∀ source error, (source, some error) ∈ sections.raised → ∃ text, error = .exception text

theorem gatherSections_ok {raised : List (Source × Option Raised)}
    (h : ∀ source error, (source, some error) ∈ raised → ∃ text, error = .exception text) :
    ∃ failed, gatherSections raised = .ok failed := by
  induction raised with
  | nil => exact ⟨[], rfl⟩
  | cons result rest ih =>
      obtain ⟨failed, hRest⟩ := ih fun source error hMem =>
        h source error (List.mem_cons_of_mem _ hMem)
      obtain ⟨source, error⟩ := result
      cases error with
      | none => exact ⟨failed, hRest⟩
      | some error =>
          obtain ⟨text, rfl⟩ := h source error List.mem_cons_self
          exact ⟨source :: failed, by simp [gatherSections, hRest, Except.map]⟩

theorem gatherSections_baseException {raised : List (Source × Option Raised)} {source : Source}
    {text : String} (h : (source, some (.baseException text)) ∈ raised) :
    ∃ error, gatherSections raised = .error error := by
  induction raised with
  | nil => simp at h
  | cons result rest ih =>
      obtain ⟨first, error⟩ := result
      rcases List.mem_cons.mp h with hFirst | hLater
      · cases hFirst
        exact ⟨.baseException text, rfl⟩
      · obtain ⟨later, hRest⟩ := ih hLater
        cases error with
        | none => exact ⟨later, hRest⟩
        | some error =>
            cases error with
            | exception other => exact ⟨later, by simp [gatherSections, hRest, Except.map]⟩
            | baseException other => exact ⟨.baseException other, rfl⟩

/-- `r[name] or []` for a collector of a list. -/
def listOf {α : Type} : Outcome (List α) → List α
  | .ok values => values
  | .error _ => []

/-- `r[name]` for a collector of one record. -/
def recordOf {α : Type} : Outcome (Option α) → Option α
  | .ok value => value
  | .error _ => none

/-- The part of `get_warnings` that appends a warning: the code about its own
collection, or the code that evaluates one source. -/
inductive Origin where
  | dashboard
  | evaluated (source : Source)
  deriving DecidableEq

def missing (source : Source) : NodeWarning where
  severity := "warning"
  source := "dashboard"
  message := "Could not collect " ++ source.name ++ "; its warnings are missing"

def hostNetworkOff : NodeWarning where
  severity := "info"
  source := "dashboard"
  message := "hostNetwork is off: component health, etcd metrics and " ++
    "the node's DNS resolvers cannot be checked from the pod"

/-- `smartctl` findings that point at a drive actively failing. -/
def criticalSmartIssues : List String :=
  ["Self-test log contains errors", "Prefail attribute at or below threshold"]

/-- `value and value > bound`, for a count that may be missing. -/
def above (bound : Int) : Option Int → Option Int
  | some value => if value ≠ 0 ∧ value > bound then some value else none
  | none => none

def smartWarnings (smart : SmartHealth) : List NodeWarning :=
  let warn (severity message : String) : NodeWarning :=
    ⟨severity, "smart", message, some smart.device⟩
  (if smart.healthPassed = some false then [warn "critical" "SMART health FAILED"] else []) ++
  (match smart.error with
    | some error =>
        if error ≠ "" ∧ smart.standby = false then
          [warn "warning" ("SMART not readable: " ++ error)]
        else []
    | none => []) ++
  ((above 0 smart.pendingSectors).toList.map fun count =>
    warn "warning" ("Pending sectors: " ++ toString count)) ++
  ((above 0 smart.offlineUncorrectable).toList.map fun count =>
    warn "critical" ("Offline uncorrectable sectors: " ++ toString count)) ++
  (smart.smartIssues.map fun issue =>
    warn (if issue ∈ criticalSmartIssues then "critical" else "warning") issue) ++
  ((above 0 smart.reallocatedSectors).toList.map fun count =>
    warn "warning" ("Reallocated sectors: " ++ toString count)) ++
  (match smart.wearLevelingPercent with
    | some percent =>
        if percent < 20 then [warn "warning" ("SSD wear level at " ++ toString percent ++ "%")]
        else []
    | none => []) ++
  ((above 60 smart.temperatureCelsius).toList.map fun celsius =>
    warn (if celsius > 70 then "critical" else "warning")
      ("Disk temperature: " ++ toString celsius ++ "°C"))

/-- Every warning about a drive names it. -/
theorem smartWarnings_mem {smart : SmartHealth} {warning : NodeWarning}
    (h : warning ∈ smartWarnings smart) :
    warning.source = "smart" ∧ warning.device = some smart.device := by
  simp only [smartWarnings, List.mem_append] at h
  rcases h with ((((((hFailed | hError) | hPending) | hOffline) | hIssue) | hRealloc) | hWear)
    | hTemp
  · split_ifs at hFailed
    · simp [List.mem_singleton.mp hFailed]
    · simp at hFailed
  · cases hReason : smart.error with
    | none => simp [hReason] at hError
    | some error =>
        simp only [hReason] at hError
        split_ifs at hError
        · simp [List.mem_singleton.mp hError]
        · simp at hError
  · obtain ⟨count, _, rfl⟩ := List.mem_map.mp hPending
    exact ⟨rfl, rfl⟩
  · obtain ⟨count, _, rfl⟩ := List.mem_map.mp hOffline
    exact ⟨rfl, rfl⟩
  · obtain ⟨issue, _, rfl⟩ := List.mem_map.mp hIssue
    exact ⟨rfl, rfl⟩
  · obtain ⟨count, _, rfl⟩ := List.mem_map.mp hRealloc
    exact ⟨rfl, rfl⟩
  · cases hPercent : smart.wearLevelingPercent with
    | none => simp [hPercent] at hWear
    | some percent =>
        simp only [hPercent] at hWear
        split_ifs at hWear
        · simp [List.mem_singleton.mp hWear]
        · simp at hWear
  · obtain ⟨celsius, _, rfl⟩ := List.mem_map.mp hTemp
    exact ⟨rfl, rfl⟩

section

variable {F : Type} [PyFloat F]

def sensorWarnings (sensor : SensorReading F) : List NodeWarning :=
  if sensor.isAlarm then
    let critical := match sensor.critical with
      | some limit => PyFloat.truthy limit && PyFloat.ge sensor.value limit
      | none => false
    [{ severity := if critical then "critical" else "warning"
       source := "temperature"
       message := sensor.label ++ ": " ++ PyFloat.repr sensor.value ++ sensor.unit ++
        " (crit=" ++ optional PyFloat.repr sensor.critical ++
        ", warn=" ++ optional PyFloat.repr sensor.warning ++ ")" }]
  else []

def diskWarnings (usage : DiskUsage) : List NodeWarning :=
  if usage.severity ≠ "ok" then
    [{ severity := usage.severity
       source := "disk"
       message := usage.mount ++ ": " ++ toString usage.usedPercent ++ "% used (" ++
        usage.used ++ "/" ++ usage.size ++ ")"
       device := some usage.filesystem }]
  else []

/-- Certificates under Talos' own directory are left to the Talos collector,
unless that one failed. -/
def k8sCertWarnings (talosOwnsPki : Bool) (cert : CertificateInfo) : List NodeWarning :=
  if talosOwnsPki && contains "/system/secrets/kubernetes/" cert.filePath then []
  else if cert.expirySeverity ≠ "ok" then
    [{ severity := cert.expirySeverity
       source := "certificate"
       message := "K8s cert expires in " ++ optional toString cert.daysUntilExpiry ++ "d: " ++
        lastPart '/' cert.filePath }]
  else []

def talosCertWarnings (cert : TalosCertificateInfo) : List NodeWarning :=
  if cert.expirySeverity ≠ "ok" then
    [{ severity := cert.expirySeverity
       source := "certificate"
       message := "Talos cert expires in " ++ optional toString cert.daysUntilExpiry ++ "d: " ++
        cert.name }]
  else []

def etcdWarnings (component : K8sComponentStatus F) : List NodeWarning :=
  match component.etcdStatus with
  | none => []
  | some etcd =>
      if etcd.defragSeverity = "ok" then []
      else
        [{ severity := etcd.defragSeverity
           source := "etcd"
           message := "etcd at " ++ PyFloat.repr etcd.quotaUsedPercent ++ "% of its " ++
            PyFloat.fixed0 etcd.dbSizeQuotaMb ++ "MB quota with only " ++
            PyFloat.fixed0 etcd.dbSizeInUseMb ++ "MB in use — " ++
            PyFloat.fixed0 etcd.defragReclaimableMb ++ "MB reclaimable by defrag" }]

def conditionWarnings (cond : K8sNodeCondition) : List NodeWarning :=
  if cond.type = "Ready" ∧ cond.status ≠ "True" then
    [{ severity := "critical", source := "kubernetes",
       message := "Node not Ready: " ++ cond.message }]
  else if cond.type ∈ ["MemoryPressure", "DiskPressure", "PIDPressure"] ∧ cond.status = "True" then
    [{ severity := "warning", source := "kubernetes",
       message := cond.type ++ ": " ++ cond.message }]
  else []

/-- What a pass reads besides its collectors: the configured window, whether
the pod is in the host's network namespace, and the clock. -/
structure Pass (F : Type) where
  window : Int
  inHostNetwork : Bool
  clock : Clock
  sections : Sections F

/-- The pass returned a list of warnings. -/
def Pass.Completed (pass : Pass F) : Prop :=
  ∃ failed, gatherSections pass.sections.raised = .ok failed

omit [PyFloat F] in
/-- A pass returns warnings unless one of its collectors is cancelled. -/
theorem Pass.completed_iff (pass : Pass F) : pass.Completed ↔ pass.sections.OnlyExceptions := by
  constructor
  · rintro ⟨failed, hFailed⟩ source error hMem
    cases error with
    | exception text => exact ⟨text, rfl⟩
    | baseException text =>
        obtain ⟨error, hError⟩ := gatherSections_baseException hMem
        simp [hFailed] at hError
  · exact gatherSections_ok

def Pass.memoryChecks (pass : Pass F) : List Check :=
  match recordOf pass.sections.memory with
  | some mem => Routers.memoryChecks mem
  | none => []

def Pass.nicChecks (pass : Pass F) : List Check :=
  (listOf pass.sections.nics).flatMap Routers.nicChecks

omit [PyFloat F] in
theorem Pass.memoryChecks_key (pass : Pass F) :
    ∀ check ∈ pass.memoryChecks, check.key.1 = "memory" := by
  unfold Pass.memoryChecks
  cases recordOf pass.sections.memory <;> simp [Routers.memoryChecks]

omit [PyFloat F] in
theorem Pass.nicChecks_key (pass : Pass F) :
    ∀ check ∈ pass.nicChecks, check.key.1 = "network" := by
  intro check hCheck
  obtain ⟨nic, _, hCheck⟩ := List.mem_flatMap.mp hCheck
  rcases (by simpa [Routers.nicChecks] using hCheck) with rfl | rfl <;> rfl

/-- The memory checks of a pass, then its network checks. -/
def Pass.checked (pass : Pass F) (counters : Counters) :
    List (Check × Option String) × List (Check × Option String) × Counters :=
  let memory := runChecks pass.window pass.clock pass.memoryChecks counters
  let network := runChecks pass.window pass.clock pass.nicChecks memory.2
  (memory.1, network.1, network.2)

def warningsOf (answers : List (Check × Option String)) : List NodeWarning :=
  answers.filterMap fun answer => answer.1.warning answer.2

/-- The warnings that come from one source, given which sources failed. -/
def Pass.evaluate (pass : Pass F) (failed : List Source) (counters : Counters) :
    Source → List NodeWarning
  | .dmesg => listOf pass.sections.dmesg
  | .smart => (listOf pass.sections.smart).flatMap smartWarnings
  | .sensors => (listOf pass.sections.sensors).flatMap sensorWarnings
  | .memory => warningsOf (pass.checked counters).1
  | .nics => warningsOf (pass.checked counters).2.1
  | .diskUsage => (listOf pass.sections.diskUsage).flatMap diskWarnings
  | .k8sCerts =>
      (listOf pass.sections.k8sCerts).flatMap (k8sCertWarnings (.talosCerts ∉ failed))
  | .talosCerts => (listOf pass.sections.talosCerts).flatMap talosCertWarnings
  | .components => (listOf pass.sections.components).flatMap etcdWarnings
  | .k8sNode =>
      match recordOf pass.sections.k8sNode with
      | some node => node.conditions.flatMap conditionWarnings
      | none => []

/-- The order in which the sources are evaluated. -/
def evaluationOrder : List Source :=
  [.dmesg, .smart, .sensors, .memory, .nics, .diskUsage, .k8sCerts, .talosCerts, .components,
    .k8sNode]

/-- The table after a pass. -/
def Pass.countersAfter (pass : Pass F) (failed : List Source) (counters : Counters) : Counters :=
  let after := (pass.checked counters).2.2
  if .nics ∈ failed then after
  else forget ((listOf pass.sections.nics).map NICInfo.name) after

/-- The warnings about the collection itself. -/
def Pass.dashboardWarnings (pass : Pass F) (failed : List Source) : List NodeWarning :=
  failed.map missing ++ if pass.inHostNetwork then [] else [hostNetworkOff]

/-- `get_warnings`: the tagged warnings, and `_counters` afterwards. -/
def getWarnings (pass : Pass F) (counters : Counters) :
    Outcome (List (Origin × NodeWarning)) × Counters :=
  match gatherSections pass.sections.raised with
  | .error e => (.error e, counters)
  | .ok failed =>
      (.ok ((pass.dashboardWarnings failed).map (Origin.dashboard, ·) ++
        evaluationOrder.flatMap fun source =>
          (pass.evaluate failed counters source).map (Origin.evaluated source, ·)),
        pass.countersAfter failed counters)

/-- The warnings of a pass without their tags. -/
theorem getWarnings_eq {pass : Pass F} {failed : List Source} {counters : Counters}
    {warnings : List (Origin × NodeWarning)}
    (hFailed : gatherSections pass.sections.raised = .ok failed)
    (hWarnings : (getWarnings pass counters).1 = .ok warnings) :
    warnings.map Prod.snd = pass.dashboardWarnings failed ++
      evaluationOrder.flatMap (pass.evaluate failed counters) := by
  simp only [getWarnings, hFailed, Except.ok.injEq] at hWarnings
  rw [← hWarnings, List.map_append, List.map_map, List.map_flatMap]
  simp [Function.comp_def]

theorem getWarnings_ok_iff {pass : Pass F} {counters : Counters} :
    (∃ warnings, (getWarnings pass counters).1 = .ok warnings) ↔ pass.Completed := by
  unfold Pass.Completed getWarnings
  cases gatherSections pass.sections.raised <;> simp

/-- A pass that is cancelled reports nothing and changes nothing. -/
theorem getWarnings_cancelled {pass : Pass F} (h : ¬pass.sections.OnlyExceptions)
    (counters : Counters) : ∃ error, getWarnings pass counters = (.error error, counters) := by
  rw [← pass.completed_iff] at h
  cases hFailed : gatherSections pass.sections.raised with
  | error error => exact ⟨error, by rw [getWarnings, hFailed]⟩
  | ok failed => exact absurd ⟨failed, hFailed⟩ h

end

/-- Every collector returns nothing. -/
def quiet : Sections Int where
  dmesg := .ok []
  smart := .ok []
  sensors := .ok []
  memory := .ok none
  nics := .ok []
  diskUsage := .ok []
  k8sCerts := .ok []
  talosCerts := .ok []
  components := .ok []
  k8sNode := .ok none

def quietPass (now : ℚ) : Pass Int where
  window := 24
  inHostNetwork := true
  clock := fun _ => now
  sections := quiet

end NodeDebugDashboard.Routers
