import NodeDebugDashboard.Collectors.TalosTasks
import NodeDebugDashboard.Collectors.TaskRules

/-! How long `collect_talos` keeps an overview whose version was made without the node
object: the cache goes by the machine config, which has a node object of its own. -/
namespace NodeDebugDashboard.Collectors.Talos

open Library Library.Async Library.Python Library.Text Models Certificates Tasks

section Programs

variable {F : Type} [PyFloat F]

/-- A version without a node object comes with a machine config without one. -/
def Agree (version : Version F) (mc : MachineConfig F) : Prop :=
  version.node.value = none → available mc.node.value = false

/-- The version of an overview was made without a node object. -/
def Overview.Degraded (all : Overview F) : Prop := all.version.node.value = none

/-- What holds of an overview whose parts are in a relation. -/
structure Overview.Stored (Related : Version F → MachineConfig F → Prop)
    (all : Overview F) : Prop where
  version : all.overview.version = all.version.info
  machineConfig : all.overview.machineConfig = all.machineConfig.value.config
  schematic : all.Degraded → all.version.info.schematicId = ""
  configAvailable :
      all.machineConfig.value.config.configAvailable = available all.machineConfig.value.node.value
  related : Related all.version all.machineConfig.value

/-- What holds of the results. -/
def Fn.Stored (Related : Version F → MachineConfig F → Prop) : (f : Fn) → f.Val F → Prop
  | .machineConfig, mc => mc.config.configAvailable = available mc.node.value
  | .talos, all => all.Stored Related
  | _, _ => True

/-- Only versions and machine configs in the relation are gathered. -/
abbrev contract (Related : Version F → MachineConfig F → Prop) : Contract (signature F) where
  ttl f value := ((cfg f).ttl value : Int)
  Stored f _ _ value := f.Stored Related value
  Rely _ _ _ := True
  Joins n kinds values := ∀ (i j : Fin n) (version : Version F) (mc : Stamped (MachineConfig F)),
    (⟨kinds i, values i⟩ : (r : Kind) × r.Val F) = ⟨.version, version⟩ →
      (⟨kinds j, values j⟩ : (r : Kind) × r.Val F) = ⟨.called .machineConfig, mc⟩ →
      Related version mc.value

variable {Related : Version F → MachineConfig F → Prop}

theorem ensures_call (f : Fn) (now : ℚ) :
    (contract Related).Ensures (call f) (fun result _ => f.Stored Related result.value) now :=
  fun _ _ _ hResult _ _ => hResult.stored

theorem ensures_orRaise {α : Type} {r : Kind} {Post : r.Val F → ℚ → Prop}
    {outcome : Outcome α} {now : ℚ} {next : α → Program (signature F) r}
    (hNext : ∀ value, outcome = .ok value → (contract Related).Ensures (next value) Post now) :
    (contract Related).Ensures (orRaise outcome next) Post now := by
  cases outcome with
  | ok value => exact hNext value rfl
  | error => trivial

theorem ensures_ask {r : Kind} {Post : r.Val F → ℚ → Prop} {effect : Effect} {now : ℚ}
    {next : Moment F → Program (signature F) r}
    (hNext : ∀ later moment, (contract Related).Ensures (next moment) Post later) :
    (contract Related).Ensures (.ask effect next) Post now :=
  ⟨trivial, fun later moment _ _ => hNext later moment⟩

variable (app : App)

theorem ensures_nodeObject (now : ℚ) :
    (contract Related).Ensures (nodeObject app) (fun _ _ => True) now := by
  simp only [nodeObject]
  split_ifs
  · exact fun _ _ => trivial
  · exact ensures_ask fun _ _ => ensures_orRaise fun _ _ _ _ => trivial

/-- Without a node object there is no schematic. -/
theorem schematicId_of_none {host : Host F} {osRelease : String} {info : TalosVersionInfo}
    (h : talosVersion host osRelease none = .ok info) : info.schematicId = "" := by
  cases h
  rfl

theorem ensures_collectTalosVersion (now : ℚ) : (contract Related).Ensures (collectTalosVersion app)
    (fun version _ => version.node.value = none → version.info.schematicId = "") now := by
  refine ensures_ask fun _ moment => fun _ node _ _ =>
    ensures_orRaise fun info hInfo _ _ hNone => ?_
  rw [hNone] at hInfo
  exact schematicId_of_none hInfo

theorem ensures_scanFiles {r : Kind} {Post : r.Val F → ℚ → Prop} {root : Glob}
    {files : List Paths.RealPath} {scan : Scan F}
    {next : Scan F → Program (signature F) r} {now : ℚ}
    (hNext : ∀ scanned later, (contract Related).Ensures (next scanned) Post later) :
    (contract Related).Ensures (scanFiles app root files scan next) Post now := by
  induction files generalizing scan now with
  | nil => exact hNext scan now
  | cons file rest ih =>
      simp only [scanFiles]
      split_ifs
      · exact ih
      · exact ensures_ask fun _ _ => ensures_orRaise fun _ _ => ih

theorem ensures_scanRoots {r : Kind} {Post : r.Val F → ℚ → Prop} {roots : List Glob} {scan : Scan F}
    {next : Scan F → Program (signature F) r} {now : ℚ}
    (hNext : ∀ scanned later, (contract Related).Ensures (next scanned) Post later) :
    (contract Related).Ensures (scanRoots app roots scan next) Post now := by
  induction roots generalizing scan now with
  | nil => exact hNext scan now
  | cons root roots ih => exact ensures_scanFiles app fun _ _ => ih

theorem ensures_collectTalosCertificates (now : ℚ) :
    (contract Related).Ensures (collectTalosCertificates app) (fun _ _ => True) now :=
  ensures_ask fun _ _ => ensures_scanRoots app fun _ _ _ _ => trivial

/-- What holds of the parts of an overview. -/
def PartStored : (i : Fin 3) → (parts i).Val F → Prop
  | 0, version => version.node.value = none → version.info.schematicId = ""
  | 1, mc => mc.value.config.configAvailable = available mc.value.node.value
  | 2, _ => True

theorem ensures_collectTalos (now : ℚ) :
    (contract Related).Ensures (collectTalos app)
      (fun all _ => Overview.Stored Related all) now := by
  refine ⟨fun i result _ => PartStored i result, fun i =>
    ?_, fun _ results _ hJoins hResults _ _ => ?_⟩
  · match i with
    | 0 => exact ensures_collectTalosVersion app now
    | 1 => exact ensures_call .machineConfig now
    | 2 => exact ensures_call .certificates now
  · exact ⟨rfl, rfl, hResults 0, hResults 1, hJoins 0 1 _ _ rfl rfl⟩

variable [Unicode]

theorem ensures_machineConfigOn {node : Stamped (Option (Json F))}
    {machineType error installDisk : String} {extensions names : List String} (now : ℚ) :
    (contract Related).Ensures (machineConfigOn node machineType extensions error installDisk names)
      (fun mc _ => mc.config.configAvailable = available mc.node.value) now :=
  ensures_ask fun _ _ => ensures_orRaise fun _ _ _ _ => rfl

theorem ensures_collectTalosMachineConfig (now : ℚ) :
    (contract Related).Ensures collectTalosMachineConfig
    (fun mc _ => mc.config.configAvailable = available mc.node.value) now := by
  refine fun _ node _ _ => ensures_orRaise fun labels _ => ensures_ask fun later moment => ?_
  dsimp only
  split_ifs
  · exact ensures_machineConfigOn later
  · exact ensures_ask fun _ _ => ensures_machineConfigOn _

theorem meets : Meets (system F app) (contract Related) (fun _ => True) where
  ttl _ _ := rfl
  body f now := by
    cases f with
    | nodeObject => exact ensures_nodeObject app now
    | machineConfig => exact ensures_collectTalosMachineConfig now
    | certificates => exact ensures_collectTalosCertificates app now
    | talos => exact ensures_collectTalos app now
  entry entry now := (ensures_call entry.fn now).mono fun _ _ _ _ => trivial
  handle _ _ _ _ _ _ := ⟨trivial, trivial⟩

end Programs

section Runs

variable {F : Type} [PyFloat F] {Related : Version F → MachineConfig F → Prop}

/-- The cache goes by the node object of the machine config. -/
theorem ttl_of_stored {all : Overview F} (h : all.Stored Related) :
    (cfg .talos).ttl all = if available all.machineConfig.value.node.value then 300 else 10 := by
  have hAvailable :
      all.overview.machineConfig.configAvailable =
        available all.machineConfig.value.node.value := by
    rw [h.machineConfig, h.configAvailable]
  simp [TtlCache.Config.ttl, cfg, hAvailable]

variable [Unicode] (app : App) {clock : ℚ} {actions : List (Tasks.Action (Moment F) Entry)}
  {s : Tasks.State (signature F) Unit} {result : Stamped (Overview F)}

/-- In every run, the cache keeps an overview without a node object in its version for ten
seconds exactly when its machine config is without one too. -/
theorem expires_iff_agree {expires : ℚ}
    (h : Runs (Tasks.step (system F app)) (.initial clock ()) actions s)
    (hKept : (s.shared.cache .talos).cache.get? () = some (result, expires))
    (hDegraded : result.value.Degraded) :
    expires = result.ended + 10 ↔ Agree result.value.version result.value.machineConfig.value := by
  have hMeets : Meets (system F app) (contract fun _ _ => True) fun _ => True := meets app
  have inv := invariant_of_joins hMeets (fun _ _ _ _ _ _ _ _ _ => trivial) trivial h
  have hNone : result.value.version.node.value = none := hDegraded
  have hEntry := inv.sound.entry .talos _ hKept
  have hExpires : expires = result.ended + ((cfg .talos).ttl result.value : Int) := hEntry.expires
  rw [hExpires, ttl_of_stored hEntry.stored, Agree]
  split_ifs with hAvailable
  · simp [hAvailable, hNone]
  · simp [hAvailable]

/-- In a run that gathers no version without a node object together with a machine config
that was made from one, an overview with such a version is at most ten seconds old. -/
theorem degradedOverview {now : ℚ}
    (h : RunsWhere (Tasks.step (system F app)) (Joinable (contract Agree))
      (.initial clock ()) actions s)
    (hReturned : ⟨.talos, result, now⟩ ∈ s.shared.returned) (hDegraded : result.value.Degraded) :
    result.value.overview.version.schematicId = "" ∧ now ≤ result.ended + 10 := by
  have hResult : (contract Agree).Returned .talos now result :=
    (invariant_of_runs (meets app) trivial h).sound.returned _ hReturned
  have hStored : result.value.Stored Agree := hResult.stored
  have hTtl : ((cfg .talos).ttl result.value : ℚ) = 10 := by
    rw [ttl_of_stored hStored, hStored.related hDegraded]
    rfl
  refine ⟨hStored.version ▸ hStored.schematic hDegraded, ?_⟩
  rcases hResult.kept with hNow | hBefore
  · linarith
  · exact (hBefore.trans_eq (congrArg _ hTtl)).le

end Runs

section

attribute [local instance] Unicode.ascii

/-- The answers of a node on which nothing can be read, and this node object. -/
def answering (node : Option (Json Int)) : Moment Int where
  host := unreadable
  realpath := id
  isfile _ := false
  files := []
  k8sGet _ := .ok node

def app : App where
  environ _ := some "worker-1"

def schematicNode : Json Int :=
  .obj [("metadata", .obj [("annotations", .obj [
    ("extensions.talos.dev/schematic", .str "376567988ad370138ad8b2698212367b")])])]

/-- The overviews that were returned: when, when they were computed, and whether their
version was made without a node object. -/
def overviews (s : Tasks.State (signature Int) Unit) : List (ℚ × ℚ × Bool) :=
  s.shared.returned.filterMap fun
    | ⟨.talos, result, now⟩ => some (now, result.ended, result.value.version.node.value.isNone)
    | _ => none

theorem mem_overviews {s : Tasks.State (signature Int) Unit} {now ended : ℚ}
    (h : (now, ended, true) ∈ overviews s) :
    ∃ result : Stamped (Overview Int), (⟨.talos, result, now⟩ : Tasks.Return (signature Int)) ∈
      s.shared.returned ∧ result.ended = ended ∧ result.value.Degraded := by
  obtain ⟨⟨f, result, time⟩, hReturned, hResult⟩ := List.mem_filterMap.mp h
  cases f with
  | talos =>
      simp only [Option.some.injEq, Prod.mk.injEq] at hResult
      obtain ⟨rfl, hEnded, hNone⟩ := hResult
      exact ⟨result, hReturned, hEnded, Option.isNone_iff_eq_none.mp hNone⟩
  | _ => cases hResult

/-- The result is not a machine config that was made from a node object. -/
def unavailable : (r : Kind) → Option (r.Val Int) → Bool
  | .called .machineConfig, some mc => !available mc.value.node.value
  | _, _ => true

/-- The execution of `collect_talos` joins no machine config that was made from a node
object. -/
def joinsUnavailable {r : Kind} : Task (signature Int) r → Bool
  | .inside _ _ _ (.join n kinds child _) _ =>
      (List.finRange n).all fun i => unavailable (kinds i) (child i).value?
  | _ => false

def checked (s : Tasks.State (signature Int) Unit) : Tasks.Action (Moment Int) Entry → Bool
  | .act root [] .join => (s.roots[root]?).all fun root => joinsUnavailable root.2
  | .act _ _ .join => false
  | _ => true

theorem available_of_unavailable {r : Kind} {value : r.Val Int} {mc : Stamped (MachineConfig Int)}
    (h : unavailable r (some value) = true)
    (hSame : (⟨r, value⟩ : (r : Kind) × r.Val Int) = ⟨.called .machineConfig, mc⟩) :
    available mc.value.node.value = false := by
  cases hSame
  simpa [unavailable] using h

theorem joinable_of_joinsUnavailable {r : Kind} {task : Task (signature Int) r}
    (h : joinsUnavailable task = true) :
    task.Joinable (contract Agree) [] (.join : Act (Moment Int)) := by
  unfold joinsUnavailable at h
  split at h
  · next n kinds child next _ =>
    intro values hValues i j version mc _ hConfig _
    have hPart := List.all_eq_true.mp h j (List.mem_finRange j)
    rw [hValues j] at hPart
    exact available_of_unavailable hPart hConfig
  · cases h

theorem joinable_of_checked {s : Tasks.State (signature Int) Unit}
    {action : Tasks.Action (Moment Int) Entry} (h : checked s action = true) :
    Joinable (contract Agree) s action := by
  cases action with
  | begin => trivial
  | act root path act =>
      intro r task hTask
      by_cases hAct : act = .join
      · subst hAct
        cases path with
        | nil =>
            rw [checked, hTask] at h
            exact joinable_of_joinsUnavailable h
        | cons => cases h
      · exact task.joinable (fun hJoin => absurd hJoin hAct) path

/-- A call of `collect_talos` while the API server does not answer, and one that hits. -/
def outageRun : List (Tasks.Action (Moment Int) Entry) :=
  [.begin .talos, .act 0 [] (.arrive 0 0 0), .act 0 [] .spawn,
    .act 0 [0] (.ask (answering none) 0),
    .act 0 [0] (.arrive 0 0 0), .act 0 [0] (.ask (answering none) 0), .act 0 [0] (.leave 0),
    .act 0 [1] (.arrive 0 0 0), .act 0 [1] (.arrive 0 0 0),
    .act 0 [1] (.ask (answering none) 0), .act 0 [1] (.ask (answering none) 0),
    .act 0 [1] (.ask (answering none) 0), .act 0 [1] (.leave 0),
    .act 0 [2] (.arrive 0 0 0), .act 0 [2] (.ask (answering none) 0), .act 0 [2] (.leave 0),
    .act 0 [] .join, .act 0 [] (.leave 0),
    .begin .talos, .act 1 [] (.arrive 9 9 9)]

theorem execute_outageRun :
    (executeChecked (Tasks.step (system Int app)) checked (.initial 0 ()) outageRun).map overviews =
      some [(0, 0, true), (9, 0, true)] := by
  decide +kernel

theorem degradedOverview_outage :
    ∃ (s : Tasks.State (signature Int) Unit) (result : Stamped (Overview Int)),
    RunsWhere (Tasks.step (system Int app)) (Joinable (contract Agree))
      (.initial 0 ()) outageRun s ∧
      (⟨.talos, result, 9⟩ : Tasks.Return (signature Int)) ∈ s.shared.returned ∧
        result.value.Degraded ∧
        result.value.overview.version.schematicId = "" ∧ 9 ≤ result.ended + 10 := by
  obtain ⟨s, hExecute, hOverviews⟩ := Option.map_eq_some_iff.mp execute_outageRun
  have hMem : (9, 0, true) ∈ overviews s := by simp [hOverviews]
  obtain ⟨result, hReturned, _, hDegraded⟩ := mem_overviews hMem
  have hRun := runsWhere_of_executeChecked hExecute fun _ _ => joinable_of_checked
  exact ⟨s, result, hRun, hReturned, hDegraded, degradedOverview app hRun hReturned hDegraded⟩

/-- A call of `collect_talos_machine_config` whose `ip` takes five seconds, and one of
`collect_talos` when only the node object has expired. The API server does not answer by then.
299 seconds later a call of `collect_talos` hits. -/
def blipRun : List (Tasks.Action (Moment Int) Entry) :=
  [.begin .machineConfig, .act 0 [] (.arrive 0 0 0),
    .act 0 [] (.arrive 0 0 0), .act 0 [] (.ask (answering schematicNode) 0), .act 0 [] (.leave 0),
    .act 0 [] (.ask (answering none) 0), .act 0 [] (.ask (answering none) 0),
    .act 0 [] (.ask (answering none) 5), .act 0 [] (.leave 5),
    .begin .talos, .act 1 [] (.arrive 301 301 301), .act 1 [] .spawn,
    .act 1 [0] (.ask (answering none) 301),
    .act 1 [0] (.arrive 301 301 301), .act 1 [0] (.ask (answering none) 301),
    .act 1 [0] (.leave 301), .act 1 [1] (.arrive 301 301 301),
    .act 1 [2] (.arrive 301 301 301), .act 1 [2] (.ask (answering none) 301),
    .act 1 [2] (.leave 301), .act 1 [] .join, .act 1 [] (.leave 301),
    .begin .talos, .act 2 [] (.arrive 600 600 600)]

theorem execute_blipRun :
    (execute (Tasks.step (system Int app)) (.initial 0 ()) blipRun).map overviews =
      some [(301, 301, true), (600, 301, true)] := by
  decide +kernel

theorem not_degradedOverview : ¬∀ (actions : List (Tasks.Action (Moment Int) Entry))
    (s : Tasks.State (signature Int) Unit) (result : Stamped (Overview Int)) (now : ℚ),
    Runs (Tasks.step (system Int app)) (.initial 0 ()) actions s →
      (⟨.talos, result, now⟩ : Tasks.Return (signature Int)) ∈ s.shared.returned →
        result.value.Degraded → now ≤ result.ended + 10 := by
  intro h
  obtain ⟨s, hExecute, hOverviews⟩ := Option.map_eq_some_iff.mp execute_blipRun
  have hMem : (600, 301, true) ∈ overviews s := by simp [hOverviews]
  obtain ⟨result, hReturned, hEnded, hDegraded⟩ := mem_overviews hMem
  have hYoung := h blipRun s result 600 (runs_of_execute hExecute) hReturned hDegraded
  rw [hEnded] at hYoung
  norm_num at hYoung

end

end NodeDebugDashboard.Collectors.Talos
