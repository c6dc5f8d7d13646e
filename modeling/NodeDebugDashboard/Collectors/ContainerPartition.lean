import NodeDebugDashboard.Collectors.ContainerTasks
import NodeDebugDashboard.Collectors.TaskRules

/-! Whether the two halves of the overview are a partition of the containers: they were
filtered by the same predicate, but perhaps over other containers and with other pods. -/
namespace NodeDebugDashboard.Collectors.Containers

open Library Library.Async Library.Python Library.Text Models Storage Tasks

section Halves

variable {F : Type} [PyNumber F]

/-- The ids of the containers that are of the system with these pods. -/
def systemIds (containers : Json F) (pods : Table F (Pod F)) : List String :=
  ((listed containers).filter fun c => isSystem pods c = .ok true).map containerId

/-- The ids of the containers that are not of the system with these pods. -/
def workloadIds (containers : Json F) (pods : Table F (Pod F)) : List String :=
  ((listed containers).filter fun c => isSystem pods c = .ok false).map containerId

/-- Every container can be told to be of the system or not. -/
def Classified (containers : Json F) (pods : Table F (Pod F)) : Prop :=
  ∀ c ∈ listed containers, ∃ side, isSystem pods c = .ok side

theorem ids_perm {containers : Json F} {pods : Table F (Pod F)} (h : Classified containers pods) :
    (systemIds containers pods ++ workloadIds containers pods).Perm (ids containers) := by
  have hOther : workloadIds containers pods =
      ((listed containers).filter fun c => !decide (isSystem pods c = .ok true)).map
        containerId := by
    refine congrArg _ (List.filter_congr fun c hMem => ?_)
    obtain ⟨side, hSide⟩ := h c hMem
    cases side <;> simp [hSide]
  rw [hOther, systemIds, ← List.map_append]
  exact (List.filter_append_perm _ _).map _

omit [PyNumber F] in
theorem containerId_eq {c value : Json F} (h : c.get "id" (.str "") = .ok value) :
    containerId c = (asString value).getD "" := by
  cases c with
  | obj fields =>
      cases h
      rfl
  | _ => cases h

variable [Unicode]

theorem common_cid {stats : Table F (Stats F)} {time : F} {c : Json F} {fields : Common F}
    (h : common stats time c = .ok fields) : containerId c = (asString fields.cid).getD "" := by
  unfold common at h
  simp only [bind_eq_ok] at h
  obtain ⟨cid, hCid, _, _, _, _, _, _, _, _, _, _, _, _, _, _, _, _, hFields⟩ := h
  cases hFields
  exact containerId_eq hCid

/-- A turn of a loop that tells on which side a container is, and keeps those of one. -/
def TakesSide {α : Type} (side : Bool) (pods : Table F (Pod F)) (id : α → String)
    (row : F → Json F → Outcome (Option α)) : Prop :=
  ∀ time c result, row time c = .ok result →
    (isSystem pods c = .ok side ∧ result.map id = some (containerId c)) ∨
      (isSystem pods c = .ok (!side) ∧ result = none)

theorem takesSide_systemContainer (host : Host F) (pods : Table F (Pod F))
    (stats : Table F (Stats F)) :
    TakesSide true pods SystemContainer.containerId (systemContainer host pods stats) := by
  intro time c result h
  obtain ⟨side, hSide, hResult⟩ := bind_eq_ok.mp h
  cases side with
  | false =>
      cases hResult
      exact .inr ⟨hSide, rfl⟩
  | true =>
      obtain ⟨fields, hFields, hRow⟩ := bind_eq_ok.mp hResult
      obtain ⟨container, hContainer, rfl⟩ := map_eq_ok.mp hRow
      refine .inl ⟨hSide, ?_⟩
      rw [validated_ok hContainer, common_cid hFields]
      rfl

theorem takesSide_workloadContainer (host : Host F) (pods : Table F (Pod F))
    (stats : Table F (Stats F)) :
    TakesSide false pods WorkloadContainer.containerId (workloadContainer host pods stats) := by
  intro time c result h
  obtain ⟨side, hSide, hResult⟩ := bind_eq_ok.mp h
  cases side with
  | true =>
      cases hResult
      exact .inr ⟨hSide, rfl⟩
  | false =>
      obtain ⟨pod, _, hRest⟩ := bind_eq_ok.mp hResult
      obtain ⟨fields, hFields, hRow⟩ := bind_eq_ok.mp hRest
      obtain ⟨container, hContainer, rfl⟩ := map_eq_ok.mp hRow
      refine .inl ⟨hSide, ?_⟩
      rw [validated_ok hContainer, common_cid hFields]
      rfl

omit [Unicode] in
/-- The rows of a loop that takes one side. -/
theorem TakesSide.rows {α : Type} {side : Bool} {pods : Table F (Pod F)} {id : α → String}
    {row : F → Json F → Outcome (Option α)} (h : TakesSide side pods id row) {time : Nat → F}
    {entries : List (Json F × Nat)} {rows : List (Option α)}
    (hRows : List.Forall₂ (fun entry result => row (time entry.2) entry.1 =
      .ok result) entries rows) :
    (∀ c ∈ entries.map Prod.fst, ∃ other, isSystem pods c = .ok other) ∧
      (rows.filterMap fun a => a).map id =
        ((entries.map Prod.fst).filter fun c => isSystem pods c = .ok side).map containerId := by
  induction hRows with
  | nil => simp
  | @cons entry result entries rows hRow _ ih =>
      obtain ⟨hSides, hIds⟩ := ih
      rcases h _ _ _ hRow with ⟨hSide, hKept⟩ | ⟨hSide, rfl⟩
      · obtain ⟨a, rfl, hId⟩ := Option.map_eq_some_iff.mp hKept
        exact ⟨List.forall_mem_cons.mpr ⟨⟨side, hSide⟩, hSides⟩, by simp [hSide, hId, hIds]⟩
      · exact ⟨List.forall_mem_cons.mpr ⟨⟨!side, hSide⟩, hSides⟩, by simp [hSide, hIds]⟩

omit [Unicode] in
theorem TakesSide.collected {α : Type} {side : Bool} {pods : Table F (Pod F)} {id : α → String}
    {row : F → Json F → Outcome (Option α)} (h : TakesSide side pods id row) {time : Nat → F}
    {containers : Json F} {result : List α} (hResult : collected row time containers = .ok result) :
    Classified containers pods ∧
      result.map id =
        ((listed containers).filter fun c => isSystem pods c = .ok side).map containerId := by
  obtain ⟨items, hItems, hRest⟩ := bind_eq_ok.mp hResult
  obtain ⟨rows, hRows, hKept⟩ := bind_eq_ok.mp hRest
  cases hKept
  have hListed : listed containers = items := by simp [listed, hItems]
  have hSpec := h.rows (mapM_eq_ok hRows)
  rw [List.zipIdx_map_fst, ← hListed] at hSpec
  exact hSpec

theorem systemContainers_spec {host : Host F} {time : Nat → F} {containers : Json F}
    {pods : Table F (Pod F)} {stats : Table F (Stats F)} {result : List (SystemContainer F)}
    (h : systemContainers host time containers pods stats = .ok result) :
    Classified containers pods ∧
      (result.map SystemContainer.containerId).Perm (systemIds containers pods) := by
  obtain ⟨rows, hRows, hSorted⟩ := bind_eq_ok.mp h
  cases hSorted
  obtain ⟨hSides, hIds⟩ := (takesSide_systemContainer host pods stats).collected hRows
  refine ⟨hSides, ?_⟩
  rw [systemIds, ← hIds]
  exact (List.perm_insertionSort _ rows).map _

theorem workloadContainers_spec {host : Host F} {time : Nat → F} {containers : Json F}
    {pods : Table F (Pod F)} {stats : Table F (Stats F)} {result : List (WorkloadContainer F)}
    (h : workloadContainers host time containers pods stats = .ok result) :
    Classified containers pods ∧
      (result.map WorkloadContainer.containerId).Perm (workloadIds containers pods) := by
  obtain ⟨rows, hRows, hSorted⟩ := bind_eq_ok.mp h
  cases hSorted
  obtain ⟨hSides, hIds⟩ := (takesSide_workloadContainer host pods stats).collected hRows
  refine ⟨hSides, ?_⟩
  rw [workloadIds, ← hIds]
  exact (List.perm_insertionSort _ rows).map _

end Halves

section Overview

variable {F : Type} [PyNumber F]

def Whole.ids (all : Whole F) : List String :=
  all.overview.systemContainers.map SystemContainer.containerId ++
    all.overview.workloadContainers.map WorkloadContainer.containerId

/-- No id is there twice, and the two lists are the containers of a `crictl ps` that they
were made from. -/
def Whole.Partitioned (all : Whole F) : Prop :=
  all.ids.Nodup ∧
    (all.ids.Perm (Containers.ids all.system.containers) ∨
      all.ids.Perm (Containers.ids all.workload.containers))

/-- What one half was made from gives the other half too. -/
def Whole.Agrees (all : Whole F) : Prop :=
  (workloadIds all.workload.containers all.workload.pods).Perm
      (workloadIds all.system.containers all.system.pods) ∨
    (systemIds all.system.containers all.system.pods).Perm
      (systemIds all.workload.containers all.workload.pods)

variable [Unicode]

/-- A half of the overview that a call of its collector returned. -/
structure Half.Made {α : Type} (half : Half F α)
    (make : Host F → (Nat → F) → Json F → Table F (Pod F) → Table F (Stats F) → Outcome (List α)) :
    Prop where
  made : ∃ host time stats, make host time half.containers half.pods stats = .ok half.result
  distinct : (Containers.ids half.containers).Nodup

structure Whole.Made (all : Whole F) : Prop where
  overview : all.overview =
    { systemContainers := all.system.result, workloadContainers := all.workload.result }
  system : all.system.Made systemContainers
  workload : all.workload.Made workloadContainers

theorem Whole.partitioned_iff_agrees {all : Whole F} (h : all.Made) :
    all.Partitioned ↔ all.Agrees := by
  obtain ⟨hOverview, ⟨⟨_, _, _, hSystem⟩, hDistinct⟩, ⟨⟨_, _, _, hWorkload⟩, hDistinct'⟩⟩ := h
  obtain ⟨hSides, hSystemIds⟩ := systemContainers_spec hSystem
  obtain ⟨hSides', hWorkloadIds⟩ := workloadContainers_spec hWorkload
  have hIds : all.ids.Perm (systemIds all.system.containers all.system.pods ++
      workloadIds all.workload.containers all.workload.pods) := by
    rw [Whole.ids, hOverview]
    exact hSystemIds.append hWorkloadIds
  have hFirst : all.ids.Perm (Containers.ids all.system.containers) ↔
      (workloadIds all.workload.containers all.workload.pods).Perm
        (workloadIds all.system.containers all.system.pods) := by
    rw [hIds.congr_left, (ids_perm hSides).symm.congr_right, List.perm_append_left_iff]
  have hSecond : all.ids.Perm (Containers.ids all.workload.containers) ↔
      (systemIds all.system.containers all.system.pods).Perm
        (systemIds all.workload.containers all.workload.pods) := by
    rw [hIds.congr_left, (ids_perm hSides').symm.congr_right, List.perm_append_right_iff]
  rw [Whole.Partitioned, hFirst, hSecond]
  refine ⟨fun h => h.2, fun hAgrees => ⟨?_, hAgrees⟩⟩
  rcases hAgrees with hSame | hSame
  · exact (hFirst.mpr hSame).nodup_iff.mpr hDistinct
  · exact (hSecond.mpr hSame).nodup_iff.mpr hDistinct'

end Overview

section Programs

variable {F : Type} [PyNumber F] [Unicode] {app : App}

/-- What holds of the results. -/
def Fn.Stored : (f : Fn) → f.Val F → Prop
  | .pods, _ => True
  | .containers, found => (ids found).Nodup
  | .stats, _ => True
  | .system, half => half.Made systemContainers
  | .workload, half => half.Made workloadContainers
  | .overview, all => all.Made

variable (F app) in
abbrev contract : Contract (signature F app) where
  ttl _ _ := app.cacheTtl
  Stored f _ _ value := f.Stored value
  Rely _ _ _ := True

theorem ensures_call (f : Fn) (now : ℚ) :
    (contract F app).Ensures (call app f) (fun result _ => f.Stored result.value) now :=
  fun _ _ _ hResult _ _ => hResult.stored

theorem ensures_fetch {f : Fn} {cmd : List String} {read : Host F → Outcome (f.Val F)} (now : ℚ)
    (hRead : ∀ (moment : Moment F app) value, read moment.host = .ok value → f.Stored value) :
    (contract F app).Ensures (fetch app f cmd read) (fun value _ => f.Stored value) now := by
  refine ⟨trivial, fun later moment _ _ => ?_⟩
  dsimp only
  cases hResult : read moment.host with
  | ok value => exact fun _ _ => hRead moment value hResult
  | error => trivial

theorem ensures_gathered {r : Kind} {Post : r.Val F → ℚ → Prop} {now : ℚ}
    {next : Json F → Table F (Pod F) → Table F (Stats F) → Moment F app →
      Program (signature F app) r}
    (hNext : ∀ later containers pods stats moment, (ids containers).Nodup →
      (contract F app).Ensures (next containers pods stats moment) Post later) :
    (contract F app).Ensures (gathered app next) Post now :=
  fun _ containers _ hContainers _ pods _ _ _ stats _ _ =>
    ⟨trivial, fun later moment _ _ =>
      hNext later containers.value pods.value stats.value moment hContainers.stored⟩

theorem ensures_collectSystemContainers (now : ℚ) :
    (contract F app).Ensures (collectSystemContainers app)
    (fun half _ => Half.Made half systemContainers) now := by
  refine ensures_gathered fun later containers pods stats moment hDistinct => ?_
  split
  · next result hResult => exact fun _ _ => ⟨⟨moment.host, moment.time, stats, hResult⟩, hDistinct⟩
  · trivial

theorem ensures_collectWorkloadContainers (now : ℚ) :
    (contract F app).Ensures (collectWorkloadContainers app)
    (fun half _ => Half.Made half workloadContainers) now := by
  refine ensures_gathered fun later containers pods stats moment hDistinct => ?_
  split
  · next result hResult => exact fun _ _ => ⟨⟨moment.host, moment.time, stats, hResult⟩, hDistinct⟩
  · trivial

theorem ensures_collectContainers (now : ℚ) :
    (contract F app).Ensures (collectContainers app) (fun all _ => Whole.Made all) now :=
  ⟨fun i result _ => (halves i).Stored result.value, fun i => ensures_call (halves i) now,
    fun _ _ _ _ hResults _ _ => ⟨rfl, hResults 0, hResults 1⟩⟩

theorem meets : Meets (system F app) (contract F app) (fun _ => True) where
  ttl _ _ := rfl
  body f now := by
    cases f with
    | pods => exact ensures_fetch now fun _ _ _ => trivial
    | containers => exact ensures_fetch now fun moment value hValue => moment.distinct value hValue
    | stats => exact ensures_fetch now fun _ _ _ => trivial
    | system => exact ensures_collectSystemContainers now
    | workload => exact ensures_collectWorkloadContainers now
    | overview => exact ensures_collectContainers now
  entry entry now := (ensures_call entry.fn now).mono fun _ _ _ _ => trivial
  handle _ _ _ _ _ _ := ⟨trivial, trivial⟩

/-- In every run, an overview partitions the containers exactly when the containers and
the pods of one of its halves give the other half as well. -/
theorem partitioned_iff {clock : ℚ} {actions : List (Tasks.Action (Moment F app) Entry)}
    {s : Tasks.State (signature F app) Unit} {result : Stamped (Whole F)} {now : ℚ}
    (h : Runs (Tasks.step (system F app)) (.initial clock ()) actions s)
    (hReturned : ⟨.overview, result, now⟩ ∈ s.shared.returned) :
    result.value.Partitioned ↔ result.value.Agrees :=
  Whole.partitioned_iff_agrees
    ((invariant_of_joins meets (fun _ _ _ => trivial) trivial h).sound.returned _ hReturned).stored

end Programs

section

attribute [local instance] Unicode.ascii

/-- A node whose `crictl` prints one container of kube-system, and its pod if it answers. -/
def oneContainer (podsAnswer : Bool) : Host Int :=
  { unreadable with
    run := fun cmd =>
      if cmd = psCommand "/host" then .ok ("ps", "", 0)
      else if cmd = podsCommand "/host" ∧ podsAnswer then .ok ("pods", "", 0)
      else .ok ("", "", -1)
    loads := fun stdout =>
      if stdout = "ps" then .ok (.obj [("containers", .arr [.obj [("id", .str "c1"),
        ("metadata", .obj [("name", .str "coredns")]), ("podSandboxId", .str "p1")]])])
      else .ok (.obj [("items", .arr [.obj [("id", .str "p1"),
        ("metadata", .obj [("name", .str "coredns-1"), ("namespace", .str "kube-system")])]])]) }

theorem getContainers_oneContainer (podsAnswer : Bool) :
    (getContainers "/host" (oneContainer podsAnswer)).map ids = .ok ["c1"] := by
  cases podsAnswer <;> decide +kernel

def answering (podsAnswer : Bool) : Moment Int {} where
  host := oneContainer podsAnswer
  time _ := 0
  distinct containers h := by
    have hIds := getContainers_oneContainer podsAnswer
    rw [h] at hIds
    rw [Except.ok.inj hIds]
    decide

/-- A call of `collect_system_containers` whose `crictl stats` takes five seconds, and one
of `collect_containers` when only the containers and the pods have expired. By then
`crictl pods` fails. -/
def podsFailRun : List (Tasks.Action (Moment Int {}) Entry) :=
  [.begin .system, .act 0 [] (.arrive 0 0 0),
    .act 0 [] (.arrive 0 0 0), .act 0 [] (.ask (answering true) 0), .act 0 [] (.leave 0),
    .act 0 [] (.arrive 0 0 0), .act 0 [] (.ask (answering true) 0), .act 0 [] (.leave 0),
    .act 0 [] (.arrive 0 0 0), .act 0 [] (.ask (answering true) 5), .act 0 [] (.leave 5),
    .act 0 [] (.ask (answering true) 5), .act 0 [] (.leave 5),
    .begin .overview, .act 1 [] (.arrive 12 12 12), .act 1 [] .spawn, .act 1 [0] (.arrive 12 12 12),
    .act 1 [1] (.arrive 12 12 12),
    .act 1 [1] (.arrive 12 12 12), .act 1 [1] (.ask (answering false) 12), .act 1 [1] (.leave 12),
    .act 1 [1] (.arrive 12 12 12), .act 1 [1] (.ask (answering false) 12), .act 1 [1] (.leave 12),
    .act 1 [1] (.arrive 12 12 12), .act 1 [1] (.ask (answering false) 12), .act 1 [1] (.leave 12),
    .act 1 [] .join, .act 1 [] (.leave 12)]

/-- The overviews that were returned, by the ids of their two lists. -/
def overviews (s : Tasks.State (signature Int {}) Unit) : List (List String × List String) :=
  s.shared.returned.filterMap fun
    | ⟨.overview, result, _⟩ =>
        some (result.value.overview.systemContainers.map SystemContainer.containerId,
          result.value.overview.workloadContainers.map WorkloadContainer.containerId)
    | _ => none

theorem execute_podsFailRun :
    (execute (Tasks.step (system Int {})) (.initial 0 ()) podsFailRun).map overviews =
      some [(["c1"], ["c1"])] := by
  decide +kernel

/-- The container is there as one of the system and as a workload. -/
theorem returned_podsFail :
    ∃ (s : Tasks.State (signature Int {}) Unit) (result : Stamped (Whole Int)) (now : ℚ),
    Runs (Tasks.step (system Int {})) (.initial 0 ()) podsFailRun s ∧
      (⟨.overview, result, now⟩ : Tasks.Return (signature Int {})) ∈ s.shared.returned ∧
        result.value.ids = ["c1", "c1"] := by
  obtain ⟨s, hExecute, hOverviews⟩ := Option.map_eq_some_iff.mp execute_podsFailRun
  have hMem : (["c1"], ["c1"]) ∈ overviews s := by simp [hOverviews]
  obtain ⟨⟨f, result, now⟩, hReturned, hResult⟩ := List.mem_filterMap.mp hMem
  cases f with
  | overview =>
      obtain ⟨hSystem, hWorkload⟩ := Prod.mk.inj (Option.some.inj hResult)
      exact ⟨s, result, now, runs_of_execute hExecute, hReturned, by
        rw [Whole.ids, hSystem, hWorkload]; rfl⟩
  | _ => cases hResult

theorem partitioned_iff_podsFail :
    ∃ (s : Tasks.State (signature Int {}) Unit) (result : Stamped (Whole Int))
    (now : ℚ), Runs (Tasks.step (system Int {})) (.initial 0 ()) podsFailRun s ∧
      (⟨.overview, result, now⟩ : Tasks.Return (signature Int {})) ∈ s.shared.returned ∧
        (result.value.Partitioned ↔ result.value.Agrees) := by
  obtain ⟨s, result, now, hRun, hReturned, _⟩ := returned_podsFail
  exact ⟨s, result, now, hRun, hReturned, partitioned_iff hRun hReturned⟩

theorem not_partitioned : ¬∀ (actions : List (Tasks.Action (Moment Int {}) Entry))
    (s : Tasks.State (signature Int {}) Unit) (result : Stamped (Whole Int)) (now : ℚ),
    Runs (Tasks.step (system Int {})) (.initial 0 ()) actions s →
      (⟨.overview, result, now⟩ : Tasks.Return (signature Int {})) ∈ s.shared.returned →
        result.value.Partitioned := by
  intro h
  obtain ⟨s, result, now, hRun, hReturned, hIds⟩ := returned_podsFail
  have hNodup := (h podsFailRun s result now hRun hReturned).1
  rw [hIds] at hNodup
  exact absurd hNodup (by decide)

end

end NodeDebugDashboard.Collectors.Containers
