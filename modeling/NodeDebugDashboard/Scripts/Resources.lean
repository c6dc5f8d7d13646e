import Mathlib.Algebra.BigOperators.Ring.List
import NodeDebugDashboard.Scripts.Quantities

/-! `cmd_resources` of scripts/kdiag-node and scripts/kdiag-pods: what the containers of a pod
list request, summed up by filters of jq. -/
namespace NodeDebugDashboard.Scripts.Resources

open Library Library.Jq Library.Jq.Results Library.Numerals Quantities

variable (jq : Builtins)

/-- `qty * 1000` -/
def millis (value : Value) : Results Value := do
  let amount ← qty jq value
  jq.times amount (.num 1000)

/-- `.spec.containers[]?.resources.requests[name]` -/
def requests (name : String) (pod : Value) : Results Value := do
  let spec ← field "spec" pod
  let containers ← field "containers" spec
  let container ← each containers
  let resources ← field "resources" container
  let requests ← field "requests" resources
  field name requests

/-- `amounts // "0"`, which binds tighter than `|` -/
def orZero (amounts : Results Value) : Results Value := alternative amounts (pure (.str "0"))

/-- `[amounts | unit] | add // 0` -/
def total (amounts : Results Value) (unit : Value → Results Value) : Results Value := do
  let items ← collect (amounts >>= unit)
  alternative (jq.add items) (pure (.num 0))

/-- `.items[]?` -/
def pods (podsJson : Value) : Results Value := do
  let items ← field "items" podsJson
  each items

/-- `.items[]? | select(.status.phase == "Running")` -/
def running (podsJson : Value) : Results Value := do
  let pod ← pods podsJson
  let status ← field "status" pod
  let phase ← field "phase" status
  select (isText "Running" phase) pod

/-- `. / 1048576` -/
def mebibytes (value : Value) : Results Value := jq.divide value (.num 1048576)

/-- The three numbers of `cmd_resources` in scripts/kdiag-node. -/
def cpuReq (podsJson : Value) : Results Value :=
  total jq (orZero (pods podsJson >>= requests "cpu")) (millis jq) >>= Value.round

def memReq (podsJson : Value) : Results Value :=
  total jq (orZero (pods podsJson >>= requests "memory")) (qty jq) >>= Value.round

def gpuReq (podsJson : Value) : Results Value :=
  total jq (orZero (pods podsJson >>= requests "nvidia.com/gpu")) (qty jq) >>= Value.round

/-- A row of `cmd_resources` in scripts/kdiag-pods. -/
def podRow (pod : Value) : Results Value := do
  let metadata ← field "metadata" pod
  let ns ← field "namespace" metadata
  let name ← field "name" metadata
  let cpu ← total jq (orZero (requests "cpu" pod)) (millis jq) >>= Value.round
  let mem ← total jq (orZero (requests "memory" pod)) (qty jq) >>= mebibytes jq >>= Value.floor
  let gpu ← total jq (orZero (requests "nvidia.com/gpu" pod)) (qty jq) >>= Value.round
  return .str ("\t".intercalate ([ns, name, cpu, mem, gpu].map jq.tostring))

def podRows (podsJson : Value) : Results Value := running podsJson >>= podRow jq

def totalCpu (podsJson : Value) : Results Value :=
  total jq (running podsJson >>= fun pod => orZero (requests "cpu" pod)) (millis jq) >>= Value.round

def totalMem (podsJson : Value) : Results Value :=
  total jq (running podsJson >>= fun pod => orZero (requests "memory" pod)) (qty jq) >>=
  mebibytes jq >>= Value.floor

def totalGpu (podsJson : Value) : Results Value :=
  total jq (running podsJson >>= fun pod => orZero (requests "nvidia.com/gpu" pod))
    (qty jq) >>= Value.round

/-- `.spec.containers` -/
def containers (pod : Value) : List Value := ((pod.get "spec").get "containers").members

def request (name : String) (container : Value) : Value :=
  ((container.get "resources").get "requests").get name

structure IsContainer (container : Value) : Prop where
  record : container.IsRecord
  resources : (container.get "resources").IsRecord
  requests : ((container.get "resources").get "requests").IsRecord

structure IsPod (pod : Value) : Prop where
  record : pod.IsRecord
  metadata : (pod.get "metadata").IsRecord
  spec : (pod.get "spec").IsRecord
  status : (pod.get "status").IsRecord
  isContainer : ∀ container ∈ containers pod, IsContainer container

/-- A list of pods as the API server sends it. What is asked for in it may be missing, and the
requests may be anything. -/
structure PodList where
  json : Value
  record : json.IsRecord
  isPod : ∀ pod ∈ (json.get "items").members, IsPod pod

def PodList.pods (list : PodList) : List Value := (list.json.get "items").members

def PodList.running (list : PodList) : List Value :=
  list.pods.filter fun pod => isText "Running" ((pod.get "status").get "phase")

/-- What all containers of the pods request together. -/
noncomputable def amount (pods : List Value) (name : String) : ℚ :=
  ((pods.flatMap containers).map fun container => worth jq (request name container)).sum

/-- The row of a pod. -/
noncomputable def row (pod : Value) : Value :=
  let cpu := roundAway (amount jq [pod] "cpu" * 1000)
  let mem := ⌊amount jq [pod] "memory" / 1048576⌋
  let gpu := roundAway (amount jq [pod] "nvidia.com/gpu")
  .str
    ("\t".intercalate
      ([(pod.get "metadata").get "namespace", (pod.get "metadata").get "name", .num cpu, .num mem,
    .num gpu].map jq.tostring))

theorem sum_truthy (amounts : List Value) :
    ((amounts.filter Value.truthy).map (worth jq)).sum = (amounts.map (worth jq)).sum := by
  induction amounts with
  | nil => rfl
  | cons value amounts ih =>
      cases hTruthy : value.truthy with
      | true =>
          rw [List.filter_cons_of_pos hTruthy, List.map_cons, List.sum_cons, List.map_cons,
            List.sum_cons, ih]
      | false =>
          rw [List.filter_cons_of_neg (by simp [hTruthy]), ih, List.map_cons, List.sum_cons,
            worth_untruthy jq hTruthy, zero_add]

theorem requests_eq {pod : Value} (h : IsPod pod) (name : String) :
    requests name pod = of ((containers pod).map (request name)) := by
  have hTurn : ∀ container ∈ containers pod, (do
      let resources ← field "resources" container
      let requests ← field "requests" resources
      field name requests) = of [request name container] := by
    intro container hMem
    have hContainer := h.isContainer container hMem
    rw [field_eq hContainer.record, one_bind, field_eq hContainer.resources, one_bind,
      field_eq hContainer.requests]
    rfl
  rw [requests, field_eq h.record, one_bind, field_eq h.spec, one_bind, each_eq,
    List.map_eq_flatMap]
  exact of_bind hTurn

theorem pods_eq (list : PodList) : pods list.json = of list.pods := by
  rw [pods, field_eq list.record, one_bind, each_eq]
  rfl

theorem running_eq (list : PodList) : running list.json = of list.running := by
  rw [running, pods_eq]
  refine select_bind fun pod hMem => ?_
  have hPod := list.isPod pod hMem
  rw [field_eq hPod.record, one_bind, field_eq hPod.status, one_bind]

/-- The amounts that are asked for in some of the pods. -/
theorem requests_bind {pods : List Value} (h : ∀ pod ∈ pods, IsPod pod) (name : String) :
    (of pods >>= requests name) = of ((pods.flatMap containers).map (request name)) := by
  rw [of_bind fun pod hMem => requests_eq (h pod hMem) name, List.map_flatMap]

/-- What `//` makes of the amounts. -/
def kept (amounts : List Value) : List Value :=
  let items := amounts.filter Value.truthy
  if items.isEmpty then [.str "0"] else items

theorem orZero_eq (amounts : List Value) : orZero (of amounts) = of (kept amounts) := by
  cases hKept : amounts.filter Value.truthy with
  | nil => simp [orZero, alternative, kept, hKept, pure]
  | cons value items => simp [orZero, alternative, kept, hKept]

/-- The amounts that `//` drops are worth nothing, and so is the one it puts in their place. -/
theorem sum_kept (amounts : List Value) :
    ((kept amounts).map (worth jq)).sum = (amounts.map (worth jq)).sum := by
  have hSum := sum_truthy jq amounts
  cases hKept : amounts.filter Value.truthy with
  | nil =>
      have hZero : kept amounts = [.str "0"] := by simp [kept, hKept]
      rw [hKept] at hSum
      rw [hZero, ← hSum, List.map_singleton, List.sum_singleton, worth_zero]
      rfl
  | cons value items =>
      have hItems : kept amounts = value :: items := by simp [kept, hKept]
      rw [hItems, ← hKept, hSum]

theorem total_eq {unit : Value → Results Value} {factor : ℚ}
    (h : ∀ value, unit value = pure (.num (worth jq value * factor))) (items : List Value) :
    total jq (of items) unit = pure (.num ((items.map (worth jq)).sum * factor)) := by
  have hUnits :
      (of items >>= unit) =
        of ((items.map fun value => worth jq value * factor).map Value.num) := by
    rw [List.map_map, List.map_eq_flatMap]
    exact of_bind fun value _ => h value
  rw [total, hUnits, collect_of, one_bind]
  cases hItems : items with
  | nil => simp [Builtins.add, alternative, Value.truthy, pure]
  | cons value rest =>
      have hNumbers : (value :: rest).map (fun value => worth jq value * factor) ≠ [] := by simp
      rw [add_numbers jq hNumbers, alternative_num, List.sum_map_mul_right]

theorem millis_eq (value : Value) : millis jq value = pure (.num (worth jq value * 1000)) := by
  rw [millis, qty_eq, one_bind]
  rfl

theorem total_millis (items : List Value) :
    total jq (of items) (millis jq) = pure (.num ((items.map (worth jq)).sum * 1000)) :=
  total_eq jq (millis_eq jq) items

theorem total_qty (items : List Value) :
    total jq (of items) (qty jq) = pure (.num (items.map (worth jq)).sum) := by
  have hUnit : ∀ value, qty jq value = pure (.num (worth jq value * 1)) := by
    intro value
    rw [qty_eq, mul_one]
  rw [total_eq jq hUnit, mul_one]

theorem mebibytes_eq (x : ℚ) : mebibytes jq (.num x) = pure (.num (x / 1048576)) := by
  rw [mebibytes, Builtins.divide, if_neg (by norm_num)]

theorem sum_requests (pods : List Value) (name : String) :
    ((kept ((pods.flatMap containers).map (request name))).map (worth jq)).sum =
      amount jq pods name := by
  rw [sum_kept, List.map_map]
  rfl

/-- It makes no difference whether `//` applies to all of the pods or to each of them. -/
theorem sum_podRequests (pods : List Value) (name : String) :
    ((pods.flatMap fun pod => kept ((containers pod).map (request name))).map (worth jq)).sum =
      amount jq pods name := by
  induction pods with
  | nil => rfl
  | cons pod pods ih =>
      rw [List.flatMap_cons, List.map_append, List.sum_append, ih, sum_kept, amount, amount,
        List.flatMap_cons, List.map_append, List.sum_append, List.map_map]
      rfl

theorem podRow_eq {pod : Value} (h : IsPod pod) : podRow jq pod = pure (row jq pod) := by
  have hRequests :
      ∀ name, orZero (requests name pod) =
        of (kept (([pod].flatMap containers).map (request name))) := by
    intro name
    rw [requests_eq h, List.flatMap_singleton, orZero_eq]
  rw [podRow, field_eq h.record, one_bind, field_eq h.metadata, one_bind,
    field_eq h.metadata, one_bind]
  simp only [hRequests, total_millis, total_qty, sum_requests, one_bind, mebibytes_eq]
  rfl

section Sums

variable (list : PodList)

theorem PodList.isPod_pods : ∀ pod ∈ list.pods, IsPod pod := list.isPod

theorem PodList.isPod_running : ∀ pod ∈ list.running, IsPod pod := fun pod hMem =>
  list.isPod pod (List.mem_of_mem_filter hMem)

theorem pods_requests (name : String) :
    (pods list.json >>= requests name) =
      of ((list.pods.flatMap containers).map (request name)) := by
  rw [pods_eq, requests_bind list.isPod_pods]

theorem running_requests (name : String) :
    (running list.json >>= fun pod => orZero (requests name pod)) =
      of (list.running.flatMap fun pod => kept ((containers pod).map (request name))) := by
  rw [running_eq]
  refine of_bind fun pod hMem => ?_
  rw [requests_eq (list.isPod_running pod hMem), orZero_eq]

/-- What the pods on the node request, in thousandths of a processor, in bytes and in devices. -/
theorem node_sums :
    cpuReq jq list.json = pure (.num (roundAway (amount jq list.pods "cpu" * 1000))) ∧
      memReq jq list.json = pure (.num (roundAway (amount jq list.pods "memory"))) ∧
      gpuReq jq list.json = pure (.num (roundAway (amount jq list.pods "nvidia.com/gpu"))) := by
  simp only [cpuReq, memReq, gpuReq, pods_requests, orZero_eq, total_millis, total_qty,
    sum_requests, one_bind, Value.round, and_self]

theorem pod_sums :
    podRows jq list.json = of (list.running.map (row jq)) ∧
      totalCpu jq list.json = pure (.num (roundAway (amount jq list.running "cpu" * 1000))) ∧
      totalMem jq list.json = pure (.num ⌊amount jq list.running "memory" / 1048576⌋) ∧
      totalGpu jq list.json =
        pure (.num (roundAway (amount jq list.running "nvidia.com/gpu"))) := by
  refine ⟨?_, ?_⟩
  · rw [podRows, running_eq, List.map_eq_flatMap]
    exact of_bind fun pod hMem => podRow_eq jq (list.isPod_running pod hMem)
  · simp only [totalCpu, totalMem, totalGpu, running_requests, total_millis, total_qty,
      sum_podRequests, one_bind, mebibytes_eq, Value.round, Value.floor, and_self]

end Sums

/-- Every quantity is read exactly, any other value reads as one number, and no pod list ends a
sum early. -/
theorem quantities_exact :
    (∀ quantity : Quantity, qty jq (.str (String.ofList quantity.text)) =
      pure (.num quantity.value)) ∧ (∀ value, qty jq value = pure (.num (worth jq value))) ∧
      ∀ list : PodList,
        (cpuReq jq list.json = pure (.num (roundAway (amount jq list.pods "cpu" * 1000))) ∧
          memReq jq list.json = pure (.num (roundAway (amount jq list.pods "memory"))) ∧
          gpuReq jq list.json = pure (.num (roundAway (amount jq list.pods "nvidia.com/gpu")))) ∧
        podRows jq list.json = of (list.running.map (row jq)) ∧
          totalCpu jq list.json = pure (.num (roundAway (amount jq list.running "cpu" * 1000))) ∧
          totalMem jq list.json = pure (.num ⌊amount jq list.running "memory" / 1048576⌋) ∧
          totalGpu jq list.json =
            pure (.num (roundAway (amount jq list.running "nvidia.com/gpu"))) :=
  ⟨qty_quantity jq, qty_eq jq, fun list => ⟨node_sums jq list, pod_sums jq list⟩⟩

theorem quantities_exact_gibibytes :
    qty Builtins.numerals (.str "1.5Gi") = pure (.num 1610612736) := by
  have hQuantity :=
    (quantities_exact Builtins.numerals).1 ⟨none, ⟨[1], some [5], .inl (by simp)⟩, .suffix .Gi⟩
  have hValue :
      (⟨none, ⟨[1], some [5], .inl (by simp)⟩, .suffix .Gi⟩ : Quantity).value = 1610612736 := by
    have hDigits : digitsValue [1] = 1 ∧ digitsValue [5] = 5 ∧ signFactor none = 1 :=
      ⟨rfl, rfl, rfl⟩
    norm_num [Quantity.value, Mantissa.value, hDigits, Scale.factor, Suffix.multiplier]
  rw [hValue] at hQuantity
  exact hQuantity

end NodeDebugDashboard.Scripts.Resources
