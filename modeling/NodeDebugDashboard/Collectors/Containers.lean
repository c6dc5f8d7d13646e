import Mathlib.Data.List.Sort
import NodeDebugDashboard.Collectors.Host
import NodeDebugDashboard.Collectors.Storage
import NodeDebugDashboard.Models

/-! app/collectors/containers.py without its coroutines: what `crictl` prints about pods,
containers and their statistics, and the two halves of the overview. -/
namespace NodeDebugDashboard.Collectors.Containers

open Library Library.Python Library.Text Models Storage

/-- `SYSTEM_NAMESPACES` -/
def systemNamespaces : List String := ["kube-system"]

/-- `SYSTEM_CONTAINER_NAMES` -/
def systemContainerNames : List String :=
  ["etcd", "kube-apiserver", "kube-scheduler", "kube-controller-manager", "kube-proxy"]

variable {F : Type}

/-- A key of a Python dictionary or a member of a set: lists and dictionaries cannot be
hashed. -/
def hashed : Json F → Outcome (Json F)
  | .arr _ => .error (.exception "unhashable type: 'list'")
  | .obj _ => .error (.exception "unhashable type: 'dict'")
  | key => .ok key

/-- `value in names` for a set of texts -/
def isIn (names : List String) (value : Json F) : Outcome Bool :=
  (hashed value).map fun
    | .str text => text ∈ names
    | _ => false

def wholeNumber : Json F → Option Int
  | .bool value => some (if value then 1 else 0)
  | .int value => some value
  | _ => none

variable [PyNumber F]

def number : Json F → Option F
  | .float value => some value
  | value => (wholeNumber value).map PyFloat.ofInt

/-- `first == second` for keys -/
def sameKey : Json F → Json F → Bool
  | .null, .null => true
  | .str first, .str second => first = second
  | first, second =>
      match wholeNumber first, wholeNumber second with
      | some first, some second => first = second
      | _, _ =>
          match number first, number second with
          | some first, some second => PyFloat.ge first second && PyFloat.ge second first
          | _, _ => false

/-- A dictionary with JSON values for keys, the last one set at the front. -/
abbrev Table (F α : Type) := List (Json F × α)

/-- `table[key] = value` -/
def Table.set {α : Type} (table : Table F α) (key : Json F) (value : α) : Outcome (Table F α) :=
  (hashed key).map fun key => (key, value) :: table

/-- `table.get(key)` -/
def Table.get {α : Type} (table : Table F α) (key : Json F) : Outcome (Option α) :=
  (hashed key).map fun key => (table.find? fun entry => sameKey entry.1 key).map Prod.snd

/-- An entry of the dictionary that `_get_pods` returns. -/
structure Pod (F : Type) where
  name : Json F
  ns : Json F
  state : Json F

/-- An entry of the dictionary that `_get_stats` returns. -/
structure Stats (F : Type) where
  cpuNano : Json F
  memoryBytes : Json F

/-- `value.get(outer, {}).get(inner, default)` -/
def nested (value : Json F) (outer inner : String) (default : Json F) : Outcome (Json F) := do
  let found ← value.get outer (.obj [])
  found.get inner default

def endpointArgs (hostRoot : String) : List String :=
  ["crictl", "--runtime-endpoint", "unix://" ++ hostRoot ++ "/run/containerd/containerd.sock"]

def podsCommand (hostRoot : String) : List String := endpointArgs hostRoot ++ ["pods", "-o", "json"]

def psCommand (hostRoot : String) : List String :=
  endpointArgs hostRoot ++ ["ps", "-a", "-o", "json"]

def statsCommand (hostRoot : String) : List String :=
  endpointArgs hostRoot ++ ["stats", "-o", "json"]

/-- What the command prints, if it succeeds and this is JSON. -/
def printed (host : Host F) (cmd : List String) : Outcome (Option (Json F)) := do
  let (stdout, _, rc) ← host.run cmd
  if rc ≠ 0 ∨ stripped stdout = "" then return none
  else
    match host.loads stdout with
    | .error .decodeError => return none
    | .error (.other text) => .error (.exception text)
    | .ok data => return some data

def addPod (pods : Table F (Pod F)) (item : Json F) : Outcome (Table F (Pod F)) := do
  let podId ← item.get "id" (.str "")
  let name ← nested item "metadata" "name" (.str "")
  let ns ← nested item "metadata" "namespace" (.str "")
  let state ← item.get "state" (.str "")
  pods.set podId { name := name, ns := ns, state := state }

/-- `_get_pods` -/
def getPods (hostRoot : String) (host : Host F) : Outcome (Table F (Pod F)) := do
  match ← printed host (podsCommand hostRoot) with
  | none => return []
  | some data => (← (← data.get "items" (.arr [])).each).foldlM addPod []

/-- `_get_containers` -/
def getContainers (hostRoot : String) (host : Host F) : Outcome (Json F) := do
  match ← printed host (psCommand hostRoot) with
  | none => return .arr []
  | some data => data.get "containers" (.arr [])

def addStats (stats : Table F (Stats F)) (item : Json F) : Outcome (Table F (Stats F)) := do
  let cid ← nested item "attributes" "id" (.str "")
  let cpu ← item.get "cpu" (.obj [])
  let mem ← item.get "memory" (.obj [])
  let cpuNano ← nested cpu "usageCoreNanoSeconds" "value" (.int 0)
  let memoryBytes ← nested mem "workingSetBytes" "value" (.int 0)
  stats.set cid { cpuNano := cpuNano, memoryBytes := memoryBytes }

/-- `_get_stats` -/
def getStats (hostRoot : String) (host : Host F) : Outcome (Table F (Stats F)) := do
  match ← printed host (statsCommand hostRoot) with
  | none => return []
  | some data => (← (← data.get "stats" (.arr [])).each).foldlM addStats []

/-- The true quotient of two integers. -/
def trueQuotient (first second : Int) : Outcome F :=
  match PyFloat.div first second with
  | some value => .ok value
  | none => .error (.exception "integer division result too large for a float")

def humanFloat : List String → F → String
  | [], n => PyNumber.fixed1 n ++ " TB"
  | unit :: units, n =>
      if !PyFloat.ge n (PyFloat.ofInt 1024) && !PyFloat.ge (PyFloat.ofInt (-1024)) n then
        PyNumber.fixed1 n ++ " " ++ unit
      else humanFloat units (PyNumber.quotient n (PyFloat.ofInt 1024))

variable (F) in
/-- `_human_bytes` -/
def humanBytes (n : Int) : Outcome String :=
  if -1024 < n ∧ n < 1024 then .ok (PyNumber.fixed1 (PyFloat.ofInt n : F) ++ " B")
  else (trueQuotient n 1024 : Outcome F).map (humanFloat ["KB", "MB", "GB"])

variable [Unicode]

/-- `int(value)` -/
def toInt : Json F → Except IntError Int
  | .bool value => .ok (if value then 1 else 0)
  | .int value => .ok value
  | .float value => PyNumber.trunc value
  | .str text =>
      match int? text.toList with
      | some value => .ok value
      | none =>
          .error (.valueError ("invalid literal for int() with base 10: " ++ Json.reprText text))
  | other => .error (.typeError
      ("int() argument must be a string, a bytes-like object or a real number, not '" ++
        other.typeName ++ "'"))

def toIntOrRaise (value : Json F) : Outcome Int :=
  match toInt value with
  | .ok value => .ok value
  | .error error => .error error.raised

/-- `_uptime_from_created`, with the time that `time.time()` gives. -/
def uptimeFromCreated (time : F) (createdNs : Int) : Outcome String :=
  if createdNs ≤ 0 then .ok ""
  else do
    let created ← (trueQuotient createdNs 1000000000 : Outcome F)
    let secs ← toIntOrRaise (.float (PyFloat.sub time created))
    if secs < 0 then return ""
    else
      let days := secs / 86400
      let hours := secs % 86400 / 3600
      let mins := secs % 3600 / 60
      let parts := (if days ≠ 0 then [toString days ++ "d"] else []) ++
        (if hours ≠ 0 then [toString hours ++ "h"] else []) ++ [toString mins ++ "m"]
      return " ".intercalate parts

/-- `_container_uptime` -/
def containerUptime (time : F) (c : Json F) : Outcome String := do
  let state ← c.get "state" .null
  if asString state ≠ some "CONTAINER_RUNNING" then return ""
  else
    match toInt (← c.get "createdAt" (.int 0)) with
    | .ok createdNs => uptimeFromCreated time createdNs
    | .error (.overflowError text) => .error (.exception text)
    | .error _ => return ""

/-- `_build_stats` -/
def buildStats (statsMap : Table F (Stats F)) (containerId : Json F) :
    Outcome (ContainerStats F) := do
  let s ← statsMap.get containerId
  let memBytes ← toIntOrRaise ((s.map Stats.memoryBytes).getD (.int 0))
  let human ← humanBytes F memBytes
  return { cpuPercent := PyFloat.ofInt 0, memoryBytes := memBytes, memoryHuman := human }

/-- `image_ref` -/
def imageRef (c : Json F) : Outcome (Json F) := do
  let ref ← c.get "imageRef" (.str "")
  if ref.truthy then return ref else nested c "image" "image" (.str "")

/-- `image_ref.split("@")[0] if "@" in image_ref else image_ref` -/
def imageName : Json F → Outcome (Json F)
  | .str text => .ok (.str (String.ofList ((text.toList.splitOn '@').headD [])))
  | .arr items =>
      if items.any (sameKey (.str "@")) then
        .error (.exception "'list' object has no attribute 'split'")
      else .ok (.arr items)
  | .obj fields =>
      if (Json.field? "@" fields).isSome then
        .error (.exception "'dict' object has no attribute 'split'")
      else .ok (.obj fields)
  | other => .error (.exception ("argument of type '" ++ other.typeName ++ "' is not iterable"))

/-- The pod of a container, if it is known. -/
def podOf (pods : Table F (Pod F)) (c : Json F) : Outcome (Option (Pod F)) := do
  let podId ← c.get "podSandboxId" (.str "")
  pods.get podId

/-- `is_system` -/
def isSystem (pods : Table F (Pod F)) (c : Json F) : Outcome Bool := do
  let name ← nested c "metadata" "name" (.str "")
  let pod ← podOf pods c
  if ← isIn systemNamespaces ((pod.map Pod.ns).getD (.str "")) then return true
  else isIn systemContainerNames name

/-- The fields that both records take from a container. -/
structure Common (F : Type) where
  cid : Json F
  name : Json F
  state : Json F
  image : Json F
  uptime : String
  createdAt : String
  stats : ContainerStats F

def common (stats : Table F (Stats F)) (time : F) (c : Json F) : Outcome (Common F) := do
  let cid ← c.get "id" (.str "")
  let name ← nested c "metadata" "name" (.str "")
  let createdNs ← toIntOrRaise (← c.get "createdAt" (.int 0))
  let ref ← imageRef c
  let state ← c.get "state" (.str "")
  let image ← imageName ref
  let uptime ← containerUptime time c
  let stats ← buildStats stats cid
  return {
    cid := cid
    name := name
    state := state
    image := image
    uptime := uptime
    createdAt := toString createdNs
    stats := stats }

/-- One turn of the loop of `collect_system_containers`. -/
def systemContainer (host : Host F) (pods : Table F (Pod F)) (stats : Table F (Stats F)) (time : F)
    (c : Json F) : Outcome (Option (SystemContainer F)) := do
  if ← isSystem pods c then
    let fields ← common stats time c
    (validated host "SystemContainer"
      (strField "name" fields.name ++ strField "container_id" fields.cid ++
        strField "state" fields.state ++ strField "image" fields.image)
      { name := (asString fields.name).getD ""
        containerId := (asString fields.cid).getD ""
        state := (asString fields.state).getD ""
        image := (asString fields.image).getD ""
        uptime := fields.uptime
        createdAt := fields.createdAt
        stats := fields.stats }).map some
  else return none

/-- One turn of the loop of `collect_workload_containers`. -/
def workloadContainer (host : Host F) (pods : Table F (Pod F))
    (stats : Table F (Stats F)) (time : F) (c : Json F) :
    Outcome (Option (WorkloadContainer F)) := do
  if ← isSystem pods c then return none
  else
    let pod ← podOf pods c
    let fields ← common stats time c
    let podName := (pod.map Pod.name).getD (.str "")
    let ns := (pod.map Pod.ns).getD (.str "")
    (validated host "WorkloadContainer"
      (strField "pod_name" podName ++ strField "namespace" ns ++
        strField "container_name" fields.name ++
        strField "container_id" fields.cid ++ strField "image" fields.image ++
        strField "state" fields.state)
      { podName := (asString podName).getD ""
        ns := (asString ns).getD ""
        containerName := (asString fields.name).getD ""
        containerId := (asString fields.cid).getD ""
        image := (asString fields.image).getD ""
        state := (asString fields.state).getD ""
        uptime := fields.uptime
        createdAt := fields.createdAt
        stats := fields.stats }).map some

/-- A loop over the containers; it reads the clock for each of them. -/
def collected {α : Type} (row : F → Json F → Outcome (Option α)) (time : Nat → F)
    (containers : Json F) :
    Outcome (List α) := do
  let rows ← (← containers.each).zipIdx.mapM fun entry => row (time entry.2) entry.1
  return rows.filterMap id

/-- What `collect_system_containers` makes of its three dictionaries. -/
def systemContainers (host : Host F) (time : Nat → F) (containers : Json F) (pods : Table F (Pod F))
    (stats : Table F (Stats F)) : Outcome (List (SystemContainer F)) := do
  let result ← collected (systemContainer host pods stats) time containers
  return result.insertionSort fun first second => first.name ≤ second.name

/-- `(x.namespace, x.pod_name, x.container_name)` -/
def sortKey (container : WorkloadContainer F) : List String :=
  [container.ns, container.podName, container.containerName]

/-- What `collect_workload_containers` makes of its three dictionaries. -/
def workloadContainers (host : Host F) (time : Nat → F) (containers : Json F)
    (pods : Table F (Pod F)) (stats : Table F (Stats F)) :
    Outcome (List (WorkloadContainer F)) := do
  let result ← collected (workloadContainer host pods stats) time containers
  return result.insertionSort fun first second => sortKey first ≤ sortKey second

end NodeDebugDashboard.Collectors.Containers
