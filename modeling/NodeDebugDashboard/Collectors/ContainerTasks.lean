import NodeDebugDashboard.Collectors.Containers
import NodeDebugDashboard.Collectors.Tasks

/-! The coroutines of app/collectors/containers.py, each behind `ttl_cache`. Both halves of
the overview carry the containers and the pods that they were made from. -/
namespace NodeDebugDashboard.Collectors.Containers

open Library Library.Async Library.Python Library.Text Models

structure App where
  hostRoot : String := "/host"
  cacheTtl : Int := 10

variable {F : Type} [PyNumber F]

/-- The containers that the loops run through. -/
def listed (containers : Json F) : List (Json F) :=
  match containers.each with
  | .ok items => items
  | .error _ => []

/-- The id of a container as the overview shows it. -/
def containerId : Json F → String
  | .obj fields => (Storage.asString ((Json.field? "id" fields).getD (.str ""))).getD ""
  | _ => ""

def ids (containers : Json F) : List String := (listed containers).map containerId

variable (F) in
/-- The node when it answers. If `crictl ps` succeeds, the ids that it prints are distinct. -/
structure Moment (app : App) where
  host : Host F
  /-- `time.time()` in the loops, for each of the containers -/
  time : Nat → F
  distinct : ∀ containers, getContainers app.hostRoot host = .ok containers → (ids containers).Nodup

inductive Effect where
  /-- `run_command` -/
  | run (cmd : List String)
  | time

/-- The functions behind `ttl_cache`. -/
inductive Fn where
  | pods
  | containers
  | stats
  | system
  | workload
  | overview
  deriving DecidableEq

/-- One half of the overview, and what `_get_containers` and `_get_pods` returned to it. -/
structure Half (F α : Type) where
  result : List α
  containers : Json F
  pods : Table F (Pod F)

/-- What `collect_containers` returns, and the two halves that it was made from. -/
structure Whole (F : Type) where
  overview : ContainersOverview F
  system : Half F (SystemContainer F)
  workload : Half F (WorkloadContainer F)

abbrev Fn.Val (F : Type) : Fn → Type
  | .pods => Table F (Pod F)
  | .containers => Json F
  | .stats => Table F (Stats F)
  | .system => Half F (SystemContainer F)
  | .workload => Half F (WorkloadContainer F)
  | .overview => Whole F

inductive Kind where
  | result (f : Fn)
  /-- the result of a call of the wrapper -/
  | called (f : Fn)

abbrev Kind.Val (F : Type) : Kind → Type
  | .result f => f.Val F
  | .called f => Stamped (f.Val F)

variable (F) in
abbrev signature (app : App) : Signature where
  Fn := Fn
  Kind := Kind
  Val := Kind.Val F
  kind := .result
  Effect := Effect
  Answer := fun _ => Moment F app
  Error := Raised

variable (app : App)

/-- `await f()` -/
def call (f : Fn) : Program (signature F app) (.called f) :=
  .call (S := signature F app) f fun result =>
    .done (S := signature F app) (r := Kind.called f) result

/-- One `run_command`, and what is made of its output. -/
def fetch (f : Fn) (cmd : List String) (read : Host F → Outcome (f.Val F)) :
    Program (signature F app) (.result f) :=
  .ask (.run cmd) fun moment =>
    match read moment.host with
    | .ok value => .done value
    | .error raised => .raise raised

/-- The three calls that both halves begin with. -/
def gathered {r : Kind} (next : Json F → Table F (Pod F) → Table F (Stats F) → Moment F app →
    Program (signature F app) r) : Program (signature F app) r :=
  .call (S := signature F app) .containers fun containers =>
    .call (S := signature F app) .pods fun pods =>
      .call (S := signature F app) .stats fun stats =>
        .ask .time fun moment => next containers.value pods.value stats.value moment

variable [Unicode]

def collectSystemContainers : Program (signature F app) (.result .system) :=
  gathered app fun containers pods stats moment =>
    match systemContainers moment.host moment.time containers pods stats with
    | .ok result => .done { result := result, containers := containers, pods := pods }
    | .error raised => .raise raised

def collectWorkloadContainers : Program (signature F app) (.result .workload) :=
  gathered app fun containers pods stats moment =>
    match workloadContainers moment.host moment.time containers pods stats with
    | .ok result => .done { result := result, containers := containers, pods := pods }
    | .error raised => .raise raised

/-- The two calls of `collect_containers`. -/
def halves : Fin 2 → Fn
  | 0 => .system
  | 1 => .workload

omit [Unicode] in
def collectContainers : Program (signature F app) (.result .overview) :=
  .gather 2 (fun i => .called (halves i)) (fun i => call app (halves i)) fun results =>
    let system : Stamped (Half F (SystemContainer F)) := results 0
    let workload : Stamped (Half F (WorkloadContainer F)) := results 1
    .done {
      overview :=
        { systemContainers := system.value.result, workloadContainers := workload.value.result }
      system := system.value
      workload := workload.value }

def body : (f : Fn) → Program (signature F app) (.result f)
  | .pods => fetch app .pods (podsCommand app.hostRoot) (getPods app.hostRoot)
  | .containers => fetch app .containers (psCommand app.hostRoot) (getContainers app.hostRoot)
  | .stats => fetch app .stats (statsCommand app.hostRoot) (getStats app.hostRoot)
  | .system => collectSystemContainers app
  | .workload => collectWorkloadContainers app
  | .overview => collectContainers app

/-- The functions that other modules call. -/
inductive Entry where
  | system
  | workload
  | overview

def Entry.fn : Entry → Fn
  | .system => .system
  | .workload => .workload
  | .overview => .overview

variable (F) in
def system : Tasks.System (signature F app) Unit (Moment F app) Entry where
  cfg _ := { seconds := app.cacheTtl }
  body := body app
  handle _ _ moment store := (moment, store)
  entry entry := ⟨.called entry.fn, call app entry.fn⟩

end NodeDebugDashboard.Collectors.Containers
