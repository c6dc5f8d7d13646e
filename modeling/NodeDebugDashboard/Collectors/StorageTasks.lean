import NodeDebugDashboard.Collectors.Df
import NodeDebugDashboard.Collectors.Smart
import NodeDebugDashboard.Collectors.Tasks

/-! The coroutines of app/collectors/storage.py behind `ttl_cache`. Each result carries
the times at which the commands finished that it was made from. -/
namespace NodeDebugDashboard.Collectors.StorageTasks

open Library Library.Async Library.Python Library.Text Models Mountinfo Smart

/-- What is asked of the node. -/
inductive Effect where
  /-- `run_command` -/
  | run (cmd : List String)
  | readFile (path : String)
  /-- `asyncio.to_thread(_still_running, cmd)` -/
  | stillRunning (cmd : List String)
  /-- `os.path.exists` and `open`, which do not await anything -/
  | look

/-- The node when it answers. -/
structure Moment (F : Type) where
  host : Host F
  time : ℚ

/-- The functions behind `ttl_cache`. -/
inductive Fn where
  | disks
  | smart
  | usage
  | storage
  deriving DecidableEq

/-- What `collect_disks` makes of the run of `lsblk` that finished at this time. -/
structure Disks where
  disks : List DiskInfo
  lsblk : ℚ

/-- What `collect_smart_for_device` ends in, and when the run of `smartctl` finished, if
there was one. -/
structure Report where
  outcome : Outcome (Option SmartHealth)
  smartctl : Option ℚ

/-- What `collect_all_smart` returns, and the disks that it went by. -/
structure Sweep where
  reports : List SmartHealth
  disks : Stamped Disks
  smartctl : List ℚ

/-- What `collect_disk_usage` makes of the runs of `df`. -/
structure Usages where
  usages : List DiskUsage
  df : List ℚ

/-- What `collect_storage` returns, and the three results that it was made from. -/
structure Overview where
  overview : StorageOverview
  disks : Stamped Disks
  smart : Stamped Sweep
  usage : Stamped Usages

abbrev Fn.Val : Fn → Type
  | .disks => Disks
  | .smart => Sweep
  | .usage => Usages
  | .storage => Overview

inductive Kind where
  | result (f : Fn)
  /-- the result of a call of the wrapper -/
  | called (f : Fn)
  | report

abbrev Kind.Val : Kind → Type
  | .result f => f.Val
  | .called f => Stamped f.Val
  | .report => Report

abbrev signature (F : Type) : Signature where
  Fn := Fn
  Kind := Kind
  Val := Kind.Val
  kind := .result
  Effect := Effect
  Answer := fun _ => Moment F
  Error := Raised

variable {F : Type}

/-- `await f()` -/
def call (f : Fn) : Program (signature F) (.called f) :=
  .call (S := signature F) f fun result => .done (S := signature F) (r := Kind.called f) result

/-- `parse_mountinfo(await read_file(path))` -/
def readMounts {r : Kind} (path : String) (next : List Mount → Program (signature F) r) :
    Program (signature F) r :=
  .ask (.readFile path) fun moment =>
    match parseMountinfo (moment.host.readFile path).toList with
    | .ok mounts => next mounts
    | .error raised => .raise raised

/-- `_df`, with `prefix` named `root`. -/
def df {r : Kind} (root : String) (mounts : List Mount) (next : Usages → Program (signature F) r) :
    Program (signature F) r :=
  if mounts = [] then next ⟨[], []⟩
  else .ask (.run (Df.dfCommand (Df.byPath root.toList mounts))) fun moment =>
    match Df.df moment.host root.toList mounts with
    | .ok usages => next ⟨usages, [moment.time]⟩
    | .error raised => .raise raised

def collectDiskUsage (hostProc : String) : Program (signature F) (.result .usage) :=
  readMounts (hostProc ++ "/1/mountinfo") fun mounts =>
      df (hostProc ++ "/1/root") mounts fun seen =>
    if seen.usages ≠ [] then .done seen
    else readMounts "/proc/self/mountinfo" fun mounts => df "" mounts fun own =>
      .done { usages := own.usages, df := seen.df ++ own.df }

/-- The three calls of `collect_storage`. -/
def parts : Fin 3 → Fn
  | 0 => .disks
  | 1 => .smart
  | 2 => .usage

def collectStorage : Program (signature F) (.result .storage) :=
  .gather 3 (fun i => .called (parts i)) (fun i => call (parts i)) fun results =>
    let disks : Stamped Disks := results 0
    let smart : Stamped Sweep := results 1
    let usage : Stamped Usages := results 2
    .done {
      overview :=
        { disks := disks.value.disks, smart := smart.value.reports, usage := usage.value.usages }
      disks := disks
      smart := smart
      usage := usage }

/-- What becomes of one device in the sweep. -/
def sweptReport (device : String) (report : Report) : Option SmartHealth :=
  match report.outcome with
  | .ok health => health
  | .error error =>
      some { device := device, error := some ("SMART collection failed: " ++ error.text) }

variable [PyFloat F]

def collectDisks : Program (signature F) (.result .disks) :=
  .ask (.run Storage.lsblkCommand) fun moment =>
    match Storage.collectDisks moment.host with
    | .ok disks => .done ⟨disks, moment.time⟩
    | .error raised => .raise raised

variable [Unicode]

/-- What `smartctl` has printed about the device. -/
def smartOutput (host : Host F) (devPath : String) : Outcome (Option SmartHealth) := do
  let (stdout, stderr, rc) ← host.run (smartctlCommand devPath)
  if stripped stdout = "" then return some (reportOnSilence devPath stderr rc)
  else (reportOn host devPath stdout rc).map some

/-- `collect_smart_for_device`, from `dev_path` on. Exceptions are results here:
`asyncio.gather` collects them. -/
def smartOf (devPath : String) : Program (signature F) .report :=
  .ask .look fun before =>
    if ¬before.host.pathExists devPath then .done ⟨.ok none, none⟩
    else .ask (.stillRunning (smartctlCommand devPath)) fun during =>
      match stillRunning during.host (smartctlCommand devPath) "/proc" with
      | .error raised => .done ⟨.error raised, none⟩
      | .ok true => .done ⟨.ok (some {
          device := devPath
          error :=
            some "A previous smartctl on this device is still running (device not responding)" }),
          none⟩
      | .ok false => .ask (.run (smartctlCommand devPath)) fun moment =>
          .done ⟨smartOutput moment.host devPath, some moment.time⟩

def collectSmartForDevice (device : String) : Program (signature F) .report :=
  smartOf (if startsWith "/dev/" device then device else "/dev/" ++ device)

def collectAllSmart : Program (signature F) (.result .smart) :=
  .call (S := signature F) .disks fun disks => .ask .look fun moment =>
    match Storage.smartCandidates moment.host disks.value.disks with
    | .error raised => .raise raised
    | .ok devices =>
        .gather devices.length (fun _ => .report)
            (fun i => collectSmartForDevice devices[i]) fun reports =>
          .done {
            reports :=
              (List.finRange devices.length).filterMap fun i => sweptReport devices[i] (reports i)
            disks := disks
            smartctl := (List.finRange devices.length).filterMap fun i => (reports i).smartctl }

def body (hostProc : String) : (f : Fn) → Program (signature F) (.result f)
  | .disks => collectDisks
  | .smart => collectAllSmart
  | .usage => collectDiskUsage hostProc
  | .storage => collectStorage

variable (F) in
/-- The node may have changed whenever it is asked something. -/
def system (hostProc : String) : Tasks.System (signature F) Unit (Host F) Fn where
  cfg _ := { seconds := 300 }
  body := body hostProc
  handle _ now host store := (⟨host, now⟩, store)
  entry f := ⟨.called f, call f⟩

end NodeDebugDashboard.Collectors.StorageTasks
