import NodeDebugDashboard.Collectors.Certificates
import NodeDebugDashboard.Collectors.Talos
import NodeDebugDashboard.Collectors.Tasks

/-! The coroutines of app/collectors/talos.py, of which all but `collect_talos_version` are
behind `ttl_cache`. The version and the machine config carry the result of `_node_object`
that they were made from. -/
namespace NodeDebugDashboard.Collectors.Talos

open Library Library.Async Library.Paths Library.Python Library.Text Models Certificates

structure App where
  hostRoot : String := "/host"
  environ : String → Option String
  /-- `time.tzname` -/
  tzname : List String := ["UTC", "UTC"]

variable (F : Type) in
/-- The node and the API server when they answer. -/
structure Moment where
  host : Host F
  realpath : String → String
  isfile : String → Bool
  /-- what there is below `HOST_ROOT` -/
  files : List RealPath
  /-- `_k8s_get` -/
  k8sGet : String → Outcome (Option (Json F))

/-- What is awaited of them. -/
inductive Effect where
  /-- `run_command` -/
  | run (cmd : List String)
  | readFile (path : String)
  | k8sGet (path : String)
  /-- `os.listdir` and `glob.glob`, which do not await anything -/
  | look

/-- The functions behind `ttl_cache`. -/
inductive Fn where
  | nodeObject
  | machineConfig
  | certificates
  | talos
  deriving DecidableEq

/-- What `collect_talos_version` returns, and what `_node_object` returned to it. -/
structure Version (F : Type) where
  info : TalosVersionInfo
  node : Stamped (Option (Json F))

/-- What `collect_talos_machine_config` returns, and what `_node_object` returned to it. -/
structure MachineConfig (F : Type) where
  config : TalosMachineConfig
  node : Stamped (Option (Json F))

/-- What `collect_talos` returns, and the version and the machine config that it was made
from. -/
structure Overview (F : Type) where
  overview : TalosOverview
  version : Version F
  machineConfig : Stamped (MachineConfig F)

abbrev Fn.Val (F : Type) : Fn → Type
  | .nodeObject => Option (Json F)
  | .machineConfig => MachineConfig F
  | .certificates => List TalosCertificateInfo
  | .talos => Overview F

inductive Kind where
  | result (f : Fn)
  /-- the result of a call of the wrapper -/
  | called (f : Fn)
  | version

abbrev Kind.Val (F : Type) : Kind → Type
  | .result f => f.Val F
  | .called f => Stamped (f.Val F)
  | .version => Version F

abbrev signature (F : Type) : Signature where
  Fn := Fn
  Kind := Kind
  Val := Kind.Val F
  kind := .result
  Effect := Effect
  Answer := fun _ => Moment F
  Error := Raised

variable {F : Type}

/-- `await f()` -/
def call (f : Fn) : Program (signature F) (.called f) :=
  .call (S := signature F) f fun result => .done (S := signature F) (r := Kind.called f) result

/-- Go on with a value, unless an exception was raised in its place. -/
def orRaise {α : Type} {r : Kind} (outcome : Outcome α) (next : α → Program (signature F) r) :
    Program (signature F) r :=
  match outcome with
  | .ok value => next value
  | .error raised => .raise raised

/-- The `null` of a reply is Python's `None`. -/
def notNull : Option (Json F) → Option (Json F)
  | some .null => none
  | node => node

variable (app : App)

/-- `_node_object` -/
def nodeObject : Program (signature F) (.result .nodeObject) :=
  let nodeName := (app.environ "KUBERNETES_NODE_NAME").getD ""
  let path := "/api/v1/nodes/" ++ nodeName
  if nodeName = "" then .done none
  else .ask (.k8sGet path) fun moment => orRaise (moment.k8sGet path) fun node =>
    .done (notNull node)

section

variable [PyFloat F]

def collectTalosVersion : Program (signature F) .version :=
  .ask (.readFile (app.hostRoot ++ "/etc/os-release")) fun moment =>
    .call (S := signature F) .nodeObject fun node =>
      orRaise (talosVersion moment.host
        (moment.host.readFile (app.hostRoot ++ "/etc/os-release")) node.value)
        fun info => .done { info := info, node := node }

variable [Unicode]

/-- `collect_talos_machine_config` from the `ip` call on. -/
def machineConfigOn (node : Stamped (Option (Json F))) (machineType : String)
    (extensions : List String) (error installDisk : String) (names : List String) :
    Program (signature F) (.result .machineConfig) :=
  .ask (.run ipCommand) fun moment => orRaise (addressesOf moment.host) fun addresses =>
    .done {
      config := {
        machineType := machineType
        installDisk := installDisk
        networkInterfaces := interfaces names addresses
        extensions := extensions
        configAvailable := available node.value
        error := error }
      node := node }

def collectTalosMachineConfig : Program (signature F) (.result .machineConfig) :=
  .call (S := signature F) .nodeObject fun node =>
    orRaise (fromNode node.value) fun (machineType, extensions, error) => .ask .look fun moment =>
      let installDisk := installDiskFromSysfs moment.host moment.realpath
      if installDisk ≠ "" then
        machineConfigOn node machineType extensions error installDisk (ifaceNames moment.host)
      else
        let cmdline := moment.host.proc ++ "/cmdline"
        .ask (.readFile cmdline) fun later =>
          machineConfigOn node machineType extensions error
            (rootFromCmdline (later.host.readFile cmdline))
            (ifaceNames later.host)

end

/-- What does not change while the process runs. -/
def App.process : Node where
  hostRoot := app.hostRoot
  tzname := app.tzname
  entries := []
  nodup := .nil
  unlinked := by simp

def opensslCommand (certFile : String) : List String :=
  ["openssl", "x509", "-in", certFile, "-noout", "-subject", "-issuer", "-dates",
    "-fingerprint", "-serial", "-sha256"]

/-- `sorted(glob.glob(…))` -/
def Moment.sortedGlob (moment : Moment F) (root : Glob) : List RealPath :=
  (moment.files.filter root.matches).insertionSort fun first second => first.text ≤ second.text

/-- What the loops of `collect_talos_certificates` have at hand. -/
structure Scan (F : Type) where
  seen : List String := []
  certs : List TalosCertificateInfo := []
  moment : Moment F

/-- What a run of `openssl` adds. -/
def Scan.add (scan : Scan F) (root : Glob) (file : RealPath) (real : String) (run : Openssl)
    (moment : Moment F) : Scan F where
  seen := real :: scan.seen
  certs :=
    scan.certs ++ (talosCertificate app.process root { path := file, real := real } run).toList
  moment := moment

/-- The loop over the files of a search root. -/
def scanFiles {r : Kind} (root : Glob) :
    List RealPath → Scan F → (Scan F → Program (signature F) r) → Program (signature F) r
  | [], scan, next => next scan
  | file :: rest, scan, next =>
      let certFile := app.hostRoot ++ file.text
      let real := scan.moment.realpath certFile
      if real ∈ scan.seen ∨ ¬scan.moment.isfile real then scanFiles root rest scan next
      else .ask (.run (opensslCommand certFile)) fun moment =>
        orRaise (moment.host.run (opensslCommand certFile)) fun (stdout, _, rc) =>
          scanFiles root rest
            (scan.add app root file real ⟨stdout, rc, moment.host.now 0⟩ moment) next

/-- The loop over the search roots. -/
def scanRoots {r : Kind} :
    List Glob → Scan F → (Scan F → Program (signature F) r) → Program (signature F) r
  | [], scan, next => next scan
  | root :: roots, scan, next =>
      scanFiles app root (scan.moment.sortedGlob root) scan fun scanned =>
        scanRoots roots scanned next

def collectTalosCertificates : Program (signature F) (.result .certificates) :=
  .ask .look fun moment => scanRoots app searchRoots { moment := moment } fun scan =>
    .done scan.certs

variable [PyFloat F]

/-- The results that `collect_talos` gathers. -/
def parts : Fin 3 → Kind
  | 0 => .version
  | 1 => .called .machineConfig
  | 2 => .called .certificates

def collectPart : (i : Fin 3) → Program (signature F) (parts i)
  | 0 => collectTalosVersion app
  | 1 => call .machineConfig
  | 2 => call .certificates

def collectTalos : Program (signature F) (.result .talos) :=
  .gather 3 parts (collectPart app) fun results =>
    let version : Version F := results 0
    let machineConfig : Stamped (MachineConfig F) := results 1
    let certificates : Stamped (List TalosCertificateInfo) := results 2
    .done {
      overview := {
        version := version.info
        machineConfig := machineConfig.value.config
        certificates := certificates.value }
      version := version
      machineConfig := machineConfig }

variable [Unicode]

def body : (f : Fn) → Program (signature F) (.result f)
  | .nodeObject => nodeObject app
  | .machineConfig => collectTalosMachineConfig
  | .certificates => collectTalosCertificates app
  | .talos => collectTalos app

/-- The arguments of `@ttl_cache`. -/
def cfg : (f : Fn) → TtlCache.Config (f.Val F)
  | .nodeObject => { seconds := 300, cacheIf := some Option.isSome }
  | .machineConfig => { seconds := 300, cacheIf := some fun mc => mc.config.configAvailable }
  | .certificates => { seconds := 300 }
  | .talos => { seconds := 300, cacheIf := some fun o => o.overview.machineConfig.configAvailable }

/-- The functions that other modules call. -/
inductive Entry where
  | machineConfig
  | certificates
  | talos

def Entry.fn : Entry → Fn
  | .machineConfig => .machineConfig
  | .certificates => .certificates
  | .talos => .talos

variable (F) in
def system : Tasks.System (signature F) Unit (Moment F) Entry where
  cfg := cfg
  body := body app
  handle _ _ moment store := (moment, store)
  entry entry := ⟨.called entry.fn, call entry.fn⟩

end NodeDebugDashboard.Collectors.Talos
