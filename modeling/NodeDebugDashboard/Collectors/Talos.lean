import Mathlib.Data.List.Sort
import NodeDebugDashboard.Collectors.Storage
import NodeDebugDashboard.Library.Dict
import NodeDebugDashboard.Library.Paths
import NodeDebugDashboard.Library.Strip

/-! The collectors of app/collectors/talos.py without their awaits: what they make of the
node object, of the host's files and of the output of `ip`. -/
namespace NodeDebugDashboard.Collectors.Talos

open Library Library.Paths Library.Python Library.Text Models Storage

/-- `_SKIP_IFACE_PREFIXES` -/
def skipIfacePrefixes : List String :=
  ["veth", "lxc", "cilium_", "cali", "cni", "flannel", "docker", "br-", "kube-ipvs", "tunl",
   "vxlan", "genev"]

/-- `_TALOS_PARTLABELS` -/
def talosPartlabels : List String := ["META", "STATE"]

/-- The `VERSION_ID` of an os-release file. -/
def versionId (osRelease : String) : String :=
  match (lines osRelease).find? (startsWith "VERSION_ID=") with
  | some line => String.ofList (stripBy (· = '"') (after "VERSION_ID=" line).toList)
  | none => ""

section

variable {F : Type}

/-- The annotations of a node object. -/
def annotationsOf (node : Json F) : Outcome (Json F) := do
  let metadata ← node.get "metadata" (.obj [])
  metadata.get "annotations" (.obj [])

def labelsOf (node : Json F) : Outcome (Json F) := do
  let metadata ← node.get "metadata" (.obj [])
  metadata.get "labels" (.obj [])

variable [PyFloat F]

/-- `if node` -/
def available (node : Option (Json F)) : Bool := node.any Json.truthy

/-- `collect_talos_version`, when the file and the node object are there. -/
def talosVersion (host : Host F) (osRelease : String) (node : Option (Json F)) :
    Outcome TalosVersionInfo :=
  match node.filter Json.truthy with
  | none => .ok { version := versionId osRelease }
  | some node => do
      let annotations ← annotationsOf node
      let schematicId ← annotations.get "extensions.talos.dev/schematic" (.str "")
      validated host "TalosVersionInfo" (strField "schematic_id" schematicId) {
        version := versionId osRelease
        schematicId := (asString schematicId).getD "" }

/-- `text.replace(pattern, "")`, from where so many characters are to be skipped. -/
def removed (pattern : List Char) : Nat → List Char → List Char
  | _, [] => []
  | skip + 1, _ :: rest => removed pattern skip rest
  | 0, c :: rest =>
      if pattern.isPrefixOf (c :: rest) then removed pattern (pattern.length - 1) rest
      else c :: removed pattern 0 rest

def extensionsKey : String := "extensions.talos.dev/"

variable [Unicode]

/-- The extensions that the labels name, with their versions. -/
def extensionsOf (labels : List (String × Json F)) : List String :=
  (labels.filter fun label => startsWith extensionsKey label.1).map fun label =>
    String.ofList (removed extensionsKey.toList 0 label.1.toList) ++ ":" ++ label.2.text

/-- `machine_type` and `extensions` for the labels of the node. -/
def fromLabels : Json F → Outcome (String × List String)
  | .obj labels =>
      let controlPlane := (Json.field? "node-role.kubernetes.io/control-plane" labels).isSome
      .ok (if controlPlane then "controlplane" else "worker", extensionsOf labels)
  | .str _ => .error (.exception "'str' object has no attribute 'items'")
  | .arr _ => .error (.exception "'list' object has no attribute 'items'")
  | other => .error (.exception ("argument of type '" ++ other.typeName ++ "' is not iterable"))

/-- `machine_type`, `extensions` and `error` for the node object. -/
def fromNode (node : Option (Json F)) : Outcome (String × List String × String) :=
  match node.filter Json.truthy with
  | none => .ok ("", [], "Node object unavailable from the Kubernetes API")
  | some node => do
      let labels ← labelsOf node
      let (machineType, extensions) ← fromLabels labels
      return (machineType, extensions, "")

end

section

variable {F : Type}

/-- A line that tells of a partition of Talos. -/
def isTalosLabel (line : String) : Bool :=
  startsWith "PARTNAME=" line && after "PARTNAME=" line ∈ talosPartlabels

/-- The disk of a partition, by the path that its link leads to. -/
def parentDisk (real : String) : Option String :=
  let parent := lastPart '/' (String.ofList (dirname real.toList))
  if parent ≠ "" ∧ parent ≠ "block" then some ("/dev/" ++ parent) else none

/-- `_install_disk_from_sysfs` -/
def installDiskFromSysfs (host : Host F) (realpath : String → String) : String :=
  let blockDir := host.sys ++ "/class/block"
  match host.listdir blockDir with
  | .error _ => ""
  | .ok names =>
      let disk := (names.insertionSort (· ≤ ·)).findSome? fun name =>
        match host.open? (blockDir ++ "/" ++ name ++ "/uevent") with
        | none => none
        | some uevent =>
            if (lines uevent).any isTalosLabel then
              parentDisk (realpath (blockDir ++ "/" ++ name))
            else none
      disk.getD ""

/-- `_root_from_cmdline` -/
def rootFromCmdline (cmdline : String) : String :=
  match (words cmdline.toList).find? fun part => "root=".toList.isPrefixOf part with
  | some part => String.ofList (part.drop 5)
  | none => ""

def ifaceNames (host : Host F) : List String :=
  match host.listdir (host.sys ++ "/class/net/") with
  | .error _ => []
  | .ok names => names

variable [PyFloat F] [Unicode]

/-- `f"{a['local']}/{a['prefixlen']}"`, where both are there. -/
def address? : Json F → Option String
  | .obj fields =>
      match Json.field? "local" fields, Json.field? "prefixlen" fields with
      | some ip, some length => some (ip.text ++ "/" ++ length.text)
      | _, _ => none
  | _ => none

/-- One turn of the loop of `_parse_ip_addr`. -/
def addInterface (byName : Dict String (List String)) : Json F → Outcome (Dict String (List String))
  | .obj fields => do
      let name := ((Json.field? "ifname" fields).getD (.str "")).text
      let infos ← ((Json.field? "addr_info" fields).getD (.arr [])).eachOrNone
      return byName.set name ((byName.get? name).getD [] ++ infos.filterMap address?)
  | _ => .ok byName

/-- `_parse_ip_addr` -/
def parseIpAddr (host : Host F) (stdout : String) : Outcome (Dict String (List String)) :=
  match host.loads stdout with
  | .error .decodeError => .ok .empty
  | .error (.other text) => .error (.exception text)
  | .ok (.arr ifaces) => ifaces.foldlM addInterface .empty
  | .ok _ => .ok .empty

def ipCommand : List String := ["ip", "-j", "addr", "show"]

/-- The addresses by interface, from one `ip` call. -/
def addressesOf (host : Host F) : Outcome (Dict String (List String)) := do
  let (stdout, _, rc) ← host.run ipCommand
  if rc = 0 ∧ stripped stdout ≠ "" then parseIpAddr host stdout else return .empty

/-- The interfaces that are shown. -/
def interfaces (names : List String) (addresses : Dict String (List String)) :
    List TalosNetworkInterface :=
  let shown := (names.insertionSort (· ≤ ·)).filter fun name =>
    !(name = "lo" || skipIfacePrefixes.any fun start => startsWith start name)
  shown.map fun name => { name := name, addresses := (addresses.get? name).getD [] }

end

end NodeDebugDashboard.Collectors.Talos
