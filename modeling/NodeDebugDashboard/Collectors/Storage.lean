import NodeDebugDashboard.Collectors.Host
import NodeDebugDashboard.Models

/-! `collect_disks` and `smart_candidates` of app/collectors/storage.py. -/
namespace NodeDebugDashboard.Collectors.Storage

open Library Library.Python Library.Text Models

variable {F : Type}

/-- A field of type `str`. -/
def strField (name : String) : Json F → List (String × Json F)
  | .str _ => []
  | other => [(name, other)]

/-- A field of type `str | None`. -/
def optionalStrField (name : String) : Json F → List (String × Json F)
  | .str _ | .null => []
  | other => [(name, other)]

def asString : Json F → Option String
  | .str text => some text
  | _ => none

/-- Build a model, unless it rejects values. -/
def validated {α : Type} (host : Host F) (model : String) (rejected : List (String × Json F))
    (value : α) : Outcome α :=
  if rejected.isEmpty then .ok value else .error (.exception (host.validationError model rejected))

theorem validated_ok {α : Type} {host : Host F} {model : String}
    {rejected : List (String × Json F)} {value result : α}
    (h : validated host model rejected value = .ok result) : result = value := by
  unfold validated at h
  split_ifs at h
  cases h
  rfl

def partition (host : Host F) (child : Json F) : Outcome Partition := do
  let name ← child.get "name" (.str "")
  let size ← child.get "size" (.str "")
  let type ← child.get "type" (.str "part")
  let mountpoint ← child.get "mountpoint" .null
  let fstype ← child.get "fstype" .null
  validated host "Partition"
    (strField "name" name ++ strField "size" size ++ strField "type" type ++
      optionalStrField "mountpoint" mountpoint ++ optionalStrField "fstype" fstype)
    { name := (asString name).getD ""
      size := (asString size).getD ""
      type := (asString type).getD ""
      mountpoint := asString mountpoint
      fstype := asString fstype }

section

variable [PyFloat F]

/-- What a field of type `bool` takes a value for, if for anything. -/
def laxBool : Json F → Option Bool
  | .bool value => some value
  | .int 0 => some false
  | .int 1 => some true
  | .float value =>
      if PyFloat.truthy value then
        if PyFloat.ge value (PyFloat.ofInt 1) && PyFloat.ge (PyFloat.ofInt 1) value then some true
        else none
      else some false
  | .str text =>
      let word := text.map Char.toLower
      if word ∈ ["0", "off", "f", "false", "n", "no"] then some false
      else if word ∈ ["1", "on", "t", "true", "y", "yes"] then some true
      else none
  | _ => none

/-- `(value or "").strip() or None` -/
def strippedOrNone (value : Json F) : Outcome (Option String) :=
  if value.truthy then
    match value with
    | .str text => .ok (nonempty (stripped text))
    | other => .error (.exception ("'" ++ other.typeName ++ "' object has no attribute 'strip'"))
  else .ok none

/-- One turn of the loop over the block devices: the disk, if it is one. -/
def diskInfo (host : Host F) (dev : Json F) : Outcome (Option DiskInfo) := do
  let type ← dev.get "type" .null
  if asString type ≠ some "disk" then return none
  else
    let children ← dev.get "children" (.arr [])
    let partitions ← (← children.each).mapM (partition host)
    let name ← dev.get "name" (.str "")
    let model ← strippedOrNone (← dev.get "model" .null)
    let serial ← strippedOrNone (← dev.get "serial" .null)
    let size ← dev.get "size" (.str "")
    let transport ← dev.get "tran" .null
    let rotational ← dev.get "rota" (.bool false)
    (validated host "DiskInfo"
      (strField "name" name ++ strField "size" size ++ optionalStrField "transport" transport ++
        (if (laxBool rotational).isNone then [("rotational", rotational)] else []))
      { name := (asString name).getD ""
        model := model
        serial := serial
        size := (asString size).getD ""
        type := "disk"
        transport := asString transport
        rotational := (laxBool rotational).getD false
        partitions := partitions }).map some

def lsblkCommand : List String :=
  ["lsblk", "-J", "-o", "NAME,SIZE,TYPE,MOUNTPOINT,FSTYPE,MODEL,SERIAL,ROTA,TRAN"]

/-- `collect_disks` -/
def collectDisks (host : Host F) : Outcome (List DiskInfo) := do
  let (stdout, _, code) ← host.run lsblkCommand
  if code ≠ 0 then return []
  else
    match host.loads stdout with
    | .error .decodeError => return []
    | .error (.other text) => .error (.exception text)
    | .ok data =>
        let devices ← data.get "blockdevices" (.arr [])
        let disks ← (← devices.each).mapM (diskInfo host)
        return disks.filterMap id

end

/-- `_REMOTE_TRANSPORTS` -/
def remoteTransports : List String := ["iscsi", "fc", "fcoe", "nbd", "rbd"]

/-- `_VIRTUAL_PREFIXES` -/
def virtualPrefixes : List String := ["rbd", "nbd", "zram", "drbd", "dm-", "loop"]

/-- `_nvme_over_fabrics` -/
def nvmeOverFabrics (host : Host F) (name : String) : Outcome Bool :=
  if startsWith "nvme" name then
    (host.openText (host.sys ++ "/block/" ++ name ++ "/device/transport")).map fun
      | some text => decide (stripped text ∉ ["", "pcie"])
      | none => false
  else .ok false

/-- Whether SMART is asked about the disk. -/
def isCandidate [Unicode] (host : Host F) (disk : DiskInfo) : Outcome Bool :=
  if lower (disk.transport.getD "") ∉ remoteTransports ∧
      ¬virtualPrefixes.any (fun start => startsWith start disk.name) then
    (nvmeOverFabrics host disk.name).map (!·)
  else .ok false

/-- `smart_candidates` -/
def smartCandidates [Unicode] (host : Host F) (disks : List DiskInfo) : Outcome (List String) := do
  let chosen ← disks.filterM (isCandidate host)
  return chosen.map fun disk => "/dev/" ++ disk.name

end NodeDebugDashboard.Collectors.Storage
