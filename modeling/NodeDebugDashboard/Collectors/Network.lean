import Mathlib.Data.List.Sort
import NodeDebugDashboard.Collectors.Host
import NodeDebugDashboard.Models

/-! `collect_nics` of app/collectors/network.py. -/
namespace NodeDebugDashboard.Collectors.Network

open Library Library.Python Library.Text Models

variable {F : Type} [PyFloat F] [Unicode]

def skipPrefixes : List String :=
  ["lo", "veth", "cali", "lxc", "cni", "flannel", "docker", "br-"]

def skipped (name : String) : Bool :=
  name = "lo" || skipPrefixes.any fun start => startsWith start name

/-- How the loop over `ip -j addr` ends early: with the `KeyError` that is
caught, or an exception that is not. -/
inductive Stop where
  | keyError
  | raised (text : String)

/-- Run a loop body over the items. What was appended before it stopped stays. -/
def appendUntil {α : Type} (body : α → List String × Option Stop) :
    List α → List String × Option Stop
  | [] => ([], none)
  | item :: rest =>
      match body item with
      | (texts, none) =>
          let later := appendUntil body rest
          (texts ++ later.1, later.2)
      | (texts, some stop) => (texts, some stop)

/-- `f"{a['local']}/{a['prefixlen']}"` -/
def address : Json F → List String × Option Stop
  | .obj fields =>
      match Json.field? "local" fields, Json.field? "prefixlen" fields with
      | some ip, some length => ([ip.text ++ "/" ++ length.text], none)
      | _, _ => ([], some .keyError)
  | other => ([], some (.raised ("'" ++ other.typeName ++ "' object has no field 'local'")))

/-- The addresses in `iface.get("addr_info", [])`. -/
def addrInfo : Json F → List String × Option Stop
  | .obj fields =>
      match ((Json.field? "addr_info" fields).getD (.arr [])).items with
      | .ok infos => appendUntil address infos
      | .error text => ([], some (.raised text))
  | other => ([], some (.raised ("'" ++ other.typeName ++ "' object has no attribute 'get'")))

/-- The addresses in the output of `ip -j addr show`. -/
def ipAddresses (host : Host F) (stdout : String) : Outcome (List String) :=
  match host.loads stdout with
  | .error .decodeError => .ok []
  | .error (.other text) => .error (.exception text)
  | .ok data =>
      match data.items with
      | .error text => .error (.exception text)
      | .ok ifaces =>
          match appendUntil addrInfo ifaces with
          | (_, some (.raised text)) => .error (.exception text)
          | (ips, _) => .ok ips

/-- The addresses of an interface, from what `ip` printed and its exit status. -/
def ipsOf (host : Host F) (stdout : String) (code : Int) : Outcome (List String) :=
  if code = 0 ∧ stripped stdout ≠ "" then ipAddresses host stdout else .ok []

/-- Speed, duplex and link as far as the lines of `ethtool` are read. -/
def ethtoolLine (found : String × String × Bool) (line : String) : String × String × Bool :=
  let text := stripped line
  if startsWith "Speed:" text then (after "Speed:" text, found.2)
  else if startsWith "Duplex:" text then (found.1, after "Duplex:" text, found.2.2)
  else if startsWith "Link detected:" text then
    (found.1, found.2.1, contains "yes" (lower text))
  else found

/-- One turn of the loop over the interfaces. -/
def collectNic (host : Host F) (name : String) : Outcome NICInfo := do
  let dir := host.sys ++ "/class/net/" ++ name
  let stats := dir ++ "/statistics"
  let mac := stripped (host.readFile (dir ++ "/address"))
  let driver := match host.readlink? (dir ++ "/device/driver") with
    | some target => lastPart '/' target
    | none => ""
  let rxErrors ← host.readInt (stats ++ "/rx_errors")
  let txErrors ← host.readInt (stats ++ "/tx_errors")
  let rxDropped ← host.readInt (stats ++ "/rx_dropped")
  let txDropped ← host.readInt (stats ++ "/tx_dropped")
  let rxCrc ← host.readInt (stats ++ "/rx_crc_errors")
  let txCarrier ← host.readInt (stats ++ "/tx_carrier_errors")
  let (ipOut, _, ipCode) ← host.run ["ip", "-j", "addr", "show", name]
  let ips ← ipsOf host ipOut ipCode
  let (toolOut, _, toolCode) ← host.run ["ethtool", name]
  let link := if toolCode = 0 then (lines toolOut).foldl ethtoolLine ("", "", false)
    else ("", "", false)
  return {
    name := name
    mac := mac
    driver := driver
    speed := link.1
    duplex := link.2.1
    linkDetected := link.2.2
    ipAddresses := ips
    rxErrors := rxErrors
    txErrors := txErrors
    rxDropped := rxDropped
    txDropped := txDropped
    rxCrcErrors := rxCrc
    txCarrierErrors := txCarrier }

/-- `collect_nics`. An interface directory that cannot be listed has no
interfaces. -/
def collectNics (host : Host F) : Outcome (List NICInfo) :=
  match host.listdir (host.sys ++ "/class/net/") with
  | .error _ => .ok []
  | .ok ifaces =>
      ((ifaces.insertionSort (· ≤ ·)).filter fun name => !skipped name).mapM (collectNic host)

/-- A file of the interface's statistics. -/
def statistic (host : Host F) (name counter : String) : String :=
  host.sys ++ "/class/net/" ++ name ++ "/statistics" ++ counter

theorem collectNic_ok {host : Host F} {name : String} {nic : NICInfo}
    (h : collectNic host name = .ok nic) :
    nic.name = name ∧ host.readInt (statistic host name "/rx_crc_errors") = .ok nic.rxCrcErrors ∧
      host.readInt (statistic host name "/tx_carrier_errors") = .ok nic.txCarrierErrors := by
  unfold collectNic at h
  simp only [bind_eq_ok] at h
  obtain ⟨_, _, _, _, _, _, _, _, crc, hCrc, carrier, hCarrier, _, _, _, _, _, _, hNic⟩ := h
  cases hNic
  exact ⟨rfl, hCrc, hCarrier⟩

/-- The interfaces that are returned are listed, each as often as it is listed. -/
theorem collectNics_ok {host : Host F} {nics : List NICInfo} (h : collectNics host = .ok nics)
    (hListing : ∀ names, host.listdir (host.sys ++ "/class/net/") = .ok names → names.Nodup) :
    (nics.map NICInfo.name).Nodup ∧ ∀ nic ∈ nics, collectNic host nic.name = .ok nic := by
  unfold collectNics at h
  cases hNames : host.listdir (host.sys ++ "/class/net/") with
  | error error =>
      rw [hNames] at h
      cases h
      simp
  | ok names =>
      rw [hNames] at h
      have hEach := mapM_eq_ok h
      have hSorted : (names.insertionSort (· ≤ ·)).Nodup :=
        (List.perm_insertionSort _ names).nodup_iff.mpr (hListing names hNames)
      have hName : nics.map NICInfo.name =
          (names.insertionSort (· ≤ ·)).filter fun name => !skipped name := by
        have hSame : List.Forall₂ (· = ·) (nics.map NICInfo.name)
            ((names.insertionSort (· ≤ ·)).filter fun name => !skipped name) := by
          apply List.forall₂_map_left_iff.mpr
          exact (hEach.imp fun name nic hNic => (collectNic_ok hNic).1).flip
        rwa [List.forall₂_eq_eq_eq] at hSame
      rw [hName]
      refine ⟨hSorted.filter _, fun nic hNic => ?_⟩
      obtain ⟨name, hCollected⟩ : ∃ name, collectNic host name = .ok nic := by
        obtain ⟨place, hPlace, rfl⟩ := List.mem_iff_getElem.mp hNic
        exact ⟨_, hEach.get (hEach.length_eq ▸ hPlace) hPlace⟩
      rwa [(collectNic_ok hCollected).1]

end NodeDebugDashboard.Collectors.Network
