import NodeDebugDashboard.Collectors.Host
import NodeDebugDashboard.Library.Dict
import NodeDebugDashboard.Models

/-! `collect_memory` of app/collectors/memory.py. -/
namespace NodeDebugDashboard.Collectors.Memory

open Library Library.Python Library.Text Models

variable {F : Type} [PyFloat F] [Unicode]

/-- `int(re.search(r"\d+", line).group())` -/
def numberIn (line : String) : Outcome Int :=
  match (line.toList.dropWhile fun c => !isDecimal c).takeWhile isDecimal with
  | [] => .error (.exception "'NoneType' object has no attribute 'group'")
  | digits => parseInt (String.ofList digits)

/-- The totals, in kB, as far as the lines of meminfo are read. -/
def meminfoLine (found : Int × Int) (line : String) : Outcome (Int × Int) :=
  if startsWith "MemTotal:" line then (numberIn line).map fun total => (total, found.2)
  else if startsWith "MemAvailable:" line then
    (numberIn line).map fun available => (found.1, available)
  else .ok found

/-- `a / b` -/
def quotient (a b : Int) : Outcome F :=
  match PyFloat.div a b with
  | some value => .ok value
  | none => .error (.exception "integer division result too large for a float")

/-- `round((1 - available_kb / total_kb) * 100, 1) if total_kb else 0` -/
def usedPercentOf (totalKb availableKb : Int) : Outcome F :=
  if totalKb ≠ 0 then
    (quotient availableKb totalKb).map fun free =>
      PyFloat.round1 (PyFloat.mul (PyFloat.sub (PyFloat.ofInt 1) free) (PyFloat.ofInt 100))
  else .ok (PyFloat.ofInt 0)

/-- `re.match(r"(\d+)\s*(MB|GB|TB)", text, re.IGNORECASE)`: the digits, and what
the unit is in MB. -/
def sizeMatch (text : List Char) : Option (List Char × Int) :=
  let digits := text.takeWhile isDecimal
  match digits, (text.drop digits.length).dropWhile isSpace with
  | _ :: _, unit :: b :: _ =>
      if b.toLower ≠ 'b' then none
      else if unit.toLower = 'm' then some (digits, 1)
      else if unit.toLower = 'g' then some (digits, 1024)
      else if unit.toLower = 't' then some (digits, 1024 * 1024)
      else none
  | _, _ => none

/-- The first of the fields that starts with a number. -/
def speedOf (fields : Dict String String) : List String → Outcome (Option Int)
  | [] => .ok none
  | key :: rest =>
      match ((fields.get? key).getD "").toList.takeWhile isDecimal with
      | [] => speedOf fields rest
      | digits => (parseInt (String.ofList digits)).map some

/-- `_dimm_from_dict` -/
def dimmFromDict (d : Dict String String) : Outcome DimmInfo := do
  let sizeMb ← match sizeMatch ((d.get? "size").getD "").toList with
    | some (digits, factor) =>
        (parseInt (String.ofList digits)).map fun size => some (size * factor)
    | none => pure none
  let speedMhz ← speedOf d ["configured memory speed", "configured clock speed", "speed"]
  let serial := (d.get? "serial number").getD ""
  return {
    locator := (d.get? "locator").getD "Unknown"
    sizeMb := sizeMb
    type := d.get? "type"
    speedMhz := speedMhz
    manufacturer := d.get? "manufacturer"
    serial := if lower serial ∈ ["unknown", "not specified", ""] then none else nonempty serial
    partNumber := nonempty (stripped ((d.get? "part number").getD "")) }

/-- Append the device that was read, unless its slot is empty. -/
def closeDevice (dimms : List DimmInfo) (current : Dict String String) : Outcome (List DimmInfo) :=
  if current.size ≠ 0 ∧ lower ((current.get? "size").getD "") ∉
      ["", "no module installed", "unknown"] then
    (dimmFromDict current).map fun dimm => dimms ++ [dimm]
  else .ok dimms

/-- One turn of the loop over the lines of `dmidecode`. -/
def dmidecodeLine (read : List DimmInfo × Dict String String) (line : String) :
    Outcome (List DimmInfo × Dict String String) :=
  let text := stripped line
  if text = "Memory Device" then
    (closeDevice read.1 read.2).map fun dimms => (dimms, .empty)
  else if ':' ∈ text.toList then
    let key := String.ofList (text.toList.takeWhile (· ≠ ':'))
    let value := String.ofList ((text.toList.dropWhile (· ≠ ':')).drop 1)
    .ok (read.1, read.2.set (lower (stripped key)) (stripped value))
  else .ok read

/-- `_collect_dimms` -/
def collectDimms (host : Host F) : Outcome (List DimmInfo) := do
  let (stdout, _, code) ← host.run ["dmidecode", "-t", "17"]
  if code ≠ 0 then return []
  else
    let (dimms, current) ← (lines stdout).foldlM dmidecodeLine ([], .empty)
    closeDevice dimms current

/-- One turn of a loop over EDAC files. -/
def edacFile (host : Host F) (total : Int) (path : String) : Outcome Int :=
  let text := stripped (host.readFile path)
  if isDigit text.toList then (parseInt text).map (total + ·) else .ok total

def edacFiles (host : Host F) (counter : String) : List String :=
  host.glob (host.sys ++ "/devices/system/edac/mc/mc*/" ++ counter)

/-- `_collect_edac`: the correctable and the uncorrectable errors. -/
def collectEdac (host : Host F) : Outcome (Int × Int) := do
  let correctable ← (edacFiles host "ce_count").foldlM (edacFile host) 0
  let uncorrectable ← (edacFiles host "ue_count").foldlM (edacFile host) 0
  return (correctable, uncorrectable)

/-- `collect_memory` -/
def collectMemory (host : Host F) : Outcome (MemoryInfo F) := do
  let meminfo := host.readFile (host.proc ++ "/meminfo")
  let (totalKb, availableKb) ← (lines meminfo).foldlM meminfoLine (0, 0)
  let totalGb ← quotient totalKb 1048576
  let availableGb ← quotient availableKb 1048576
  let usedPercent ← usedPercentOf totalKb availableKb
  let dimms ← collectDimms host
  let (correctable, uncorrectable) ← collectEdac host
  return {
    totalGb := PyFloat.round1 totalGb
    availableGb := PyFloat.round1 availableGb
    usedPercent := usedPercent
    dimms := dimms
    eccCorrectableErrors := correctable
    eccUncorrectableErrors := uncorrectable }

theorem collectMemory_ok {host : Host F} {mem : MemoryInfo F} (h : collectMemory host = .ok mem) :
    collectEdac host = .ok (mem.eccCorrectableErrors, mem.eccUncorrectableErrors) := by
  unfold collectMemory at h
  simp only [bind_eq_ok] at h
  obtain ⟨_, _, _, _, _, _, _, _, _, _, totals, hEdac, hMem⟩ := h
  cases hMem
  exact hEdac

omit [PyFloat F] [Unicode] in
/-- A file that could not be read is left out of the sum. -/
theorem edacFile_eq {host : Host F} {path : String} {value : Nat} (hReads : host.Reads path value)
    (hSmall : value < 10 ^ maxDigits) (total : Int) :
    edacFile host total path = .ok (total + host.seen path value) := by
  rcases hReads with hFailed | hRead
  · have hNone : isDigit (stripped "").toList = false := rfl
    simp [edacFile, Host.seen, hFailed, hNone]
  · rw [edacFile, Host.seen, hRead, if_neg (line_ne_empty value), stripped_line,
      String.toList_ofList, if_pos (isDigit_toDigits value), parseInt_toDigits hSmall]
    rfl

omit [PyFloat F] [Unicode] in
theorem foldlM_edacFile {host : Host F} {value : String → Nat} {paths : List String}
    (hReads : ∀ path ∈ paths, host.Reads path (value path))
    (hSmall : ∀ path, value path < 10 ^ maxDigits) (total : Int) :
    paths.foldlM (edacFile host) total =
      .ok (total + ((paths.map fun path => host.seen path (value path)).sum : Nat)) := by
  induction paths generalizing total with
  | nil => simp [pure, Except.pure]
  | cons path rest ih =>
      rw [List.foldlM_cons, edacFile_eq (hReads path List.mem_cons_self) (hSmall path)]
      show rest.foldlM (edacFile host) _ = _
      rw [ih fun other hOther => hReads other (List.mem_cons_of_mem _ hOther)]
      simp [add_assoc]

omit [PyFloat F] [Unicode] in
/-- Each total of `_collect_edac` is the sum over the files that could be read. -/
theorem collectEdac_eq {host : Host F} {value : String → Nat}
    (hReads : ∀ counter, ∀ path ∈ edacFiles host counter, host.Reads path (value path))
    (hSmall : ∀ path, value path < 10 ^ maxDigits) :
    collectEdac host =
      .ok ((((edacFiles host "ce_count").map fun path => host.seen path (value path)).sum : Nat),
        (((edacFiles host "ue_count").map fun path => host.seen path (value path)).sum : Nat)) := by
  rw [collectEdac, foldlM_edacFile (hReads "ce_count") hSmall,
    foldlM_edacFile (hReads "ue_count") hSmall]
  simp [bind, Except.bind, pure, Except.pure]

end NodeDebugDashboard.Collectors.Memory
