import NodeDebugDashboard.Library.Script
import NodeDebugDashboard.Library.Shell
import NodeDebugDashboard.Library.Strip

/-! scripts/ndiag-fsck: the programs that it starts, and what it asks before it starts one
that repairs a file system. -/
namespace NodeDebugDashboard.Scripts.Fsck

open Library Library.Shell

/-- What the script runs. -/
inductive Command where
  | program (argv : List String)
  /-- `[ -b path ]` -/
  | isBlock (path : String)
  /-- `[ -r path ]` -/
  | isReadable (path : String)
  /-- `[ -t 0 ]` -/
  | isTerminal
  /-- `read -r` -/
  | readLine
  deriving DecidableEq

/-- The exit status, and what reaches the script of the output, or the line that was read. -/
structure Report where
  status : Nat
  output : String
  deriving DecidableEq

abbrev Script (α : Type) := Library.Script Command Report α

def run (argv : List String) : Script Report := .run (.program argv) .done

def output (argv : List String) : Script String := return (← run argv).output

def succeeds (command : Command) : Script Bool :=
  .run command fun report => .done (report.status = 0)

def isBlank (c : Char) : Bool := c = ' ' || c = '\t'

/-- The lines that `while read` goes through: those with an end. -/
def lines (output : String) : List String := (output.splitOn "\n").dropLast

/-- The fields of a line, as `read` splits it. -/
def fields (line : String) : List String :=
  ((line.toList.splitOnP isBlank).filter (· ≠ [])).map String.ofList

/-- What `read -r` makes of a line that was typed. -/
def answer (line : String) : String :=
  String.ofList (stripBy isBlank (line.toList.filter (· ≠ '\x00')))

structure Flags where
  raw : Bool := false
  yes : Bool := false
  deriving DecidableEq

/-- The loop that takes the flags before the subcommand. -/
def parseFlags (flags : Flags) : List String → Flags × List String
  | [] => (flags, [])
  | word :: rest =>
      if word = "--raw" ∨ word = "-r" then parseFlags { flags with raw := true } rest
      else if word = "--yes" ∨ word = "-y" then parseFlags { flags with yes := true } rest
      else (flags, word :: rest)

/-- `_fstype` -/
def fstype (dev : String) : Script String := do
  let t ← output ["blkid", "-o", "value", "-s", "TYPE", dev]
  if t = "" then output ["lsblk", "-dno", "FSTYPE", dev] else return t

/-- The program of `awk` in `_host_mount`. -/
def hostMountAwk : String := "
            \x7b src=\"\"; for (i=7; i<=NF; i++) if ($i==\"-\") \x7b src=$(i+2); break \x7d \x7d
            (mm!=\"\" && $3==mm) || src==d1 || src==d2 \x7b print $5; exit \x7d
        "

/-- `_host_mount` -/
def hostMount (hostProc dev : String) : Script String := do
  let majmin ← output ["lsblk", "-dno", "MAJ:MIN", dev]
  let link ← run ["readlink", "-f", dev]
  let real := if link.status = 0 then link.output else dev
  let mountinfo := hostProc ++ "/1/mountinfo"
  if ← succeeds (.isReadable mountinfo) then
    output ["awk", "-v", "mm=" ++ majmin, "-v", "d1=" ++ dev, "-v", "d2=" ++
      real, hostMountAwk, mountinfo]
  else return ""

/-- Where the device is mounted: as the host sees it, else as the container does. -/
def findMount (hostProc dev : String) : Script String := do
  let mount ← hostMount hostProc dev
  if mount = "" then output ["lsblk", "-no", "MOUNTPOINT", dev] else return mount

/-- `_list_partitions` -/
def listPartitions (hostProc : String) : Script Unit := do
  let devices ← output ["blkid", "-o", "device"]
  (lines devices).forM fun d => do
    let t ← output ["blkid", "-o", "value", "-s", "TYPE", d]
    if t ∈ ["", "swap", "squashfs"] then return ()
    else
      let _ ← hostMount hostProc d
      let _ ← run ["lsblk", "-dno", "SIZE", d]
      return ()

/-- `cmd_status` -/
def cmdStatus (flags : Flags) : Script Unit :=
  if flags.raw then do
    let rows ← output ["lsblk", "-rno", "NAME,FSTYPE,MOUNTPOINT"]
    (lines rows).forM fun row =>
      match fields row with
      | name :: _ :: _ => do
          let _ ← run ["tune2fs", "-l", "/dev/" ++ name]
          return ()
      | _ => return ()
  else do
    let devices ← output ["blkid", "-o", "device"]
    (lines devices).forM fun dev => do
      let _ ← run ["basename", dev]
      let fstype ← output ["blkid", "-o", "value", "-s", "TYPE", dev]
      let _ ← run ["lsblk", "-no", "MOUNTPOINT", dev]
      if fstype ∈ ["", "swap", "squashfs", "vfat"] then return ()
      else if fstype ∈ ["ext2", "ext3", "ext4"] then
        -- its state, the mount count, the largest one, the last check
        (List.range 4).forM fun _ => do
          let _ ← run ["tune2fs", "-l", dev]
          return ()
      else return ()

/-- `cmd_check` -/
def cmdCheck (flags : Flags) (hostProc dev : String) : Script Unit :=
  if dev = "" then listPartitions hostProc
  else if flags.raw then do
    let _ ← run ["fsck", "-n", dev]
    return ()
  else do
    let fstype ← fstype dev
    let _ ← findMount hostProc dev
    if fstype ∈ ["ext2", "ext3", "ext4"] then
      let _ ← run ["e2fsck", "-n", "-f", dev]
      return ()
    else if fstype = "xfs" then
      let _ ← run ["xfs_repair", "-n", dev]
      return ()
    else if fstype = "btrfs" then
      let _ ← run ["btrfs", "check", "--readonly", dev]
      return ()
    else if fstype = "vfat" then
      let _ ← run ["fsck.vfat", "-n", dev]
      return ()
    else return ()

/-- `cmd_badblocks` -/
def cmdBadblocks (dev : String) : Script Unit := do
  let _ ← run (if dev = "" then ["lsblk", "-dno", "NAME,SIZE,MODEL"] else ["badblocks", "-sv", dev])
  return ()

/-- A line of the output matches `test(ing)? has begun`, in any case. -/
def hasBegun (output : String) : Bool :=
  (output.toList.map Char.toLower).tails.any fun rest =>
    "test has begun".toList.isPrefixOf rest || "testing has begun".toList.isPrefixOf rest

/-- The start of the self-test, and another try with `-d sat` when bits 0 and 1 of the
status say that the device could not be opened. -/
def startSelfTest (dev testType : String) : Script Report := do
  let first ← run ["smartctl", "-t", testType, dev]
  if first.status &&& 3 ≠ 0 then run ["smartctl", "-t", testType, "-d", "sat", dev]
    else return first

/-- `smartctl -l selftest` -/
def selfTestLog (dev : String) : Script Unit := do
  let log ← run ["smartctl", "-l", "selftest", dev]
  if log.status = 0 then return ()
  else
    let _ ← run ["smartctl", "-l", "selftest", "-d", "sat", dev]
    return ()

/-- `cmd_smart_test` -/
def cmdSmartTest (flags : Flags) (dev testType : String) : Script Unit :=
  if dev = "" then do
    let _ ← run ["lsblk", "-dno", "NAME,SIZE,MODEL"]
    return ()
  else do
    let result ← startSelfTest dev testType
    if flags.raw ∨ hasBegun result.output then selfTestLog dev else return ()

/-- The open with `O_EXCL` that `python3` tries. -/
def exclusiveOpen (dev : String) : Command :=
  .program
    ["python3", "-c", "import os,sys; os.close(os.open(sys.argv[1], os.O_RDONLY | os.O_EXCL))", dev]

/-- `--yes`, or the path of the device, typed on a terminal. -/
def confirm (flags : Flags) (dev : String) : Script Bool :=
  if flags.yes then return true
  else do
    if ← succeeds .isTerminal then
      .run .readLine fun line => .done (answer line.output = dev)
    else return false

/-- The tool that repairs a file system of this type. -/
def repairTool (fstype dev : String) : Option (List String) :=
  if fstype ∈ ["ext2", "ext3", "ext4"] then some ["e2fsck", "-y", "-f", dev]
  else if fstype = "xfs" then some ["xfs_repair", dev]
  else if fstype = "btrfs" then some ["btrfs", "check", "--repair", dev]
  else none

/-- `cmd_repair` -/
def cmdRepair (flags : Flags) (hostProc dev : String) : Script Unit :=
  if dev = "" then listPartitions hostProc
  else do
    if ← succeeds (.isBlock dev) then
      let mount ← findMount hostProc dev
      if mount ≠ "" then return ()
      else if ← succeeds (exclusiveOpen dev) then
        match repairTool (← fstype dev) dev with
        | none => return ()
        | some argv =>
            if ← confirm flags dev then
              let _ ← run argv
              return ()
            else return ()
      else return ()
    else return ()

/-- A call of the script. -/
structure Invocation where
  args : List String
  /-- `HOST_PROC` -/
  hostProc : Option String

namespace Invocation

variable (invocation : Invocation)

def flags : Flags := (parseFlags {} invocation.args).1

/-- The words from the subcommand on. -/
def words : List String := (parseFlags {} invocation.args).2

def subcommand : String := orDefault invocation.words[0]? "status"

/-- `${2:-}` -/
def device : String := orDefault invocation.words[1]? ""

def script : Script Unit :=
  let hostProc := orDefault invocation.hostProc "/host-proc"
  match invocation.subcommand with
  | "status" => cmdStatus invocation.flags
  | "check" => cmdCheck invocation.flags hostProc invocation.device
  | "badblocks" => cmdBadblocks invocation.device
  | "smart-test" =>
      cmdSmartTest invocation.flags invocation.device (orDefault invocation.words[2]? "short")
  | "repair" => cmdRepair invocation.flags hostProc invocation.device
  -- the help, or an unknown subcommand
  | _ => return ()

end Invocation

/-- A file system is repaired: the tool is told to, or needs not be told, and is not
told to change nothing, with which it refuses or only looks. -/
def repairs : List String → Bool
  | "e2fsck" :: options => options.contains "-y" && !options.contains "-n"
  | "xfs_repair" :: options => !options.contains "-n"
  | "btrfs" :: "check" :: options => options.contains "--repair" && !options.contains "--readonly"
  | _ => false

inductive Change where
  | mount
  | unmount
  deriving DecidableEq

/-- How often the device is mounted on the host. -/
def change (mounts : Nat) : Change → Option Nat
  | .mount => some (mounts + 1)
  | .unmount => if mounts = 0 then none else some (mounts - 1)

/-- The kernel refuses the exclusive open of a device that is mounted. Any other report
is possible at any time. -/
def possible (dev : String) (mounts : Nat) (command : Command) (report : Report) : Bool :=
  command ≠ exclusiveOpen dev || report.status ≠ 0 || mounts = 0

abbrev Past := Script.Past Command Report

abbrev State := Script.Session Nat Command Report

abbrev Event := Script.Event Change Report

def step (invocation : Invocation) : State → Event → Option State :=
  Script.step change (possible invocation.device)

def initial (invocation : Invocation) (mounts : Nat) : State := ⟨mounts, [], invocation.script⟩

/-- The script is about to start this program. -/
def Starts (s : State) (argv : List String) : Prop := s.rest.next? = some (.program argv)

def Harmless (command : Command) : Prop := ∀ argv, command = .program argv → repairs argv = false

/-- The device was opened exclusively, and no repair was started yet. -/
structure Claimed (dev : String) (past : Past) : Prop where
  opened : ∃ report, (exclusiveOpen dev, report) ∈ past ∧ report.status = 0
  harmless : ∀ entry ∈ past, Harmless entry.1

/-- The path of the device was typed on a terminal, blanks around it aside. -/
structure Typed (dev : String) (past : Past) : Prop where
  terminal : ∃ report, (.isTerminal, report) ∈ past ∧ report.status = 0
  line : ∃ report, (.readLine, report) ∈ past ∧ answer report.output = dev

structure Authorized (invocation : Invocation) (past : Past) (argv : List String) : Prop where
  subcommand : invocation.subcommand = "repair"
  device : argv.getLast? = some invocation.device
  confirmed : invocation.flags.yes ∨ Typed invocation.device past

/-- The device is not mounted once it was opened, until a repair is started. -/
def Undisturbed (invocation : Invocation) (s : State) (event : Event) : Prop :=
  event = .change .mount → ¬ Claimed invocation.device s.past

theorem uses_run {argv : List String} (h : repairs argv = false) : (run argv).Uses Harmless := by
  refine ⟨?_, fun _ => trivial⟩
  intro other hOther
  rwa [← Command.program.inj hOther]

/-- A program whose report is not looked at. -/
theorem uses_start {argv : List String} (h : repairs argv = false) :
    (do let _ ← run argv; return () : Script Unit).Uses Harmless :=
  (uses_run h).bind fun _ => trivial

theorem uses_output {argv : List String} (h : repairs argv = false) : (output argv).Uses Harmless :=
  (uses_run h).bind fun _ => trivial

theorem uses_succeeds {command : Command} (h : Harmless command) :
    (succeeds command).Uses Harmless :=
  ⟨h, fun _ => trivial⟩

theorem uses_fstype (dev : String) : (fstype dev).Uses Harmless := by
  apply (uses_output rfl).bind
  intro t
  split
  · exact uses_output rfl
  · trivial

theorem uses_hostMount (hostProc dev : String) : (hostMount hostProc dev).Uses Harmless := by
  apply (uses_output rfl).bind
  intro majmin
  apply (uses_run rfl).bind
  intro link
  apply (uses_succeeds fun _ h => by cases h).bind
  intro readable
  split
  · exact uses_output rfl
  · trivial

theorem uses_findMount (hostProc dev : String) : (findMount hostProc dev).Uses Harmless := by
  apply (uses_hostMount hostProc dev).bind
  intro mount
  split
  · exact uses_output rfl
  · trivial

theorem uses_listPartitions (hostProc : String) : (listPartitions hostProc).Uses Harmless := by
  apply (uses_output rfl).bind
  intro devices
  apply Script.Uses.forM
  intro d _
  apply (uses_output rfl).bind
  intro t
  split
  · trivial
  · apply (uses_hostMount hostProc d).bind
    intro _
    exact uses_start rfl

theorem uses_cmdStatus (flags : Flags) : (cmdStatus flags).Uses Harmless := by
  unfold cmdStatus
  split
  · apply (uses_output rfl).bind
    intro rows
    apply Script.Uses.forM
    intro row _
    split
    · exact uses_start rfl
    · trivial
  · apply (uses_output rfl).bind
    intro devices
    apply Script.Uses.forM
    intro dev _
    apply (uses_run rfl).bind
    intro _
    apply (uses_output rfl).bind
    intro fstype
    apply (uses_run rfl).bind
    intro _
    split
    · trivial
    · split
      · apply Script.Uses.forM
        intro _ _
        exact uses_start rfl
      · trivial

/-- The checks are told to change nothing. -/
theorem uses_cmdCheck (flags : Flags) (hostProc dev : String) :
    (cmdCheck flags hostProc dev).Uses Harmless := by
  unfold cmdCheck
  split
  · exact uses_listPartitions hostProc
  split
  · exact uses_start rfl
  apply (uses_fstype dev).bind
  intro fstype
  apply (uses_findMount hostProc dev).bind
  intro _
  split
  · exact uses_start (by simp [repairs])
  split
  · exact uses_start (by simp [repairs])
  split
  · exact uses_start (by simp [repairs])
  split
  · exact uses_start rfl
  · trivial

theorem uses_cmdBadblocks (dev : String) : (cmdBadblocks dev).Uses Harmless := by
  apply Script.Uses.bind
  · apply uses_run
    split <;> rfl
  · exact fun _ => trivial

theorem uses_cmdSmartTest (flags : Flags) (dev testType : String) :
    (cmdSmartTest flags dev testType).Uses Harmless := by
  unfold cmdSmartTest
  split
  · exact uses_start rfl
  apply Script.Uses.bind
  · apply (uses_run rfl).bind
    intro first
    split
    · exact uses_run rfl
    · trivial
  intro result
  split
  · apply (uses_run rfl).bind
    intro log
    split
    · trivial
    · exact uses_start rfl
  · trivial

/-- A repair is started for the device that the script has claimed, if it is confirmed. -/
def Cleared (invocation : Invocation) (past : Past) (command : Command) : Prop :=
  ∀ argv, command = .program argv → repairs argv = true →
    Authorized invocation past argv ∧ Claimed invocation.device past

variable {invocation : Invocation} {past : Past}

theorem Harmless.cleared {command : Command} (h : Harmless command) :
    Cleared invocation past command := by
  intro argv hProgram hRepairs
  rw [h argv hProgram] at hRepairs
  cases hRepairs

/-- A harmless part of the script. -/
theorem obeys_of_uses {α : Type} {script : Script α} {Post : Past → α → Prop}
    (h : script.Uses Harmless) (hPost : ∀ more value, (∀ entry ∈ more, Harmless entry.1) →
      Post (past ++ more) value) : script.Obeys (Cleared invocation) past Post :=
  h.obeys (fun _ _ => Harmless.cleared) hPost

theorem succeeds_obeys {command : Command} {Post : Past → Bool → Prop} (h : Harmless command)
    (hPost : ∀ report, Post (past ++ [(command, report)]) (report.status = 0)) :
    (succeeds command).Obeys (Cleared invocation) past Post :=
  ⟨h.cleared, hPost⟩

theorem harmless_append {more : Past} (h : ∀ entry ∈ past, Harmless entry.1)
    (hMore : ∀ entry ∈ more, Harmless entry.1) : ∀ entry ∈ past ++ more, Harmless entry.1 := by
  intro entry hEntry
  rcases List.mem_append.mp hEntry with hOld | hNew
  · exact h entry hOld
  · exact hMore entry hNew

theorem Claimed.append {dev : String} {more : Past} (h : Claimed dev past)
    (hMore : ∀ entry ∈ more, Harmless entry.1) : Claimed dev (past ++ more) where
  opened := h.opened.imp fun _ hReport => ⟨List.mem_append_left _ hReport.1, hReport.2⟩
  harmless := harmless_append h.harmless hMore

theorem Claimed.snoc {dev : String} {command : Command} (h : Claimed dev past)
    (hCommand : Harmless command) (report : Report) : Claimed dev (past ++ [(command, report)]) :=
  h.append fun _ hEntry => List.mem_singleton.mp hEntry ▸ hCommand

/-- The confirmation keeps the claim, and it is given only as it should be. -/
theorem confirm_obeys {flags : Flags} {dev : String} {Post : Past → Bool → Prop}
    (h : Claimed dev past) (hPost : ∀ later value, Claimed dev later →
      (value = true → flags.yes ∨ Typed dev later) → Post later value) :
    (confirm flags dev).Obeys (Cleared invocation) past Post := by
  have hTerminal : Harmless .isTerminal := fun _ h => by cases h
  have hLine : Harmless .readLine := fun _ h => by cases h
  unfold confirm
  split
  · rename_i hYes
    exact hPost past true h fun _ => .inl hYes
  apply Script.Obeys.bind
  apply succeeds_obeys hTerminal
  intro terminal
  have hFirst := h.snoc hTerminal terminal
  split
  case isTrue hStatus =>
    refine ⟨hLine.cleared, fun line => hPost _ _ (hFirst.snoc hLine line) fun hAnswer => .inr ?_⟩
    exact
      { terminal := ⟨terminal, by simp, of_decide_eq_true hStatus⟩
        line := ⟨line, by simp, of_decide_eq_true hAnswer⟩ }
  case isFalse => exact hPost _ _ hFirst fun hFalse => by cases hFalse

theorem repairTool_getLast? {fstype dev : String} {argv : List String}
    (h : repairTool fstype dev = some argv) : argv.getLast? = some dev := by
  unfold repairTool at h
  split_ifs at h <;> (cases h; rfl)

/-- The guards of a repair, in their order. -/
theorem cmdRepair_obeys (hostProc : String) (hSubcommand : invocation.subcommand = "repair") :
    (cmdRepair invocation.flags hostProc invocation.device).Obeys (Cleared invocation) []
      fun _ _ => True := by
  have hOpen : Harmless (exclusiveOpen invocation.device) := by
    intro argv hProgram
    cases hProgram
    rfl
  unfold cmdRepair
  split
  · exact obeys_of_uses (uses_listPartitions hostProc) fun _ _ _ => trivial
  apply Script.Obeys.bind
  apply obeys_of_uses (uses_succeeds fun _ h => by cases h)
  intro before isBlock hBefore
  rw [List.nil_append]
  split
  case isFalse => trivial
  apply Script.Obeys.bind
  apply obeys_of_uses (uses_findMount hostProc invocation.device)
  intro more mount hMore
  have hClean := harmless_append hBefore hMore
  split
  case isTrue => trivial
  apply Script.Obeys.bind
  apply succeeds_obeys hOpen
  intro opened
  split
  case isFalse => trivial
  case isTrue hStatus =>
    have hClaimed :
        Claimed invocation.device (before ++ more ++ [(exclusiveOpen invocation.device, opened)]) :=
      { opened := ⟨opened, by simp, of_decide_eq_true hStatus⟩
        harmless := harmless_append hClean fun _ hEntry => List.mem_singleton.mp hEntry ▸ hOpen }
    apply Script.Obeys.bind
    apply obeys_of_uses (uses_fstype invocation.device)
    intro probes fstype hProbes
    split
    case h_1 => trivial
    case h_2 argv hTool =>
      apply Script.Obeys.bind
      apply confirm_obeys (hClaimed.append hProbes)
      intro later confirmed hLater hConfirmed
      split
      case isFalse => trivial
      case isTrue hTrue =>
        refine ⟨?_, fun _ => trivial⟩
        intro other hProgram _
        cases hProgram
        exact ⟨⟨hSubcommand, repairTool_getLast? hTool, hConfirmed hTrue⟩, hLater⟩

/-- Whatever happens, the script starts a repair only in this way. -/
theorem script_obeys (invocation : Invocation) :
    invocation.script.Obeys (Cleared invocation) [] fun _ _ => True := by
  unfold Invocation.script
  split
  case h_1 => exact obeys_of_uses (uses_cmdStatus _) fun _ _ _ => trivial
  case h_2 => exact obeys_of_uses (uses_cmdCheck _ _ _) fun _ _ _ => trivial
  case h_3 => exact obeys_of_uses (uses_cmdBadblocks _) fun _ _ _ => trivial
  case h_4 => exact obeys_of_uses (uses_cmdSmartTest _ _ _) fun _ _ _ => trivial
  case h_5 hSubcommand => exact cmdRepair_obeys _ hSubcommand
  case h_6 => trivial

/-- A device that is claimed is not mounted. -/
def Unmounted (invocation : Invocation) (s : State) : Prop :=
  Claimed invocation.device s.past → s.world = 0

theorem unmounted_step {s t : State} {event : Event} (h : Unmounted invocation s)
    (hAllowed : Undisturbed invocation s event) (hStep : step invocation s event = some t) :
    Unmounted invocation t := by
  intro hClaimed
  cases event with
  | change event =>
      obtain ⟨mounts, hChange, rfl⟩ := Script.step_change hStep
      have hNone := h hClaimed
      cases event with
      | mount => exact absurd hClaimed (hAllowed rfl)
      | unmount => simp [change, hNone] at hChange
  | report report =>
      obtain ⟨command, next, -, hPossible, rfl⟩ := Script.step_report hStep
      obtain ⟨other, hOther, hStatus⟩ := hClaimed.opened
      rcases List.mem_append.mp hOther with hOld | hNew
      · apply h
        exact ⟨⟨other, hOld, hStatus⟩, fun entry hEntry =>
          hClaimed.harmless entry (List.mem_append_left _ hEntry)⟩
      · obtain ⟨rfl, rfl⟩ := Prod.mk.inj (List.mem_singleton.mp hNew)
        simpa [possible, hStatus] using hPossible
  | stop =>
      cases hStep
      exact h hClaimed

/-- On any command line, with any reports and any answers, a tool that repairs is started
only by `repair`, on its device, and confirmed. It is started while the device is not
mounted if nobody mounts it between the exclusive open and the start. -/
theorem repairGuarded (invocation : Invocation) (mounts : Nat) (events : List Event) (s : State)
    (argv : List String) (hStarts : Starts s argv) (hRepairs : repairs argv = true) :
    (Runs (step invocation) (initial invocation mounts) events s →
      Authorized invocation s.past argv) ∧
      (RunsWhere (step invocation) (Undisturbed invocation) (initial invocation mounts) events s →
        s.world = 0) := by
  have hCleared {allowed : State → Event → Prop}
      (run : RunsWhere (step invocation) allowed (initial invocation mounts) events s) :
      Cleared invocation s.past (.program argv) :=
    (Script.obeys_run run (script_obeys invocation)).next hStarts
  constructor
  · intro run
    exact (hCleared run argv rfl hRepairs).1
  · intro run
    have hStart : Unmounted invocation (initial invocation mounts) := by
      intro hClaimed
      obtain ⟨_, hMem, _⟩ := hClaimed.opened
      cases hMem
    have hUnmounted : Unmounted invocation s :=
      run.invariant hStart fun _ _ _ hInv hAllowed hStep => unmounted_step hInv hAllowed hStep
    exact hUnmounted (hCleared run argv rfl hRepairs).2

/-- A repair from a terminal. -/
def sdb1 : Invocation := ⟨["repair", "/dev/sdb1"], none⟩

/-- The device is idle and holds an `ext4`. -/
def idle : List Event :=
  [⟨0, ""⟩, ⟨0, "8:17"⟩, ⟨0, "/dev/sdb1"⟩, ⟨0, ""⟩, ⟨0, ""⟩, ⟨0, ""⟩, ⟨0, ""⟩, ⟨0, "ext4"⟩,
   ⟨0, ""⟩].map .report

/-- The path is given when the script asks for it. -/
def confirmed : List Event := idle ++ [.report ⟨0, "/dev/sdb1"⟩]

/-- An idle device is repaired once its path has been given. -/
theorem repairGuarded_sdb1 : ∃ s, Runs (step sdb1) (initial sdb1 0) confirmed s ∧
    RunsWhere (step sdb1) (Undisturbed sdb1) (initial sdb1 0) confirmed s ∧
    Starts s ["e2fsck", "-y", "-f", "/dev/sdb1"] ∧
    Authorized sdb1 s.past ["e2fsck", "-y", "-f", "/dev/sdb1"] ∧ s.world = 0 := by
  obtain ⟨s, hExecute⟩ : ∃ s, execute (step sdb1) (initial sdb1 0) confirmed = some s :=
    Option.isSome_iff_exists.mp (by decide +kernel)
  have hStarts : Starts s ["e2fsck", "-y", "-f", "/dev/sdb1"] := by
    apply Option.some.inj
    change (some s).map (fun s => s.rest.next?) = _
    rw [← hExecute]
    decide +kernel
  have hUndisturbed : RunsWhere (step sdb1) (Undisturbed sdb1) (initial sdb1 0) confirmed s := by
    refine runsWhere_of_execute hExecute ?_
    intro event hMem _ hMount
    subst hMount
    exact absurd hMem (by decide)
  have hRun := runs_of_execute hExecute
  have hGuarded := repairGuarded sdb1 0 confirmed s _ hStarts (by decide)
  exact ⟨s, hRun, hUndisturbed, hStarts, hGuarded.1 hRun, hGuarded.2 hUndisturbed⟩

/-- The device is mounted while the script waits for the path. -/
theorem not_repairGuarded_mounted :
    ¬ ∀ (invocation : Invocation) (mounts : Nat) (events : List Event)
    (s : State) (argv : List String), Starts s argv → repairs argv = true →
      Runs (step invocation) (initial invocation mounts) events s →
        Authorized invocation s.past argv ∧ s.world = 0 := by
  intro h
  let events : List Event := idle ++ [.change .mount, .report ⟨0, "/dev/sdb1"⟩]
  obtain ⟨s, hRun⟩ : ∃ s, execute (step sdb1) (initial sdb1 0) events = some s :=
    Option.isSome_iff_exists.mp (by decide +kernel)
  have hEnd : (some s).map (fun s => (s.rest.next?, s.world)) =
      some (some (.program ["e2fsck", "-y", "-f", "/dev/sdb1"]), 1) := by
    rw [← hRun]
    decide +kernel
  obtain ⟨hStarts, hMounted⟩ := Prod.mk.inj (Option.some.inj hEnd)
  obtain ⟨-, hNone⟩ := h sdb1 0 events s _ hStarts (by decide) (runs_of_execute hRun)
  omega

end NodeDebugDashboard.Scripts.Fsck
