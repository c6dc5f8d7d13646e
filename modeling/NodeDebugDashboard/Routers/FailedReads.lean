import NodeDebugDashboard.Collectors.Memory
import NodeDebugDashboard.Collectors.Network
import NodeDebugDashboard.Routers.CounterHistory
import NodeDebugDashboard.Routers.Independence

/-! Runs during which the kernel's counters stand still and reads of their
files may fail: when a failed read makes a later one look like an increase. -/
namespace NodeDebugDashboard.Routers

open Library Library.Python Library.Text Models Collectors

variable {F : Type} [PyFloat F]

/-- The kernel's counters, by interface and by EDAC file. -/
structure Kernel where
  crc : String → UInt64
  carrier : String → UInt64
  edac : String → UInt64

/-- The counter reads 0, or what it read when it was last read. -/
def Unmoved (counters : Counters) (key : CounterKey) (value : Int) : Prop :=
  value = 0 ∨ ∀ prev last, counters.get? key = some (prev, last) → prev = value

/-- No counter was ever seen to go up. -/
def NeverIncreased (counters : Counters) : Prop :=
  ∀ key prev last, counters.get? key = some (prev, last) → 0 ≤ prev ∧ last = none

/-- The pass reports no counter at more than info. -/
def OnlyInfo (pass : Pass F) (counters : Counters) : Prop :=
  ∀ warnings, (getWarnings pass counters).1 = .ok warnings →
    ∀ source ∈ [Source.memory, Source.nics], ∀ warning ∈ generatedFrom source warnings,
      warning.severity = "info"

omit [PyFloat F] in
/-- The two collectors' checks read no negative value. -/
def Pass.Counts (pass : Pass F) : Prop := ∀ check ∈ pass.checks, 0 ≤ check.value

omit [PyFloat F] in
theorem Pass.checks_severity {pass : Pass F} {check : Check} (h : check ∈ pass.checks) :
    check.severity = "critical" ∨ check.severity = "warning" := by
  rcases List.mem_append.mp h with hMemory | hNetwork
  · unfold Pass.memoryChecks at hMemory
    cases hMem : recordOf pass.sections.memory with
    | none => simp [hMem] at hMemory
    | some mem =>
        rcases (by simpa [hMem, Routers.memoryChecks] using hMemory) with rfl | rfl <;> simp
  · obtain ⟨nic, _, hCheck⟩ := List.mem_flatMap.mp hNetwork
    rcases (by simpa [Routers.nicChecks] using hCheck) with rfl | rfl <;> simp

theorem lastIncrease_of_unmoved {counters : Counters} {key : CounterKey} {value : Int} {now : ℚ}
    (hNever : NeverIncreased counters) (hUnmoved : Unmoved counters key value) :
    lastIncrease (counters.get? key) value now = none := by
  cases hEntry : counters.get? key with
  | none => rfl
  | some entry =>
      obtain ⟨prev, last⟩ := entry
      obtain ⟨hPrev, hLast⟩ := hNever key prev last hEntry
      have hStill : ¬Moved prev value := by
        unfold Moved
        rcases hUnmoved with hZero | hSame
        · omega
        · have := hSame prev last hEntry
          omega
      rw [lastIncrease, if_neg hStill, hLast]

/-- A counter that did not go up is reported at info or not at all. -/
theorem Check.answer_of_unmoved {counters : Counters} {check : Check} (window : Int)
    (clock : Clock) (hNever : NeverIncreased counters)
    (hUnmoved : Unmoved counters check.key check.value) :
    check.answer window clock (counters.get? check.key) = none ∨
      check.answer window clock (counters.get? check.key) = some "info" := by
  rw [Check.answer, lastIncrease_of_unmoved hNever hUnmoved, severityOf]
  split_ifs <;> simp

/-- A counter that reads another value than 0 and the last one is reported at
its full severity at once. -/
theorem Check.answer_of_not_unmoved {counters : Counters} {check : Check} {window : Int}
    (clock : Clock) (hWindow : 0 < window) (hCount : 0 ≤ check.value)
    (hMoved : ¬Unmoved counters check.key check.value) :
    check.answer window clock (counters.get? check.key) = some check.severity := by
  simp only [Unmoved, not_or, not_forall] at hMoved
  obtain ⟨hNonzero, prev, last, hEntry, hChanged⟩ := hMoved
  have hUp : Moved prev check.value := by
    unfold Moved
    omega
  have hPositive : ¬check.value ≤ 0 := by omega
  have hNow : clock check.key - clock check.key < window * 3600 := by
    have : (0 : ℚ) < window := by exact_mod_cast hWindow
    linarith
  rw [Check.answer, hEntry, lastIncrease, if_pos hUp, severityOf, if_neg hPositive, if_pos hNow]

/-- The warnings about counters are those that the checks of the pass make. -/
theorem mem_counterWarnings_iff {pass : Pass F} {counters : Counters} (hValid : pass.Valid)
    {warnings : List (Origin × NodeWarning)}
    (hWarnings : (getWarnings pass counters).1 = .ok warnings) (warning : NodeWarning) :
    (∃ source ∈ [Source.memory, Source.nics], warning ∈ generatedFrom source warnings) ↔
      ∃ check ∈ pass.checks, check.warning (check.answer pass.window pass.clock
        (counters.get? check.key)) = some warning := by
  obtain ⟨⟨failed, hFailed⟩, hNames⟩ := hValid
  have hAnswers : (pass.checked counters).1 ++ (pass.checked counters).2.1 =
      pass.checks.map fun check =>
        (check, check.answer pass.window pass.clock (counters.get? check.key)) := by
    rw [← (runChecks_spec _ _ counters (pass.checks_nodup hNames)).1, Pass.checks, runChecks_append]
    rfl
  have hBoth : (∃ source ∈ [Source.memory, Source.nics], warning ∈ generatedFrom source warnings) ↔
      warning ∈ warningsOf ((pass.checked counters).1 ++ (pass.checked counters).2.1) := by
    simp [generatedFrom_getWarnings pass hFailed hWarnings, Pass.evaluate, warningsOf]
  rw [hBoth, hAnswers, warningsOf, List.filterMap_map, List.mem_filterMap]
  rfl

theorem onlyInfo_of_unmoved {pass : Pass F} {counters : Counters} (hValid : pass.Valid)
    (hNever : NeverIncreased counters)
    (hUnmoved : ∀ check ∈ pass.checks, Unmoved counters check.key check.value) :
    OnlyInfo pass counters := by
  intro warnings hWarnings source hSource warning hWarning
  obtain ⟨check, hCheck, hMade⟩ :=
    (mem_counterWarnings_iff hValid hWarnings warning).mp ⟨source, hSource, hWarning⟩
  rcases check.answer_of_unmoved pass.window pass.clock hNever
    (hUnmoved check hCheck) with hNone | hInfo
  · simp [hNone, Check.warning] at hMade
  · rw [hInfo] at hMade
    cases hMade
    rfl

theorem unmoved_of_onlyInfo {pass : Pass F} {counters : Counters} (hValid : pass.Valid)
    (hWindow : 0 < pass.window) (hCounts : pass.Counts) (hInfo : OnlyInfo pass counters) :
    ∀ check ∈ pass.checks, Unmoved counters check.key check.value := by
  intro check hCheck
  by_contra hMoved
  obtain ⟨warnings, hWarnings⟩ := getWarnings_ok_iff.mpr hValid.1
  have hAnswer := check.answer_of_not_unmoved pass.clock hWindow (hCounts check hCheck) hMoved
  have hSeverity := Pass.checks_severity hCheck
  obtain ⟨source, hSource, hWarning⟩ := (mem_counterWarnings_iff hValid hWarnings
    ⟨check.severity, check.key.1, check.message, check.device⟩).mpr
      ⟨check, hCheck, by
        rw [hAnswer, Check.warning, if_pos (by rcases hSeverity with h | h <;> simp [h])]⟩
  have hLow := hInfo warnings hWarnings source hSource _ hWarning
  rcases hSeverity with hFull | hFull <;> simp [hFull] at hLow

/-- A pass in which no counter goes up leaves the table without an increase. -/
theorem neverIncreased_after {pass : Pass F} {counters : Counters} (hValid : pass.Valid)
    (hNever : NeverIncreased counters) (hCounts : pass.Counts)
    (hUnmoved : ∀ check ∈ pass.checks, Unmoved counters check.key check.value) :
    NeverIncreased (getWarnings pass counters).2 := by
  intro key prev last hEntry
  obtain ⟨hRead, hGone, hKept⟩ := Pass.get?_after hValid counters key
  cases hReading : pass.reading key with
  | some reading =>
      obtain ⟨check, hFound, rfl⟩ := Option.map_eq_some_iff.mp hReading
      have hCheck := List.mem_of_find?_eq_some hFound
      have hKey : check.key = key := by simpa using List.find?_some hFound
      subst hKey
      have hLast :
          lastIncrease (counters.get? check.key) check.value (pass.clock check.key) = none :=
        lastIncrease_of_unmoved hNever (hUnmoved check hCheck)
      rw [hRead _ hReading, note_moved, hLast] at hEntry
      cases hEntry
      exact ⟨hCounts check hCheck, rfl⟩
  | none =>
      by_cases hForgets : pass.Forgets key
      · simp [hGone hForgets] at hEntry
      · rw [hKept hReading hForgets] at hEntry
        exact hNever key prev last hEntry

/-- One pass over a node. -/
structure Turn (F : Type) where
  host : Host F
  pass : Pass F

section

variable [Unicode]

/-- The two collectors ran on the host, which lists each interface once and gives
the kernel's value for every counter file that can be read. -/
structure Turn.Observes (turn : Turn F) (kernel : Kernel) : Prop where
  nics : turn.pass.sections.nics = Network.collectNics turn.host
  memory : turn.pass.sections.memory = (Memory.collectMemory turn.host).map some
  listing : ∀ names, turn.host.listdir (turn.host.sys ++ "/class/net/") = .ok names → names.Nodup
  crc : ∀ name, turn.host.Reads (Network.statistic turn.host name "/rx_crc_errors")
    (kernel.crc name).toNat
  carrier : ∀ name, turn.host.Reads (Network.statistic turn.host name "/tx_carrier_errors")
    (kernel.carrier name).toNat
  edac : ∀ counter, ∀ path ∈ Memory.edacFiles turn.host counter,
    turn.host.Reads path (kernel.edac path).toNat

omit [PyFloat F] [Unicode] in
/-- The CRC counter of an interface as far as it can be read. -/
def Turn.crcSeen (turn : Turn F) (kernel : Kernel) (name : String) : Nat :=
  turn.host.seen (Network.statistic turn.host name "/rx_crc_errors") (kernel.crc name).toNat

omit [PyFloat F] [Unicode] in
def Turn.carrierSeen (turn : Turn F) (kernel : Kernel) (name : String) : Nat :=
  turn.host.seen (Network.statistic turn.host name "/tx_carrier_errors") (kernel.carrier name).toNat

omit [PyFloat F] [Unicode] in
/-- The sum of the EDAC files that can be read. -/
def Turn.edacSeen (turn : Turn F) (kernel : Kernel) (counter : String) : Nat :=
  ((Memory.edacFiles turn.host counter).map fun path =>
    turn.host.seen path (kernel.edac path).toNat).sum

omit [PyFloat F] [Unicode] in
/-- Unless the pass is cancelled, each counter that it checks reads 0, or what
the table has of it. -/
def Turn.Steady (turn : Turn F) (kernel : Kernel) (counters : Counters) : Prop :=
  turn.pass.sections.OnlyExceptions →
    (∀ mem, turn.pass.sections.memory = .ok (some mem) →
      Unmoved counters ("memory", "", "ecc_ue") (turn.edacSeen kernel "ue_count") ∧
      Unmoved counters ("memory", "", "ecc_ce") (turn.edacSeen kernel "ce_count")) ∧
    ∀ nics, turn.pass.sections.nics = .ok nics → ∀ nic ∈ nics,
      Unmoved counters ("network", nic.name, "crc") (turn.crcSeen kernel nic.name) ∧
      Unmoved counters ("network", nic.name, "carrier") (turn.carrierSeen kernel nic.name)

/-- It holds at every pass of the run, of the table that the pass starts from. -/
def Throughout (holds : Turn F → Counters → Prop) : Counters → List (Turn F) → Prop
  | _, [] => True
  | counters, turn :: rest =>
      holds turn counters ∧ Throughout holds (getWarnings turn.pass counters).2 rest

theorem Turn.Observes.nic {turn : Turn F} {kernel : Kernel} (h : turn.Observes kernel)
    {nics : List NICInfo} (hNics : turn.pass.sections.nics = .ok nics) :
    (nics.map NICInfo.name).Nodup ∧ ∀ nic ∈ nics,
      nic.rxCrcErrors = turn.crcSeen kernel nic.name ∧
      nic.txCarrierErrors = turn.carrierSeen kernel nic.name := by
  obtain ⟨hNames, hEach⟩ := Network.collectNics_ok (h.nics.symm.trans hNics) h.listing
  refine ⟨hNames, fun nic hNic => ?_⟩
  obtain ⟨_, hCrc, hCarrier⟩ := Network.collectNic_ok (hEach nic hNic)
  rw [Host.readInt_eq (h.crc nic.name) (small_of_uint64 _)] at hCrc
  rw [Host.readInt_eq (h.carrier nic.name) (small_of_uint64 _)] at hCarrier
  exact ⟨(Except.ok.inj hCrc).symm, (Except.ok.inj hCarrier).symm⟩

theorem Turn.Observes.mem {turn : Turn F} {kernel : Kernel} (h : turn.Observes kernel)
    {mem : MemoryInfo F} (hMem : turn.pass.sections.memory = .ok (some mem)) :
    mem.eccUncorrectableErrors = turn.edacSeen kernel "ue_count" ∧
      mem.eccCorrectableErrors = turn.edacSeen kernel "ce_count" := by
  have hCollected : Memory.collectMemory turn.host = .ok mem := by
    have hSome := h.memory.symm.trans hMem
    cases hResult : Memory.collectMemory turn.host with
    | error error => simp [hResult, Except.map] at hSome
    | ok other => simpa [hResult, Except.map] using hSome
  have hEdac := Memory.collectMemory_ok hCollected
  rw [Memory.collectEdac_eq h.edac fun path => small_of_uint64 _] at hEdac
  obtain ⟨hCorrectable, hUncorrectable⟩ := Prod.mk.inj (Except.ok.inj hEdac)
  exact ⟨hUncorrectable.symm, hCorrectable.symm⟩

omit [PyFloat F] [Unicode] in
/-- What is checked in a pass: two counters of the memory, and two of each
interface. -/
theorem Pass.forall_checks_iff (pass : Pass F) (holds : CounterKey → Int → Prop) :
    (∀ check ∈ pass.checks, holds check.key check.value) ↔
      (∀ mem, pass.sections.memory = .ok (some mem) →
        holds ("memory", "", "ecc_ue") mem.eccUncorrectableErrors ∧
        holds ("memory", "", "ecc_ce") mem.eccCorrectableErrors) ∧
      ∀ nics, pass.sections.nics = .ok nics → ∀ nic ∈ nics,
        holds ("network", nic.name, "crc") nic.rxCrcErrors ∧
        holds ("network", nic.name, "carrier") nic.txCarrierErrors := by
  simp only [Pass.checks, List.forall_mem_append]
  apply and_congr
  · unfold Pass.memoryChecks
    cases pass.sections.memory with
    | error error => simp [recordOf]
    | ok value => cases value <;> simp [recordOf, Routers.memoryChecks]
  · unfold Pass.nicChecks
    rw [List.forall_mem_flatMap]
    cases pass.sections.nics <;> simp [listOf, Routers.nicChecks]

theorem Turn.Observes.steady_iff {turn : Turn F} {kernel : Kernel} (h : turn.Observes kernel)
    (counters : Counters) :
    turn.Steady kernel counters ↔ (turn.pass.sections.OnlyExceptions →
      ∀ check ∈ turn.pass.checks, Unmoved counters check.key check.value) := by
  rw [turn.pass.forall_checks_iff, Turn.Steady]
  apply imp_congr_right
  intro _
  apply and_congr
  · apply forall_congr'
    intro mem
    apply imp_congr_right
    intro hMem
    rw [(h.mem hMem).1, (h.mem hMem).2]
  · apply forall_congr'
    intro nics
    apply imp_congr_right
    intro hNics
    apply forall₂_congr
    intro nic hNic
    rw [((h.nic hNics).2 nic hNic).1, ((h.nic hNics).2 nic hNic).2]

theorem Turn.Observes.counts {turn : Turn F} {kernel : Kernel} (h : turn.Observes kernel) :
    turn.pass.Counts := by
  apply (turn.pass.forall_checks_iff fun _ value => 0 ≤ value).mpr
  constructor
  · intro mem hMem
    rw [(h.mem hMem).1, (h.mem hMem).2]
    omega
  · intro nics hNics nic hNic
    rw [((h.nic hNics).2 nic hNic).1, ((h.nic hNics).2 nic hNic).2]
    omega

theorem Turn.Observes.valid {turn : Turn F} {kernel : Kernel} (h : turn.Observes kernel)
    (hOnly : turn.pass.sections.OnlyExceptions) : turn.pass.Valid := by
  refine ⟨gatherSections_ok hOnly, ?_⟩
  unfold Pass.DistinctNames
  cases hNics : turn.pass.sections.nics with
  | error error => simp [listOf]
  | ok nics => exact (h.nic hNics).1

/-- One steady pass reports nothing above info, and leaves no increase behind. -/
theorem Turn.Steady.step {turn : Turn F} {kernel : Kernel} {counters : Counters}
    (hSteady : turn.Steady kernel counters) (hObserves : turn.Observes kernel)
    (hNever : NeverIncreased counters) :
    OnlyInfo turn.pass counters ∧ NeverIncreased (getWarnings turn.pass counters).2 := by
  by_cases hOnly : turn.pass.sections.OnlyExceptions
  · have hUnmoved := (hObserves.steady_iff counters).mp hSteady hOnly
    have hValid := hObserves.valid hOnly
    exact ⟨onlyInfo_of_unmoved hValid hNever hUnmoved,
      neverIncreased_after hValid hNever hObserves.counts hUnmoved⟩
  · obtain ⟨error, hError⟩ := getWarnings_cancelled hOnly counters
    constructor
    · intro warnings hWarnings
      simp [hError] at hWarnings
    · rw [hError]
      exact hNever

theorem steady_of_onlyInfo {turn : Turn F} {kernel : Kernel} {counters : Counters}
    (hObserves : turn.Observes kernel) (hWindow : 0 < turn.pass.window)
    (hInfo : OnlyInfo turn.pass counters) : turn.Steady kernel counters := by
  rw [hObserves.steady_iff]
  intro hOnly
  exact unmoved_of_onlyInfo (hObserves.valid hOnly) hWindow hObserves.counts hInfo

theorem onlyInfo_of_steady {kernel : Kernel} {run : List (Turn F)} {counters : Counters}
    (hRun : ∀ turn ∈ run, turn.Observes kernel) (hNever : NeverIncreased counters)
    (hSteady : Throughout (fun turn before => turn.Steady kernel before) counters run) :
    Throughout (fun turn before => OnlyInfo turn.pass before) counters run := by
  induction run generalizing counters with
  | nil => trivial
  | cons turn rest ih =>
      obtain ⟨hFirst, hRest⟩ := hSteady
      obtain ⟨hInfo, hAfter⟩ := hFirst.step (hRun turn List.mem_cons_self) hNever
      exact ⟨hInfo, ih
        (fun later hLater => hRun later (List.mem_cons_of_mem _ hLater)) hAfter hRest⟩

theorem steady_of_onlyInfo_run {kernel : Kernel} {run : List (Turn F)} {counters : Counters}
    (hRun : ∀ turn ∈ run, turn.Observes kernel) (hWindow : ∀ turn ∈ run, 0 < turn.pass.window)
    (hInfo : Throughout (fun turn before => OnlyInfo turn.pass before) counters run) :
    Throughout (fun turn before => turn.Steady kernel before) counters run := by
  induction run generalizing counters with
  | nil => trivial
  | cons turn rest ih =>
      obtain ⟨hFirst, hRest⟩ := hInfo
      refine ⟨steady_of_onlyInfo (hRun turn List.mem_cons_self) (hWindow turn List.mem_cons_self)
        hFirst, ih ?_ ?_ hRest⟩
      · exact fun later hLater => hRun later (List.mem_cons_of_mem _ hLater)
      · exact fun later hLater => hWindow later (List.mem_cons_of_mem _ hLater)

/-- While the kernel's counters stand still, a run whose reads keep giving 0 or
the value before reports none of them above info; and where the window is not
empty, no other run does. -/
theorem noPhantomIncrease_of_steady (kernel : Kernel) (run : List (Turn F))
    (hRun : ∀ turn ∈ run, turn.Observes kernel) :
    (Throughout (fun turn before => turn.Steady kernel before) .empty run →
      Throughout (fun turn before => OnlyInfo turn.pass before) .empty run) ∧
    ((∀ turn ∈ run, 0 < turn.pass.window) →
      Throughout (fun turn before => OnlyInfo turn.pass before) .empty run →
      Throughout (fun turn before => turn.Steady kernel before) .empty run) := by
  constructor
  · apply onlyInfo_of_steady hRun
    intro key prev last hEntry
    simp at hEntry
  · exact steady_of_onlyInfo_run hRun

/-- A node with one interface whose CRC counter stands at 3. -/
def eth0Host (readable : Bool) : Host Int :=
  { unreadable with
    open? := fun path =>
      if readable ∧ path = "/sys/class/net/eth0/statistics/rx_crc_errors" then some "3\n" else none
    listdir := fun _ => .ok ["lo", "eth0"] }

/-- A pass over the node, in which its CRC counter can be read or not. -/
def eth0Turn (readable : Bool) (now : ℚ) : Turn Int where
  host := eth0Host readable
  pass :=
    { quietPass now with
      sections := { quiet with
        nics := Network.collectNics (eth0Host readable)
        memory := (Memory.collectMemory (eth0Host readable)).map some } }

def allThree : Kernel where
  crc := fun _ => 3
  carrier := fun _ => 3
  edac := fun _ => 3

theorem eth0Turn_observes (readable : Bool) (now : ℚ) :
    (eth0Turn readable now).Observes allThree := by
  have hReads : ∀ path, (eth0Host readable).Reads path 3 := by
    intro path
    have hLine : String.ofList (line 3) = "3\n" := by decide
    simp only [Host.Reads, hLine, Host.readFile, eth0Host]
    split_ifs <;> simp
  constructor
  · rfl
  · rfl
  · intro names hNames
    cases hNames
    decide
  · exact fun _ => hReads _
  · exact fun _ => hReads _
  · exact fun _ _ _ => hReads _

end

section

attribute [local instance] Unicode.ascii

/-- A counter that can no longer be read does no harm. -/
theorem noPhantomIncrease_unreadable :
    Throughout (fun turn before => OnlyInfo turn.pass before) .empty
      [eth0Turn true 1000, eth0Turn false 1010] := by
  have hRun : ∀ turn ∈ [eth0Turn true 1000, eth0Turn false 1010], turn.Observes allThree := by
    simp [eth0Turn_observes]
  have hFirst : (eth0Turn true 1000).Steady allThree .empty := by
    intro _
    simp [Unmoved]
  have hSecond : ∀ counters, (eth0Turn false 1010).Steady allThree counters := by
    intro counters _
    simp [Unmoved, Turn.edacSeen, Turn.crcSeen, Turn.carrierSeen, Host.seen, Host.readFile,
      Memory.edacFiles, eth0Turn, eth0Host, unreadable]
  exact (noPhantomIncrease_of_steady allThree _ hRun).1 ⟨hFirst, hSecond _, trivial⟩

/-- A counter that can be read again looks as if it had gone up. -/
theorem not_noPhantomIncrease :
    ¬∀ (kernel : Kernel) (run : List (Turn Int)), (∀ turn ∈ run, turn.Observes kernel) →
      Throughout (fun turn before => OnlyInfo turn.pass before) .empty run := by
  intro hAll
  have hRun : ∀ turn ∈ [eth0Turn false 1000, eth0Turn true 1010], turn.Observes allThree := by
    simp [eth0Turn_observes]
  obtain ⟨_, hSecond, _⟩ := hAll allThree _ hRun
  have hCritical :=
    hSecond _ rfl .nics (by simp) ⟨"critical", "network", "CRC errors: 3", some "eth0"⟩
    (by decide +kernel)
  exact absurd hCritical (by decide)

end

end NodeDebugDashboard.Routers
