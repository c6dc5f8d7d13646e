import Mathlib.Data.Rat.Floor
import NodeDebugDashboard.Collectors.ProcStat
import NodeDebugDashboard.Collectors.ProcessSelection
import NodeDebugDashboard.Library.Decimals
import NodeDebugDashboard.Library.Dict

/-! `_collect_processes_sync` of app/collectors/processes.py over runs of passes, in exact
arithmetic: which samples of the tick counters it keeps, and what it makes of them. -/
namespace NodeDebugDashboard.Collectors.ProcessPasses

open Library Library.Python Library.Text Models ProcStat

structure Config where
  /-- `HOST_PROC` -/
  procRoot : String := "/host-proc"
  /-- `HOST_ROOT` -/
  hostRoot : String := "/host"
  /-- `_CLK_TCK` -/
  clkTck : Int := 100

/-- What a pass finds on the node. A file or directory is `none` where Python raises `OSError`. -/
structure Pass where
  open? : String → Option String
  listdir? : String → Option (List String)
  /-- `time.monotonic()` -/
  now : ℚ

/-- The tick counter of a process, by its pid and its start, and when it was read. -/
abbrev Samples := Dict (Int × Int) (Int × ℚ)

/-- `_STATE_MAP` -/
def stateMap : List (List Char × String) :=
  [(['R'], "running"), (['S'], "sleeping"), (['D'], "disk sleep"), (['Z'], "zombie"),
    (['T'], "stopped"), (['t'], "tracing stop"), (['X'], "dead"), (['I'], "idle")]

/-- `_STATE_MAP.get(state_char, state_char)` -/
def stateName (stateChar : List Char) : String :=
  match stateMap.find? fun entry => entry.1 = stateChar with
  | some entry => entry.2
  | none => String.ofList stateChar

/-- `_parse_uid_map` -/
def parseUidMap (passwdContent : String) : Dict Int String :=
  (splitLines passwdContent.toList).foldl (fun uidMap line =>
    match line.splitOn ':' with
    | name :: _ :: uid :: _ =>
        match int? uid with
        | some uid => uidMap.set uid (String.ofList name)
        | none => uidMap
    | _ => uidMap) Dict.empty

/-- `_read_file_sync` -/
def Pass.readFile (pass : Pass) (path : String) : String := (pass.open? path).getD ""

/-- `_list_pids_sync`; `none` when it raises `ValueError`. -/
def Pass.listPids (pass : Pass) (procRoot : String) : Option (List Int) :=
  match pass.listdir? procRoot with
  | some names => (names.filter fun name => isDigit name.toList).mapM fun name => int? name.toList
  | none => some []

/-- `re.search(r"\d+", line)`; the empty text when there is no match. -/
def digitRun (line : List Char) : List Char := (line.dropWhile (!isDecimal ·)).takeWhile isDecimal

/-- The number in a line, or what was known before; `none` when `int` raises. -/
def numberIn (line : List Char) (known : Int) : Option Int :=
  if digitRun line = [] then some known else int? (digitRun line)

def totalMemKb (meminfo : String) : Option Int :=
  match (splitLines meminfo.toList).find? fun line => "MemTotal:".toList.isPrefixOf line with
  | some line => numberIn line 0
  | none => some 0

/-- What the loop over `/proc/<pid>/status` has found. -/
structure Found where
  rssKb : Int := 0
  vszKb : Int := 0
  uid : Int := -1

def Found.read (found : Found) (sline : List Char) : Option Found :=
  if "VmRSS:".toList.isPrefixOf sline then
    (numberIn sline found.rssKb).map fun rssKb => { found with rssKb := rssKb }
  else if "VmSize:".toList.isPrefixOf sline then
    (numberIn sline found.vszKb).map fun vszKb => { found with vszKb := vszKb }
  else if "Uid:".toList.isPrefixOf sline then
    match words sline with
    | _ :: uid :: _ => some { found with uid := (int? uid).getD found.uid }
    | _ => some found
  else some found

/-- The average over the life of a process. -/
def lifetimePercent (clkTck starttime cpuTicks : Int) (uptimeSecs : ℚ) : ℚ :=
  let ageSecs := uptimeSecs - starttime / clkTck
  if ageSecs ≤ 0 then 0 else roundTo 2 ((cpuTicks : ℚ) / clkTck / ageSecs * 100)

/-- The ticks over the time between two samples. -/
def deltaPercent (clkTck ticks : Int) (elapsed : ℚ) : ℚ :=
  roundTo 2 ((ticks : ℚ) / clkTck / elapsed * 100)

/-- `_cpu_percent` -/
def cpuPercent (clkTck pid starttime cpuTicks : Int) (uptimeSecs now : ℚ)
    (prevSamples : Samples) : ℚ :=
  if clkTck ≤ 0 then 0
  else
    match prevSamples.get? (pid, starttime) with
    | some (prevTicks, prevTime) =>
        if 0 < now - prevTime ∧ prevTicks ≤ cpuTicks then
          deltaPercent clkTck (cpuTicks - prevTicks) (now - prevTime)
        else lifetimePercent clkTck starttime cpuTicks uptimeSecs
    | none => lifetimePercent clkTck starttime cpuTicks uptimeSecs

/-- What a pass knows before it reads the processes. -/
structure Begun where
  uptimeSecs : ℚ
  totalMemKb : Int
  uidMap : Dict Int String
  pids : List Int

/-- The beginning of `_collect_processes_sync`; `none` when there is no uptime to read. -/
def Pass.begin (pass : Pass) (config : Config) : Outcome (Option Begun) :=
  let uptimeRaw := pass.readFile (config.procRoot ++ "/uptime")
  if uptimeRaw = "" then .ok none
  else
    match words uptimeRaw.toList with
    | [] => .error (.exception "list index out of range")
    | first :: _ =>
        match float? first, totalMemKb (pass.readFile (config.procRoot ++ "/meminfo")),
          pass.listPids config.procRoot with
        | some uptimeSecs, some totalMemKb, some pids =>
            .ok (some {
              uptimeSecs := uptimeSecs
              totalMemKb := totalMemKb
              uidMap := parseUidMap (pass.readFile (config.hostRoot ++ "/etc/passwd"))
              pids := pids })
        | none, _, _ => .error (.exception "could not convert string to float")
        | _, _, _ => .error (.exception "invalid literal for int() with base 10")

section

variable [Unicode] (config : Config) (pass : Pass) (begun : Begun) (prevSamples : Samples)

/-- The path of one of the files of a process. -/
def procPath (pid : Int) (name : String) : String :=
  config.procRoot ++ "/" ++ toString pid ++ "/" ++ name

def statRaw (pid : Int) : String := pass.readFile (procPath config pid "stat")

/-- The line of a process, when it can be parsed. -/
def stat? (pid : Int) : Option Stat := parseStat (statRaw config pass pid).toList

def cpuTicks (stat : Stat) : Int := stat.utime + stat.stime

/-- The percentage that the pass computes for a process. -/
def percent (pid : Int) (stat : Stat) : ℚ :=
  cpuPercent config.clkTck pid stat.starttime (cpuTicks stat) begun.uptimeSecs pass.now prevSamples

/-- The rest of a turn of the loop, after the sample has been taken; `none` when it raises. -/
def processInfo (pid : Int) (stat : Stat) : Option (ProcessInfo ℚ) := do
  let found ←
    (splitLines (pass.readFile (procPath config pid "status")).toList).foldlM Found.read {}
  return {
    pid := pid
    ppid := stat.ppid
    user := if 0 ≤ found.uid then (begun.uidMap.get? found.uid).getD (toString found.uid) else ""
    cpuPercent := percent config pass begun prevSamples pid stat
    memPercent :=
      if 0 < begun.totalMemKb then roundTo 2 ((found.rssKb : ℚ) / begun.totalMemKb * 100) else 0
    rssKb := found.rssKb
    vszKb := found.vszKb
    state := stateName stat.stateChar
    command := String.ofList
      (command (pass.readFile (procPath config pid "cmdline")).toList
        (statRaw config pass pid).toList) }

/-- Every number in the `status` of the process can be read. -/
def StatusReadable (pid : Int) : Prop :=
  ((splitLines (pass.readFile (procPath config pid "status")).toList).foldlM Found.read {}).isSome

/-- A turn of the loop over the pids. -/
def turn (state : Samples × List (ProcessInfo ℚ)) (pid : Int) : Samples × List (ProcessInfo ℚ) :=
  match stat? config pass pid with
  | none => state
  | some stat =>
      let samples := state.1.set (pid, stat.starttime) (cpuTicks stat, pass.now)
      match processInfo config pass begun prevSamples pid stat with
      | none => (samples, state.2)
      | some info => (samples, state.2 ++ [info])

/-- The loop over the pids. -/
def scan : Samples × List (ProcessInfo ℚ) :=
  begun.pids.foldl (turn config pass begun prevSamples) (Dict.empty, [])

/-- `_collect_processes_sync`, and `_prev_samples` after it. -/
def collectProcessesSync : Outcome (ProcessesOverview ℚ) × Samples :=
  match pass.begin config with
  | .error error => (.error error, prevSamples)
  | .ok none => (.ok {}, prevSamples)
  | .ok (some begun) =>
      let scanned := scan config pass begun prevSamples
      (.ok (ProcessSelection.overview scanned.2), scanned.1)

/-- `_prev_samples` after a run of passes. -/
def samplesAfter (passes : List Pass) : Samples :=
  passes.foldl (fun samples pass => (collectProcessesSync config pass samples).2) Dict.empty

/-- What a completed pass knows before it reads the processes. -/
def Pass.begun? : Option Begun :=
  match pass.begin config with
  | .ok begun => begun
  | .error _ => none

/-- The last pass that was completed. -/
def lastCompleted (passes : List Pass) : Option (Pass × Begun) :=
  (passes.filterMap fun pass => (pass.begun? config).map fun begun => (pass, begun)).getLast?

/-- The line of a process was parsed in the pass. -/
def Parsed (pid : Int) (stat : Stat) : Prop := pid ∈ begun.pids ∧ stat? config pass pid = some stat

/-- The last completed pass has sampled the process. -/
def SampledBefore (passes : List Pass) (pid starttime ticks : Int) (time : ℚ) : Prop :=
  ∃ last, lastCompleted config passes = some last ∧
    ∃ stat, Parsed config last.1 last.2 pid stat ∧ stat.starttime = starttime ∧
    cpuTicks stat = ticks ∧ last.1.now = time

/-- What the percentage of a process says after a run of passes. -/
structure Measured (passes : List Pass) (pid : Int) (stat : Stat) : Prop where
  nonneg : 0 ≤ stat.utime → 0 ≤ stat.stime →
    0 ≤ percent config pass begun (samplesAfter config passes) pid stat
  delta :
    ∀ ticks time, SampledBefore config passes pid stat.starttime ticks time → time < pass.now →
    ticks ≤ cpuTicks stat → 0 < config.clkTck →
    percent config pass begun (samplesAfter config passes) pid stat =
      deltaPercent config.clkTck (cpuTicks stat - ticks) (pass.now - time)
  average :
      (¬∃ ticks time, SampledBefore config passes pid stat.starttime ticks time ∧ time < pass.now ∧
      ticks ≤ cpuTicks stat) → 0 < config.clkTck →
    percent config pass begun (samplesAfter config passes) pid stat =
      lifetimePercent config.clkTck stat.starttime (cpuTicks stat) begun.uptimeSecs
  unclocked :
      config.clkTck ≤ 0 → percent config pass begun (samplesAfter config passes) pid stat = 0
  /-- No sample of another process or another start matters. -/
  frame : ∀ samples : Samples,
    samples.get? (pid, stat.starttime) = (samplesAfter config passes).get? (pid, stat.starttime) →
    percent config pass begun samples pid stat =
      percent config pass begun (samplesAfter config passes) pid stat

/-- The sample of a key that a pass takes. -/
def sample? (key : Int × Int) : Option (Int × ℚ) :=
  (stat? config pass key.1).bind fun stat =>
    if stat.starttime = key.2 then some (cpuTicks stat, pass.now) else none

end

section

variable [Unicode] {config : Config} {pass : Pass} {begun : Begun} {prevSamples : Samples}

omit [Unicode] in
theorem sample?_eq_some {key : Int × Int} {value : Int × ℚ} : sample? config pass key = some value ↔
    ∃ stat, stat? config pass key.1 = some stat ∧ stat.starttime = key.2 ∧
    value = (cpuTicks stat, pass.now) := by
  rw [sample?, Option.bind_eq_some_iff]
  refine exists_congr fun stat => and_congr_right fun _ => ?_
  rw [Option.ite_none_right_eq_some, Option.some_inj, eq_comm (b := value)]

/-- A turn takes the sample of its process, and no other. -/
theorem get?_turn (state : Samples × List (ProcessInfo ℚ)) (pid : Int) (key : Int × Int) :
    (turn config pass begun prevSamples state pid).1.get? key =
      if pid = key.1 then (sample? config pass key).or (state.1.get? key)
        else state.1.get? key := by
  have hSamples : (turn config pass begun prevSamples state pid).1 =
      match stat? config pass pid with
      | none => state.1
      | some stat => state.1.set (pid, stat.starttime) (cpuTicks stat, pass.now) := by
    rw [turn]
    cases stat? config pass pid with
    | none => rfl
    | some stat =>
        dsimp only
        cases processInfo config pass begun prevSamples pid stat <;> rfl
  rw [hSamples, sample?]
  obtain ⟨other, starttime⟩ := key
  by_cases hPid : pid = other
  · subst hPid
    cases stat? config pass pid with
    | none => simp
    | some stat =>
        by_cases hStart : stat.starttime = starttime
        · simp [hStart]
        · simp [hStart, Dict.get?_set, Ne.symm hStart]
  · rw [if_neg hPid]
    cases stat? config pass pid with
    | none => rfl
    | some stat => rw [Dict.get?_set, if_neg (by simp [Ne.symm hPid])]

theorem get?_foldl_turn (pids : List Int) (state : Samples × List (ProcessInfo ℚ))
    (key : Int × Int) :
    (pids.foldl (turn config pass begun prevSamples) state).1.get? key =
      if key.1 ∈ pids then (sample? config pass key).or (state.1.get? key)
        else state.1.get? key := by
  induction pids generalizing state with
  | nil => rfl
  | cons pid rest ih =>
      rw [List.foldl_cons, ih, get?_turn]
      by_cases hPid : pid = key.1
      · subst hPid
        cases hSample : sample? config pass key <;> simp
      · simp [hPid, Ne.symm hPid]

/-- The samples after a pass are those of the lines that it parsed. -/
theorem get?_scan (key : Int × Int) : (scan config pass begun prevSamples).1.get? key =
    if key.1 ∈ begun.pids then sample? config pass key else none := by
  rw [scan, get?_foldl_turn]
  simp

theorem mem_foldl_turn {pids : List Int} {state : Samples × List (ProcessInfo ℚ)}
    {info : ProcessInfo ℚ} (h : info ∈ (pids.foldl (turn config pass begun prevSamples) state).2) :
      info ∈ state.2 ∨ ∃ pid ∈ pids, ∃ stat, stat? config pass pid = some stat ∧
        processInfo config pass begun prevSamples pid stat = some info := by
  induction pids generalizing state with
  | nil => exact Or.inl h
  | cons pid rest ih =>
      rcases ih h with hTurn | ⟨other, hMem, hInfo⟩
      · rw [turn] at hTurn
        cases hStat : stat? config pass pid with
        | none =>
            rw [hStat] at hTurn
            exact Or.inl hTurn
        | some stat =>
            cases hInfo : processInfo config pass begun prevSamples pid stat with
            | none =>
                simp only [hStat, hInfo] at hTurn
                exact Or.inl hTurn
            | some listed =>
                simp only [hStat, hInfo, List.mem_append, List.mem_singleton] at hTurn
                rcases hTurn with hBefore | rfl
                · exact Or.inl hBefore
                · exact Or.inr ⟨pid, List.mem_cons_self, stat, hStat, hInfo⟩
      · exact Or.inr ⟨other, List.mem_cons_of_mem _ hMem, hInfo⟩

theorem processInfo_eq_some {pid : Int} {stat : Stat} {info : ProcessInfo ℚ}
    (h : processInfo config pass begun prevSamples pid stat = some info) :
    info.pid = pid ∧ info.cpuPercent = percent config pass begun prevSamples pid stat := by
  obtain ⟨found, _, hInfo⟩ := Option.bind_eq_some_iff.mp h
  cases hInfo
  exact ⟨rfl, rfl⟩

/-- Every process of a pass shows the percentage of a line that was parsed. -/
theorem exists_parsed {info : ProcessInfo ℚ} (h : info ∈ (scan config pass begun prevSamples).2) :
    ∃ stat, Parsed config pass begun info.pid stat ∧
      info.cpuPercent = percent config pass begun prevSamples info.pid stat := by
  obtain ⟨pid, hPid, stat, hStat, hInfo⟩ := (mem_foldl_turn h).resolve_left (by simp)
  obtain ⟨rfl, hPercent⟩ := processInfo_eq_some hInfo
  exact ⟨stat, ⟨hPid, hStat⟩, hPercent⟩

/-- What the loop has listed stays listed. -/
theorem subset_foldl_turn (pids : List Int) (state : Samples × List (ProcessInfo ℚ)) :
    state.2 ⊆ (pids.foldl (turn config pass begun prevSamples) state).2 := by
  induction pids generalizing state with
  | nil => exact List.Subset.refl _
  | cons pid rest ih =>
      refine List.Subset.trans ?_ (ih _)
      rw [turn]
      cases stat? config pass pid with
      | none => exact List.Subset.refl _
      | some stat =>
          dsimp only
          cases processInfo config pass begun prevSamples pid stat with
          | none => exact List.Subset.refl _
          | some info => exact List.subset_append_left _ _

/-- A turn lists its process. -/
theorem mem_turn {pid : Int} {stat : Stat} {info : ProcessInfo ℚ}
    (hStat : stat? config pass pid = some stat)
    (hInfo : processInfo config pass begun prevSamples pid stat = some info)
    (state : Samples × List (ProcessInfo ℚ)) :
    info ∈ (turn config pass begun prevSamples state pid).2 := by
  simp [turn, hStat, hInfo]

theorem mem_scan {pids : List Int} {pid : Int} (hPid : pid ∈ pids) {stat : Stat}
    {info : ProcessInfo ℚ} (hStat : stat? config pass pid = some stat)
    (hInfo : processInfo config pass begun prevSamples pid stat = some info)
    (state : Samples × List (ProcessInfo ℚ)) :
    info ∈ (pids.foldl (turn config pass begun prevSamples) state).2 := by
  induction pids generalizing state with
  | nil => cases hPid
  | cons other rest ih =>
      rcases List.mem_cons.mp hPid with rfl | hRest
      · exact subset_foldl_turn rest _ (mem_turn hStat hInfo state)
      · exact ih hRest _

/-- Every line that was parsed is listed, unless the numbers next to it cannot be read. -/
theorem exists_listed {pid : Int} {stat : Stat} (hParsed : Parsed config pass begun pid stat)
    (hStatus : StatusReadable config pass pid) : ∃ info ∈ (scan config pass begun prevSamples).2,
      info.pid = pid ∧ info.cpuPercent = percent config pass begun prevSamples pid stat := by
  obtain ⟨found, hFound⟩ := Option.isSome_iff_exists.mp hStatus
  obtain ⟨info, hInfo⟩ :
      ∃ info, processInfo config pass begun prevSamples pid stat = some info := by
    rw [processInfo, hFound]
    exact ⟨_, rfl⟩
  exact ⟨info, mem_scan hParsed.1 hParsed.2 hInfo _, processInfo_eq_some hInfo⟩

theorem collect_of_begun (h : pass.begun? config = some begun) :
    collectProcessesSync config pass prevSamples =
      (.ok (ProcessSelection.overview (scan config pass begun prevSamples).2),
        (scan config pass begun prevSamples).1) := by
  rw [Pass.begun?] at h
  rw [collectProcessesSync]
  cases hBegin : pass.begin config with
  | error error => simp [hBegin] at h
  | ok found =>
      rw [hBegin] at h
      subst h
      rfl

theorem collect_of_aborted (h : pass.begun? config = none) :
    (collectProcessesSync config pass prevSamples).2 = prevSamples := by
  rw [Pass.begun?] at h
  rw [collectProcessesSync]
  cases hBegin : pass.begin config with
  | error error => rfl
  | ok found =>
      rw [hBegin] at h
      subst h
      rfl

theorem samplesAfter_concat (passes : List Pass) : samplesAfter config (passes ++ [pass]) =
    (collectProcessesSync config pass (samplesAfter config passes)).2 := by
  rw [samplesAfter, List.foldl_append]
  rfl

omit [Unicode] in
theorem lastCompleted_concat (passes : List Pass) : lastCompleted config (passes ++ [pass]) =
    ((pass.begun? config).map fun begun => (pass, begun)).or (lastCompleted config passes) := by
  rw [lastCompleted, List.filterMap_append, List.getLast?_append, lastCompleted]
  cases hBegun : pass.begun? config <;> simp [hBegun]

/-- After any run, the samples are those of the last completed pass. -/
theorem get?_samplesAfter (passes : List Pass) (key : Int × Int) :
    (samplesAfter config passes).get? key =
    (lastCompleted config passes).bind fun last =>
      if key.1 ∈ last.2.pids then sample? config last.1 key else none := by
  induction passes using List.reverseRecOn with
  | nil => rfl
  | append_singleton passes pass ih =>
      rw [samplesAfter_concat, lastCompleted_concat]
      cases hBegun : pass.begun? config with
      | none => rw [collect_of_aborted hBegun, ih]; rfl
      | some begun => rw [collect_of_begun hBegun, get?_scan]; rfl

theorem samplesAfter_eq_some {passes : List Pass} {pid starttime ticks : Int} {time : ℚ} :
    (samplesAfter config passes).get? (pid, starttime) = some (ticks, time) ↔
      SampledBefore config passes pid starttime ticks time := by
  rw [get?_samplesAfter, Option.bind_eq_some_iff]
  refine exists_congr fun last => and_congr_right fun _ => ?_
  rw [Option.ite_none_right_eq_some, sample?_eq_some]
  constructor
  · rintro ⟨hPid, stat, hStat, hStart, hValue⟩
    obtain ⟨rfl, rfl⟩ := Prod.mk.inj hValue
    exact ⟨stat, ⟨hPid, hStat⟩, hStart, rfl, rfl⟩
  · rintro ⟨stat, ⟨hPid, hStat⟩, hStart, rfl, rfl⟩
    exact ⟨hPid, stat, hStat, hStart, rfl⟩

omit [Unicode] in
theorem lifetimePercent_nonneg {clkTck starttime ticks : Int} {uptimeSecs : ℚ} (hTicks : 0 ≤ ticks)
    (hClk : 0 < clkTck) :
    0 ≤ lifetimePercent clkTck starttime ticks uptimeSecs := by
  simp only [lifetimePercent]
  split_ifs with hAge
  · exact le_refl _
  · have hTicks : (0 : ℚ) ≤ ticks := Int.cast_nonneg hTicks
    have hClk : (0 : ℚ) < clkTck := Int.cast_pos.mpr hClk
    rw [not_le] at hAge
    exact roundTo_nonneg (by positivity)

omit [Unicode] in
theorem deltaPercent_nonneg {clkTck ticks : Int} {elapsed : ℚ} (hTicks : 0 ≤ ticks)
    (hClk : 0 < clkTck) (hElapsed : 0 < elapsed) : 0 ≤ deltaPercent clkTck ticks elapsed := by
  have hTicks : (0 : ℚ) ≤ ticks := Int.cast_nonneg hTicks
  have hClk : (0 : ℚ) < clkTck := Int.cast_pos.mpr hClk
  exact roundTo_nonneg (by positivity)

omit [Unicode] in
theorem cpuPercent_nonneg {clkTck pid starttime ticks : Int} {uptimeSecs now : ℚ}
    (hTicks : 0 ≤ ticks) :
    0 ≤ cpuPercent clkTck pid starttime ticks uptimeSecs now prevSamples := by
  rw [cpuPercent]
  split_ifs with hClk
  · exact le_refl _
  · rw [not_le] at hClk
    cases prevSamples.get? (pid, starttime) with
    | none => exact lifetimePercent_nonneg hTicks hClk
    | some sample =>
        dsimp only
        split_ifs with hUse
        · exact deltaPercent_nonneg (by omega) hClk hUse.1
        · exact lifetimePercent_nonneg hTicks hClk

theorem measured (passes : List Pass) (pid : Int) (stat : Stat) :
    Measured config pass begun passes pid stat where
  nonneg hUser hSystem := cpuPercent_nonneg (Int.add_nonneg hUser hSystem)
  delta ticks time hSampled hTime hTicks hClk := by
    rw [percent, cpuPercent, if_neg (by omega), samplesAfter_eq_some.mpr hSampled]
    exact if_pos ⟨sub_pos.mpr hTime, hTicks⟩
  average hNone hClk := by
    rw [percent, cpuPercent, if_neg (by omega)]
    cases hSample : (samplesAfter config passes).get? (pid, stat.starttime) with
    | none => rfl
    | some sample =>
        have hUnused : ¬(0 < pass.now - sample.2 ∧ sample.1 ≤ cpuTicks stat) := fun hUse =>
          hNone ⟨sample.1, sample.2, samplesAfter_eq_some.mp hSample, sub_pos.mp hUse.1, hUse.2⟩
        exact if_neg hUnused
  unclocked hClk := if_pos hClk
  frame samples hSame := by rw [percent, percent, cpuPercent, cpuPercent, hSame]

/-- The samples are always those of the last completed pass, a process is listed if its line can
be parsed, and its percentage is taken over the time since the last completed pass exactly when
the same process was sampled there. -/
theorem cpuSampling (config : Config) (passes : List Pass) (pass : Pass) :
    (pass.begun? config = none →
      samplesAfter config (passes ++ [pass]) = samplesAfter config passes) ∧
      ∀ begun, pass.begun? config = some begun →
        (∀ pid starttime ticks time,
          (samplesAfter config (passes ++ [pass])).get? (pid, starttime) = some (ticks, time) ↔
            ∃ stat, Parsed config pass begun pid stat ∧ stat.starttime = starttime ∧
              cpuTicks stat = ticks ∧ pass.now = time) ∧
        (∃ infos, (collectProcessesSync config pass (samplesAfter config passes)).1 =
            .ok (ProcessSelection.overview infos) ∧
          (∀ info ∈ infos, ∃ stat, Parsed config pass begun info.pid stat ∧
            info.cpuPercent =
              percent config pass begun (samplesAfter config passes) info.pid stat) ∧
          ∀ pid stat, Parsed config pass begun pid stat → StatusReadable config pass pid →
            ∃ info ∈ infos, info.pid = pid ∧
              info.cpuPercent = percent config pass begun (samplesAfter config passes) pid stat) ∧
        ∀ pid stat, Parsed config pass begun pid stat →
        Measured config pass begun passes pid stat := by
  refine ⟨fun hAborted => ?_, fun begun hBegun =>
    ⟨fun pid starttime ticks time => ?_, ?_, fun pid stat _ => measured passes pid stat⟩⟩
  · rw [samplesAfter_concat, collect_of_aborted hAborted]
  · have hLast : lastCompleted config (passes ++ [pass]) = some (pass, begun) := by
      rw [lastCompleted_concat, hBegun]
      rfl
    rw [samplesAfter_eq_some, SampledBefore, hLast]
    simp
  · exact ⟨_, congrArg Prod.fst (collect_of_begun hBegun), fun info hInfo => exists_parsed hInfo,
      fun pid stat => exists_listed⟩

end

section

attribute [local instance] Unicode.ascii

/-- The `stat` of a process with so many ticks, by its start. -/
def statLine (ticks starttime : String) : String :=
  "1 (sh) S 1 0 0 0 -1 0 0 0 0 0 " ++ ticks ++ " 0 0 0 20 0 1 0 " ++ starttime

/-- A pass that finds the processes 7 and 9. -/
def passAt (now : ℚ) (uptime stat7 stat9 : String) : Pass where
  open? := fun path =>
    if path = "/host-proc/uptime" then some uptime
    else if path = "/host-proc/7/stat" then some stat7
    else if path = "/host-proc/9/stat" then some stat9
    else none
  listdir? := fun _ => some ["7", "9", "self"]
  now := now

def firstPass : Pass := passAt 1000 "1000.0 0.0" (statLine "500" "10000") (statLine "100" "50000")

/-- Ten seconds later the pid 7 belongs to another process. -/
def secondPass : Pass := passAt 1010 "1010.0 0.0" (statLine "40" "100500") (statLine "600" "50000")

theorem begun_secondPass :
    (secondPass.begun? {}).map (fun begun => (begun.uptimeSecs, begun.pids)) =
      some (1010, [7, 9]) := by
  decide +kernel

theorem stat_secondPass :
    (stat? {} secondPass 7).map (fun stat => (stat.starttime, cpuTicks stat)) = some (100500, 40) ∧
      (stat? {} secondPass 9).map (fun stat => (stat.starttime, cpuTicks stat)) =
        some (50000, 600) := by
  decide +kernel

theorem samples_firstPass :
    (samplesAfter {} [firstPass]).get? (7, 100500) = none ∧
      (samplesAfter {} [firstPass]).get? (9, 50000) = some (100, 1000) := by
  decide +kernel

/-- The process that has come in place of another shows its average, and the one that is still
there what it has used since the first pass. -/
theorem cpuSampling_reusedPid : ∃ infos,
    (collectProcessesSync {} secondPass (samplesAfter {} [firstPass])).1 =
        .ok (ProcessSelection.overview infos) ∧
      (∃ info ∈ infos, info.pid = 7 ∧ info.cpuPercent = 8) ∧
      (∃ info ∈ infos, info.pid = 9 ∧ info.cpuPercent = 50) ∧
      (samplesAfter {} [firstPass, secondPass]).get? (7, 100500) = some (40, 1010) := by
  obtain ⟨begun, hBegun, hKnown⟩ := Option.map_eq_some_iff.mp begun_secondPass
  obtain ⟨hUptime, hPids⟩ := Prod.mk.inj hKnown
  obtain ⟨stat7, hStat7, hRead7⟩ := Option.map_eq_some_iff.mp stat_secondPass.1
  obtain ⟨hStart7, hTicks7⟩ := Prod.mk.inj hRead7
  obtain ⟨stat9, hStat9, hRead9⟩ := Option.map_eq_some_iff.mp stat_secondPass.2
  obtain ⟨hStart9, hTicks9⟩ := Prod.mk.inj hRead9
  obtain ⟨hNone7, hSome9⟩ := samples_firstPass
  obtain ⟨hSamples, ⟨infos, hOverview, _, hListed⟩, hMeasured⟩ :=
    (cpuSampling {} [firstPass] secondPass).2 begun hBegun
  have hParsed7 : Parsed {} secondPass begun 7 stat7 := ⟨by simp [hPids], hStat7⟩
  have hParsed9 : Parsed {} secondPass begun 9 stat9 := ⟨by simp [hPids], hStat9⟩
  have hAverage : percent {} secondPass begun (samplesAfter {} [firstPass]) 7 stat7 = 8 := by
    have hUnsampled : ¬∃ ticks time, SampledBefore {} [firstPass] 7 stat7.starttime ticks time ∧
        time < secondPass.now ∧ ticks ≤ cpuTicks stat7 := by
      rintro ⟨ticks, time, hSampled, _⟩
      rw [hStart7, ← samplesAfter_eq_some, hNone7] at hSampled
      cases hSampled
    rw [(hMeasured 7 stat7 hParsed7).average hUnsampled (by decide), hStart7, hTicks7, hUptime]
    decide +kernel
  have hDelta : percent {} secondPass begun (samplesAfter {} [firstPass]) 9 stat9 = 50 := by
    have hSampled : SampledBefore {} [firstPass] 9 stat9.starttime 100 1000 := by
      rw [hStart9]
      exact samplesAfter_eq_some.mp hSome9
    rw [(hMeasured 9 stat9 hParsed9).delta 100 1000 hSampled (by decide +kernel)
      (by rw [hTicks9]; decide)
      (by decide), hTicks9]
    decide +kernel
  obtain ⟨info7, hMem7, hPid7, hPercent7⟩ := hListed 7 stat7 hParsed7 rfl
  obtain ⟨info9, hMem9, hPid9, hPercent9⟩ := hListed 9 stat9 hParsed9 rfl
  exact ⟨infos, hOverview, ⟨info7, hMem7, hPid7, hPercent7.trans hAverage⟩,
    ⟨info9, hMem9, hPid9, hPercent9.trans hDelta⟩,
    (hSamples 7 100500 40 1010).mpr ⟨stat7, hParsed7, hStart7, hTicks7, rfl⟩⟩

end

end NodeDebugDashboard.Collectors.ProcessPasses
