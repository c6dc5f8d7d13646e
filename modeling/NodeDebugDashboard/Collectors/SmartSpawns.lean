import NodeDebugDashboard.Collectors.Smart
import NodeDebugDashboard.Library.Runs

/-! The calls of `collect_smart_for_device` on one device, as they look for a `smartctl`
that is still running and start another one, and the processes that come of it. -/
namespace NodeDebugDashboard.Collectors.SmartSpawns

open Library Library.Python Library.Text Smart

/-- A process that was spawned with the arguments of the device. -/
structure Process where
  /-- How many were spawned before it. -/
  serial : Nat
  /-- Its directory in `/proc`. -/
  pid : String
  zombie : Bool := false
  deriving DecidableEq

/-- What `/proc/<pid>/stat` says: the name of the process, in which anything may stand,
its state, and numbers. -/
structure Stat where
  comm : String
  state : Char
  numbers : String
  state_letter : state ∈ "RSDZTtWXxKPI".toList
  numbers_plain : ')' ∉ numbers.toList

def Stat.text (pid : String) (stat : Stat) : String :=
  pid ++ " (" ++ stat.comm ++ ") " ++ String.ofList (stat.state :: ' ' :: stat.numbers.toList)

/-- What `/proc/<pid>/cmdline` says: the arguments, each with a NUL after it. -/
def cmdline (argv : List String) : String := String.join (argv.map (· ++ "\x00"))

/-- `"\0".join(cmd)` -/
def want (devPath : String) : String := "\x00".intercalate (smartctlCommand devPath)

/-- `state == ["Z"]` -/
def saysZombie (stat : String) : Bool := (words (lastPart ')' stat).toList).take 1 = [['Z']]

/-- Where a call is. -/
inductive Phase where
  /-- `to_thread` has been called. -/
  | queued
  /-- in `os.listdir` -/
  | listing
  /-- before the next turn of the loop, or behind it -/
  | reading (pids : List String)
  /-- The process has the arguments. -/
  | matched (pid : String) (pids : List String)
  /-- `_still_running` has returned true. -/
  | found
  /-- in `run_command` -/
  | running
  | ended
  deriving DecidableEq

structure Call where
  phase : Phase
  /-- How many processes had been spawned when its scan began, for the record. -/
  began : Nat := 0
  /-- The processes that could not be read, for the record. -/
  missed : List Nat := []

structure State where
  processes : List Process
  spawned : Nat
  calls : List Call

inductive Event where
  /-- A request or the sweep calls the function. -/
  | call (devPathExists : Bool)
  /-- The thread starts to scan. -/
  | scan (i : Nat)
  /-- `os.listdir` returns, or raises. -/
  | listdir (i : Nat) (names : Option (List String))
  /-- The next process is read; `none` for an `OSError`. -/
  | cmdline (i : Nat) (argv : Option String)
  | stat (i : Nat) (stat : Option Stat)
  /-- The event loop goes on with the call, and spawns a process if it can. -/
  | resume (i : Nat) (spawned : Option String)
  /-- The call returns or is cancelled. -/
  | ends (i : Nat)
  /-- A process exits, at once, late or never. -/
  | exit (k : Nat)
  /-- It is reaped. -/
  | reap (k : Nat)

namespace State

def initial : State where
  processes := []
  spawned := 0
  calls := []

def setCall (s : State) (i : Nat) (call : Call) : State := { s with calls := s.calls.set i call }

/-- The processes that have this directory. -/
def having (s : State) (pid : String) : List Process := s.processes.filter (·.pid = pid)

/-- The processes that are not zombies. -/
def alive (s : State) : List Process := s.processes.filter fun p => ¬ p.zombie

end State

/-- A directory that could not be listed or a process that could not be read. -/
def Call.skip (call : Call) (processes : List Process) (pids : List String) : Call :=
  { call with phase := .reading pids, missed := call.missed ++ processes.map (·.serial) }

/-- The kernel lists every process that is there all the time, and shows a process that
is alive with its arguments and its state. -/
def step (devPath : String) (s : State) : Event → Option State
  | .call devPathExists =>
      some (if devPathExists then { s with calls := s.calls ++ [{ phase := .queued }] } else s)
  | .scan i => do
      let call ← s.calls[i]?
      match call.phase with
      | .queued => some (s.setCall i { call with phase := .listing, began := s.spawned })
      | _ => none
  | .listdir i names => do
      let call ← s.calls[i]?
      match call.phase, names with
      | .listing, none => some (s.setCall i (call.skip s.processes []))
      | .listing, some names =>
          if ∀ p ∈ s.processes, p.serial < call.began → p.pid ∈ names then
            some
              (s.setCall i
                { call with phase := .reading (names.filter fun name => isDigit name.toList) })
          else none
      | _, _ => none
  | .cmdline i argv => do
      let call ← s.calls[i]?
      match call.phase, argv with
      | .reading (pid :: pids), none => some (s.setCall i (call.skip (s.having pid) pids))
      | .reading (pid :: pids), some argv =>
          if ∀ p ∈ s.having pid, ¬ p.zombie →
            argv = SmartSpawns.cmdline (smartctlCommand devPath) then
            let next := if withoutNuls argv ≠ want devPath then .reading pids else .matched pid pids
            some (s.setCall i { call with phase := next })
          else none
      | _, _ => none
  | .stat i stat => do
      let call ← s.calls[i]?
      match call.phase, stat with
      | .matched pid pids, none => some (s.setCall i (call.skip (s.having pid) pids))
      | .matched pid pids, some stat =>
          if ∀ p ∈ s.having pid, ¬ p.zombie → stat.state ≠ 'Z' then
            let next := if saysZombie (stat.text pid) then .reading pids else .found
            some (s.setCall i { call with phase := next })
          else none
      | _, _ => none
  | .resume i spawned => do
      let call ← s.calls[i]?
      match call.phase, spawned with
      | .found, none => some (s.setCall i { call with phase := .ended })
      | .reading [], none => some (s.setCall i { call with phase := .ended })
      | .reading [], some pid =>
          if isDigit pid.toList ∧ s.having pid = [] then
            some { s.setCall i { call with phase := .running } with
              processes := s.processes ++ [⟨s.spawned, pid, false⟩]
              spawned := s.spawned + 1 }
          else none
      | _, _ => none
  | .ends i => do
      let call ← s.calls[i]?
      some (s.setCall i { call with phase := .ended })
  | .exit k => do
      let p ← s.processes[k]?
      some { s with processes := s.processes.set k { p with zombie := true } }
  | .reap k => do
      let p ← s.processes[k]?
      if p.zombie then some { s with processes := s.processes.eraseIdx k } else none

/-- When a call spawns, no process is alive that was spawned since the scan of the call
began, or that the scan could not read. -/
def Unraced (s : State) : Event → Prop
  | .resume i (some _) => ∀ call, s.calls[i]? = some call → ∀ p ∈ s.alive,
      p.serial < call.began ∧ p.serial ∉ call.missed
  | _ => True

theorem want_eq (devPath : String) : want devPath =
    "smartctl" ++ "\x00" ++ "-a" ++ "\x00" ++ "-n" ++ "\x00" ++ "standby" ++ "\x00" ++
      devPath ++ "\x00" ++ "--json" := rfl

theorem cmdline_eq (devPath : String) :
    cmdline (smartctlCommand devPath) = want devPath ++ "\x00" := by
  simp only [cmdline, smartctlCommand, want_eq, List.map_cons, List.map_nil, String.join_cons,
    String.join_nil, String.append_assoc, String.append_empty]

/-- The arguments are recognised as they are shown. -/
theorem withoutNuls_cmdline (devPath : String) :
    withoutNuls (cmdline (smartctlCommand devPath)) = want devPath := by
  have hLast : ∃ before, (want devPath).toList = before ++ ['n'] := by
    refine ⟨("smartctl" ++ "\x00" ++ "-a" ++ "\x00" ++ "-n" ++ "\x00" ++ "standby" ++
      "\x00" ++ devPath ++ "\x00" ++ "--jso").toList, ?_⟩
    rw [want_eq]
    simp only [String.toList_append, List.append_assoc]
    rfl
  obtain ⟨before, hBefore⟩ := hLast
  have hText : (cmdline (smartctlCommand devPath)).toList = before ++ ['n', '\x00'] := by
    rw [cmdline_eq, String.toList_append, hBefore, List.append_assoc]
    rfl
  apply String.toList_inj.mp
  rw [withoutNuls, String.toList_ofList, hText, hBefore]
  simp

/-- The state is found behind the last parenthesis, whatever the name of the process. -/
theorem saysZombie_text (pid : String) (stat : Stat) :
    saysZombie (stat.text pid) = decide (stat.state = 'Z') := by
  have hText : (stat.text pid).toList = (pid ++ " (" ++ stat.comm).toList ++
      ')' :: (' ' :: stat.state :: ' ' :: stat.numbers.toList) := by
    simp [Stat.text]
  have hState : stat.state ≠ ')' ∧ isSpace stat.state = false := by
    have hLetters : ∀ c ∈ "RSDZTtWXxKPI".toList, c ≠ ')' ∧ isSpace c = false := by decide +kernel
    exact hLetters _ stat.state_letter
  have hLast : lastPart ')' (stat.text pid) =
      String.ofList (' ' :: stat.state :: ' ' :: stat.numbers.toList) := by
    have hPlain : ')' ∉ ' ' :: stat.state :: ' ' :: stat.numbers.toList := by
      simp only [List.mem_cons, not_or]
      exact ⟨by decide, hState.1.symm, by decide, stat.numbers_plain⟩
    rw [lastPart, hText, List.splitOn_append_cons_self, List.splitOn_eq_singleton hPlain]
    simp
  have hWords : words (' ' :: stat.state :: ' ' :: stat.numbers.toList) =
      [stat.state] :: words stat.numbers.toList := by
    have hSplit : (' ' :: stat.state :: ' ' :: stat.numbers.toList).splitOnP isSpace =
        [] :: [stat.state] :: stat.numbers.toList.splitOnP isSpace := by
      have hFirst := List.splitOnP_append_cons [] (stat.state :: ' ' :: stat.numbers.toList)
        (show isSpace ' ' = true by decide)
      have hSecond := List.splitOnP_append_cons [stat.state] stat.numbers.toList
        (show isSpace ' ' = true by decide)
      have hOne : [stat.state].splitOnP isSpace = [[stat.state]] :=
        List.splitOnP_eq_singleton (by simpa using hState.2)
      rw [hOne] at hSecond
      simp only [List.nil_append, List.cons_append, List.splitOnP_nil] at hFirst hSecond
      rw [hFirst, hSecond]
    rw [words, hSplit]
    simp [words]
  rw [saysZombie, hLast, String.toList_ofList, hWords]
  simp

/-- The scan of the call has still to come to the process. -/
def Call.Awaits (call : Call) (p : Process) : Prop :=
  match call.phase with
  | .reading pids => p.pid ∈ pids
  | .matched pid pids => p.pid ∈ pid :: pids
  | _ => True

/-- A process that is alive and was there before the scan of a call began is not behind
the scan, unless it could not be read. -/
structure Watches (s : State) (call : Call) : Prop where
  began : call.began ≤ s.spawned
  awaits : ∀ p ∈ s.alive, p.serial < call.began → p.serial ∉ call.missed → call.Awaits p

structure Inv (s : State) : Prop where
  digits : ∀ p ∈ s.processes, isDigit p.pid.toList
  watches : ∀ call ∈ s.calls, Watches s call

variable {devPath : String} {s t : State}

theorem awaits_reading {call : Call} {pids : List String}
    (h : call.phase = .reading pids) (p : Process) (hAwaits : call.Awaits p) : p.pid ∈ pids := by
  rwa [Call.Awaits, h] at hAwaits

theorem awaits_matched {call : Call} {pid : String} {pids : List String}
    (h : call.phase = .matched pid pids) (p : Process) (hAwaits : call.Awaits p) :
    p.pid ∈ pid :: pids := by
  rwa [Call.Awaits, h] at hAwaits

theorem State.mem_alive {p : Process} : p ∈ s.alive ↔ p ∈ s.processes ∧ p.zombie = false := by
  simp [State.alive]

theorem State.mem_having {pid : String} {p : Process} (hMem : p ∈ s.processes)
    (hPid : p.pid = pid) :
    p ∈ s.having pid := by
  simp [State.having, hMem, hPid]

theorem Inv.call {i : Nat} {call : Call} (h : Inv s) (hCall : s.calls[i]? = some call) :
    Watches s call :=
  h.watches call (List.mem_of_getElem? hCall)

/-- A call has moved on. -/
theorem Inv.setCall {i : Nat} {call : Call} (h : Inv s) (hWatches : Watches s call) :
    Inv (s.setCall i call) where
  digits := h.digits
  watches other hOther := by
    rcases List.mem_or_eq_of_mem_set hOther with hOld | rfl
    · exact ⟨(h.watches other hOld).began, (h.watches other hOld).awaits⟩
    · exact ⟨hWatches.began, hWatches.awaits⟩

/-- A call that is not scanning any more, or not yet. -/
theorem Watches.idle {call : Call} {phase : Phase} (h : Watches s call)
    (hPhase : ∀ p, ({ call with phase := phase } : Call).Awaits p) :
    Watches s { call with phase := phase } where
  began := h.began
  awaits p _ _ _ := hPhase p

/-- A process is left behind when it is marked as missed. -/
theorem Watches.skip {call : Call} {processes : List Process} {pids : List String}
    (h : Watches s call) (hSkip : ∀ p ∈ s.alive, p ∉ processes → call.Awaits p → p.pid ∈ pids) :
    Watches s (call.skip processes pids) where
  began := h.began
  awaits p hAlive hSerial hMissed := by
    simp only [Call.skip, List.mem_append, not_or] at hMissed
    apply hSkip p hAlive
    · intro hMem
      exact hMissed.2 (List.mem_map_of_mem hMem)
    · exact h.awaits p hAlive hSerial hMissed.1

/-- An `OSError` takes the scan past the process. -/
theorem Watches.skip_having {call : Call} {pid : String} {pids : List String} (h : Watches s call)
    (hAwaits : ∀ p, call.Awaits p → p.pid ∈ pid :: pids) :
    Watches s (call.skip (s.having pid) pids) := by
  apply h.skip
  intro p hAlive hNot hStill
  rcases List.mem_cons.mp (hAwaits p hStill) with hPid | hLater
  · exact absurd (State.mem_having (State.mem_alive.mp hAlive).1 hPid) hNot
  · exact hLater

/-- The process that was read is not alive, or it is not one of these. -/
theorem Watches.next {call : Call} {pid : String} {pids : List String} (h : Watches s call)
    (hAwaits : ∀ p, call.Awaits p → p.pid ∈ pid :: pids)
    (hGone : ∀ p ∈ s.having pid, p.zombie = true) :
    Watches s { call with phase := .reading pids } where
  began := h.began
  awaits p hAlive hSerial hMissed := by
    obtain ⟨hMem, hZombie⟩ := State.mem_alive.mp hAlive
    rcases List.mem_cons.mp (hAwaits p (h.awaits p hAlive hSerial hMissed)) with hPid | hLater
    · rw [hGone p (State.mem_having hMem hPid)] at hZombie
      cases hZombie
    · exact hLater

/-- No process became alive. -/
theorem Inv.fewer {processes : List Process} (h : Inv s)
    (hProcesses : ∀ p ∈ processes, ∃ q ∈ s.processes, p.pid = q.pid ∧ (p.zombie = false → p = q)) :
    Inv { s with processes := processes } where
  digits p hMem := by
    obtain ⟨q, hOld, hPid, -⟩ := hProcesses p hMem
    rw [hPid]
    exact h.digits q hOld
  watches call hCall := by
    have hWatches := h.watches call hCall
    refine ⟨hWatches.began, fun p hAlive => ?_⟩
    obtain ⟨hMem, hZombie⟩ := State.mem_alive.mp hAlive
    obtain ⟨q, hOld, -, hSame⟩ := hProcesses p hMem
    obtain rfl := hSame hZombie
    exact hWatches.awaits p (State.mem_alive.mpr ⟨hOld, hZombie⟩)

/-- A process that is spawned is none of those that a scan is for. -/
theorem Watches.spawn {call : Call} {pid : String} (h : Watches s call) :
    Watches { s with
      processes := s.processes ++ [⟨s.spawned, pid, false⟩], spawned := s.spawned + 1 } call where
  began := Nat.le_succ_of_le h.began
  awaits p hAlive hSerial hMissed := by
    obtain ⟨hMem, hZombie⟩ := State.mem_alive.mp hAlive
    rcases List.mem_append.mp hMem with hOld | hNew
    · exact h.awaits p (State.mem_alive.mpr ⟨hOld, hZombie⟩) hSerial hMissed
    · obtain rfl := List.mem_singleton.mp hNew
      exact absurd hSerial (Nat.not_lt.mpr h.began)

theorem inv_listdir {i : Nat} {names : Option (List String)} (h : Inv s)
    (hStep : step devPath s (.listdir i names) = some t) : Inv t := by
  obtain ⟨call, hCall, hNext⟩ := Option.bind_eq_some_iff.mp hStep
  have hWatches := h.call hCall
  split at hNext
  case h_1 =>
    cases hNext
    apply h.setCall
    apply hWatches.skip
    intro p hAlive hNot _
    exact absurd (State.mem_alive.mp hAlive).1 hNot
  case h_2 names hPhase =>
    split at hNext
    case isTrue hListed =>
      cases hNext
      apply h.setCall
      refine ⟨hWatches.began, fun p hAlive hSerial _ => ?_⟩
      have hMem := (State.mem_alive.mp hAlive).1
      exact List.mem_filter.mpr ⟨hListed p hMem hSerial, h.digits p hMem⟩
    case isFalse => cases hNext
  case h_3 => cases hNext

theorem inv_cmdline {i : Nat} {argv : Option String} (h : Inv s)
    (hStep : step devPath s (.cmdline i argv) = some t) : Inv t := by
  obtain ⟨call, hCall, hNext⟩ := Option.bind_eq_some_iff.mp hStep
  have hWatches := h.call hCall
  split at hNext
  case h_1 pid pids hPhase =>
    cases hNext
    exact h.setCall (hWatches.skip_having (awaits_reading hPhase))
  case h_2 pid pids argv hPhase =>
    have hAwaits := awaits_reading hPhase
    split at hNext
    case isTrue hShown =>
      cases hNext
      apply h.setCall
      split
      case isTrue hOther =>
        apply hWatches.next hAwaits
        intro p hMem
        by_contra hAlive
        rw [hShown p hMem hAlive, withoutNuls_cmdline] at hOther
        exact hOther rfl
      case isFalse => exact ⟨hWatches.began, fun p hAlive hSerial hMissed =>
        hAwaits p (hWatches.awaits p hAlive hSerial hMissed)⟩
    case isFalse => cases hNext
  case h_3 => cases hNext

theorem inv_stat {i : Nat} {stat : Option Stat} (h : Inv s)
    (hStep : step devPath s (.stat i stat) = some t) : Inv t := by
  obtain ⟨call, hCall, hNext⟩ := Option.bind_eq_some_iff.mp hStep
  have hWatches := h.call hCall
  split at hNext
  case h_1 pid pids hPhase =>
    cases hNext
    exact h.setCall (hWatches.skip_having (awaits_matched hPhase))
  case h_2 pid pids stat hPhase =>
    split at hNext
    case isTrue hShown =>
      cases hNext
      apply h.setCall
      split
      case isTrue hZombie =>
        apply hWatches.next (awaits_matched hPhase)
        intro p hMem
        by_contra hAlive
        rw [saysZombie_text, decide_eq_true_eq] at hZombie
        exact hShown p hMem hAlive hZombie
      case isFalse => exact hWatches.idle fun _ => trivial
    case isFalse => cases hNext
  case h_3 => cases hNext

/-- A call that goes on spawns a process only after it has read the whole list. -/
theorem step_resume {i : Nat} {spawned : Option String}
    (hStep : step devPath s (.resume i spawned) = some t) : ∃ call, s.calls[i]? = some call ∧
      (spawned = none ∧ t = s.setCall i { call with phase := .ended } ∨
        ∃ pid, spawned = some pid ∧ call.phase = .reading [] ∧ isDigit pid.toList ∧
          t = { s.setCall i { call with phase := .running } with
            processes := s.processes ++ [⟨s.spawned, pid, false⟩]
            spawned := s.spawned + 1 }) := by
  obtain ⟨call, hCall, hNext⟩ := Option.bind_eq_some_iff.mp hStep
  refine ⟨call, hCall, ?_⟩
  split at hNext
  case h_1 => exact .inl ⟨rfl, (Option.some.inj hNext).symm⟩
  case h_2 => exact .inl ⟨rfl, (Option.some.inj hNext).symm⟩
  case h_3 pid hPhase =>
    split at hNext
    case isTrue hNew => exact .inr ⟨pid, rfl, hPhase, hNew.1, (Option.some.inj hNext).symm⟩
    case isFalse => cases hNext
  case h_4 => cases hNext

theorem inv_resume {i : Nat} {spawned : Option String} (h : Inv s)
    (hStep : step devPath s (.resume i spawned) = some t) : Inv t := by
  obtain ⟨call, hCall, ⟨-, rfl⟩ | ⟨pid, -, -, hDigits, rfl⟩⟩ := step_resume hStep
  · exact h.setCall ((h.call hCall).idle fun _ => trivial)
  · have hSet : Inv (s.setCall i { call with phase := .running }) :=
      h.setCall ((h.call hCall).idle fun _ => trivial)
    refine ⟨?_, fun other hOther => (hSet.watches other hOther).spawn⟩
    intro p hMem
    rcases List.mem_append.mp hMem with hOld | hNew
    · exact h.digits p hOld
    · obtain rfl := List.mem_singleton.mp hNew
      exact hDigits

/-- What the scans rely on is kept by everything that happens. -/
theorem inv_step {event : Event} (h : Inv s) (hStep : step devPath s event = some t) : Inv t := by
  cases event with
  | call devPathExists =>
      cases hStep
      split
      · refine ⟨h.digits, fun call hCall => ?_⟩
        rcases List.mem_append.mp hCall with hOld | hNew
        · obtain ⟨hBegan, hAwaits⟩ := h.watches call hOld
          exact ⟨hBegan, hAwaits⟩
        · obtain rfl := List.mem_singleton.mp hNew
          exact ⟨Nat.zero_le _, fun _ _ _ _ => trivial⟩
      · exact h
  | scan i =>
      obtain ⟨call, hCall, hNext⟩ := Option.bind_eq_some_iff.mp hStep
      split at hNext
      · cases hNext
        exact h.setCall ⟨Nat.le_refl _, fun _ _ _ _ => trivial⟩
      · cases hNext
  | listdir i names => exact inv_listdir h hStep
  | cmdline i argv => exact inv_cmdline h hStep
  | stat i stat => exact inv_stat h hStep
  | resume i spawned => exact inv_resume h hStep
  | ends i =>
      obtain ⟨call, hCall, hNext⟩ := Option.bind_eq_some_iff.mp hStep
      cases hNext
      exact h.setCall ((h.call hCall).idle fun _ => trivial)
  | exit k =>
      obtain ⟨p, hProcess, hNext⟩ := Option.bind_eq_some_iff.mp hStep
      cases hNext
      apply h.fewer
      intro q hMem
      rcases List.mem_or_eq_of_mem_set hMem with hOld | rfl
      · exact ⟨q, hOld, rfl, fun _ => rfl⟩
      · exact ⟨p, List.mem_of_getElem? hProcess, rfl, fun hFalse => by cases hFalse⟩
  | reap k =>
      obtain ⟨p, hProcess, hNext⟩ := Option.bind_eq_some_iff.mp hStep
      split at hNext
      · cases hNext
        apply h.fewer
        intro q hMem
        exact ⟨q, (List.eraseIdx_sublist _ _).subset hMem, rfl, fun _ => rfl⟩
      · cases hNext

theorem inv_initial : Inv .initial where
  digits _ hMem := by cases hMem
  watches _ hCall := by cases hCall

theorem inv_run {allowed : State → Event → Prop} {events : List Event}
    (run : RunsWhere (step devPath) allowed .initial events s) : Inv s :=
  run.invariant inv_initial fun _ _ _ h _ hStep => inv_step h hStep

theorem alive_spawn (s : State) (calls : List Call) (pid : String) :
    ({ processes := s.processes ++ [⟨s.spawned, pid, false⟩], spawned := s.spawned + 1,
       calls := calls } : State).alive = s.alive ++ [⟨s.spawned, pid, false⟩] := by
  simp [State.alive]

/-- Nothing but a spawn makes a process alive. -/
theorem alive_set (processes : List Process) (k : Nat) (p : Process) :
    List.Sublist ((processes.set k { p with zombie := true }).filter fun p => ¬ p.zombie)
      (processes.filter fun p => ¬ p.zombie) := by
  induction processes generalizing k with
  | nil => simp
  | cons first rest ih =>
      cases k with
      | zero => simpa using (List.sublist_cons_self first rest).filter fun p => ¬ p.zombie
      | succ k =>
          have hSame := (ih k).append_left ([first].filter fun p => ¬ p.zombie)
          rw [List.set_cons_succ]
          simpa only [← List.filter_append, List.singleton_append] using hSame

theorem processes_step {event : Event} (hStep : step devPath s event = some t) :
    t.processes = s.processes ∨
      (∃ k, ∃ p : Process, t.processes = s.processes.set k { p with zombie := true }) ∨
      (∃ k, t.processes = s.processes.eraseIdx k) ∨ ∃ i pid, event = .resume i (some pid) := by
  cases event with
  | call devPathExists =>
      cases hStep
      left
      split <;> rfl
  | scan i =>
      obtain ⟨call, -, hNext⟩ := Option.bind_eq_some_iff.mp hStep
      left
      split at hNext
      · cases hNext
        rfl
      · cases hNext
  | listdir i reading | cmdline i reading | stat i reading =>
      obtain ⟨call, -, hNext⟩ := Option.bind_eq_some_iff.mp hStep
      left
      split at hNext
      case h_2 =>
        split at hNext
        · cases hNext
          rfl
        · cases hNext
      all_goals cases hNext
      rfl
  | resume i spawned =>
      cases spawned with
      | some pid => exact .inr (.inr (.inr ⟨i, pid, rfl⟩))
      | none =>
          obtain ⟨call, -, ⟨-, rfl⟩ | ⟨pid, hFalse, -⟩⟩ := step_resume hStep
          · exact .inl rfl
          · cases hFalse
  | ends i =>
      obtain ⟨call, -, hNext⟩ := Option.bind_eq_some_iff.mp hStep
      cases hNext
      exact .inl rfl
  | exit k =>
      obtain ⟨p, -, hNext⟩ := Option.bind_eq_some_iff.mp hStep
      cases hNext
      exact .inr (.inl ⟨k, p, rfl⟩)
  | reap k =>
      obtain ⟨p, -, hNext⟩ := Option.bind_eq_some_iff.mp hStep
      split at hNext
      · cases hNext
        exact .inr (.inr (.inl ⟨k, rfl⟩))
      · cases hNext

/-- A spawn leaves one process alive exactly if the scan of the call missed none. -/
theorem spawn_iff {i : Nat} {pid : String} (h : Inv s)
    (hStep : step devPath s (.resume i (some pid)) = some t) :
    t.alive.length ≤ 1 ↔ Unraced s (.resume i (some pid)) := by
  obtain ⟨call, hCall, ⟨hFalse, -⟩ | ⟨other, hOther, hPhase, -, rfl⟩⟩ := step_resume hStep
  · cases hFalse
  obtain rfl := Option.some.inj hOther
  have hNone : (s.alive ++ [(⟨s.spawned, pid, false⟩ : Process)]).length ≤ 1 ↔ s.alive = [] := by
    rw [List.length_append, List.length_singleton, ← List.length_eq_zero_iff]
    omega
  rw [State.setCall, alive_spawn, hNone]
  constructor
  · intro hEmpty other _ p hMem
    rw [hEmpty] at hMem
    cases hMem
  · intro hAllowed
    apply List.eq_nil_iff_forall_not_mem.mpr
    intro p hMem
    obtain ⟨hSerial, hRead⟩ := hAllowed call hCall p hMem
    exact absurd (awaits_reading hPhase p ((h.call hCall).awaits p hMem hSerial hRead))
      List.not_mem_nil

structure Alone (s : State) : Prop extends Inv s where
  alive : s.alive.length ≤ 1

theorem alone_step {event : Event} (h : Alone s) (hAllowed : Unraced s event)
    (hStep : step devPath s event = some t) : Alone t := by
  refine ⟨inv_step h.toInv hStep, ?_⟩
  rcases processes_step hStep with hSame | ⟨k, p, hExit⟩ | ⟨k, hReap⟩ | ⟨i, pid, rfl⟩
  · rw [State.alive, hSame]
    exact h.alive
  · rw [State.alive, hExit]
    exact (alive_set s.processes k p).length_le.trans h.alive
  · rw [State.alive, hReap]
    exact ((List.eraseIdx_sublist s.processes k).filter _).length_le.trans h.alive
  · exact (spawn_iff h.toInv hStep).mpr hAllowed

/-- In every run in which no spawn is raced, at most one process with the arguments of
the device is alive at any time, and a spawn that is raced makes a second one. -/
theorem oneSmartctl (devPath : String) :
    (∀ events s, RunsWhere (step devPath) Unraced .initial events s → s.alive.length ≤ 1) ∧
      ∀ events s i pid t, Runs (step devPath) .initial events s →
        step devPath s (.resume i (some pid)) = some t →
          (t.alive.length ≤ 1 ↔ Unraced s (.resume i (some pid))) := by
  constructor
  · intro events s run
    have hAlone : Alone s :=
      run.invariant ⟨inv_initial, Nat.zero_le 1⟩ fun _ _ _ h hAllowed hStep =>
        alone_step h hAllowed hStep
    exact hAlone.alive
  · intro events s i pid t run hStep
    exact spawn_iff (inv_run run) hStep

/-- Whether a spawn is not raced. -/
def unraced (s : State) : Event → Bool
  | .resume i (some _) => s.calls[i]?.all fun call =>
      s.alive.all fun p => p.serial < call.began && !call.missed.contains p.serial
  | _ => true

theorem unraced_of_checked (s : State) (event : Event) (h : unraced s event = true) :
    Unraced s event := by
  match event with
  | .resume i (some pid) =>
      intro call hCall p hMem
      simp only [unraced, hCall, Option.all_some, List.all_eq_true, Bool.and_eq_true,
        decide_eq_true_eq, Bool.not_eq_true', List.contains_eq_mem, decide_eq_false_iff_not] at h
      exact h p hMem
  | .resume _ none | .call _ | .scan _ | .listdir _ _ | .cmdline _ _ | .stat _ _
    | .ends _ | .exit _ |
    .reap _ => trivial

def sleeping : Stat where
  comm := "smartctl"
  state := 'D'
  numbers := "1 41 41 0"
  state_letter := by decide
  numbers_plain := by decide

/-- A request spawns, a second one finds the process, and a third spawns again once the
process is gone. -/
def inTurn : List Event :=
  [.call true, .scan 0, .listdir 0 (some []), .resume 0 (some "41"),
    .call true, .scan 1, .listdir 1 (some ["41"]),
    .cmdline 1 (some (cmdline (smartctlCommand "/dev/sda"))), .stat 1 (some sleeping),
    .resume 1 none, .exit 0, .reap 0,
    .call true, .scan 2, .listdir 2 (some []), .resume 2 (some "57")]

theorem execute_inTurn :
    (executeChecked (step "/dev/sda") unraced .initial inTurn).map
      (fun s => (s.spawned, s.calls.map (·.phase))) = some (2, [.running, .ended, .running]) := by
  decide +kernel

/-- Two processes have been spawned, and one of them is alive. -/
theorem oneSmartctl_inTurn : ∃ s, RunsWhere (step "/dev/sda") Unraced .initial inTurn s ∧
    s.spawned = 2 ∧ s.calls.map (·.phase) = [.running, .ended, .running] ∧ s.alive.length ≤ 1 := by
  obtain ⟨s, hExecute, hEnd⟩ := Option.map_eq_some_iff.mp execute_inTurn
  obtain ⟨hSpawned, hPhases⟩ := Prod.mk.inj hEnd
  have hRun := runsWhere_of_executeChecked hExecute unraced_of_checked
  exact ⟨s, hRun, hSpawned, hPhases, (oneSmartctl "/dev/sda").1 inTurn s hRun⟩

/-- Two requests scan before either of them spawns. -/
theorem not_oneSmartctl_requests : ¬ ∀ (devPath : String) (events : List Event) (s : State),
    Runs (step devPath) .initial events s → s.alive.length ≤ 1 := by
  intro h
  let events : List Event := [.call true, .call true, .scan 0, .listdir 0 (some []), .scan 1,
    .listdir 1 (some []), .resume 0 (some "41"), .resume 1 (some "42")]
  have hTwo :
      (execute (step "/dev/sda") .initial events).map (fun s => s.alive.length) = some 2 := by
    decide +kernel
  obtain ⟨s, hRun, hAlive⟩ := Option.map_eq_some_iff.mp hTwo
  have hOne := h "/dev/sda" events s (runs_of_execute hRun)
  omega

end NodeDebugDashboard.Collectors.SmartSpawns
