import NodeDebugDashboard.Collectors.Host
import NodeDebugDashboard.Library.Lines
import NodeDebugDashboard.Library.Paths
import NodeDebugDashboard.Library.Runs

/-! `container_logs` of app/routers/containers.py: a connection to the log of a container,
the `tail` that it starts, and the two tasks that pass its lines on and wait for the
client to go. -/
namespace NodeDebugDashboard.Routers.ContainerLogs

open Library Library.Python Library.Text Library.Lines Library.Paths Collectors

variable {F : Type}

/-- What the handler finds around it. -/
structure Config (F : Type) where
  /-- `HOST_ROOT` -/
  hostRoot : String
  /-- `json.loads` -/
  loads : Loads F
  /-- `line.decode(errors="replace")` -/
  decode : List UInt8 → String
  /-- The network locations that make `urlsplit` raise: brackets without an address
  between them, and letters that stand for a delimiter. -/
  rejects : List Char → Bool

structure Request where
  origin : Option String
  host : Option String
  containerId : String

/-- `urlsplit(url).netloc`, without its checks. -/
def netlocOf (url : List Char) : List Char :=
  let url := (url.dropWhile fun c => c.toNat ≤ 32).filter (· ∉ ['\t', '\r', '\n'])
  let scheme := url.takeWhile (· ≠ ':')
  let isScheme := ':' ∈ url ∧ scheme.head?.any Char.isAlpha ∧
    scheme.all fun c => c.isAlphanum || c ∈ ['+', '-', '.']
  let rest := if isScheme then url.drop (scheme.length + 1) else url
  if ['/', '/'].isPrefixOf rest then (rest.drop 2).takeWhile (· ∉ ['/', '?', '#']) else []

/-- `urlsplit(origin).netloc`; `none` when it raises `ValueError`. -/
def netloc? (config : Config F) (origin : String) : Option String :=
  let netloc := netlocOf origin.toList
  if config.rejects netloc then none else some (String.ofList netloc)

/-- `_CONTAINER_ID.fullmatch` -/
def isContainerId (id : String) : Bool :=
  id.toList.length = 64 && id.toList.all fun c => ('0' ≤ c && c ≤ '9') || ('a' ≤ c && c ≤ 'f')

section

variable [PyFloat F] [Unicode]

/-- `_get_container_log_path`, from the answer of `crictl`. -/
def getContainerLogPath (config : Config F) (stdout : String) (rc : Int) :
    Outcome (Option String) :=
  if rc ≠ 0 ∨ stripped stdout = "" then .ok none
  else
    match config.loads stdout with
    | .error .decodeError => .ok none
    | .error (.other text) => .error (.exception text)
    | .ok data => do
        let status ← data.get "status" (.obj [])
        let logPath ← status.get "logPath" (.str "")
        if logPath.truthy then return some (config.hostRoot ++ logPath.text) else return none

/-- What `os.path.realpath` makes of a path. It raises `ValueError` on a NUL. -/
inductive Resolved where
  | path (path : RealPath)
  | osError
  | valueError

structure Tail where
  /-- Its last argument. -/
  path : String
  stdout : Stream := {}
  exited : Bool := false
  /-- `process.returncode` is set. -/
  reaped : Bool := false
  killed : Bool := false
  /-- `process.wait()` has returned. -/
  waited : Bool := false

/-- Where `pump` is: in `readline`, in `send_text`, or over. -/
inductive Pump where
  | reading
  | sending (line : List UInt8)
  | done

/-- What the handler awaits. -/
inductive Phase where
  | called
  /-- `websocket.close` with code 1008 -/
  | refusing (reason : String)
  | accepting
  /-- `crictl` -/
  | inspecting
  | apologising (text : String)
  | closing
  | spawning (path : String)
  /-- The task group, with its two tasks and its cancel scope. -/
  | streaming (tail : Tail) (pump : Pump) (receiving cancelled : Bool)
  /-- `process.wait()` in the shielded scope -/
  | waiting (tail : Tail)
  | ended (tail : Option Tail)

structure State where
  phase : Phase
  /-- How often `crictl` and `tail` were started. -/
  inspections : Nat
  starts : Nat
  /-- The text frames that were sent. -/
  sent : List String

/-- Who cancels the handler: a cancel scope around it, or `Task.cancel()`. -/
inductive Canceller where
  | scope
  | task
  deriving DecidableEq

inductive Event where
  | begin
  /-- What is awaited returns, or raises. -/
  | completes
  /-- `crictl` answers, and `realpath` resolves the two paths. -/
  | inspected (stdout : String) (rc : Int) (resolveRoot resolveLog : String → Resolved)
  | raises
  | cancel (canceller : Canceller)
  /-- `tail` writes to its output, closes it, exits, and is reaped by asyncio. -/
  | write (bytes : List UInt8)
  | closeStdout
  | exit
  | reap
  /-- The task `pump` -/
  | readline
  | sendCompletes
  /-- An exception, or the cancellation of the scope, ends it. A frame on its way may be
  sent all the same. -/
  | pumpStops (raised delivered : Bool)
  /-- The task `until_disconnect` -/
  | receive (disconnect : Bool)
  | receiverStops (raised : Bool)
  /-- The task group has joined its tasks. -/
  | join
  | waitReturns

def initial : State where
  phase := .called
  inspections := 0
  starts := 0
  sent := []

/-- The checks before the handshake. -/
def check (config : Config F) (request : Request) : Phase :=
  let checkId :=
    if isContainerId request.containerId then .accepting else .refusing "Invalid container ID"
  match request.origin with
  | none => checkId
  | some origin =>
      match netloc? config origin with
      | none => .ended none
      | some netloc =>
          if lower netloc ≠ lower (request.host.getD "") then
            .refusing "Cross-origin request refused"
          else checkId

/-- From the answer of `crictl` to the next `await`. -/
def locate (config : Config F) (stdout : String) (rc : Int)
    (resolveRoot resolveLog : String → Resolved) :
    Phase :=
  match getContainerLogPath config stdout rc with
  | .error _ => .ended none
  | .ok none => .apologising "[Error: could not find log path for container]\n"
  | .ok (some logPath) =>
      if logPath = "" then .apologising "[Error: could not find log path for container]\n"
      else
        match resolveRoot (config.hostRoot ++ "/var/log/pods"), resolveLog logPath with
        | .path root, .path path =>
            if startsWith (root.text ++ "/") path.text then .spawning path.text
            else .apologising "[Error: log path outside allowed pod log tree]\n"
        | .path _, .osError => .apologising "[Error: log path outside allowed pod log tree]\n"
        | _, _ => .ended none

/-- `finally`, up to the wait. -/
def finish (tail : Tail) : Phase := .waiting { tail with killed := tail.killed || !tail.reaped }

namespace Phase

/-- `tail`, once it was started. -/
def tail? : Phase → Option Tail
  | .streaming tail _ _ _ => some tail
  | .waiting tail => some tail
  | .ended tail => tail
  | _ => none

/-- Something happens to `tail`. -/
def change (phase : Phase) (act : Tail → Option Tail) : Option Phase :=
  match phase with
  | .streaming tail pump receiving cancelled => do
      return .streaming (← act tail) pump receiving cancelled
  | .waiting tail => do return .waiting (← act tail)
  | .ended (some tail) => do return .ended (some (← act tail))
  | _ => none

/-- The cancellation of the handler. A task group cancels its tasks and waits for them,
and the shield holds off a cancel scope. -/
def cancel (phase : Phase) (canceller : Canceller) : Phase :=
  match phase with
  | .streaming tail pump receiving _ => .streaming tail pump receiving true
  | .waiting tail => if canceller = .scope then .waiting tail else .ended (some tail)
  | .ended tail => .ended tail
  | _ => .ended none

end Phase

namespace Tail

def write (tail : Tail) (bytes : List UInt8) : Option Tail :=
  if tail.stdout.closed then none else some { tail with stdout := tail.stdout.write bytes }

def closeStdout (tail : Tail) : Option Tail := some { tail with stdout := tail.stdout.close }

def exit (tail : Tail) : Option Tail :=
  some { tail with stdout := tail.stdout.close, exited := true }

def reap (tail : Tail) : Option Tail :=
  if tail.exited then some { tail with reaped := true } else none

end Tail

/-- Something happens to `tail`, whatever the handler does. -/
def State.changeTail (s : State) (act : Tail → Option Tail) : Option State :=
  (s.phase.change act).map fun phase => { s with phase := phase }

def step (config : Config F) (request : Request) (s : State) : Event → Option State
  | .begin =>
      match s.phase with
      | .called => some { s with phase := check config request }
      | _ => none
  | .completes =>
      match s.phase with
      | .refusing _ => some { s with phase := .ended none }
      | .accepting => some { s with phase := .inspecting, inspections := s.inspections + 1 }
      | .apologising text => some { s with phase := .closing, sent := s.sent ++ [text] }
      | .closing => some { s with phase := .ended none }
      | .spawning path =>
          some { s with
            phase := .streaming { path := path } .reading true false, starts := s.starts + 1 }
      | _ => none
  | .inspected stdout rc resolveRoot resolveLog =>
      match s.phase with
      | .inspecting => some { s with phase := locate config stdout rc resolveRoot resolveLog }
      | _ => none
  | .raises =>
      match s.phase with
      | .refusing _ | .accepting | .inspecting | .apologising _ | .closing | .spawning _ =>
          some { s with phase := .ended none }
      | _ => none
  | .cancel canceller => some { s with phase := s.phase.cancel canceller }
  | .write bytes => s.changeTail fun tail => tail.write bytes
  | .closeStdout => s.changeTail Tail.closeStdout
  | .exit => s.changeTail Tail.exit
  | .reap => s.changeTail Tail.reap
  | .readline =>
      match s.phase with
      | .streaming tail .reading receiving cancelled =>
          match tail.stdout.readline with
          | none => none
          | some ([], _) => some { s with phase := .streaming tail .done receiving true }
          | some (line, rest) =>
              some { s with
                phase :=
                  .streaming { tail with stdout := rest } (.sending line) receiving cancelled }
      | _ => none
  | .sendCompletes =>
      match s.phase with
      | .streaming tail (.sending line) receiving cancelled =>
          some { s with
            phase := .streaming tail .reading receiving cancelled
            sent := s.sent ++ [config.decode line] }
      | _ => none
  | .pumpStops raised delivered =>
      match s.phase with
      | .streaming tail .reading receiving cancelled =>
          if raised ∨ cancelled then
            some { s with phase := .streaming tail .done receiving true }
          else none
      | .streaming tail (.sending line) receiving cancelled =>
          if raised ∨ cancelled then
            some { s with
              phase := .streaming tail .done receiving true
              sent := if delivered then s.sent ++ [config.decode line] else s.sent }
          else none
      | _ => none
  | .receive disconnect =>
      match s.phase with
      | .streaming tail pump true _ =>
          some (if disconnect then { s with phase := .streaming tail pump false true } else s)
      | _ => none
  | .receiverStops raised =>
      match s.phase with
      | .streaming tail pump true cancelled =>
          if raised ∨ cancelled then
            some { s with phase := .streaming tail pump false true }
          else none
      | _ => none
  | .join =>
      match s.phase with
      | .streaming tail .done false _ => some { s with phase := finish tail }
      | _ => none
  | .waitReturns =>
      match s.phase with
      | .waiting tail =>
          if tail.reaped then
            some { s with phase := .ended (some { tail with waited := true }) }
          else none
      | _ => none

/-- The id is full: a prefix would let a caller walk through the containers. -/
def FullId (id : String) : Prop :=
  id.length = 64 ∧ ∀ c ∈ id.toList, ('0' ≤ c ∧ c ≤ '9') ∨ ('a' ≤ c ∧ c ≤ 'f')

/-- The request does not come from another site. -/
def SameOrigin (config : Config F) (request : Request) : Prop :=
  request.origin = none ∨ ∃ origin netloc, request.origin = some origin ∧
    netloc? config origin = some netloc ∧ lower netloc = lower (request.host.getD "")

structure Checked (config : Config F) (request : Request) : Prop where
  origin : SameOrigin config request
  id : FullId request.containerId

/-- The path is what the log path that `crictl` gave resolved to, strictly below what the
directory of the pods' logs resolved to. -/
def Located (config : Config F) (events : List Event) (path : String) : Prop :=
  ∃ stdout rc resolveRoot resolveLog logPath root resolved,
    .inspected stdout rc resolveRoot resolveLog ∈ events ∧
    getContainerLogPath config stdout rc = .ok (some logPath) ∧
    resolveRoot (config.hostRoot ++ "/var/log/pods") = .path root ∧
    resolveLog logPath = .path resolved ∧ root.Below resolved ∧ path = resolved.text

/-- `crictl` and `tail` are started only after the checks. -/
structure Guarded (config : Config F) (request : Request) (events : List Event)
    (s : State) : Prop where
  crictl : 0 < s.inspections → Checked config request
  tail :
      ∀ tail, s.phase.tail? = some tail → Checked config request ∧ Located config events tail.path
  once : s.starts ≤ 1

/-- The texts with which the handler says that there is no log. -/
def apologies : List String :=
  ["[Error: could not find log path for container]\n",
   "[Error: log path outside allowed pod log tree]\n"]

/-- Without a `tail`, nothing was sent but one of these, and that only after the checks. -/
def Apologised (config : Config F) (request : Request) (s : State) : Prop :=
  s.phase.tail? = none → s.sent = [] ∨
    Checked config request ∧ ∃ text ∈ apologies, s.sent = [text]

/-- The frames are the first lines of the output. -/
def Streamed (config : Config F) (s : State) : Prop :=
  ∀ tail, s.phase.tail? = some tail → s.sent <+: (Lines.lines tail.stdout.written).map config.decode

def Stopped (s : State) : Prop := ∀ tail, s.phase = .ended (some tail) → tail.exited ∨ tail.killed

def Collected (s : State) : Prop :=
  ∀ tail, s.phase = .ended (some tail) → (tail.exited ∨ tail.killed) ∧ tail.waited

/-- The task of the handler is not cancelled in the wait, which shields only from cancel
scopes. -/
def Shielded (s : State) (event : Event) : Prop :=
  event = .cancel .task → ∀ tail, s.phase ≠ .waiting tail

end

variable {config : Config F} {request : Request} {events : List Event} {s t : State}

theorem isContainerId_iff (id : String) : isContainerId id = true ↔ FullId id := by
  simp only [isContainerId, FullId, Bool.and_eq_true, Bool.or_eq_true, decide_eq_true_eq,
    List.all_eq_true, String.length_toList]

/-- What was sent of the lines that `pump` has read. -/
def Pumps (config : Config F) (sent : List String) (stdout : Stream) : Pump → Prop
  | .reading => ∃ taken, stdout.Read taken ∧ sent = taken.map config.decode
  | .sending line => ∃ taken, stdout.Read (taken ++ [line]) ∧ sent = taken.map config.decode
  | .done => ∃ taken, stdout.Read taken ∧ sent <+: taken.map config.decode

/-- A pump that is over has sent the first of the lines that were read. -/
theorem Pumps.done {sent : List String} {stdout : Stream} {pump : Pump}
    (h : Pumps config sent stdout pump) :
    Pumps config sent stdout .done := by
  cases pump with
  | reading =>
      obtain ⟨taken, hRead, rfl⟩ := h
      exact ⟨taken, hRead, List.prefix_refl _⟩
  | sending line =>
      obtain ⟨taken, hRead, rfl⟩ := h
      exact ⟨taken ++ [line], hRead, by simp⟩
  | done => exact h

/-- A frame that may be sent while the pump is stopped. -/
theorem Pumps.delivered {sent : List String} {stdout : Stream} {line : List UInt8}
    (h : Pumps config sent stdout (.sending line)) :
    Pumps config (sent ++ [config.decode line]) stdout .reading := by
  obtain ⟨taken, hRead, rfl⟩ := h
  exact ⟨taken ++ [line], hRead, by simp⟩

/-- What happens to `tail` takes nothing back. -/
structure Keeps (tail next : Tail) : Prop where
  path : next.path = tail.path
  read : ∀ taken, tail.stdout.Read taken → next.stdout.Read taken
  reaped : (tail.reaped → tail.exited) → next.reaped → next.exited
  stopped : tail.exited ∨ tail.killed → next.exited ∨ next.killed
  waited : next.waited = tail.waited

theorem Keeps.pumps {tail next : Tail} (h : Keeps tail next) {sent : List String} {pump : Pump}
    (hPumps : Pumps config sent tail.stdout pump) : Pumps config sent next.stdout pump := by
  cases pump with
  | reading => exact hPumps.imp fun taken hTaken => ⟨h.read taken hTaken.1, hTaken.2⟩
  | sending line => exact hPumps.imp fun taken hTaken => ⟨h.read _ hTaken.1, hTaken.2⟩
  | done => exact hPumps.imp fun taken hTaken => ⟨h.read taken hTaken.1, hTaken.2⟩

theorem keeps_write {tail next : Tail} {bytes : List UInt8} (h : tail.write bytes = some next) :
    Keeps tail next := by
  unfold Tail.write at h
  split at h
  case isTrue => cases h
  case isFalse hOpen =>
    cases h
    exact ⟨rfl, fun taken hTaken => hTaken.write (Bool.eq_false_iff.mpr hOpen) bytes, id, id, rfl⟩

theorem keeps_closeStdout {tail next : Tail} (h : tail.closeStdout = some next) :
    Keeps tail next := by
  cases h
  exact ⟨rfl, fun taken hTaken => hTaken.close, id, id, rfl⟩

theorem keeps_exit {tail next : Tail} (h : tail.exit = some next) : Keeps tail next := by
  cases h
  exact ⟨rfl, fun taken hTaken => hTaken.close, fun _ _ => rfl, fun _ => .inl rfl, rfl⟩

theorem keeps_reap {tail next : Tail} (h : tail.reap = some next) : Keeps tail next := by
  unfold Tail.reap at h
  split at h
  case isTrue hExited =>
    cases h
    exact ⟨rfl, fun _ => id, fun _ _ => hExited, id, rfl⟩
  case isFalse => cases h

variable [PyFloat F] [Unicode]

omit [PyFloat F] in
theorem checked_of_accepting (h : check config request = .accepting) : Checked config request := by
  have hId : (if isContainerId request.containerId then Phase.accepting
      else .refusing "Invalid container ID") = .accepting → FullId request.containerId := by
    intro hPhase
    split at hPhase
    case isTrue hFull => exact (isContainerId_iff _).mp hFull
    case isFalse => cases hPhase
  cases hOrigin : request.origin with
  | none =>
      simp only [check, hOrigin] at h
      exact ⟨.inl hOrigin, hId h⟩
  | some origin =>
      simp only [check, hOrigin] at h
      split at h
      case h_1 => cases h
      case h_2 netloc hNetloc =>
        split at h
        case isTrue => cases h
        case isFalse hSame =>
          exact ⟨.inr ⟨origin, netloc, hOrigin, hNetloc, not_not.mp hSame⟩, hId h⟩

omit [PyFloat F] in
/-- Only the checks lead to the handshake, and only the resolved path to the spawn. -/
theorem check_phase (config : Config F) (request : Request) :
    check config request = .accepting ∨ (∃ reason, check config request = .refusing reason) ∨
      check config request = .ended none := by
  unfold check
  grind

theorem locate_spawning {stdout : String} {rc : Int} {resolveRoot resolveLog : String → Resolved}
    {path : String} (h : locate config stdout rc resolveRoot resolveLog = .spawning path) :
    Located config [.inspected stdout rc resolveRoot resolveLog] path := by
  unfold locate at h
  split at h
  case h_1 => cases h
  case h_2 => cases h
  case h_3 logPath hLog =>
    split at h
    case isTrue => cases h
    case isFalse =>
      split at h
      case h_1 root resolved hRoot hResolved =>
        split at h
        case isTrue hStart =>
          cases h
          have hBelow : root.Below resolved :=
            RealPath.below_of_start (List.isPrefixOf_iff_prefix.mp hStart)
          exact ⟨stdout, rc, resolveRoot, resolveLog, logPath, root, resolved,
            List.mem_singleton_self _, hLog, hRoot, hResolved, hBelow, rfl⟩
        case isFalse => cases h
      case h_2 => cases h
      case h_3 => cases h

theorem locate_phase (config : Config F) (stdout : String) (rc : Int)
    (resolveRoot resolveLog : String → Resolved) :
    (∃ path, locate config stdout rc resolveRoot resolveLog = .spawning path) ∨
      (∃ text, locate config stdout rc resolveRoot resolveLog = .apologising text ∧
        text ∈ apologies) ∨
      locate config stdout rc resolveRoot resolveLog = .ended none := by
  have hNotFound : "[Error: could not find log path for container]\n" ∈ apologies := by
    simp [apologies]
  have hOutside : "[Error: log path outside allowed pod log tree]\n" ∈ apologies := by
    simp [apologies]
  unfold locate
  grind

theorem Located.append {path : String} (h : Located config events path) (more : List Event) :
    Located config (events ++ more) path := by
  obtain ⟨stdout, rc, resolveRoot, resolveLog, logPath, root, resolved, hMem, hRest⟩ := h
  exact ⟨stdout, rc, resolveRoot, resolveLog, logPath, root, resolved, List.mem_append_left _ hMem,
    hRest⟩

theorem Located.snoc {path : String} {event : Event} (h : Located config [event] path) :
    Located config (events ++ [event]) path := by
  obtain ⟨stdout, rc, resolveRoot, resolveLog, logPath, root, resolved, hMem, hRest⟩ := h
  exact ⟨stdout, rc, resolveRoot, resolveLog, logPath, root, resolved, List.mem_append_right _ hMem,
    hRest⟩

structure Started (config : Config F) (events : List Event) (inspections starts : Nat)
    (tail : Tail) :
    Prop where
  located : Located config events tail.path
  inspected : 0 < inspections
  once : starts = 1
  reaped : tail.reaped → tail.exited

/-- What was sent where there is no `tail`. -/
def Excused (inspections : Nat) (sent : List String) : Prop :=
  sent = [] ∨ 0 < inspections ∧ ∃ text ∈ apologies, sent = [text]

/-- How far the handler has come. -/
def Progress (config : Config F) (events : List Event) (inspections starts : Nat)
    (sent : List String) :
    Phase → Prop
  | .called => inspections = 0 ∧ starts = 0 ∧ sent = []
  | .refusing _ => starts = 0 ∧ sent = []
  | .accepting => starts = 0 ∧ sent = []
  | .inspecting => 0 < inspections ∧ starts = 0 ∧ sent = []
  | .apologising text =>
      0 < inspections ∧ starts = 0 ∧ sent = [] ∧ text ∈ apologies
  | .closing => starts = 0 ∧ Excused inspections sent
  | .spawning path => 0 < inspections ∧ starts = 0 ∧ sent = [] ∧ Located config events path
  | .streaming tail pump _ _ =>
      Started config events inspections starts tail ∧ Pumps config sent tail.stdout pump
  | .waiting tail => Started config events inspections starts tail ∧
      Pumps config sent tail.stdout .done ∧ (tail.exited ∨ tail.killed)
  | .ended (some tail) => Started config events inspections starts tail ∧
      Pumps config sent tail.stdout .done ∧ (tail.exited ∨ tail.killed)
  | .ended none => starts = 0 ∧ Excused inspections sent

structure Inv (config : Config F) (request : Request) (events : List Event) (s : State) : Prop where
  checked : s.phase = .accepting ∨ 0 < s.inspections → Checked config request
  progress : Progress config events s.inspections s.starts s.sent s.phase

theorem Started.change {inspections starts : Nat} {tail next : Tail}
    (h : Started config events inspections starts tail) (hKeeps : Keeps tail next) :
    Started config events inspections starts next where
  located := hKeeps.path ▸ h.located
  inspected := h.inspected
  once := h.once
  reaped := hKeeps.reaped h.reaped

theorem Started.later {inspections starts : Nat} {tail : Tail}
    (h : Started config events inspections starts tail) (more : List Event) :
    Started config (events ++ more) inspections starts tail :=
  { h with located := h.located.append more }

theorem Progress.later {inspections starts : Nat} {sent : List String} {phase : Phase}
    (h : Progress config events inspections starts sent phase) (more : List Event) :
    Progress config (events ++ more) inspections starts sent phase := by
  cases phase with
  | spawning path => exact ⟨h.1, h.2.1, h.2.2.1, h.2.2.2.append more⟩
  | streaming => exact ⟨h.1.later more, h.2⟩
  | waiting => exact ⟨h.1.later more, h.2⟩
  | ended tail =>
      cases tail with
      | none => exact h
      | some => exact ⟨h.1.later more, h.2⟩
  | _ => exact h

/-- Something happens to `tail`, and the handler stays where it is. -/
theorem Progress.change {inspections starts : Nat} {sent : List String} {phase later : Phase}
    {act : Tail → Option Tail} (h : Progress config events inspections starts sent phase)
    (hKeeps : ∀ tail next, act tail = some next → Keeps tail next)
    (hChange : phase.change act = some later) :
    later ≠ .accepting ∧ Progress config events inspections starts sent later := by
  cases phase with
  | streaming tail pump receiving cancelled =>
      obtain ⟨next, hAct, hNext⟩ := Option.bind_eq_some_iff.mp hChange
      cases hNext
      have hNextKeeps := hKeeps tail next hAct
      exact ⟨nofun, h.1.change hNextKeeps, hNextKeeps.pumps h.2⟩
  | waiting tail =>
      obtain ⟨next, hAct, hNext⟩ := Option.bind_eq_some_iff.mp hChange
      cases hNext
      have hNextKeeps := hKeeps tail next hAct
      exact ⟨nofun, h.1.change hNextKeeps, hNextKeeps.pumps h.2.1, hNextKeeps.stopped h.2.2⟩
  | ended tail =>
      cases tail with
      | none => cases hChange
      | some tail =>
          obtain ⟨next, hAct, hNext⟩ := Option.bind_eq_some_iff.mp hChange
          cases hNext
          have hNextKeeps := hKeeps tail next hAct
          exact ⟨nofun, h.1.change hNextKeeps, hNextKeeps.pumps h.2.1, hNextKeeps.stopped h.2.2⟩
  | _ => cases hChange

/-- The handler moves on, and nothing is started. -/
theorem Inv.move {phase : Phase} {sent : List String} {event : Event}
    (h : Inv config request events s) (hAccepting : phase = .accepting → Checked config request)
    (hProgress : Progress config (events ++ [event]) s.inspections s.starts sent phase) :
    Inv config request (events ++ [event]) { s with phase := phase, sent := sent } where
  checked hReached := hReached.elim hAccepting fun hInspected => h.checked (.inr hInspected)
  progress := hProgress

theorem inv_change {act : Tail → Option Tail} {event : Event} (h : Inv config request events s)
    (hKeeps : ∀ tail next, act tail = some next → Keeps tail next)
    (hChange : s.changeTail act = some t) : Inv config request (events ++ [event]) t := by
  obtain ⟨phase, hPhase, rfl⟩ := Option.map_eq_some_iff.mp hChange
  obtain ⟨hOther, hProgress⟩ := (h.progress.later [event]).change hKeeps hPhase
  exact h.move (fun hFalse => absurd hFalse hOther) hProgress

theorem inv_begin (h : Inv config request events s)
    (hStep : step config request s .begin = some t) :
    Inv config request (events ++ [.begin]) t := by
  have hProgress := h.progress
  simp only [step] at hStep
  split at hStep
  case h_1 hPhase =>
    cases hStep
    rw [hPhase] at hProgress
    apply h.move checked_of_accepting
    obtain ⟨hInspections, hStarts, hSent⟩ := hProgress
    rcases check_phase config request with hCheck | ⟨reason, hCheck⟩ | hCheck
    · rw [hCheck]
      exact ⟨hStarts, hSent⟩
    · rw [hCheck]
      exact ⟨hStarts, hSent⟩
    · rw [hCheck]
      exact ⟨hStarts, .inl hSent⟩
  case h_2 => cases hStep

theorem inv_completes (h : Inv config request events s)
    (hStep : step config request s .completes = some t) :
    Inv config request (events ++ [.completes]) t := by
  have hProgress := h.progress.later [.completes]
  simp only [step] at hStep
  split at hStep
  case h_1 hPhase =>
    cases hStep
    rw [hPhase] at hProgress
    exact h.move nofun ⟨hProgress.1, .inl hProgress.2⟩
  case h_2 hPhase =>
    cases hStep
    rw [hPhase] at hProgress
    exact ⟨fun _ => h.checked (.inl hPhase), Nat.succ_pos _, hProgress⟩
  case h_3 text hPhase =>
    cases hStep
    rw [hPhase] at hProgress
    obtain ⟨hInspected, hStarts, hSent, hText⟩ := hProgress
    exact h.move nofun ⟨hStarts, .inr ⟨hInspected, text, hText, by rw [hSent, List.nil_append]⟩⟩
  case h_4 hPhase =>
    cases hStep
    rw [hPhase] at hProgress
    exact h.move nofun hProgress
  case h_5 path hPhase =>
    cases hStep
    rw [hPhase] at hProgress
    obtain ⟨hInspected, hStarts, hSent, hLocated⟩ := hProgress
    refine ⟨fun hReached =>
      h.checked (hReached.elim nofun .inr), ⟨hLocated, hInspected, ?_, nofun⟩, ?_⟩
    · change s.starts + 1 = 1
      rw [hStarts]
    · exact ⟨[], Stream.Read.new, hSent⟩
  case h_6 => cases hStep

theorem inv_inspected {stdout : String} {rc : Int} {resolveRoot resolveLog : String → Resolved}
    (h : Inv config request events s)
    (hStep : step config request s (.inspected stdout rc resolveRoot resolveLog) = some t) :
    Inv config request (events ++ [.inspected stdout rc resolveRoot resolveLog]) t := by
  have hProgress := h.progress
  simp only [step] at hStep
  split at hStep
  case h_1 hPhase =>
    cases hStep
    rw [hPhase] at hProgress
    obtain ⟨hInspected, hStarts, hSent⟩ := hProgress
    rcases locate_phase config stdout rc resolveRoot resolveLog with
      ⟨path, hLocate⟩ | ⟨text, hLocate, hText⟩ | hLocate
    · rw [hLocate]
      exact h.move nofun ⟨hInspected, hStarts, hSent, (locate_spawning hLocate).snoc⟩
    · rw [hLocate]
      exact h.move nofun ⟨hInspected, hStarts, hSent, hText⟩
    · rw [hLocate]
      exact h.move nofun ⟨hStarts, .inl hSent⟩
  case h_2 => cases hStep

/-- As long as there is no `tail`, none was started, and no line was sent. -/
theorem Progress.unstarted {inspections starts : Nat} {sent : List String} {phase : Phase}
    (h : Progress config events inspections starts sent phase) (hNone : phase.tail? = none) :
    starts = 0 ∧ Excused inspections sent := by
  cases phase with
  | called => exact ⟨h.2.1, .inl h.2.2⟩
  | refusing => exact ⟨h.1, .inl h.2⟩
  | accepting => exact ⟨h.1, .inl h.2⟩
  | inspecting => exact ⟨h.2.1, .inl h.2.2⟩
  | apologising => exact ⟨h.2.1, .inl h.2.2.1⟩
  | closing => exact h
  | spawning => exact ⟨h.2.1, .inl h.2.2.1⟩
  | streaming => cases hNone
  | waiting => cases hNone
  | ended tail =>
      cases hNone
      exact h

/-- An exception before the spawn ends the handler. -/
theorem inv_raises
    (h : Inv config request events s) (hStep : step config request s .raises = some t) :
    Inv config request (events ++ [.raises]) t := by
  simp only [step] at hStep
  split at hStep
  case h_7 => cases hStep
  all_goals
    rename_i hPhase
    cases hStep
    exact h.move nofun (h.progress.unstarted (by rw [hPhase]; rfl))

theorem inv_cancel {canceller : Canceller} (h : Inv config request events s) :
    Inv config request (events ++ [.cancel canceller])
      { s with phase := s.phase.cancel canceller } := by
  have hProgress := h.progress.later [.cancel canceller]
  generalize hPhase : s.phase = phase at hProgress
  cases phase with
  | streaming => exact h.move nofun hProgress
  | waiting tail =>
      by_cases hScope : canceller = .scope
      · rw [Phase.cancel, if_pos hScope]
        exact h.move nofun hProgress
      · rw [Phase.cancel, if_neg hScope]
        exact h.move nofun hProgress
  | ended => exact h.move nofun hProgress
  | _ => exact h.move nofun (hProgress.unstarted rfl)

theorem inv_readline
    (h : Inv config request events s) (hStep : step config request s .readline = some t) :
    Inv config request (events ++ [.readline]) t := by
  have hProgress := h.progress.later [.readline]
  simp only [step] at hStep
  split at hStep
  case h_1 tail receiving cancelled hPhase =>
    rw [hPhase] at hProgress
    obtain ⟨hStarted, hPumps⟩ := hProgress
    split at hStep
    case h_1 => cases hStep
    case h_2 =>
      cases hStep
      exact h.move nofun ⟨hStarted, hPumps.done⟩
    case h_3 line rest hNonempty hRead =>
      cases hStep
      obtain ⟨taken, hTaken, hSent⟩ := hPumps
      refine h.move nofun ⟨⟨hStarted.located, hStarted.inspected, hStarted.once,
        hStarted.reaped⟩, ?_⟩
      exact ⟨taken, hTaken.readline hRead hNonempty, hSent⟩
  case h_2 => cases hStep

theorem inv_sendCompletes (h : Inv config request events s)
    (hStep : step config request s .sendCompletes = some t) :
    Inv config request (events ++ [.sendCompletes]) t := by
  have hProgress := h.progress.later [.sendCompletes]
  simp only [step] at hStep
  split at hStep
  case h_1 tail line receiving cancelled hPhase =>
    cases hStep
    rw [hPhase] at hProgress
    exact h.move nofun ⟨hProgress.1, hProgress.2.delivered⟩
  case h_2 => cases hStep

theorem inv_pumpStops {raised delivered : Bool} (h : Inv config request events s)
    (hStep : step config request s (.pumpStops raised delivered) = some t) :
    Inv config request (events ++ [.pumpStops raised delivered]) t := by
  have hProgress := h.progress.later [.pumpStops raised delivered]
  simp only [step] at hStep
  split at hStep
  case h_1 tail receiving cancelled hPhase =>
    rw [hPhase] at hProgress
    split at hStep
    case isTrue =>
      cases hStep
      exact h.move nofun ⟨hProgress.1, hProgress.2.done⟩
    case isFalse => cases hStep
  case h_2 tail line receiving cancelled hPhase =>
    rw [hPhase] at hProgress
    split at hStep
    case isTrue =>
      cases hStep
      cases delivered with
      | true => exact h.move nofun ⟨hProgress.1, hProgress.2.delivered.done⟩
      | false => exact h.move nofun ⟨hProgress.1, hProgress.2.done⟩
    case isFalse => cases hStep
  case h_3 => cases hStep

/-- The task that receives has no part in the frames. -/
theorem inv_receiver {event : Event} (h : Inv config request events s)
    (hEvent : (∃ disconnect, event = .receive disconnect) ∨ ∃ raised, event = .receiverStops raised)
    (hStep : step config request s event = some t) : Inv config request (events ++ [event]) t := by
  have hProgress := h.progress.later [event]
  obtain ⟨disconnect, rfl⟩ | ⟨raised, rfl⟩ := hEvent
  · simp only [step] at hStep
    split at hStep
    case h_1 tail pump cancelled hPhase =>
      rw [hPhase] at hProgress
      cases disconnect with
      | true =>
          cases hStep
          exact h.move nofun hProgress
      | false =>
          cases hStep
          rw [← hPhase] at hProgress
          exact ⟨h.checked, hProgress⟩
    case h_2 => cases hStep
  · simp only [step] at hStep
    split at hStep
    case h_1 tail pump cancelled hPhase =>
      rw [hPhase] at hProgress
      split at hStep
      case isTrue =>
        cases hStep
        exact h.move nofun hProgress
      case isFalse => cases hStep
    case h_2 => cases hStep

/-- At the end of the stream `tail` has exited, or it is killed. -/
theorem inv_join (h : Inv config request events s) (hStep : step config request s .join = some t) :
    Inv config request (events ++ [.join]) t := by
  have hProgress := h.progress.later [.join]
  simp only [step] at hStep
  split at hStep
  case h_1 tail cancelled hPhase =>
    cases hStep
    rw [hPhase] at hProgress
    obtain ⟨hStarted, hPumps⟩ := hProgress
    refine h.move nofun ⟨⟨hStarted.located, hStarted.inspected, hStarted.once,
      hStarted.reaped⟩, hPumps, ?_⟩
    cases hReaped : tail.reaped with
    | true => exact .inl (hStarted.reaped hReaped)
    | false => exact .inr (by simp)
  case h_2 => cases hStep

theorem inv_waitReturns (h : Inv config request events s)
    (hStep : step config request s .waitReturns = some t) :
    Inv config request (events ++ [.waitReturns]) t := by
  have hProgress := h.progress.later [.waitReturns]
  simp only [step] at hStep
  split at hStep
  case h_1 tail hPhase =>
    rw [hPhase] at hProgress
    obtain ⟨hStarted, hPumps, hStopped⟩ := hProgress
    split at hStep
    case isTrue =>
      cases hStep
      exact h.move nofun
        ⟨⟨hStarted.located, hStarted.inspected, hStarted.once, hStarted.reaped⟩, hPumps, hStopped⟩
    case isFalse => cases hStep
  case h_2 => cases hStep

/-- Everything that happens keeps the order of the checks, the frames and the process. -/
theorem inv_step {event : Event} (h : Inv config request events s)
    (hStep : step config request s event = some t) : Inv config request (events ++ [event]) t := by
  cases event with
  | begin => exact inv_begin h hStep
  | completes => exact inv_completes h hStep
  | inspected stdout rc resolveRoot resolveLog => exact inv_inspected h hStep
  | raises => exact inv_raises h hStep
  | cancel canceller =>
      cases hStep
      exact inv_cancel h
  | write bytes => exact inv_change h (fun _ _ => keeps_write) hStep
  | closeStdout => exact inv_change h (fun _ _ => keeps_closeStdout) hStep
  | exit => exact inv_change h (fun _ _ => keeps_exit) hStep
  | reap => exact inv_change h (fun _ _ => keeps_reap) hStep
  | readline => exact inv_readline h hStep
  | sendCompletes => exact inv_sendCompletes h hStep
  | pumpStops raised delivered => exact inv_pumpStops h hStep
  | receive disconnect => exact inv_receiver h (.inl ⟨disconnect, rfl⟩) hStep
  | receiverStops raised => exact inv_receiver h (.inr ⟨raised, rfl⟩) hStep
  | join => exact inv_join h hStep
  | waitReturns => exact inv_waitReturns h hStep

theorem inv_run {allowed : State → Event → Prop}
    (run : RunsWhere (step config request) allowed initial events s) :
    Inv config request events s := by
  induction run with
  | zero => exact ⟨fun hReached => hReached.elim nofun nofun, rfl, rfl, rfl⟩
  | succ prior _ last ih => exact inv_step ih last

/-- Where the handler ends, it has waited for `tail`. -/
def Waited (s : State) : Prop := ∀ tail, s.phase = .ended (some tail) → tail.waited

omit [Unicode] in
theorem waited_change {act : Tail → Option Tail} (h : Waited s)
    (hKeeps : ∀ tail next, act tail = some next → Keeps tail next)
    (hChange : s.changeTail act = some t) : Waited t := by
  obtain ⟨phase, hPhase, rfl⟩ := Option.map_eq_some_iff.mp hChange
  intro next hEnded
  unfold Phase.change at hPhase
  split at hPhase
  case h_3 tail hOld =>
    obtain ⟨changed, hAct, hSame⟩ := Option.bind_eq_some_iff.mp hPhase
    cases hSame
    cases hEnded
    rw [(hKeeps tail next hAct).waited]
    exact h tail hOld
  case h_4 => cases hPhase
  all_goals
    obtain ⟨changed, -, hSame⟩ := Option.bind_eq_some_iff.mp hPhase
    cases hSame
    cases hEnded

theorem waited_step {event : Event} (h : Waited s) (hAllowed : Shielded s event)
    (hStep : step config request s event = some t) : Waited t := by
  cases event with
  | write bytes => exact waited_change h (fun _ _ => keeps_write) hStep
  | closeStdout => exact waited_change h (fun _ _ => keeps_closeStdout) hStep
  | exit => exact waited_change h (fun _ _ => keeps_exit) hStep
  | reap => exact waited_change h (fun _ _ => keeps_reap) hStep
  | cancel canceller =>
      cases hStep
      intro tail hEnded
      unfold Phase.cancel at hEnded
      split at hEnded
      case h_1 => cases hEnded
      case h_2 other hPhase =>
        split at hEnded
        case isTrue => cases hEnded
        case isFalse hTask =>
          have hSame : canceller = .task := by cases canceller <;> simp at hTask ⊢
          exact absurd hPhase (hAllowed (by rw [hSame]) other)
      case h_3 hPhase => exact h tail (hPhase.trans hEnded)
      case h_4 => cases hEnded
  | waitReturns =>
      intro tail hEnded
      simp only [step] at hStep
      grind
  | _ =>
      intro tail hEnded
      simp only [step] at hStep
      grind [check, locate, finish]

/-- The `tail` of a connection, and the frames that were sent of it. -/
theorem Inv.started {tail : Tail} (h : Inv config request events s)
    (hTail : s.phase.tail? = some tail) :
    Started config events s.inspections s.starts tail ∧ Pumps config s.sent tail.stdout .done := by
  have hProgress := h.progress
  generalize s.phase = phase at hProgress hTail
  cases phase with
  | streaming =>
      cases hTail
      exact ⟨hProgress.1, hProgress.2.done⟩
  | waiting =>
      cases hTail
      exact ⟨hProgress.1, hProgress.2.1⟩
  | ended =>
      cases hTail
      exact ⟨hProgress.1, hProgress.2.1⟩
  | _ => cases hTail

theorem Inv.guarded (h : Inv config request events s) : Guarded config request events s where
  crictl hInspected := h.checked (.inr hInspected)
  tail tail hTail := by
    have hStarted := (h.started hTail).1
    exact ⟨h.checked (.inr hStarted.inspected), hStarted.located⟩
  once := by
    cases hTail : s.phase.tail? with
    | none => exact (h.progress.unstarted hTail).1.le.trans (Nat.zero_le 1)
    | some tail => exact (h.started hTail).1.once.le

theorem Inv.apologised (h : Inv config request events s) : Apologised config request s := by
  intro hNone
  rcases (h.progress.unstarted hNone).2 with hSilent | ⟨hInspected, hSent⟩
  · exact .inl hSilent
  · exact .inr ⟨h.checked (.inr hInspected), hSent⟩

theorem Inv.streamed (h : Inv config request events s) : Streamed config s := by
  intro tail hTail
  obtain ⟨taken, hRead, hSent⟩ := (h.started hTail).2
  exact hSent.trans (hRead.taken_lines.map config.decode)

theorem Inv.stopped (h : Inv config request events s) : Stopped s := by
  intro tail hEnded
  have hProgress := h.progress
  rw [hEnded] at hProgress
  exact hProgress.2.2

/-- Nothing is started before the checks are passed, and the frames are the first lines
of `tail`, in every run. Where the handler ends, `tail` has exited or been killed. It has
been waited for unless the task of the handler was cancelled in the last wait. -/
theorem logStream (config : Config F) (request : Request) (events : List Event) (s : State) :
    (Runs (step config request) initial events s →
      Guarded config request events s ∧ Streamed config s ∧ Stopped s) ∧
      (RunsWhere (step config request) Shielded initial events s → Collected s) := by
  constructor
  · intro run
    have hInv := inv_run run
    exact ⟨hInv.guarded, hInv.streamed, hInv.stopped⟩
  · intro run tail hEnded
    have hStart : Waited initial := nofun
    have hWaited : Waited s :=
      run.invariant hStart fun _ _ _ h hAllowed hStep => waited_step h hAllowed hStep
    exact ⟨(inv_run run).stopped tail hEnded, hWaited tail hEnded⟩

/-- The handler has ended without having waited for its `tail`. -/
def State.leftTail (s : State) : Bool :=
  match s.phase with
  | .ended (some tail) => !tail.waited
  | _ => false

omit [Unicode] in
/-- `Task.cancel()` comes while the handler waits for the `tail` that it has killed. -/
theorem not_collected_cancelled : ¬ ∀ (F : Type) (_ : PyFloat F) (_ : Unicode) (config : Config F)
    (request : Request) (events : List Event) (s : State),
      Runs (step config request) initial events s → Collected s := by
  intro h
  let config : Config Int :=
    { hostRoot := "/host"
      loads := fun _ => .ok (.obj [("status", .obj [("logPath", .str "/var/log/pods/a/0.log")])])
      decode := fun _ => ""
      rejects := fun _ => false }
  let request : Request := ⟨none, none, String.ofList (List.replicate 64 'a')⟩
  let pods : RealPath := ⟨["host", "var", "log", "pods"], by decide +kernel⟩
  let log : RealPath := ⟨["host", "var", "log", "pods", "a", "0.log"], by decide +kernel⟩
  let events : List Event := [.begin, .completes,
    .inspected "\x7b\x7d" 0 (fun _ => .path pods) (fun _ => .path log), .completes,
    .receive true, .pumpStops false false, .join, .cancel .task]
  let _ : Unicode := Unicode.ascii
  have hEnd :
      (execute (step config request) initial events).map State.leftTail = some true := by
        decide +kernel
  obtain ⟨s, hRun, hEnded⟩ := Option.map_eq_some_iff.mp hEnd
  have hCollected :=
    h Int inferInstance inferInstance config request events s (runs_of_execute hRun)
  unfold State.leftTail at hEnded
  split at hEnded
  case h_1 tail hPhase =>
    rw [(hCollected tail hPhase).2] at hEnded
    cases hEnded
  case h_2 => cases hEnded

end NodeDebugDashboard.Routers.ContainerLogs
