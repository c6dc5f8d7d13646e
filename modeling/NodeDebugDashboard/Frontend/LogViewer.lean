import Mathlib.Data.List.Infix
import NodeDebugDashboard.Library.Runs

/-! The log viewer of app/static/app.js: `openLogViewer`, `closeLogViewer`, the handlers
of a log socket and the timer that flushes its lines into the page. -/
namespace NodeDebugDashboard.Frontend.LogViewer

open Library

/-- A string of the script, as its UTF-16 code units. -/
abbrev JsString := List UInt16

/-- A literal of the script whose characters are all of one unit. -/
def literal (text : String) : JsString := text.toList.map fun c => UInt16.ofNat c.toNat

def logMaxChars : Int := 2 * 1024 * 1024

/-- What the viewer shows before a socket opens. -/
def connecting : JsString := literal "Connecting...\n"

/-- `location` -/
structure Location where
  protocol : String
  host : String

/-- A log socket with the variables of its `openLogViewer`. -/
structure Socket where
  url : String
  /-- Its handlers are set. -/
  attached : Bool := true
  pending : List JsString := []
  /-- `flushTimer` is not null. -/
  flushTimer : Bool := false
  size : Int := 0
  /-- What was flushed, for the record. -/
  batches : List (List JsString) := []
  /-- How much of it was flushed before the socket last opened, for the record. -/
  opened : Option Nat := none

/-- The page and the sockets in the order of their creation. -/
structure State where
  hidden : Bool
  title : String
  /-- The text nodes of the `<pre>`. -/
  content : List JsString
  logSocket : Option Nat
  sockets : List Socket
  /-- The sockets whose `flush` the browser will call. -/
  timers : List Nat

inductive SocketEvent where
  | onopen
  | onmessage (data : JsString)
  | onerror
  | onclose

/-- The text that the handler of an event appends. -/
def SocketEvent.text? : SocketEvent → Option JsString
  | onopen => none
  | onmessage data => some data
  | onerror => some (literal "\n[WebSocket error]\n")
  | onclose => some (literal "\n[Connection closed]\n")

inductive Event where
  /-- `raises` when the `WebSocket` cannot be made. -/
  | openLogViewer (containerId containerName : String) (raises : Bool)
  | closeLogViewer
  | socket (i : Nat) (event : SocketEvent)
  /-- One of the timers is due. -/
  | timeout (k : Nat)

/-- The loop of `flush` that drops the oldest nodes. -/
def trim (size : Int) : List JsString → Int × List JsString
  | first :: second :: rest =>
      if size > logMaxChars then trim (size - first.length) (second :: rest)
      else (size, first :: second :: rest)
  | nodes => (size, nodes)

namespace State

/-- The script has been read. -/
def initial : State where
  hidden := true
  title := "Logs"
  content := []
  logSocket := none
  sockets := []
  timers := []

def closeLogSocket (s : State) : State :=
  match s.logSocket with
  | none => s
  | some i =>
      { s with
        logSocket := none
        sockets := s.sockets.modify i fun ws => { ws with attached := false } }

/-- A new socket takes over the viewer. -/
def connect (s : State) (url : String) : State :=
  { s with logSocket := some s.sockets.length, sockets := s.sockets ++ [{ url := url }] }

def openLogViewer (location : Location) (s : State) (containerId containerName : String)
    (raises : Bool) : State :=
  let cleared : State :=
    { s with hidden := false, title := "Logs: " ++
      containerName, content := [connecting] }.closeLogSocket
  let wsProtocol := if location.protocol = "https:" then "wss:" else "ws:"
  if raises then cleared
  else cleared.connect
    (wsProtocol ++ "//" ++ location.host ++ "/api/containers/" ++ containerId ++ "/logs")

def closeLogViewer (s : State) : State := { s with hidden := true }.closeLogSocket

/-- `flush` of a socket. -/
def flush (s : State) (i : Nat) (ws : Socket) : State :=
  if s.logSocket ≠ some i ∨ ws.pending = [] then
    { s with sockets := s.sockets.set i { ws with flushTimer := false } }
  else
    let text := ws.pending.flatten
    let trimmed := trim (ws.size + text.length) (s.content ++ [text])
    { s with
      content := trimmed.2
      sockets := s.sockets.set i
        { ws with
          flushTimer := false
          pending := []
          size := trimmed.1
          batches := ws.batches ++ [ws.pending] } }

/-- `appendLine` of a socket. -/
def appendLine (s : State) (i : Nat) (ws : Socket) (text : JsString) : State :=
  { s with
    sockets := s.sockets.set i { ws with pending := ws.pending ++ [text], flushTimer := true }
    timers := if ws.flushTimer then s.timers else s.timers ++ [i] }

/-- `ws.onopen` -/
def onopen (s : State) (i : Nat) (ws : Socket) : State :=
  { s with
    content := []
    sockets := s.sockets.set i { ws with size := 0, opened := some ws.batches.length } }

/-- The handler of a socket event, when it is set. -/
def handle (s : State) (i : Nat) (ws : Socket) (event : SocketEvent) : State :=
  if ws.attached = false ∨ s.logSocket ≠ some i then s
  else match event.text? with
    | some text => s.appendLine i ws text
    | none => s.onopen i ws

end State

def step (location : Location) (s : State) : Event → Option State
  | .openLogViewer containerId containerName raises =>
      some (s.openLogViewer location containerId containerName raises)
  | .closeLogViewer => some s.closeLogViewer
  | .socket i event => do
      let ws ← s.sockets[i]?
      some (s.handle i ws event)
  | .timeout k => do
      let i ← s.timers[k]?
      let ws ← s.sockets[i]?
      some ({ s with timers := s.timers.eraseIdx k }.flush i ws)

/-- The frames and notices of a socket in a sequence of events. -/
def heard (i : Nat) (events : List Event) : List JsString :=
  events.filterMap fun
    | .socket j event => if j = i then event.text? else none
    | _ => none

theorem heard_append (i : Nat) (events : List Event) (event : Event) :
    heard i (events ++ [event]) = heard i events ++ heard i [event] := by
  simp [heard, List.filterMap_append]

/-- Some of the oldest nodes go, the counter follows them, and in the end it is within
the limit or one node is left. -/
theorem trim_spec (size : Int) (nodes : List JsString) :
    (trim size nodes).2 <:+ nodes ∧
      (trim size nodes).1 - (trim size nodes).2.flatten.length = size - nodes.flatten.length ∧
      ((trim size nodes).1 ≤ logMaxChars ∨ (trim size nodes).2.length ≤ 1) := by
  induction size, nodes using trim.induct with
  | case1 size first second rest hOver ih =>
      obtain ⟨hSuffix, hSize, hEnd⟩ := ih
      rw [trim, if_pos hOver]
      refine ⟨hSuffix.trans (List.suffix_cons _ _), ?_, hEnd⟩
      rw [hSize]
      simp
      omega
  | case2 size first second rest hWithin =>
      rw [trim, if_neg hWithin]
      exact ⟨List.suffix_rfl, rfl, .inl (Int.not_lt.mp hWithin)⟩
  | case3 size nodes hShort =>
      have hSame : trim size nodes = (size, nodes) := by
        rw [trim]
        exact hShort
      rw [hSame]
      refine ⟨List.suffix_rfl, rfl, .inr ?_⟩
      match nodes, hShort with
      | [], _ => simp
      | [_], _ => simp
      | first :: second :: rest, hShort => exact (hShort first second rest rfl).elim

/-- What the viewer holds of a socket: before it opens the placeholder and its batches,
afterwards the last of the batches since then. The counter leaves the placeholder out. -/
inductive Shows (content : List JsString) (ws : Socket) : Prop where
  | waiting (unopened : ws.opened = none)
      (nodes : content <:+ connecting :: ws.batches.map List.flatten)
      (size : ws.size = (content.flatten.length : Int) - connecting.length)
  | since (n : Nat) (opened : ws.opened = some n) (reached : n ≤ ws.batches.length)
      (nodes : content <:+ (ws.batches.drop n).map List.flatten)
      (size : ws.size = content.flatten.length)

/-- The viewer belongs to the current socket, and what came in on it is in its batches
or still pending. -/
structure Current (events : List Event) (content : List JsString) (i : Nat)
    (ws : Socket) : Prop where
  attached : ws.attached = true
  texts : ws.batches.flatten ++ ws.pending = heard i events
  opened : .socket i .onopen ∈ events → ws.opened.isSome
  shows : Shows content ws
  capped : ws.size ≤ logMaxChars ∨ content.length ≤ 1

structure Inv (events : List Event) (s : State) : Prop where
  current :
      ∀ i, s.logSocket = some i → ∃ ws, s.sockets[i]? = some ws ∧ Current events s.content i ws
  later : ∀ i event, s.sockets.length ≤ i → .socket i event ∉ events

/-- A flush appends its batch, and then drops the oldest nodes. -/
theorem Shows.flush {content : List JsString} {ws : Socket} (h : Shows content ws)
    {size : Int} {nodes : List JsString} (hSuffix : nodes <:+ content ++ [ws.pending.flatten])
    (hSize : size - nodes.flatten.length =
      ws.size + ws.pending.flatten.length - (content ++ [ws.pending.flatten]).flatten.length) :
    Shows nodes { ws with
      flushTimer := false
      pending := []
      size := size
      batches := ws.batches ++ [ws.pending] } := by
  have hLength : ((content ++ [ws.pending.flatten]).flatten.length : Int) =
      content.flatten.length + ws.pending.flatten.length := by simp
  cases h with
  | waiting unopened hNodes hCounter =>
      refine .waiting unopened ?_ (by change size = _; omega)
      have hAppended := hSuffix.trans (List.suffix_append_self_iff.mpr hNodes)
      simpa using hAppended
  | since n opened reached hNodes hCounter =>
      refine .since n opened (by simp; omega) ?_ (by change size = _; omega)
      have hAppended := hSuffix.trans (List.suffix_append_self_iff.mpr hNodes)
      simpa [List.drop_append_of_le_length reached] using hAppended

theorem Current.flush {events : List Event} {content : List JsString} {i : Nat} {ws : Socket}
    (h : Current events content i ws) :
    let trimmed := trim (ws.size + ws.pending.flatten.length) (content ++ [ws.pending.flatten])
    Current events trimmed.2 i { ws with
      flushTimer := false
      pending := []
      size := trimmed.1
      batches := ws.batches ++ [ws.pending] } := by
  obtain ⟨hSuffix, hSize, hEnd⟩ :=
    trim_spec (ws.size + ws.pending.flatten.length) (content ++ [ws.pending.flatten])
  exact
    { attached := h.attached
      texts := by simpa using h.texts
      opened := h.opened
      shows := h.shows.flush hSuffix hSize
      capped := hEnd }

theorem Current.unflushed {events : List Event} {content : List JsString} {i : Nat} {ws : Socket}
    (h : Current events content i ws) :
    Current events content i { ws with flushTimer := false } where
  attached := h.attached
  texts := h.texts
  opened := h.opened
  shows := match h.shows with
    | .waiting unopened nodes size => .waiting unopened nodes size
    | .since n opened reached nodes size => .since n opened reached nodes size
  capped := h.capped

/-- An event of anything else leaves the viewer to its socket. -/
theorem Current.other {events : List Event} {content : List JsString} {i : Nat} {ws : Socket}
    (h : Current events content i ws) {event : Event} (hOther : ∀ e, event ≠ .socket i e) :
    Current (events ++ [event]) content i ws where
  attached := h.attached
  texts := by
    have hSilent : heard i [event] = [] := by
      cases event with
      | socket j e =>
          have hNe : j ≠ i := fun hSame => hOther e (by rw [hSame])
          simp [heard, hNe]
      | _ => rfl
    rw [heard_append, hSilent, h.texts, List.append_nil]
  opened hMem := by
    rcases List.mem_append.mp hMem with hOld | hNew
    · exact h.opened hOld
    · exact absurd (List.mem_singleton.mp hNew).symm (hOther _)
  shows := h.shows
  capped := h.capped

/-- A frame or a notice waits for the next flush. -/
theorem Current.appendLine {events : List Event} {content : List JsString} {i : Nat} {ws : Socket}
    (h : Current events content i ws) {event : SocketEvent} {text : JsString}
    (hText : event.text? = some text) :
    Current (events ++ [.socket i event]) content i
      { ws with pending := ws.pending ++ [text], flushTimer := true } where
  attached := h.attached
  texts := by
    have hHeard : heard i [.socket i event] = [text] := by simp [heard, hText]
    rw [heard_append, hHeard, ← h.texts, List.append_assoc]
  opened hMem := by
    rcases List.mem_append.mp hMem with hOld | hNew
    · exact h.opened hOld
    · obtain ⟨-, rfl⟩ := Event.socket.inj (List.mem_singleton.mp hNew)
      cases hText
  shows := match h.shows with
    | .waiting unopened nodes size => .waiting unopened nodes size
    | .since n opened reached nodes size => .since n opened reached nodes size
  capped := h.capped

/-- The viewer is emptied when the socket opens. -/
theorem Current.onopen {events : List Event} {content : List JsString} {i : Nat} {ws : Socket}
    (h : Current events content i ws) :
    Current (events ++ [.socket i .onopen]) [] i
      { ws with size := 0, opened := some ws.batches.length } where
  attached := h.attached
  texts := by
    have hSilent : heard i [.socket i .onopen] = [] := by simp [heard, SocketEvent.text?]
    rw [heard_append, hSilent, h.texts, List.append_nil]
  opened _ := rfl
  shows := .since _ rfl le_rfl List.nil_suffix rfl
  capped := .inr (Nat.zero_le 1)

/-- A new socket has heard nothing, and the placeholder is all there is. -/
theorem Current.new {events : List Event} {i : Nat} (hNew : ∀ event, .socket i event ∉ events)
    (url : String) : Current events [connecting] i { url := url } where
  attached := rfl
  texts := by
    symm
    apply List.filterMap_eq_nil_iff.mpr
    intro event hMem
    cases event with
    | socket j e =>
        by_cases hSame : j = i
        · subst hSame
          exact absurd hMem (hNew e)
        · simp [hSame]
    | _ => rfl
  opened hMem := absurd hMem (hNew _)
  shows := .waiting rfl List.suffix_rfl (by simp)
  capped := .inr le_rfl

theorem State.closeLogSocket_logSocket (s : State) : s.closeLogSocket.logSocket = none := by
  unfold State.closeLogSocket
  split
  · assumption
  · rfl

theorem State.closeLogSocket_length (s : State) :
    s.closeLogSocket.sockets.length = s.sockets.length := by
  unfold State.closeLogSocket
  split
  · rfl
  · simp

theorem State.closeLogSocket_content (s : State) : s.closeLogSocket.content = s.content := by
  unfold State.closeLogSocket
  split <;> rfl

/-- What a socket's handler or timer does, when only the current socket touches the
viewer. -/
theorem Inv.set {events : List Event} {s : State} (h : Inv events s) {i : Nat} {ws next : Socket}
    {event : Event} {content : List JsString} (timers : List Nat)
    (hSocket : s.sockets[i]? = some ws) (hOf : ∀ j e, event = .socket j e → j = i)
    (hNext : s.logSocket = some i → Current events s.content i ws →
      Current (events ++ [event]) content i next)
    (hContent : s.logSocket ≠ some i → content = s.content) :
    Inv (events ++ [event])
      { s with content := content, sockets := s.sockets.set i next, timers := timers } where
  current j hCurrent := by
    obtain ⟨wsj, hj, hInv⟩ := h.current j hCurrent
    by_cases hSame : j = i
    · subst hSame
      obtain rfl := Option.some.inj (hj.symm.trans hSocket)
      have hLength : j < s.sockets.length := (List.getElem?_eq_some_iff.mp hSocket).1
      exact ⟨next, by simp [hLength], hNext hCurrent hInv⟩
    · have hOther : s.logSocket ≠ some i := by
        rw [show s.logSocket = some j from hCurrent]
        exact fun hEq => hSame (Option.some.inj hEq)
      rw [hContent hOther]
      refine ⟨wsj, ?_, hInv.other fun e hEvent => hSame (hOf j e hEvent)⟩
      simpa [List.getElem?_set_ne (Ne.symm hSame)] using hj
  later j e hLater hMem := by
    have hLength : i < s.sockets.length := (List.getElem?_eq_some_iff.mp hSocket).1
    have hBeyond : s.sockets.length ≤ j := by simpa using hLater
    rcases List.mem_append.mp hMem with hOld | hLast
    · exact h.later j e hBeyond hOld
    · have hIndex := hOf j e (List.mem_singleton.mp hLast).symm
      omega

/-- No socket has the viewer. -/
theorem Inv.vacant {events : List Event} {s t : State} (h : Inv events s) {event : Event}
    (hNone : t.logSocket = none) (hLength : t.sockets.length = s.sockets.length)
    (hOther : ∀ j e, event ≠ .socket j e) : Inv (events ++ [event]) t where
  current i hCurrent := by simp [hNone] at hCurrent
  later i e hLater hMem := by
    rcases List.mem_append.mp hMem with hOld | hLast
    · exact h.later i e (hLength ▸ hLater) hOld
    · exact hOther i e (List.mem_singleton.mp hLast).symm

theorem Inv.connect {events : List Event} {s : State} (h : Inv events s) (url : String)
    (hContent : s.content = [connecting]) : Inv events (s.connect url) where
  current i hCurrent := by
    obtain rfl := Option.some.inj hCurrent
    refine ⟨{ url := url }, by simp [State.connect], ?_⟩
    change Current events s.content s.sockets.length { url := url }
    rw [hContent]
    exact Current.new (fun e => h.later _ e le_rfl) url
  later i e hLater := by
    apply h.later
    simp only [State.connect, List.length_append] at hLater
    omega

theorem Inv.openLogViewer {events : List Event} {s : State} (h : Inv events s) (location : Location)
    (containerId containerName : String) (raises : Bool) :
    Inv (events ++ [.openLogViewer containerId containerName raises])
      (s.openLogViewer location containerId containerName raises) := by
  have hVacant : Inv (events ++ [.openLogViewer containerId containerName raises])
      { s with hidden := false, title := "Logs: " ++
        containerName, content := [connecting] }.closeLogSocket :=
    h.vacant (State.closeLogSocket_logSocket _) (State.closeLogSocket_length _) nofun
  cases raises with
  | true => exact hVacant
  | false => exact hVacant.connect _ (State.closeLogSocket_content _)

theorem Inv.handle {events : List Event} {s : State} (h : Inv events s) {i : Nat} {ws : Socket}
    (hSocket : s.sockets[i]? = some ws) (event : SocketEvent) :
    Inv (events ++ [.socket i event]) (s.handle i ws event) := by
  have hOf : ∀ j e, Event.socket i event = .socket j e → j = i :=
    fun _ _ hSame => (Event.socket.inj hSame).1.symm
  unfold State.handle
  split_ifs with hIgnored
  · -- a socket without handlers is not the current one
    have hLeft : s.logSocket ≠ some i := by
      rcases hIgnored with hDetached | hLeft
      · intro hCurrent
        obtain ⟨other, hOther, hInv⟩ := h.current i hCurrent
        obtain rfl := Option.some.inj (hOther.symm.trans hSocket)
        simp [hInv.attached] at hDetached
      · exact hLeft
    have hKept : Inv (events ++ [.socket i event])
        { s with content := s.content, sockets := s.sockets.set i ws, timers := s.timers } :=
      h.set _ hSocket hOf (fun hCurrent => absurd hCurrent hLeft) fun _ => rfl
    obtain ⟨hLength, hGet⟩ := List.getElem?_eq_some_iff.mp hSocket
    have hSelf : s.sockets.set i ws = s.sockets := by rw [← hGet, List.set_getElem_self]
    rwa [hSelf] at hKept
  · have hCurrent : s.logSocket = some i := by
      by_contra hLeft
      exact hIgnored (.inr hLeft)
    cases event with
    | onopen =>
        exact h.set _ hSocket hOf (fun _ hInv => hInv.onopen) fun hLeft => absurd hCurrent hLeft
    | _ => exact h.set _ hSocket hOf (fun _ hInv => hInv.appendLine rfl) fun _ => rfl

theorem Inv.timeout {events : List Event} {s : State} (h : Inv events s) {i : Nat} {ws : Socket}
    (hSocket : s.sockets[i]? = some ws) (k : Nat) :
    Inv (events ++ [.timeout k]) ({ s with timers := s.timers.eraseIdx k }.flush i ws) := by
  unfold State.flush
  split_ifs with hIdle
  · exact h.set _ hSocket nofun (fun _ hInv => hInv.unflushed.other nofun) fun _ => rfl
  · have hCurrent : s.logSocket = some i := by
      by_contra hLeft
      exact hIdle (.inl hLeft)
    exact h.set _ hSocket nofun (fun _ hInv => hInv.flush.other nofun) fun hLeft =>
      absurd hCurrent hLeft

theorem step_keeps {location : Location} {events : List Event} {s t : State} {event : Event}
    (h : Inv events s) (hStep : step location s event = some t) : Inv (events ++ [event]) t := by
  cases event with
  | openLogViewer containerId containerName raises =>
      obtain rfl := Option.some.inj hStep
      exact h.openLogViewer location containerId containerName raises
  | closeLogViewer =>
      obtain rfl := Option.some.inj hStep
      exact h.vacant (State.closeLogSocket_logSocket _) (State.closeLogSocket_length _) nofun
  | socket i event =>
      obtain ⟨ws, hSocket, hStep⟩ := Option.bind_eq_some_iff.mp hStep
      obtain rfl := Option.some.inj hStep
      exact h.handle hSocket event
  | timeout k =>
      obtain ⟨i, hTimer, hStep⟩ := Option.bind_eq_some_iff.mp hStep
      obtain ⟨ws, hSocket, hStep⟩ := Option.bind_eq_some_iff.mp hStep
      obtain rfl := Option.some.inj hStep
      exact h.timeout hSocket k

theorem inv_of_runs {location : Location} {events : List Event} {s : State}
    (run : Runs (step location) .initial events s) : Inv events s := by
  induction run with
  | zero => exact ⟨nofun, nofun⟩
  | succ prior _ last ih => exact step_keeps ih last

/-- The frames and notices of the current socket are in its batches or still pending,
each once and in order. Once it has opened, the nodes of the viewer are the last of the
batches flushed since then, within the limit unless there is just one; before, the
placeholder may come on top of the limit. -/
theorem logViewerIsolation {location : Location} {events : List Event} {s : State}
    (run : Runs (step location) .initial events s) {i : Nat} (hCurrent : s.logSocket = some i) :
    ∃ ws, s.sockets[i]? = some ws ∧ ws.batches.flatten ++ ws.pending = heard i events ∧
      (.socket i .onopen ∈ events → ∃ n, ws.opened = some n ∧
        s.content <:+ (ws.batches.drop n).map List.flatten ∧
        (s.content.flatten.length ≤ logMaxChars ∨ s.content.length ≤ 1)) ∧
      (s.content.flatten.length ≤ logMaxChars + connecting.length ∨ s.content.length ≤ 1) := by
  obtain ⟨ws, hSocket, hInv⟩ := (inv_of_runs run).current i hCurrent
  refine ⟨ws, hSocket, hInv.texts, ?_⟩
  cases hInv.shows with
  | waiting unopened nodes size =>
      constructor
      · intro hOpened
        have hSome := hInv.opened hOpened
        simp [unopened] at hSome
      · exact hInv.capped.imp_left fun hCapped => by omega
  | since n opened reached nodes size =>
      have hCapped : (s.content.flatten.length : Int) ≤ logMaxChars ∨ s.content.length ≤ 1 :=
        size ▸ hInv.capped
      exact ⟨fun _ => ⟨n, opened, nodes, hCapped⟩, hCapped.imp_left fun h => by omega⟩

/-- Lines of a container that the viewer has left, and its timer, come after the viewer
has gone on to another one. -/
def switched : List Event :=
  [.openLogViewer "a" "first" false, .socket 0 .onopen, .socket 0 (.onmessage (literal "old
")),
    .openLogViewer "b" "second" false, .socket 1 .onopen, .socket 1 (.onmessage (literal "x
")),
    .socket 0 (.onmessage (literal "late
")), .timeout 0, .socket 1 (.onmessage (literal "y
")),
    .timeout 0, .socket 0 .onclose]

theorem logViewerIsolation_switched :
    ∃ s, Runs (step ⟨"https:", "node"⟩) .initial switched s ∧ s.content = [literal "x
y
"] ∧
      ∃ ws, s.sockets[1]? = some ws ∧
        ws.batches.flatten ++ ws.pending = heard 1 switched ∧ s.content.length ≤ 1 := by
  have hRun : Runs (step ⟨"https:", "node"⟩) .initial switched
      ((execute (step ⟨"https:", "node"⟩) .initial switched).get (by decide +kernel)) :=
    runs_of_execute (Option.some_get _).symm
  obtain ⟨ws, hSocket, hTexts, -, -⟩ := @logViewerIsolation _ _ _ hRun 1 (by decide +kernel)
  exact ⟨_, hRun, by decide +kernel, ws, hSocket, hTexts, by decide +kernel⟩

end NodeDebugDashboard.Frontend.LogViewer
