import NodeDebugDashboard.Auth.Soundness
import NodeDebugDashboard.Frontend.LogTail
import NodeDebugDashboard.Routers.ContainerLogs

/-! A log from its file to the page: the viewer of app/static/app.js, one connection for
each of its sockets, and the middleware and `container_logs` at the other end. -/
namespace NodeDebugDashboard.Dashboard.LogStream

open Library Library.Python Library.Text Auth Routers Frontend
open LogViewer (JsString heard)

variable {F : Type}

/-- An id that stands in a URL as it is. -/
def PlainId (id : String) : Prop := id ≠ "" ∧ ∀ c ∈ id.toList, c.isAlphanum = true

instance : DecidablePred PlainId := fun id => inferInstanceAs (Decidable (id ≠ "" ∧ _))

/-- The path that the viewer asks for. -/
def logPath (containerId : String) : String := "/api/containers/" ++ containerId ++ "/logs"

/-- What the two ends have around them. -/
structure Env (F : Type) where
  auth : Auth.Config
  logs : ContainerLogs.Config F
  location : LogViewer.Location
  /-- The `container_id` that the router finds in a path. -/
  route : String → Option String
  route_logPath : ∀ id, PlainId id → route (logPath id) = some id
  route_health : route "/api/health" = none

/-- `websocket.headers.get(name)` -/
def headerOf (scope : Scope) (name : String) : Option String :=
  (scope.headers.find? fun h => h.1 = encodeUtf8 name.toList).map fun h =>
    String.ofList (decodeLatin1 h.2)

/-- What `container_logs` reads of a scope that is routed to it. -/
def requestOf (env : Env F) (scope : Scope) : Option ContainerLogs.Request := do
  let path ← scope.path
  let containerId ← env.route path
  return { origin := headerOf scope "origin", host := headerOf scope "host",
           containerId := containerId }

/-- The request that the middleware passes on to `container_logs`. -/
def admitted (env : Env F) (scope : Scope) : Option ContainerLogs.Request :=
  if authMiddleware env.auth scope = [.app] then requestOf env scope else none

/-- The string that the script gets of a text frame. -/
def codeUnits (text : String) : JsString :=
  text.toList.flatMap fun c =>
    if c.toNat < 0x10000 then [UInt16.ofNat c.toNat]
    else
      let rest := c.toNat - 0x10000
      [UInt16.ofNat (0xD800 + rest / 0x400), UInt16.ofNat (0xDC00 + rest % 0x400)]

/-- The server's end of a log socket, and what the viewer opened it for. -/
structure Connection where
  containerId : String
  containerName : String
  scope : Scope
  handler : ContainerLogs.State := ContainerLogs.initial
  /-- What happened to the handler, for the record. -/
  record : List ContainerLogs.Event := []
  /-- How many of its frames have come in. -/
  delivered : Nat := 0

structure State where
  viewer : LogViewer.State
  /-- What happened in the page, for the record. -/
  record : List LogViewer.Event
  /-- The connections of the sockets, in the order of their creation. -/
  connections : List Connection

/-- What the browser tells of a socket but for its frames. -/
inductive Signal where
  | opened
  | failed
  | closed

def Signal.event : Signal → LogViewer.SocketEvent
  | opened => .onopen
  | failed => .onerror
  | closed => .onclose

inductive Event where
  /-- A button is pressed, and the browser asks for the scope. -/
  | openLogViewer (containerId containerName : String) (raises : Bool) (scope : Scope)
  | closeLogViewer
  | timeout (k : Nat)
  | signal (i : Nat) (signal : Signal)
  /-- The next frame of a connection comes in. -/
  | deliver (i : Nat)
  | handler (i : Nat) (event : ContainerLogs.Event)

def initial : State where
  viewer := .initial
  record := []
  connections := []

def State.browse (env : Env F) (s : State) (event : LogViewer.Event) : Option State := do
  let viewer ← LogViewer.step env.location s.viewer event
  return { s with viewer := viewer, record := s.record ++ [event] }

/-- The browser asks for the path of the URL over the right protocol. -/
def Asks (scope : Scope) (containerId : String) : Prop :=
  scope.type = .websocket ∧ (PlainId containerId → scope.path = some (logPath containerId))

instance (scope : Scope) (containerId : String) : Decidable (Asks scope containerId) :=
  inferInstanceAs (Decidable (_ ∧ _))

section

variable [PyFloat F] [Unicode]

def step (env : Env F) (s : State) : Event → Option State
  | .openLogViewer containerId containerName raises scope => do
      let t ← s.browse env (.openLogViewer containerId containerName raises)
      if raises then return t
      else if Asks scope containerId then
        return { t with
          connections := t.connections ++
            [{ containerId := containerId, containerName := containerName, scope := scope }] }
      else none
  | .closeLogViewer => s.browse env .closeLogViewer
  | .timeout k => s.browse env (.timeout k)
  | .signal i signal => s.browse env (.socket i signal.event)
  | .deliver i => do
      let c ← s.connections[i]?
      let frame ← c.handler.sent[c.delivered]?
      let t ← s.browse env (.socket i (.onmessage (codeUnits frame)))
      return { t with connections := t.connections.set i { c with delivered := c.delivered + 1 } }
  | .handler i event => do
      let c ← s.connections[i]?
      let request ← admitted env c.scope
      let handler ← ContainerLogs.step env.logs request c.handler event
      return { s with
        connections :=
          s.connections.set i { c with handler := handler, record := c.record ++ [event] } }

end

/-- The frames of a socket that came in. -/
def messages (i : Nat) (record : List LogViewer.Event) : List JsString :=
  record.filterMap fun
    | .socket j (.onmessage data) => if j = i then some data else none
    | _ => none

theorem messages_append (i : Nat) (record more : List LogViewer.Event) :
    messages i (record ++ more) = messages i record ++ messages i more := List.filterMap_append

/-- The containers whose buttons were pressed. -/
def pressed (record : List LogViewer.Event) : List (String × String) :=
  record.filterMap fun
    | .openLogViewer containerId containerName _ => some (containerId, containerName)
    | _ => none

theorem pressed_append_other {event : LogViewer.Event} (record : List LogViewer.Event)
    (hOther : ∀ id name raises, event ≠ .openLogViewer id name raises) :
    pressed (record ++ [event]) = pressed record := by
  rw [pressed, List.filterMap_append]
  cases event with
  | openLogViewer id name raises => exact absurd rfl (hOther id name raises)
  | _ => exact List.append_nil _

/-- The connection is that of the container whose button was pressed last, as the title
says. -/
structure Presents (title : String) (record : List LogViewer.Event) (c : Connection) : Prop where
  last : (pressed record).getLast? = some (c.containerId, c.containerName)
  title : title = "Logs: " ++ c.containerName

theorem Presents.other {title later : String} {record : List LogViewer.Event} {c : Connection}
    {event : LogViewer.Event} (h : Presents title record c) (hTitle : later = title)
    (hOther : ∀ id name raises, event ≠ .openLogViewer id name raises) :
    Presents later (record ++ [event]) c where
  last := by rw [pressed_append_other record hOther, h.last]
  title := hTitle.trans h.title

/-- The frames are among what the viewer heard, which are else the notices. -/
theorem messages_sublist (i : Nat) (record : List LogViewer.Event) :
    (messages i record).Sublist (heard i record) := by
  induction record with
  | nil => exact List.Sublist.refl _
  | cons event rest ih =>
      rw [show event :: rest = [event] ++ rest from rfl, messages_append, heard,
        List.filterMap_append]
      refine List.Sublist.append ?_ ih
      cases event with
      | socket j event =>
          by_cases hSame : j = i
          · cases event <;> simp [messages, LogViewer.SocketEvent.text?, hSame]
          · cases event <;> simp [messages, hSame]
      | _ => exact List.Sublist.refl _

theorem closeLogSocket_title (s : LogViewer.State) : s.closeLogSocket.title = s.title := by
  unfold LogViewer.State.closeLogSocket
  split <;> rfl

/-- Nothing but a button changes the title or the number of sockets, or gives the viewer to
another one. -/
theorem viewer_step_other {location : LogViewer.Location} {s t : LogViewer.State}
    {event : LogViewer.Event} (hStep : LogViewer.step location s event = some t)
    (hOther : ∀ id name raises, event ≠ .openLogViewer id name raises) :
    t.title = s.title ∧ t.sockets.length = s.sockets.length ∧
      (t.logSocket = s.logSocket ∨ t.logSocket = none) := by
  cases event with
  | openLogViewer id name raises => exact absurd rfl (hOther id name raises)
  | closeLogViewer =>
      obtain rfl := Option.some.inj hStep
      exact ⟨closeLogSocket_title _, LogViewer.State.closeLogSocket_length _,
        .inr (LogViewer.State.closeLogSocket_logSocket _)⟩
  | socket i event =>
      obtain ⟨ws, hSocket, hStep⟩ := Option.bind_eq_some_iff.mp hStep
      obtain rfl := Option.some.inj hStep
      unfold LogViewer.State.handle
      split_ifs
      · exact ⟨rfl, rfl, .inl rfl⟩
      · cases event <;>
          exact ⟨rfl, List.length_set .., .inl rfl⟩
  | timeout k =>
      obtain ⟨i, hTimer, hStep⟩ := Option.bind_eq_some_iff.mp hStep
      obtain ⟨ws, hSocket, hStep⟩ := Option.bind_eq_some_iff.mp hStep
      obtain rfl := Option.some.inj hStep
      unfold LogViewer.State.flush
      split_ifs <;> exact ⟨rfl, List.length_set .., .inl rfl⟩

/-- The viewer goes on to a socket that was not there before, or to none. -/
theorem viewer_step_open {location : LogViewer.Location} {s t : LogViewer.State} {id name : String}
    {raises : Bool} (hStep : LogViewer.step location s (.openLogViewer id name raises) = some t) :
    t.title = "Logs: " ++ name ∧
      if raises then t.logSocket = none ∧ t.sockets.length = s.sockets.length
      else t.logSocket = some s.sockets.length ∧ t.sockets.length = s.sockets.length + 1 := by
  obtain rfl := Option.some.inj hStep
  cases raises with
  | true =>
      exact ⟨closeLogSocket_title _, LogViewer.State.closeLogSocket_logSocket _,
        LogViewer.State.closeLogSocket_length _⟩
  | false =>
      refine ⟨closeLogSocket_title _, congrArg some (LogViewer.State.closeLogSocket_length _), ?_⟩
      simp [LogViewer.State.openLogViewer, LogViewer.State.connect,
        LogViewer.State.closeLogSocket_length]

section

variable [PyFloat F] [Unicode] {env : Env F}

/-- What was sent stays sent. -/
theorem sent_prefix {config : ContainerLogs.Config F} {request : ContainerLogs.Request}
    {s t : ContainerLogs.State} {event : ContainerLogs.Event}
    (hStep : ContainerLogs.step config request s event = some t) : s.sent <+: t.sent := by
  cases event with
  | write | closeStdout | exit | reap =>
      obtain ⟨phase, -, rfl⟩ := Option.map_eq_some_iff.mp hStep
      exact List.prefix_refl _
  | _ =>
      simp only [ContainerLogs.step] at hStep
      grind

/-- A connection was asked for by the viewer, its handler runs for its request behind the
middleware, and no more came in than was sent. -/
structure Connection.Inv (env : Env F) (c : Connection) : Prop where
  asks : Asks c.scope c.containerId
  handled : c.record = [] ∧ c.handler = ContainerLogs.initial ∨
    ∃ request, admitted env c.scope = some request ∧
      Runs (ContainerLogs.step env.logs request) ContainerLogs.initial c.record c.handler
  delivered : c.delivered ≤ c.handler.sent.length

/-- The page is in a state that it can reach by itself, and each of its sockets has heard the
first of the frames of its connection. -/
structure Inv (env : Env F) (s : State) : Prop where
  viewer : Runs (LogViewer.step env.location) .initial s.record s.viewer
  paired : s.viewer.sockets.length = s.connections.length
  connections : ∀ c ∈ s.connections, c.Inv env
  messages : ∀ (i : Nat) (c : Connection), s.connections[i]? = some c →
    LogStream.messages i s.record = (c.handler.sent.take c.delivered).map codeUnits
  current : ∀ i, s.viewer.logSocket = some i → ∃ c, s.connections[i]? = some c ∧
    i + 1 = s.connections.length ∧ Presents s.viewer.title s.record c

theorem Inv.initial : Inv env LogStream.initial where
  viewer := .zero _
  paired := rfl
  connections := by simp [LogStream.initial]
  messages := by simp [LogStream.initial]
  current := nofun

omit [PyFloat F] [Unicode] in
theorem browse_eq_some {s t : State} {event : LogViewer.Event}
    (hStep : s.browse env event = some t) :
    ∃ viewer, LogViewer.step env.location s.viewer event = some viewer ∧
      t = { s with viewer := viewer, record := s.record ++ [event] } := by
  obtain ⟨viewer, hViewer, hSame⟩ := Option.bind_eq_some_iff.mp hStep
  exact ⟨viewer, hViewer, (Option.some.inj hSame).symm⟩

/-- Something happens in the page that is neither a button nor a frame. -/
theorem Inv.browse {s t : State} {event : LogViewer.Event} (h : Inv env s)
    (hStep : s.browse env event = some t)
    (hOther : ∀ id name raises, event ≠ .openLogViewer id name raises)
    (hSilent : ∀ i, LogStream.messages i [event] = []) : Inv env t := by
  obtain ⟨viewer, hViewer, rfl⟩ := browse_eq_some hStep
  obtain ⟨hTitle, hLength, hSocket⟩ := viewer_step_other hViewer hOther
  refine ⟨h.viewer.succ trivial hViewer, hLength.trans h.paired, h.connections, ?_, ?_⟩
  · intro i c hConnection
    rw [messages_append, hSilent i, List.append_nil]
    exact h.messages i c hConnection
  · intro i hCurrent
    have hBefore : s.viewer.logSocket = some i := by
      rcases hSocket with hKept | hNone
      · exact hKept.symm.trans hCurrent
      · simp [hNone] at hCurrent
    obtain ⟨c, hConnection, hLast, hShown⟩ := h.current i hBefore
    exact ⟨c, hConnection, hLast, hShown.other hTitle hOther⟩

/-- The connection of a new socket has heard nothing. -/
theorem Inv.messages_new {s : State} (h : Inv env s) {i : Nat} (hNew : s.connections.length ≤ i) :
    LogStream.messages i s.record = [] := by
  have hNone : heard i s.record = [] := by
    refine List.filterMap_eq_nil_iff.mpr fun event hMem => ?_
    cases event with
    | socket j event =>
        by_cases hSame : j = i
        · subst hSame
          exact absurd hMem ((LogViewer.inv_of_runs h.viewer).later j event (h.paired ▸ hNew))
        · simp [hSame]
    | _ => rfl
  exact List.sublist_nil.mp (hNone ▸ messages_sublist i s.record)

theorem Inv.openLogViewer {s t : State} {id name : String} {raises : Bool} {scope : Scope}
    (h : Inv env s) (hStep : step env s (.openLogViewer id name raises scope) = some t) :
    Inv env t := by
  rw [step] at hStep
  obtain ⟨middle, hBrowse, hStep⟩ := Option.bind_eq_some_iff.mp hStep
  obtain ⟨viewer, hViewer, rfl⟩ := browse_eq_some hBrowse
  have hRun := h.viewer.succ trivial hViewer
  have hOpened := viewer_step_open hViewer
  have hMessages : ∀ i, LogStream.messages i (s.record ++ [.openLogViewer id name raises]) =
      LogStream.messages i s.record := by
    intro i
    rw [messages_append]
    exact List.append_nil _
  cases raises with
  | true =>
      obtain rfl := Option.some.inj hStep
      obtain ⟨-, hNone, hLength⟩ := hOpened
      refine ⟨hRun, hLength.trans h.paired, h.connections, ?_, ?_⟩
      · intro i c hConnection
        rw [hMessages]
        exact h.messages i c hConnection
      · intro i hCurrent
        simp [hNone] at hCurrent
  | false =>
      obtain ⟨hTitle, hSocket, hLength⟩ := hOpened
      rw [if_neg Bool.false_ne_true, Option.ite_none_right_eq_some] at hStep
      obtain ⟨hAsks, hSame⟩ := hStep
      obtain rfl := Option.some.inj hSame
      refine ⟨hRun, ?_, ?_, ?_, ?_⟩
      · simpa [h.paired] using hLength
      · intro c hMem
        rcases List.mem_append.mp hMem with hOld | hNew
        · exact h.connections c hOld
        · rw [List.mem_singleton.mp hNew]
          exact ⟨hAsks, .inl ⟨rfl, rfl⟩, le_refl _⟩
      · intro i c hConnection
        rw [hMessages]
        by_cases hOld : i < s.connections.length
        · rw [List.getElem?_append_left hOld] at hConnection
          exact h.messages i c hConnection
        · rw [h.messages_new (Nat.le_of_not_lt hOld)]
          rw [List.getElem?_append_right (Nat.le_of_not_lt hOld)] at hConnection
          rw [List.mem_singleton.mp (List.mem_of_getElem? hConnection)]
          rfl
      · intro i hCurrent
        obtain rfl : i = s.connections.length := by
          rw [← h.paired]
          exact Option.some.inj (hCurrent.symm.trans hSocket)
        refine ⟨{ containerId := id, containerName := name, scope := scope }, by simp,
          by simp, ?_, hTitle⟩
        simp [pressed]

/-- A connection goes on by itself or hands over a frame. -/
theorem Inv.set {s : State} {i : Nat} {c next : Connection} (h : Inv env s)
    (hConnection : s.connections[i]? = some c) (hNext : next.Inv env)
    (hFor : next.containerId = c.containerId ∧ next.containerName = c.containerName)
    (hMessages : LogStream.messages i s.record =
      (next.handler.sent.take next.delivered).map codeUnits) :
    Inv env { s with connections := s.connections.set i next } where
  viewer := h.viewer
  paired := h.paired.trans (List.length_set ..).symm
  connections other hMem :=
    (List.mem_or_eq_of_mem_set hMem).elim (h.connections other) fun hSame => hSame ▸ hNext
  messages j other hOther := by
    by_cases hSame : j = i
    · subst hSame
      have hLength : j < s.connections.length := (List.getElem?_eq_some_iff.mp hConnection).1
      obtain rfl : next = other := by simpa [hLength] using hOther
      exact hMessages
    · exact h.messages j other (by simpa [List.getElem?_set_ne (Ne.symm hSame)] using hOther)
  current j hCurrent := by
    obtain ⟨other, hOther, hLast, hShown⟩ := h.current j hCurrent
    by_cases hSame : j = i
    · subst hSame
      obtain rfl := Option.some.inj (hOther.symm.trans hConnection)
      have hLength : j < s.connections.length := (List.getElem?_eq_some_iff.mp hConnection).1
      refine ⟨next, by simp [hLength], by simpa using hLast, ?_, ?_⟩
      · rw [hFor.1, hFor.2]
        exact hShown.last
      · rw [hFor.2]
        exact hShown.title
    · exact ⟨other, by simpa [List.getElem?_set_ne (Ne.symm hSame)] using hOther,
        by simpa using hLast, hShown⟩

theorem Inv.handler {s t : State} {i : Nat} {event : ContainerLogs.Event} (h : Inv env s)
    (hStep : step env s (.handler i event) = some t) : Inv env t := by
  rw [step] at hStep
  obtain ⟨c, hConnection, hStep⟩ := Option.bind_eq_some_iff.mp hStep
  obtain ⟨request, hRequest, hStep⟩ := Option.bind_eq_some_iff.mp hStep
  obtain ⟨handler, hHandler, hSame⟩ := Option.bind_eq_some_iff.mp hStep
  obtain rfl := Option.some.inj hSame
  have hOld := h.connections c (List.mem_of_getElem? hConnection)
  have hRun :
      Runs (ContainerLogs.step env.logs request) ContainerLogs.initial c.record c.handler := by
    rcases hOld.handled with ⟨hRecord, hInitial⟩ | ⟨other, hOther, hRun⟩
    · rw [hRecord, hInitial]
      exact .zero _
    · rwa [Option.some.inj (hRequest.symm.trans hOther)]
  have hSent := sent_prefix hHandler
  refine h.set hConnection ⟨hOld.asks, .inr ⟨request, hRequest, hRun.succ trivial hHandler⟩,
    ?_⟩ ⟨rfl, rfl⟩ ?_
  · exact hOld.delivered.trans hSent.length_le
  · obtain ⟨more, hMore⟩ := hSent
    rw [h.messages i c hConnection, ← hMore, List.take_append_of_le_length hOld.delivered]

/-- The next frame comes in. -/
theorem Inv.deliver {s t : State} {i : Nat} (h : Inv env s)
    (hStep : step env s (.deliver i) = some t) :
    Inv env t := by
  rw [step] at hStep
  obtain ⟨c, hConnection, hStep⟩ := Option.bind_eq_some_iff.mp hStep
  obtain ⟨frame, hFrame, hStep⟩ := Option.bind_eq_some_iff.mp hStep
  obtain ⟨middle, hBrowse, hSame⟩ := Option.bind_eq_some_iff.mp hStep
  obtain ⟨viewer, hViewer, rfl⟩ := browse_eq_some hBrowse
  obtain rfl := Option.some.inj hSame
  obtain ⟨hTitle, hLength, hSocket⟩ := viewer_step_other hViewer nofun
  have hOld := h.connections c (List.mem_of_getElem? hConnection)
  have hMore : c.delivered < c.handler.sent.length := (List.getElem?_eq_some_iff.mp hFrame).1
  have hPassed : (c.handler.sent.take (c.delivered + 1)).map codeUnits =
      LogStream.messages i s.record ++ [codeUnits frame] := by
    rw [h.messages i c hConnection, List.take_add_one, hFrame]
    simp
  have hNext : Connection.Inv env { c with delivered := c.delivered + 1 } :=
    ⟨hOld.asks, hOld.handled, hMore⟩
  refine ⟨h.viewer.succ trivial hViewer, (hLength.trans h.paired).trans (List.length_set ..).symm,
    ?_, ?_, ?_⟩
  · intro other hMem
    exact (List.mem_or_eq_of_mem_set hMem).elim (h.connections other) fun hSame => hSame ▸ hNext
  · intro j other hOther
    rw [messages_append]
    by_cases hSame : j = i
    · subst hSame
      have hIndex : j < s.connections.length := (List.getElem?_eq_some_iff.mp hConnection).1
      obtain rfl : { c with delivered := c.delivered + 1 } = other := by simpa [hIndex] using hOther
      exact (hPassed.trans (by simp [LogStream.messages])).symm
    · have hSilent : LogStream.messages j [.socket i (.onmessage (codeUnits frame))] = [] := by
        simp [LogStream.messages, Ne.symm hSame]
      rw [hSilent, List.append_nil]
      exact h.messages j other (by simpa [List.getElem?_set_ne (Ne.symm hSame)] using hOther)
  · intro j hCurrent
    have hBefore : s.viewer.logSocket = some j := by
      rcases hSocket with hKept | hNone
      · exact hKept.symm.trans hCurrent
      · simp [hNone] at hCurrent
    obtain ⟨other, hOther, hLast, hShown⟩ := h.current j hBefore
    have hLater : Presents _ (_ ++ [.socket i (.onmessage (codeUnits frame))]) other :=
      hShown.other hTitle nofun
    by_cases hSame : j = i
    · subst hSame
      obtain rfl := Option.some.inj (hOther.symm.trans hConnection)
      have hIndex : j < s.connections.length := (List.getElem?_eq_some_iff.mp hConnection).1
      exact ⟨{ other with delivered := other.delivered + 1 }, by simp [hIndex], by
        simpa using hLast, hLater.last, hLater.title⟩
    · exact ⟨other, by simpa [List.getElem?_set_ne (Ne.symm hSame)] using hOther,
        by simpa using hLast, hLater⟩

theorem Inv.step {s t : State} {event : Event} (h : Inv env s)
    (hStep : LogStream.step env s event = some t) :
    Inv env t := by
  cases event with
  | openLogViewer => exact h.openLogViewer hStep
  | closeLogViewer => exact h.browse hStep nofun fun _ => rfl
  | timeout => exact h.browse hStep nofun fun _ => rfl
  | signal i signal =>
      refine h.browse hStep nofun fun _ => ?_
      cases signal <;> rfl
  | deliver => exact h.deliver hStep
  | handler => exact h.handler hStep

theorem inv_of_runs {events : List Event} {s : State}
    (run : Runs (step env) LogStream.initial events s) : Inv env s :=
  run.invariant .initial fun _ _ _ hInv _ hStep => hInv.step hStep

omit [PyFloat F] [Unicode] in
/-- Who gets to a handler has the credentials: a log has another path than the exempt one. -/
theorem carries_of_admitted {scope : Scope} {request : ContainerLogs.Request}
    (hAdmitted : admitted env scope = some request) (hType : scope.type = .websocket)
    (hConfigured : env.auth.authConfigured = true) :
    ∃ value, FirstAuthorization scope.headers value ∧ Carries env.auth value := by
  obtain ⟨hPasses, hRequest⟩ := Option.ite_none_right_eq_some.mp hAdmitted
  have hGuarded : ¬(scope.type = .lifespan ∨ ¬env.auth.authConfigured = true) := by
    simp [hType, hConfigured]
  rw [authMiddleware, if_neg hGuarded] at hPasses
  split_ifs at hPasses with hPermitted
  · rcases (permitted_iff hConfigured).mp hPermitted with hExempt | hCarries
    · simp [requestOf, hExempt, env.route_health] at hRequest
    · exact hCarries
  all_goals simp at hPasses

/-- Where the frames of a connection come from: they are the first lines of a `tail` on a
file of the pods' logs, or all there is without a `tail` is a text that says so; and none
is sent, and no `tail` started, but behind the credentials and the checks. -/
structure Served (env : Env F) (c : Connection) (frames : List JsString) : Prop where
  lines : ∀ tail, c.handler.phase.tail? = some tail →
    frames <+: (Lines.lines tail.stdout.written).map (fun line =>
      codeUnits (env.logs.decode line)) ∧ ContainerLogs.Located env.logs c.record tail.path
  apology : c.handler.phase.tail? = none →
    frames = [] ∨ ∃ text ∈ ContainerLogs.apologies, frames = [codeUnits text]
  guarded : c.handler.phase.tail? ≠ none ∨ frames ≠ [] →
    (env.auth.authConfigured = true →
      ∃ value, FirstAuthorization c.scope.headers value ∧ Carries env.auth value) ∧
    ∃ request, requestOf env c.scope = some request ∧ ContainerLogs.Checked env.logs request ∧
      (PlainId c.containerId → request.containerId = c.containerId)

/-- The handler of a connection has not sent anything that it is not to send. -/
theorem Connection.Inv.served {c : Connection} (h : c.Inv env) :
    Served env c ((c.handler.sent.take c.delivered).map codeUnits) := by
  rcases h.handled with ⟨-, hInitial⟩ | ⟨request, hAdmitted, hRun⟩
  · have hNone : c.handler.phase.tail? = none := by rw [hInitial]; rfl
    have hSilent : c.handler.sent = [] := by rw [hInitial]; rfl
    refine ⟨fun tail hTail => ?_, fun _ => .inl (by simp [hSilent]), fun hSome => ?_⟩
    · cases hNone.symm.trans hTail
    · exact absurd hSome (by simp [hNone, hSilent])
  have hHandler := ContainerLogs.inv_run hRun
  have hRequest : requestOf env c.scope = some request :=
    (Option.ite_none_right_eq_some.mp hAdmitted).2
  refine ⟨fun tail hTail => ?_, fun hNone => ?_, fun hSome => ?_⟩
  · have hFrames := ((List.take_prefix c.delivered _).trans
      (hHandler.streamed tail hTail)).map codeUnits
    rw [List.map_map] at hFrames
    exact ⟨hFrames, (hHandler.guarded.tail tail hTail).2⟩
  · rcases hHandler.apologised hNone with hSilent | ⟨-, text, hText, hSent⟩
    · exact .inl (by simp [hSilent])
    · cases hDelivered : c.delivered with
      | zero => exact .inl (by simp)
      | succ n => exact .inr ⟨text, hText, by simp [hSent]⟩
  · have hChecked : ContainerLogs.Checked env.logs request := by
      cases hTail : c.handler.phase.tail? with
      | some tail => exact (hHandler.guarded.tail tail hTail).1
      | none =>
          rcases hHandler.apologised hTail with hSilent | ⟨hChecked, -⟩
          · simp [hTail, hSilent] at hSome
          · exact hChecked
    refine ⟨carries_of_admitted hAdmitted h.asks.1, request, hRequest, hChecked, fun hPlain => ?_⟩
    simp [requestOf, h.asks.2 hPlain, env.route_logPath _ hPlain] at hRequest
    simp [← hRequest]

/-- The log in the viewer is that of the container whose button was pressed last. What came in
on its socket is shown or pending, in order, and the viewer leaves out as few of the oldest
batches as its limit allows; and the frames among it are the first lines of a `tail` on a file
of the pods' logs, or the one text that says that there is none, behind the credentials and all
checks. -/
theorem followedLog {events : List Event} {s : State}
    (run : Runs (step env) LogStream.initial events s) {i : Nat}
    (hCurrent : s.viewer.logSocket = some i) :
    ∃ ws c, s.viewer.sockets[i]? = some ws ∧ s.connections[i]? = some c ∧
      Presents s.viewer.title s.record c ∧ ws.batches.flatten ++ ws.pending = heard i s.record ∧
      (.socket i .onopen ∈ s.record → ws.Shown s.viewer.content) ∧
      (messages i s.record).Sublist (heard i s.record) ∧ Served env c (messages i s.record) := by
  have inv := inv_of_runs run
  obtain ⟨c, hConnection, -, hPresents⟩ := inv.current i hCurrent
  obtain ⟨ws, hSocket, hShown⟩ := (LogViewer.inv_of_runs inv.viewer).current i hCurrent
  refine ⟨ws, c, hSocket, hConnection, hPresents, hShown.texts, ?_, messages_sublist i s.record, ?_⟩
  · intro hOpened
    exact (LogViewer.tailInv_of_runs inv.viewer).shown hCurrent hSocket (hShown.opened hOpened)
  · rw [inv.messages i c hConnection]
    exact (inv.connections c (List.mem_of_getElem? hConnection)).served

end

/-- A segment of a path between two pieces of text. -/
def segment (start last path : List Char) : Option (List Char) :=
  let inside := (path.drop start.length).take (path.length - start.length - last.length)
  if start ++ inside ++ last = path ∧ inside ≠ [] ∧ '/' ∉ inside then some inside else none

theorem segment_eq_some {inside : List Char} (start last : List Char) (hNonempty : inside ≠ [])
    (hSlash : '/' ∉ inside) : segment start last (start ++ inside ++ last) = some inside := by
  have hInside : ((start ++ inside ++ last).drop start.length).take
      ((start ++ inside ++ last).length - start.length - last.length) = inside := by
    rw [List.append_assoc, List.drop_left, List.take_append_of_le_length] <;> simp
  rw [segment, hInside, if_pos ⟨rfl, hNonempty, hSlash⟩]

/-- What the pattern of `container_logs` matches. -/
def routed (path : String) : Option String :=
  (segment "/api/containers/".toList "/logs".toList path.toList).map String.ofList

theorem routed_logPath (id : String) (h : PlainId id) : routed (logPath id) = some id := by
  have hNonempty : id.toList ≠ [] := fun hNil => h.1 (String.toList_injective hNil)
  have hSlash : '/' ∉ id.toList := fun hMem => absurd (h.2 _ hMem) (by decide)
  have hPath : (logPath id).toList = "/api/containers/".toList ++ id.toList ++ "/logs".toList :=
    String.toList_append.trans (congrArg (· ++ _) String.toList_append)
  unfold routed
  rw [hPath, segment_eq_some "/api/containers/".toList "/logs".toList hNonempty hSlash]
  exact congrArg some String.ofList_toList

/-- A node whose `tail` writes a line. -/
def exampleEnv : Env Int where
  auth := { authToken := "s3cret" }
  logs :=
    { hostRoot := "/host"
      loads := fun _ => .ok (.obj [("status", .obj [("logPath", .str "/var/log/pods/a/0.log")])])
      decode := fun line => String.ofList (line.map fun b => Char.ofNat b.toNat)
      rejects := fun _ => false }
  location := ⟨"https:", "node"⟩
  route := routed
  route_logPath := routed_logPath
  route_health := by decide +kernel

def exampleId : String := String.ofList (List.replicate 64 'a')

def exampleScope : Scope where
  type := .websocket
  path := some (logPath exampleId)
  headers := [(encodeUtf8 "authorization".toList, encodeUtf8 "Bearer s3cret".toList)]

deriving instance DecidableEq for LogViewer.SocketEvent, LogViewer.Event

/-- A line from the file to the page. -/
def oneLine : List Event :=
  [.openLogViewer exampleId "web" false exampleScope, .handler 0 .begin, .handler 0 .completes,
    .signal 0 .opened,
    .handler 0
      (.inspected "\x7b\x7d" 0 (fun _ => .path ⟨["host", "var", "log", "pods"], by decide +kernel⟩)
      fun _ => .path ⟨["host", "var", "log", "pods", "a", "0.log"], by decide +kernel⟩),
    .handler 0 .completes, .handler 0 (.write [120, 10]),
    .handler 0 .readline, .handler 0 .sendCompletes, .deliver 0, .timeout 0]

theorem followedLog_oneLine :
    ∃ (unicode : Unicode) (s : State) (ws : LogViewer.Socket) (c : Connection),
    Runs (@step Int inferInstance unicode exampleEnv) initial oneLine s ∧
      s.viewer.content = [LogViewer.literal "x\n"] ∧ s.viewer.sockets[0]? = some ws ∧
      s.connections[0]? = some c ∧ Presents s.viewer.title s.record c ∧ ws.Shown s.viewer.content ∧
      messages 0 s.record = [codeUnits "x\n"] ∧ Served exampleEnv c (messages 0 s.record) := by
  let unicode : Unicode := Unicode.ascii
  have hRun : Runs (step exampleEnv) initial oneLine
      ((execute (step exampleEnv) initial oneLine).get (by decide +kernel)) :=
    runs_of_execute (Option.some_get _).symm
  obtain ⟨ws, c, hSocket, hConnection, hPresents, -, hShown, -, hServed⟩ :=
    @followedLog _ _ _ _ _ _ hRun 0 (by decide +kernel)
  exact ⟨unicode, _, ws, c, hRun, by decide +kernel, hSocket, hConnection, hPresents,
    hShown (by decide +kernel), by decide +kernel, hServed⟩

end NodeDebugDashboard.Dashboard.LogStream
