import Mathlib.Logic.Basic
import NodeDebugDashboard.Library.Dict
import NodeDebugDashboard.Library.Runs

/-! The refresh loop of app/static/app.js: `fetchOverview` and `resetCountdown`, and the
events of the browser that move them on once `DOMContentLoaded` has been handled. -/
namespace NodeDebugDashboard.Frontend

open Library

def refreshInterval : Int := 10000

def fastSections : List String := ["node", "hardware", "warnings", "containers", "cluster_nodes"]

def slowSections : List String :=
  ["kubernetes", "talos", "storage", "system", "network", "processes"]

/-- The `status` of an entry of `failures`. -/
inductive FailureStatus where
  | http (code : Nat)
  | collectorFailed
  | timeout
  | networkError
  | renderError

structure Failure where
  name : String
  status : FailureStatus

namespace FailureStatus

def text : FailureStatus → String
  | http code => "HTTP " ++ toString code
  | collectorFailed => "collector failed"
  | timeout => "timeout"
  | networkError => "network error"
  | renderError => "render error"

/-- `status === 401` -/
def isUnauthorized : FailureStatus → Bool
  | http code => code = 401
  | _ => false

end FailureStatus

/-- What comes of a section request: a response that is not `ok`, a body with the names
in its `errors`, or an exception, raised after some of those names were recorded. A body
of `null` has no payload. -/
inductive Answer (V : Type*) where
  | refused (code : Nat)
  | body (payload : Option V) (errors : List String)
  | raised (errors : List String) (aborted : Bool)

variable {V : Type*}

/-- The end of `fetchSection`: the payload, and what was added to `failures`. -/
def fetchSection (name : String) : Answer V → Option V × List Failure
  | .refused code => (none, [⟨name, .http code⟩])
  | .body payload errors => (payload, errors.map fun e => ⟨name ++ "/" ++ e, .collectorFailed⟩)
  | .raised errors aborted =>
      (none, (errors.map fun e => ⟨name ++ "/" ++ e, .collectorFailed⟩) ++
        [⟨name, if aborted then .timeout else .networkError⟩])

/-- The `Promise.all` that a body of `fetchOverview` awaits. -/
inductive Phase where
  | fast
  | slow

/-- A body of `fetchOverview` that has not returned. A request in flight has no result. -/
structure Body (V : Type*) where
  phase : Phase
  requests : List (String × Option (Option V))
  data : Dict String V
  failures : List Failure

/-- The rendering after a `Promise.all`: the sections whose renderers threw, which
`renderSection` catches, and the message of an exception thrown by anything else. -/
structure Rendering where
  raised : List String
  escaped : Option String

namespace Body

def begin (sections : List String) : List (String × Option (Option V)) :=
  sections.map fun name => (name, none)

def start : Body V := ⟨.fast, begin fastSections, .empty, []⟩

/-- One of the requests comes to its end. -/
def settle (body : Body V) (i : Nat) (name : String) (answer : Answer V) : Body V :=
  { body with
    requests := body.requests.set i (name, some (fetchSection name answer).1)
    failures := body.failures ++ (fetchSection name answer).2 }

def settled (body : Body V) : Bool := body.requests.all fun request => request.2.isSome

/-- The payloads of the `Promise.all` put into `data`. -/
def received (body : Body V) : Dict String V :=
  body.requests.foldl
    (fun data request =>
      match request.2 with
      | some (some payload) => data.set request.1 payload
      | _ => data)
    body.data

/-- The body after the rendering of what it has received. -/
def rendered (body : Body V) (rendering : Rendering) : Body V :=
  { body with
    data := body.received
    failures := body.failures ++ rendering.raised.map fun name => ⟨name, .renderError⟩ }

end Body

/-- The variables of the script, the intervals that `setInterval` has made and no
`clearInterval` has ended, and the bodies of `fetchOverview`. -/
structure State (V : Type*) where
  refreshing : Bool
  timer : Option Nat
  countdown : Int
  intervals : List Nat
  nextInterval : Nat
  bodies : List (Body V)
  /-- The text of the error bar. -/
  errorBar : Option String

namespace State

/-- The script has been read. -/
def initial : State V where
  refreshing := false
  timer := none
  countdown := 10
  intervals := []
  nextInterval := 1
  bodies := []
  errorBar := none

/-- `clearInterval(timer)` -/
def clearInterval (s : State V) : State V :=
  { s with intervals := s.intervals.filter fun id => some id ≠ s.timer }

def showError (s : State V) (message : String) : State V :=
  { s with errorBar := some ("Error fetching data: " ++ message) }

def reportFailures (s : State V) (failures : List Failure) (gotData : Bool) : State V :=
  if failures.isEmpty then { s with errorBar := none }
  else if failures.any fun f => f.status.isUnauthorized then
    s.showError ("authentication required (HTTP 401). Reload the page to sign in; " ++
      "the browser UI needs basic auth (AUTH_PASSWORD), not a bearer token.")
  else
    let list := ", ".intercalate (failures.map fun f => f.name ++ " (" ++ f.status.text ++ ")")
    s.showError (if gotData then "some sections could not be loaded: " ++ list
      else "all sections failed, data shown is stale: " ++ list)

def resetCountdown (s : State V) : State V :=
  let cleared := if s.timer.isSome then s.clearInterval else s
  { cleared with
    countdown := refreshInterval / 1000
    timer := some s.nextInterval
    intervals := cleared.intervals ++ [s.nextInterval]
    nextInterval := s.nextInterval + 1 }

/-- `fetchOverview` up to its first await. -/
def fetchOverview (s : State V) : State V :=
  if s.refreshing then s
  else
    let cleared := if s.timer.isSome then { s.clearInterval with timer := none } else s
    { cleared with refreshing := true, bodies := s.bodies ++ [Body.start] }

/-- The callback of `setInterval`. -/
def tick (s : State V) : State V :=
  let ticked := { s with countdown := s.countdown - 1 }
  if ticked.countdown ≤ 0 then { ticked.clearInterval with timer := none }.fetchOverview else ticked

/-- A body leaves its `try` statement through `finally` and restarts the countdown. -/
def leave (s : State V) (i : Nat) : State V :=
  { s with refreshing := false, bodies := s.bodies.eraseIdx i }.resetCountdown

/-- A body goes on after its `Promise.all`. -/
def proceed (s : State V) (i : Nat) (body : Body V) (rendering : Rendering) : State V :=
  match rendering.escaped, body.phase with
  | some message, _ => (s.showError message).leave i
  | none, .fast =>
      { s with bodies := s.bodies.set i { body.rendered rendering with
          phase := .slow
          requests := Body.begin slowSections } }
  | none, .slow =>
      (s.reportFailures (body.rendered rendering).failures (body.received.size ≠ 0)).leave i

/-- The handler of `DOMContentLoaded`. -/
def loaded : State V := (initial : State V).fetchOverview

end State

/-- What happens in the browser. -/
inductive Event (V : Type*) where
  /-- An interval is due. -/
  | tick (interval : Nat)
  /-- The Refresh button. -/
  | click
  /-- A section request of a body is answered, fails or runs into its timeout. -/
  | settle (body request : Nat) (answer : Answer V)
  | proceed (body : Nat) (rendering : Rendering)

/-- The handling of an event. An interval that was cleared does not come due, and a body
goes on only when all its requests are settled. -/
def step (s : State V) : Event V → Option (State V)
  | .tick interval => if interval ∈ s.intervals then some s.tick else none
  | .click => some s.fetchOverview
  | .settle i j answer => do
      let body ← s.bodies[i]?
      match body.requests[j]? with
      | some (name, none) => some { s with bodies := s.bodies.set i (body.settle j name answer) }
      | _ => none
  | .proceed i rendering => do
      let body ← s.bodies[i]?
      if body.settled then some (s.proceed i body rendering) else none

/-- No refresh is active, and the countdown runs. -/
structure Counting (s : State V) : Prop where
  refreshing : s.refreshing = false
  bodies : s.bodies = []
  interval : ∃ id, s.timer = some id ∧ s.intervals = [id]
  positive : 0 < s.countdown
  bounded : s.countdown ≤ 10

/-- A refresh is active, and the countdown stands still. -/
structure Refreshing (s : State V) : Prop where
  refreshing : s.refreshing = true
  bodies : ∃ body, s.bodies = [body]
  timer : s.timer = none
  intervals : s.intervals = []
  nonneg : 0 ≤ s.countdown
  bounded : s.countdown ≤ 10

/-- `fetchOverview` starts a body when the flag is down, and no interval survives it. -/
theorem State.fetchOverview_refreshing {s : State V} (hFlag : s.refreshing = false)
    (hBodies : s.bodies = [])
    (hTimer : s.intervals = [] ∧ s.timer = none ∨ ∃ id, s.timer = some id ∧ s.intervals = [id])
    (hNonneg : 0 ≤ s.countdown) (hBounded : s.countdown ≤ 10) : Refreshing s.fetchOverview := by
  rcases hTimer with ⟨hIntervals, hTimer⟩ | ⟨id, hTimer, hIntervals⟩ <;>
    exact
      { refreshing := by simp [fetchOverview, hFlag]
        bodies := ⟨.start, by simp [fetchOverview, hFlag, hBodies]⟩
        timer := by simp [fetchOverview, hFlag, hTimer]
        intervals := by simp [fetchOverview, clearInterval, hFlag, hTimer, hIntervals]
        nonneg := by simpa [fetchOverview, clearInterval, hFlag, hTimer] using hNonneg
        bounded := by simpa [fetchOverview, clearInterval, hFlag, hTimer] using hBounded }

theorem loaded_refreshing : Refreshing (.loaded : State V) :=
  State.fetchOverview_refreshing rfl rfl (.inl ⟨rfl, rfl⟩) (Int.natCast_nonneg 10) le_rfl

theorem Counting.fetchOverview {s : State V} (h : Counting s) : Refreshing s.fetchOverview :=
  State.fetchOverview_refreshing h.refreshing h.bodies (.inr h.interval) h.positive.le h.bounded

/-- The Refresh button does nothing during a refresh. -/
theorem Refreshing.fetchOverview {s : State V} (h : Refreshing s) : s.fetchOverview = s := by
  simp [State.fetchOverview, h.refreshing]

/-- A tick counts down, and the last one hands over to a refresh. -/
theorem Counting.tick {s : State V} (h : Counting s) : Counting s.tick ∨ Refreshing s.tick := by
  obtain ⟨id, hTimer, hIntervals⟩ := h.interval
  have hPositive := h.positive
  have hBounded := h.bounded
  by_cases hLast : s.countdown - 1 ≤ 0
  · right
    simp only [State.tick, hLast, if_true]
    apply State.fetchOverview_refreshing
    · exact h.refreshing
    · exact h.bodies
    · left
      simp [State.clearInterval, hTimer, hIntervals]
    · change 0 ≤ s.countdown - 1
      omega
    · change s.countdown - 1 ≤ 10
      omega
  · left
    simp only [State.tick, hLast, if_false]
    exact
      { refreshing := h.refreshing
        bodies := h.bodies
        interval := h.interval
        positive := by change 0 < s.countdown - 1; omega
        bounded := by change s.countdown - 1 ≤ 10; omega }

/-- The only body of a refresh leaves: one interval is left, at the full countdown. -/
theorem Refreshing.leave {s : State V} {i : Nat} (h : Refreshing s) (hIndex : i < s.bodies.length) :
    Counting (s.leave i) := by
  obtain ⟨body, hBodies⟩ := h.bodies
  have hFirst : i = 0 := by
    rw [hBodies] at hIndex
    simpa using hIndex
  exact
    { refreshing := by simp [State.leave, State.resetCountdown, h.timer]
      bodies := by simp [State.leave, State.resetCountdown, h.timer, hBodies, hFirst]
      interval := ⟨s.nextInterval, by simp [State.leave, State.resetCountdown],
        by simp [State.leave, State.resetCountdown, h.timer, h.intervals]⟩
      positive := by change (0 : Int) < refreshInterval / 1000; decide
      bounded := by change refreshInterval / 1000 ≤ (10 : Int); decide }

theorem Refreshing.setBody {s : State V} {i : Nat} {body : Body V} (h : Refreshing s) :
    Refreshing { s with bodies := s.bodies.set i body } where
  refreshing := h.refreshing
  bodies := by
    obtain ⟨other, hBodies⟩ := h.bodies
    cases i with
    | zero => exact ⟨body, by simp [hBodies]⟩
    | succ i => exact ⟨other, by simp [hBodies]⟩
  timer := h.timer
  intervals := h.intervals
  nonneg := h.nonneg
  bounded := h.bounded

/-- The error bar has no part in the loop. -/
theorem Refreshing.setErrorBar {s : State V} (h : Refreshing s) (bar : Option String) :
    Refreshing { s with errorBar := bar } :=
  ⟨h.refreshing, h.bodies, h.timer, h.intervals, h.nonneg, h.bounded⟩

theorem Refreshing.reportFailures {s : State V} (h : Refreshing s) (failures : List Failure)
    (gotData : Bool) : Refreshing (s.reportFailures failures gotData) := by
  unfold State.reportFailures
  split_ifs
  all_goals exact h.setErrorBar _

/-- After its requests a body either goes on to the slow sections or leaves, also
through an exception. -/
theorem Refreshing.proceed {s : State V} {i : Nat} {body : Body V} (h : Refreshing s)
    (hBody : s.bodies[i]? = some body) (rendering : Rendering) :
    Counting (s.proceed i body rendering) ∨ Refreshing (s.proceed i body rendering) := by
  have hIndex : i < s.bodies.length := (List.getElem?_eq_some_iff.mp hBody).1
  unfold State.proceed
  split
  case h_1 message _ => exact .inl ((h.setErrorBar _).leave hIndex)
  case h_2 => exact .inr h.setBody
  case h_3 =>
      left
      apply (h.reportFailures _ _).leave
      unfold State.reportFailures
      split_ifs <;> exact hIndex

/-- No event has anything to do with a request or a body while the countdown runs, nor
with an interval during a refresh. -/
theorem step_keeps {s t : State V} {event : Event V} (h : Counting s ∨ Refreshing s)
    (hStep : step s event = some t) : Counting t ∨ Refreshing t := by
  cases event with
  | tick interval =>
      simp only [step, Option.ite_none_right_eq_some, Option.some.injEq] at hStep
      obtain ⟨hDue, rfl⟩ := hStep
      rcases h with h | h
      · exact h.tick
      · simp [h.intervals] at hDue
  | click =>
      obtain rfl := Option.some.inj hStep
      rcases h with h | h
      · exact .inr h.fetchOverview
      · exact .inr (h.fetchOverview.symm ▸ h)
  | settle i j answer =>
      obtain ⟨body, hBody, hStep⟩ := Option.bind_eq_some_iff.mp hStep
      rcases h with h | h
      · simp [h.bodies] at hBody
      · split at hStep
        · obtain rfl := Option.some.inj hStep
          exact .inr h.setBody
        · cases hStep
  | proceed i rendering =>
      obtain ⟨body, hBody, hStep⟩ := Option.bind_eq_some_iff.mp hStep
      simp only [Option.ite_none_right_eq_some, Option.some.injEq] at hStep
      obtain ⟨-, rfl⟩ := hStep
      rcases h with h | h
      · simp [h.bodies] at hBody
      · exact h.proceed hBody rendering

theorem counting_or_refreshing {s : State V} {events : List (Event V)}
    (run : Runs step .loaded events s) : Counting s ∨ Refreshing s :=
  run.invariant (.inr loaded_refreshing) fun _ _ _ h _ hStep => step_keeps h hStep

/-- In every state of the page there is either one active body of `fetchOverview` and no
countdown, or no active body and one countdown, which stays between 0 and 10. -/
theorem refreshLoop {s : State V} {events : List (Event V)} (run : Runs step .loaded events s) :
    s.bodies.length ≤ 1 ∧
      Xor (s.bodies ≠ [] ∧ s.intervals = []) (s.bodies = [] ∧ s.intervals.length = 1) ∧
      0 ≤ s.countdown ∧ s.countdown ≤ 10 := by
  rcases counting_or_refreshing run with h | h
  · obtain ⟨id, -, hIntervals⟩ := h.interval
    refine ⟨by simp [h.bodies], .inr ?_, h.positive.le, h.bounded⟩
    simp [h.bodies, hIntervals]
  · obtain ⟨body, hBodies⟩ := h.bodies
    refine ⟨by simp [hBodies], .inl ?_, h.nonneg, h.bounded⟩
    simp [hBodies, h.intervals]

/-- A refresh whose requests all time out, with a click on the button, and the ten ticks
to the next one, which is under way at the end. -/
def timedOut : List (Event Unit) :=
  (List.range 5).map (fun j => .settle 0 j (.raised [] true)) ++ [.click, .proceed 0 ⟨[], none⟩] ++
    (List.range 6).map (fun j => .settle 0 j (.raised [] true)) ++ [.proceed 0 ⟨[], none⟩] ++
    List.replicate 10 (.tick 1)

theorem refreshLoop_timedOut :
    ∃ s : State Unit, Runs step .loaded timedOut s ∧ s.bodies.length = 1 ∧
      Xor (s.bodies ≠ [] ∧ s.intervals = []) (s.bodies = [] ∧ s.intervals.length = 1) := by
  have hRun :
      Runs step .loaded timedOut ((execute step .loaded timedOut).get (by decide +kernel)) :=
    runs_of_execute (Option.some_get _).symm
  exact ⟨_, hRun, by decide +kernel, (refreshLoop hRun).2.1⟩

end NodeDebugDashboard.Frontend
