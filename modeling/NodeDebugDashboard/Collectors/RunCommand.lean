import Mathlib.Data.List.Basic
import Mathlib.Logic.Function.Basic
import NodeDebugDashboard.Library.Runs

/-! `run_command` of app/collectors/base.py together with the process group it
starts. The members of the group act on their own; asyncio and the kernel are
taken as documented. -/
namespace NodeDebugDashboard.Collectors.RunCommand

open Library

/-- Processes of the group, numbered by birth. The direct child is `leader`. -/
abbrev Pid := Nat

abbrev leader : Pid := 0

inductive Pipe where
  | stdout
  | stderr
  deriving DecidableEq

/-- What `run_command` returns: `(stdout, stderr, returncode)`. -/
structure Result where
  stdout : String
  stderr : String
  returncode : Int
  deriving DecidableEq

/-- Why `create_subprocess_exec` raised. -/
inductive StartFailure where
  | fileNotFound
  | osError (text : String)

/-- Which of its `return` statements a run ended with. -/
inductive Ending where
  | notStarted
  | timedOut
  | normal
  deriving DecidableEq

/-- Where `run_command` is: before the child, in `create_subprocess_exec` with
the child forked, in `proc.communicate()`, in the wait of `_reap`, in asyncio's
wait for the child of a start that was given up, or over. -/
inductive Phase where
  | calling
  | starting
  | communicating
  | reaping
  | abandoning
  | returned (ending : Ending) (result : Result)
  | raised
  deriving DecidableEq

/-- `run_command` is at an `await`. -/
def Phase.Awaits : Phase → Prop
  | .starting | .communicating | .reaping | .abandoning => True
  | _ => False

instance : DecidablePred Phase.Awaits
  | .starting | .communicating | .reaping | .abandoning => isTrue trivial
  | .calling | .returned _ _ | .raised => isFalse id

/-- What ends an `await` before its time. -/
inductive Interruption where
  | timedOut
  | cancelled
  deriving DecidableEq

/-- The task and the group. `interrupted` is set from an interruption on until
the code behind the `await` gets to see it. `exitCode` is the child's as soon as
it has exited, `returncode` is `proc.returncode`, set when the child is reaped. -/
structure State where
  phase : Phase
  interrupted : Option Interruption
  alive : List Pid
  nextPid : Pid
  holds : Pid → Pipe → Bool
  written : Pipe → List UInt8
  exitCode : Option Int
  returncode : Option Int
  sigkilled : List Pid
  transportClosed : Bool

inductive Action where
  /-- `create_subprocess_exec` forks the child, or raises. -/
  | spawn
  | startFails (failure : StartFailure)
  /-- `create_subprocess_exec` returns. -/
  | started
  /-- A member forks, writes to a pipe, closes its end of one, or exits. -/
  | fork (parent : Pid)
  | write (p : Pid) (pipe : Pipe) (bytes : List UInt8)
  | closePipe (p : Pid) (pipe : Pipe)
  | exit (p : Pid) (code : Int)
  /-- asyncio reaps the child. -/
  | reap
  /-- `communicate()` returns. -/
  | complete
  /-- The time given to `wait_for` is over: it cancels `communicate()` and awaits
  its end before it raises `TimeoutError`. -/
  | timeout
  /-- `proc.wait()` in `_reap` returns, or its second is over; or asyncio has
  awaited the child of a start that was given up. -/
  | waited
  /-- The calling task is cancelled. Here, too, `wait_for` first awaits the end of
  what it waits for. -/
  | cancel
  /-- The `await` ends, and its exception reaches the code that cleans up. -/
  | handle

/-- The command line and `bytes.decode(errors="replace")`. -/
structure Command where
  program : String
  args : List String
  decode : List UInt8 → String

namespace State

def initial : State where
  phase := .calling
  interrupted := none
  alive := []
  nextPid := leader
  holds := fun _ _ => false
  written := fun _ => []
  exitCode := none
  returncode := none
  sigkilled := []
  transportClosed := false

/-- Nobody is left who could write to the pipe. -/
def Eof (s : State) (pipe : Pipe) : Prop := ∀ p ∈ s.alive, s.holds p pipe = false

instance (s : State) (pipe : Pipe) : Decidable (s.Eof pipe) :=
  inferInstanceAs (Decidable (∀ p ∈ s.alive, s.holds p pipe = false))

/-- A live member acts on its own until it has been sent SIGKILL. -/
def Acts (s : State) (p : Pid) : Prop := p ∈ s.alive ∧ p ∉ s.sigkilled

instance (s : State) (p : Pid) : Decidable (s.Acts p) :=
  inferInstanceAs (Decidable (p ∈ s.alive ∧ p ∉ s.sigkilled))

/-- `_kill_group`. While the child is not reaped its group exists, so `killpg`
reaches every live member and the fallback to `proc.kill()` is not taken. -/
def killGroup (s : State) : State :=
  if s.returncode ≠ none then s else { s with sigkilled := s.alive ++ s.sigkilled }

/-- The kill changes nothing but who has been sent SIGKILL. -/
theorem killGroup_eq (s : State) :
    s.killGroup = { s with sigkilled :=
      if s.returncode ≠ none then s.sigkilled else s.alive ++ s.sigkilled } := by
  unfold killGroup
  split_ifs <;> rfl

/-- `_close_transport`. -/
def closeTransport (s : State) : State := { s with transportClosed := true }

/-- `transport.close()` when asyncio itself gives up starting a process: it
kills the direct child. -/
def abandonStart (s : State) : State :=
  { s with
    sigkilled := if leader ∈ s.alive then leader :: s.sigkilled else s.sigkilled
    transportClosed := true }

def returning (s : State) (ending : Ending) (result : Result) : State :=
  { s with phase := .returned ending result }

/-- When an action is possible. -/
def Enabled (s : State) : Action → Prop
  | .spawn => s.phase = .calling
  | .startFails _ => s.phase = .calling
  | .started => s.phase = .starting ∧ s.interrupted = none
  | .fork parent => s.Acts parent
  | .write p pipe _ => s.Acts p ∧ s.holds p pipe = true
  | .closePipe p _ => s.Acts p
  | .exit p _ => p ∈ s.alive
  | .reap => s.exitCode ≠ none ∧ s.returncode = none
  -- `wait_for` returns what is there when it looks, however late it is interrupted.
  | .complete =>
      s.phase = .communicating ∧ s.Eof .stdout ∧ s.Eof .stderr ∧ s.returncode ≠ none
  | .timeout => s.phase = .communicating ∧ s.interrupted = none
  | .waited => s.phase = .reaping ∨ s.phase = .abandoning ∧ s.returncode ≠ none
  | .cancel => s.phase.Awaits
  | .handle => s.phase.Awaits ∧ s.interrupted ≠ none

instance (s : State) : DecidablePred s.Enabled
  | .spawn => inferInstanceAs (Decidable (s.phase = .calling))
  | .startFails _ => inferInstanceAs (Decidable (s.phase = .calling))
  | .started => inferInstanceAs (Decidable (s.phase = .starting ∧ s.interrupted = none))
  | .fork parent => inferInstanceAs (Decidable (s.Acts parent))
  | .write p pipe _ => inferInstanceAs (Decidable (s.Acts p ∧ s.holds p pipe = true))
  | .closePipe p _ => inferInstanceAs (Decidable (s.Acts p))
  | .exit p _ => inferInstanceAs (Decidable (p ∈ s.alive))
  | .reap => inferInstanceAs (Decidable (s.exitCode ≠ none ∧ s.returncode = none))
  | .complete => inferInstanceAs (Decidable
      (s.phase = .communicating ∧ s.Eof .stdout ∧ s.Eof .stderr ∧ s.returncode ≠ none))
  | .timeout => inferInstanceAs (Decidable (s.phase = .communicating ∧ s.interrupted = none))
  | .waited => inferInstanceAs
      (Decidable (s.phase = .reaping ∨ s.phase = .abandoning ∧ s.returncode ≠ none))
  | .cancel => inferInstanceAs (Decidable s.phase.Awaits)
  | .handle => inferInstanceAs (Decidable (s.phase.Awaits ∧ s.interrupted ≠ none))

/-- What an action does. -/
def effect (cmd : Command) (s : State) : Action → State
  | .spawn =>
      { s with
        phase := .starting
        alive := [leader]
        nextPid := leader + 1
        holds := fun p _ => p = leader }
  | .startFails .fileNotFound =>
      s.returning .notStarted ⟨"", "Command not found: " ++ cmd.program, -1⟩
  | .startFails (.osError text) =>
      s.returning .notStarted
        ⟨"", "Command failed to start: " ++ cmd.program ++ ": " ++ text, -1⟩
  | .started => { s with phase := .communicating }
  | .fork parent =>
      { s with
        alive := s.nextPid :: s.alive
        nextPid := s.nextPid + 1
        holds := Function.update s.holds s.nextPid (s.holds parent) }
  | .write _ pipe bytes =>
      { s with written := Function.update s.written pipe (s.written pipe ++ bytes) }
  | .closePipe p pipe =>
      { s with holds := Function.update s.holds p (Function.update (s.holds p) pipe false) }
  | .exit p code =>
      { s with
        alive := s.alive.filter (· ≠ p)
        exitCode := if p = leader then some code else s.exitCode }
  | .reap => { s with returncode := s.exitCode }
  | .complete =>
      s.returning .normal
        ⟨cmd.decode (s.written .stdout), cmd.decode (s.written .stderr), s.returncode.getD 0⟩
  | .timeout => { s with interrupted := some .timedOut }
  | .waited =>
      if s.phase = .abandoning then { s with phase := .raised }
      else s.closeTransport.returning .timedOut
        ⟨"", "Command timed out: " ++ " ".intercalate (cmd.program :: cmd.args), -1⟩
  | .cancel => { s with interrupted := some .cancelled }
  | .handle =>
      match s.phase with
      | .starting => { s.abandonStart with phase := .abandoning, interrupted := none }
      | .communicating =>
          if s.interrupted = some .timedOut then
            { s.killGroup with phase := .reaping, interrupted := none }
          else { s.killGroup.closeTransport with phase := .raised }
      | _ => { s.closeTransport with phase := .raised }

end State

def step (cmd : Command) (s : State) (action : Action) : Option State :=
  if s.Enabled action then some (s.effect cmd action) else none

theorem step_eq_some_iff {cmd : Command} {s t : State} {action : Action} :
    step cmd s action = some t ↔ s.Enabled action ∧ s.effect cmd action = t := by
  simp [step]

/-- The two actions after which `run_command` has to clean up. -/
def Action.Interrupts : Action → Prop
  | .timeout | .cancel => True
  | _ => False

/-- The actions with which an interruption is over: the code that cleans up gets
to see it, or the wait that it was to end is over by itself. -/
def Action.Answers : Action → Prop
  | .handle | .waited => True
  | _ => False

/-- `run_command` has returned the timeout result or raised again. -/
def State.GaveUp (s : State) : Prop :=
  (∃ result, s.phase = .returned .timedOut result) ∨ s.phase = .raised

/-- Whenever `run_command` has given up after `s`, each of the members has been
sent SIGKILL and the transport is closed. -/
def CleansUp (cmd : Command) (members : List Pid) (s : State) : Prop :=
  ∀ later t, Runs (step cmd) s later t → t.GaveUp →
    (∀ p ∈ members, p ∈ t.sigkilled) ∧ t.transportClosed = true

/-- What the code that cleans up finds is such that each of the members is sent
SIGKILL: they are alive still and the child is not reaped yet when `_kill_group`
looks, or an earlier kill went out, or the direct child is all there is. -/
def State.KillReaches (s : State) (members : List Pid) : Prop :=
  members ≠ [] →
    match s.phase with
    | .communicating => s.returncode = none ∧ ∀ p ∈ members, p ∈ s.alive
    | .starting => ∀ p ∈ members, p = leader ∧ p ∈ s.alive
    | .reaping => s.sigkilled ≠ []
    | .abandoning => ∀ p ∈ members, p = leader
    | _ => True

/-- What the phase says about the group. -/
structure GroupInv (s : State) : Prop where
  unborn : s.phase = .calling → s.alive = [] ∧ s.nextPid = leader
  unhurt : s.phase = .calling ∨ s.phase = .starting ∨ s.phase = .communicating → s.sigkilled = []
  killed : s.phase = .reaping → s.sigkilled ≠ [] → ∀ p ∈ s.alive, p ∈ s.sigkilled
  abandoned : s.phase = .abandoning → s.transportClosed = true ∧
    (∀ p ∈ s.sigkilled, p = leader) ∧ (leader ∈ s.alive → leader ∈ s.sigkilled)
  born : ∀ p ∈ s.alive, p < s.nextPid
  exited : s.exitCode ≠ none → leader ∉ s.alive ∧ leader < s.nextPid
  reaped : s.returncode ≠ none → s.exitCode ≠ none
  normal : ∀ result, s.phase = .returned .normal result →
    s.exitCode ≠ none ∧ ∀ pipe, s.Eof pipe

theorem GroupInv.initial : GroupInv State.initial := by
  constructor <;> simp [State.initial]

/-- An action of the task that leaves the group alone, except for SIGKILL. -/
theorem GroupInv.task {s t : State} (inv : GroupInv s) (hAlive : t.alive = s.alive)
    (hNext : t.nextPid = s.nextPid) (hExit : t.exitCode = s.exitCode)
    (hReturn : t.returncode = s.returncode) (hStarted : t.phase ≠ .calling)
    (hUnhurt : t.phase = .starting ∨ t.phase = .communicating → t.sigkilled = [])
    (hKilled : t.phase = .reaping → t.sigkilled ≠ [] → ∀ p ∈ t.alive, p ∈ t.sigkilled)
    (hAbandoned : t.phase = .abandoning → t.transportClosed = true ∧
      (∀ p ∈ t.sigkilled, p = leader) ∧ (leader ∈ t.alive → leader ∈ t.sigkilled))
    (hNormal : ∀ result, t.phase = .returned .normal result →
      t.exitCode ≠ none ∧ ∀ pipe, t.Eof pipe) : GroupInv t where
  unborn := fun h => absurd h hStarted
  unhurt := fun h => hUnhurt (h.resolve_left hStarted)
  killed := hKilled
  abandoned := hAbandoned
  born := by
    rw [hAlive, hNext]
    exact inv.born
  exited := by
    rw [hAlive, hNext, hExit]
    exact inv.exited
  reaped := by
    rw [hReturn, hExit]
    exact inv.reaped
  normal := hNormal

/-- `run_command` is over, and not with a normal result. -/
theorem GroupInv.giveUp {s t : State} (inv : GroupInv s) (hAlive : t.alive = s.alive)
    (hNext : t.nextPid = s.nextPid) (hExit : t.exitCode = s.exitCode)
    (hReturn : t.returncode = s.returncode) (hOver : t.GaveUp) : GroupInv t := by
  apply inv.task hAlive hNext hExit hReturn <;> rcases hOver with ⟨_, hPhase⟩ | hPhase <;>
    simp [hPhase]

/-- An action of the group leaves the task alone. -/
theorem GroupInv.group {s t : State} (inv : GroupInv s) (hPhase : t.phase = s.phase)
    (hKill : t.sigkilled = s.sigkilled) (hClosed : t.transportClosed = s.transportClosed)
    (hSome : s.alive ≠ [])
    (hAlive : ∀ p ∈ t.alive, p ∈ s.alive ∨ p = s.nextPid ∧ s.nextPid < t.nextPid ∧
      ∃ parent, s.Acts parent ∧ t.holds p = s.holds parent)
    (hHolds : ∀ p ∈ s.alive, ∀ pipe, t.holds p pipe = true → s.holds p pipe = true)
    (hNext : s.nextPid ≤ t.nextPid)
    (hExit : t.exitCode ≠ none → s.exitCode ≠ none ∨ leader ∈ s.alive ∧ leader ∉ t.alive)
    (hKeep : s.exitCode ≠ none → t.exitCode ≠ none) (hReturn : t.returncode = s.returncode) :
    GroupInv t where
  unborn := fun h => absurd (inv.unborn (hPhase ▸ h)).1 hSome
  unhurt := by
    rw [hPhase, hKill]
    exact inv.unhurt
  killed := by
    rw [hPhase, hKill]
    intro hReaping hSent p hLive
    have hAll := inv.killed hReaping hSent
    rcases hAlive p hLive with hOld | ⟨_, _, parent, hActs, _⟩
    · exact hAll p hOld
    · exact absurd (hAll parent hActs.1) hActs.2
  abandoned := by
    rw [hPhase, hKill, hClosed]
    intro hAbandoning
    obtain ⟨hShut, hOnly, hLeader⟩ := inv.abandoned hAbandoning
    refine ⟨hShut, hOnly, fun hLive => ?_⟩
    rcases hAlive leader hLive with hOld | ⟨hNew, _, parent, hActs, _⟩
    · exact hLeader hOld
    · have hBorn := inv.born parent hActs.1
      rw [← hNew] at hBorn
      exact absurd hBorn (Nat.not_lt_zero parent)
  born := by
    intro p hLive
    rcases hAlive p hLive with hOld | ⟨hNew, hMore, _⟩
    · exact Nat.lt_of_lt_of_le (inv.born p hOld) hNext
    · exact hNew ▸ hMore
  exited := by
    intro hCode
    rcases hExit hCode with hOld | ⟨hOld, hGone⟩
    · obtain ⟨hGone, hBorn⟩ := inv.exited hOld
      refine ⟨fun hLive => ?_, Nat.lt_of_lt_of_le hBorn hNext⟩
      rcases hAlive leader hLive with hBack | ⟨hNew, _⟩
      · exact hGone hBack
      · exact absurd hNew (Nat.ne_of_lt hBorn)
    · exact ⟨hGone, Nat.lt_of_lt_of_le (inv.born leader hOld) hNext⟩
  reaped := by
    rw [hReturn]
    exact fun h => hKeep (inv.reaped h)
  normal := by
    intro result hDone
    obtain ⟨hCode, hEof⟩ := inv.normal result (hPhase ▸ hDone)
    refine ⟨hKeep hCode, fun pipe p hLive => ?_⟩
    rcases hAlive p hLive with hOld | ⟨_, _, parent, hActs, hCopy⟩
    · have hClosed := hEof pipe p hOld
      by_contra hOpen
      simp [hHolds p hOld pipe (by simpa using hOpen)] at hClosed
    · rw [hCopy]
      exact hEof pipe parent hActs.1

/-- The clean-up does to the group what it says in each phase. -/
theorem GroupInv.handle {cmd : Command} {s : State} (inv : GroupInv s) (hAwaits : s.phase.Awaits) :
    GroupInv (s.effect cmd .handle) := by
  cases hPhase : s.phase with
  | starting =>
      have hNone := inv.unhurt (.inr (.inl hPhase))
      apply inv.task <;> simp [State.effect, hPhase, State.abandonStart, hNone]
  | communicating =>
      have hNone := inv.unhurt (.inr (.inr hPhase))
      by_cases hWhy : s.interrupted = some .timedOut
      · apply inv.task <;>
          simp +contextual [State.effect, hPhase, hWhy, State.killGroup_eq, hNone]
      · apply inv.giveUp <;> simp [State.effect, hPhase, hWhy, State.killGroup_eq,
          State.closeTransport, State.GaveUp]
  | reaping =>
      apply inv.giveUp <;> simp [State.effect, hPhase, State.closeTransport, State.GaveUp]
  | abandoning =>
      apply inv.giveUp <;> simp [State.effect, hPhase, State.closeTransport, State.GaveUp]
  | _ => simp [hPhase, Phase.Awaits] at hAwaits

theorem GroupInv.step {cmd : Command} {s t : State} {action : Action} (inv : GroupInv s)
    (h : step cmd s action = some t) : GroupInv t := by
  obtain ⟨hEnabled, rfl⟩ := step_eq_some_iff.mp h
  cases action with
  | spawn =>
      have hCalling : s.phase = .calling := hEnabled
      have hNoCode : s.exitCode = none := by
        by_contra hCode
        have hBorn := (inv.exited hCode).2
        simp [(inv.unborn hCalling).2] at hBorn
      constructor
      · simp [State.effect]
      · simpa [State.effect] using inv.unhurt (.inl hCalling)
      · simp [State.effect]
      · simp [State.effect]
      · simp [State.effect]
      · simp [State.effect, hNoCode]
      · exact inv.reaped
      · simp [State.effect]
  | startFails failure =>
      cases failure <;> apply inv.task <;> simp [State.effect, State.returning]
  | started =>
      have hStarting : s.phase = .starting := hEnabled.1
      apply inv.task <;> simp [State.effect, inv.unhurt (.inr (.inl hStarting))]
  | fork parent =>
      have hActs : s.Acts parent := hEnabled
      refine inv.group rfl rfl rfl (List.ne_nil_of_mem hActs.1) ?_ ?_ (Nat.le_succ _) .inl id rfl
      · intro p hLive
        rcases List.mem_cons.mp hLive with rfl | hOld
        · exact .inr ⟨rfl, Nat.lt_succ_self _, parent, hActs, Function.update_self _ _ _⟩
        · exact .inl hOld
      · intro p hLive pipe hHolds
        have hOld : p ≠ s.nextPid := Nat.ne_of_lt (inv.born p hLive)
        simpa [State.effect, Function.update_of_ne hOld] using hHolds
  | write p pipe bytes =>
      have hActs : s.Acts p := hEnabled.1
      exact inv.group rfl rfl rfl (List.ne_nil_of_mem hActs.1) (fun _ => .inl) (fun _ _ _ => id)
        (Nat.le_refl _) .inl id rfl
  | closePipe p pipe =>
      have hActs : s.Acts p := hEnabled
      refine inv.group rfl rfl rfl (List.ne_nil_of_mem hActs.1) (fun _ => .inl) ?_
        (Nat.le_refl _) .inl id rfl
      intro other _ pipe' hHolds
      by_cases hOther : other = p
      · subst hOther
        by_cases hPipe : pipe' = pipe
        · simp [State.effect, hPipe] at hHolds
        · simpa [State.effect, Function.update_of_ne hPipe] using hHolds
      · simpa [State.effect, Function.update_of_ne hOther] using hHolds
  | exit p code =>
      have hLive : p ∈ s.alive := hEnabled
      refine inv.group rfl rfl rfl (List.ne_nil_of_mem hLive) ?_ (fun _ _ _ => id)
        (Nat.le_refl _) ?_ ?_ rfl
      · exact fun other hOther => .inl (List.mem_of_mem_filter hOther)
      · intro hCode
        by_cases hLeader : p = leader
        · exact .inr ⟨hLeader ▸ hLive, by simp [State.effect, hLeader]⟩
        · exact .inl (by simpa [State.effect, hLeader] using hCode)
      · intro hCode
        by_cases hLeader : p = leader
        · simp [State.effect, hLeader]
        · simpa [State.effect, hLeader] using hCode
  | reap =>
      exact { inv with reaped := id }
  | complete =>
      obtain ⟨_, hOut, hErr, hReturn⟩ := hEnabled
      have hBoth : ∀ pipe, s.Eof pipe := by
        intro pipe
        cases pipe with
        | stdout => exact hOut
        | stderr => exact hErr
      refine inv.task rfl rfl rfl rfl ?_ ?_ ?_ ?_ fun _ _ => ⟨inv.reaped hReturn, hBoth⟩ <;>
        simp [State.effect, State.returning]
  | timeout => exact { inv with }
  | cancel => exact { inv with }
  | waited =>
      by_cases hPhase : s.phase = .abandoning
      · apply inv.giveUp <;> simp [State.effect, hPhase, State.GaveUp]
      · apply inv.giveUp <;>
          simp [State.effect, hPhase, State.returning, State.closeTransport, State.GaveUp]
  | handle => exact inv.handle hEnabled.1

/-- SIGKILL is never taken back. -/
theorem sigkilled_subset {cmd : Command} {s t : State} {action : Action}
    (h : step cmd s action = some t) : s.sigkilled ⊆ t.sigkilled := by
  obtain ⟨_, rfl⟩ := step_eq_some_iff.mp h
  cases action with
  | startFails failure => cases failure <;> exact List.Subset.refl _
  | waited =>
      by_cases hPhase : s.phase = .abandoning <;>
        simp [State.effect, hPhase, State.returning, State.closeTransport]
  | handle =>
      have hKill : s.sigkilled ⊆ s.killGroup.sigkilled := by
        rw [State.killGroup_eq]
        split_ifs
        · exact List.Subset.refl _
        · exact List.subset_append_right _ _
      cases hPhase : s.phase with
      | starting =>
          simp only [State.effect, hPhase, State.abandonStart]
          split_ifs
          · exact List.subset_cons_self _ _
          · exact List.Subset.refl _
      | communicating =>
          simp only [State.effect, hPhase]
          split_ifs <;> exact hKill
      | _ => simp [State.effect, hPhase, State.closeTransport]
  | _ => exact List.Subset.refl _

theorem sigkilled_subset_of_runs {cmd : Command} {s t : State} {actions : List Action}
    (run : Runs (step cmd) s actions t) : s.sigkilled ⊆ t.sigkilled := by
  induction run with
  | zero => exact List.Subset.refl _
  | succ prior meets last ih => exact List.Subset.trans ih (sigkilled_subset last)

/-- From the clean-up on, the transport is closed or `_reap` is about to. -/
def State.Closing (s : State) : Prop := s.phase = .reaping ∨ s.transportClosed = true

theorem closing_step {cmd : Command} {s t : State} {action : Action} (hClosing : s.Closing)
    (h : step cmd s action = some t) : t.Closing := by
  obtain ⟨hEnabled, rfl⟩ := step_eq_some_iff.mp h
  have hKept : s.phase ≠ .reaping → s.transportClosed = true := hClosing.resolve_left
  cases action with
  | spawn =>
      have hPhase : s.phase = .calling := hEnabled
      exact .inr (hKept (by simp [hPhase]))
  | startFails failure =>
      have hPhase : s.phase = .calling := hEnabled
      cases failure <;> exact .inr (hKept (by simp [hPhase]))
  | started => exact .inr (hKept (by simp [hEnabled.1]))
  | complete => exact .inr (hKept (by simp [hEnabled.1]))
  | waited =>
      right
      by_cases hPhase : s.phase = .abandoning
      · simpa [State.effect, hPhase] using hKept (by simp [hPhase])
      · simp [State.effect, hPhase, State.returning, State.closeTransport]
  | handle =>
      cases hPhase : s.phase with
      | communicating =>
          by_cases hWhy : s.interrupted = some .timedOut <;>
            simp [State.effect, State.Closing, hPhase, hWhy, State.closeTransport]
      | _ => simp [State.effect, State.Closing, hPhase, State.abandonStart, State.closeTransport]
  | _ => exact hClosing

/-- The code that was interrupted in `s` has not seen it yet, unless `communicate()`
was done all the same. -/
def StillAt (s t : State) : Prop :=
  t.phase = s.phase ∧ t.interrupted ≠ none ∧ t.sigkilled = s.sigkilled ∨
    ∃ result, t.phase = .returned .normal result

theorem stillAt_interrupted {cmd : Command} {s t : State} {action : Action}
    (hInterrupts : action.Interrupts) (h : step cmd s action = some t) :
    s.phase.Awaits ∧ StillAt s t := by
  obtain ⟨hEnabled, rfl⟩ := step_eq_some_iff.mp h
  cases action with
  | timeout => exact ⟨by simp [hEnabled.1, Phase.Awaits], .inl ⟨rfl, by simp [State.effect], rfl⟩⟩
  | cancel => exact ⟨hEnabled, .inl ⟨rfl, by simp [State.effect], rfl⟩⟩
  | _ => exact absurd hInterrupts id

theorem StillAt.step {cmd : Command} {s t u : State} {action : Action} (hAwaits : s.phase.Awaits)
    (hStill : StillAt s t) (hSilent : ¬action.Answers) (h : step cmd t action = some u) :
    StillAt s u := by
  obtain ⟨hEnabled, rfl⟩ := step_eq_some_iff.mp h
  cases action with
  | complete => exact .inr ⟨_, rfl⟩
  | waited => exact absurd trivial hSilent
  | handle => exact absurd trivial hSilent
  | timeout =>
      exact hStill.imp (fun ⟨hPhase, _, hSent⟩ => ⟨hPhase, by simp [State.effect], hSent⟩) id
  | cancel =>
      exact hStill.imp (fun ⟨hPhase, _, hSent⟩ => ⟨hPhase, by simp [State.effect], hSent⟩) id
  | spawn =>
      have hCalling : t.phase = .calling := hEnabled
      rcases hStill with ⟨hPhase, _⟩ | ⟨_, hPhase⟩
      · simp [← hPhase, hCalling, Phase.Awaits] at hAwaits
      · simp [hCalling] at hPhase
  | startFails failure =>
      have hCalling : t.phase = .calling := hEnabled
      rcases hStill with ⟨hPhase, _⟩ | ⟨_, hPhase⟩
      · simp [← hPhase, hCalling, Phase.Awaits] at hAwaits
      · simp [hCalling] at hPhase
  | started =>
      rcases hStill with ⟨_, hPending, _⟩ | ⟨_, hPhase⟩
      · exact absurd hEnabled.2 hPending
      · simp [hEnabled.1] at hPhase
  | _ => exact hStill

/-- What answers an interruption finds the code where it was interrupted. -/
theorem stillAt_answered {cmd : Command} {s t u v : State} {interruption answer : Action}
    {waiting : List Action} (hInterrupts : interruption.Interrupts)
    (h : step cmd s interruption = some t)
    (run : RunsWhere (step cmd) (fun _ action => ¬action.Answers) t waiting u)
    (hAnswers : answer.Answers) (hAnswer : step cmd u answer = some v) :
    s.phase.Awaits ∧ u.phase = s.phase ∧ u.sigkilled = s.sigkilled := by
  obtain ⟨hAwaits, hFirst⟩ := stillAt_interrupted hInterrupts h
  have hStill : StillAt s u := run.invariant hFirst fun _ _ _ hOld hSilent hStep =>
    hOld.step hAwaits hSilent hStep
  obtain ⟨hEnabled, -⟩ := step_eq_some_iff.mp hAnswer
  rcases hStill with ⟨hPhase, _, hSent⟩ | ⟨result, hPhase⟩
  · exact ⟨hAwaits, hPhase, hSent⟩
  · cases answer with
    | waited => simp [State.Enabled, hPhase] at hEnabled
    | handle => simp [State.Enabled, hPhase, Phase.Awaits] at hEnabled
    | _ => exact absurd hAnswers id

/-- The answer leads to a state that is closing, and the members that have been
sent SIGKILL there depend on the phase. -/
theorem answer_cases {cmd : Command} {s t : State} {action : Action} (inv : GroupInv s)
    (hAnswers : action.Answers) (h : step cmd s action = some t) :
    t.Closing ∧ (t.GaveUp ∨ t.phase = .reaping ∨ t.phase = .abandoning) ∧
      (s.phase = .communicating ∧ t.sigkilled = s.killGroup.sigkilled ∨
        s.phase = .starting ∧ t.sigkilled = s.abandonStart.sigkilled ∨
        (s.phase = .reaping ∨ s.phase = .abandoning) ∧ t.sigkilled = s.sigkilled) := by
  obtain ⟨hEnabled, rfl⟩ := step_eq_some_iff.mp h
  cases action with
  | waited =>
      by_cases hPhase : s.phase = .abandoning
      · simp [State.effect, State.Closing, State.GaveUp, hPhase, (inv.abandoned hPhase).1]
      · have hReaping : s.phase = .reaping := hEnabled.resolve_right fun h => hPhase h.1
        simp [State.effect, State.Closing, State.GaveUp, hReaping, State.returning,
          State.closeTransport]
  | handle =>
      cases hPhase : s.phase with
      | communicating =>
          by_cases hWhy : s.interrupted = some .timedOut <;>
            simp [State.effect, State.Closing, State.GaveUp, hPhase, hWhy, State.closeTransport]
      | starting => simp [State.effect, State.Closing, hPhase, State.abandonStart]
      | reaping => simp [State.effect, State.Closing, State.GaveUp, hPhase, State.closeTransport]
      | abandoning => simp [State.effect, State.Closing, State.GaveUp, hPhase, State.closeTransport]
      | _ => simp [State.Enabled, hPhase, Phase.Awaits] at hEnabled
  | _ => exact absurd hAnswers id

/-- After the answer, `run_command` can give up without another SIGKILL. -/
theorem exists_gaveUp (cmd : Command) {s : State}
    (h : s.GaveUp ∨ s.phase = .reaping ∨ s.phase = .abandoning) :
    ∃ later t, Runs (step cmd) s later t ∧ t.GaveUp ∧ t.sigkilled = s.sigkilled := by
  rcases h with hOver | hPhase | hPhase
  · exact ⟨[], s, .zero s, hOver, rfl⟩
  · have hWaited : step cmd s .waited = some (s.effect cmd .waited) :=
      step_eq_some_iff.mpr ⟨.inl hPhase, rfl⟩
    refine ⟨[.waited], _, .succ (.zero s) trivial hWaited, ?_, ?_⟩ <;>
      simp [State.effect, hPhase, State.GaveUp, State.returning, State.closeTransport]
  · have hCancel : step cmd s .cancel = some (s.effect cmd .cancel) :=
      step_eq_some_iff.mpr ⟨by simp [State.Enabled, hPhase, Phase.Awaits], rfl⟩
    have hHandle : step cmd (s.effect cmd .cancel) .handle =
        some ((s.effect cmd .cancel).effect cmd .handle) :=
      step_eq_some_iff.mpr ⟨by simp [State.Enabled, State.effect, hPhase, Phase.Awaits], rfl⟩
    refine ⟨[.cancel, .handle], _, .succ (.succ (.zero s) trivial hCancel) trivial hHandle, ?_,
      ?_⟩ <;>
      simp [State.effect, hPhase, State.GaveUp, State.closeTransport]

theorem cleansUp_iff_sent {cmd : Command} {s : State} (members : List Pid) (hClosing : s.Closing)
    (h : s.GaveUp ∨ s.phase = .reaping ∨ s.phase = .abandoning) :
    CleansUp cmd members s ↔ ∀ p ∈ members, p ∈ s.sigkilled := by
  constructor
  · intro hCleans
    obtain ⟨later, t, run, hOver, hSent⟩ := exists_gaveUp cmd h
    exact hSent ▸ (hCleans later t run hOver).1
  · intro hAll later t run hOver
    have hEnd : t.Closing :=
      run.invariant hClosing fun _ _ _ hOld _ hStep => closing_step hOld hStep
    refine ⟨fun p hMember => sigkilled_subset_of_runs run (hAll p hMember), hEnd.resolve_left ?_⟩
    rcases hOver with ⟨result, hPhase⟩ | hPhase <;> simp [hPhase]

/-- Whom the answer leaves with a SIGKILL, of the members that were alive when the
code was interrupted. -/
theorem killReaches_iff {s u v : State} {members : List Pid} (inv : GroupInv s)
    (hPhase : u.phase = s.phase) (hBefore : u.sigkilled = s.sigkilled)
    (hMembers : members ⊆ s.alive)
    (hSent : u.phase = .communicating ∧ v.sigkilled = u.killGroup.sigkilled ∨
      u.phase = .starting ∧ v.sigkilled = u.abandonStart.sigkilled ∨
      (u.phase = .reaping ∨ u.phase = .abandoning) ∧ v.sigkilled = u.sigkilled) :
    u.KillReaches members ↔ ∀ p ∈ members, p ∈ v.sigkilled := by
  rcases members.eq_nil_or_concat with rfl | ⟨others, last, hLast⟩
  · simp [State.KillReaches]
  have hNonempty : members ≠ [] := by simp [hLast]
  obtain ⟨someone, hSomeone⟩ := List.exists_mem_of_ne_nil _ hNonempty
  simp only [State.KillReaches, hNonempty, ne_eq, not_false_eq_true, forall_const]
  rcases hSent with ⟨hHere, hSent⟩ | ⟨hHere, hSent⟩ | ⟨hHere | hHere, hSent⟩
  · have hNone : u.sigkilled = [] := hBefore.trans (inv.unhurt (.inr (.inr (hPhase ▸ hHere))))
    rw [hHere, hSent, State.killGroup_eq, hNone]
    by_cases hReturn : u.returncode = none
    · simp [hReturn]
    · simp [hReturn, List.eq_nil_iff_forall_not_mem.not.mp hNonempty]
  · have hNone : u.sigkilled = [] := hBefore.trans (inv.unhurt (.inr (.inl (hPhase ▸ hHere))))
    rw [hHere, hSent]
    simp only [State.abandonStart, hNone]
    refine forall₂_congr fun p _ => ?_
    constructor
    · rintro ⟨rfl, hLive⟩
      simp [hLive]
    · intro hListed
      split_ifs at hListed with hLive
      · have hLeader : p = leader := by simpa using hListed
        exact ⟨hLeader, hLeader ▸ hLive⟩
      · simp at hListed
  · rw [hHere, hSent, hBefore]
    constructor
    · intro hReached p hMember
      exact inv.killed (hPhase ▸ hHere) hReached p (hMembers hMember)
    · intro hAll
      exact List.ne_nil_of_mem (hAll someone hSomeone)
  · obtain ⟨-, hOnly, hLeader⟩ := inv.abandoned (hPhase ▸ hHere)
    rw [hHere, hSent, hBefore]
    refine forall₂_congr fun p hMember => ⟨?_, hOnly p⟩
    rintro rfl
    exact hLeader (hMembers hMember)

/-- An interruption in a reachable state leaves none of the members that were alive
then without SIGKILL, and no open transport, exactly when the kill can reach them
where the code that cleans up finds the group: all of them, or those among them
that are still alive. And a normal result means that the child has exited and both
pipes are at their end. -/
theorem noSurvivors_iff_killReaches {cmd : Command} {actions : List Action} {s : State}
    (run : Runs (step cmd) State.initial actions s) :
    (∀ interruption t waiting u answer v, interruption.Interrupts →
      step cmd s interruption = some t →
      RunsWhere (step cmd) (fun _ action => ¬action.Answers) t waiting u →
      answer.Answers → step cmd u answer = some v →
        ∀ members ⊆ s.alive, (CleansUp cmd members v ↔ u.KillReaches members)) ∧
    ∀ result, s.phase = .returned .normal result →
      s.exitCode ≠ none ∧ leader ∉ s.alive ∧ ∀ pipe, s.Eof pipe := by
  have hStep : ∀ t action u, GroupInv t → step cmd t action = some u → GroupInv u :=
    fun _ _ _ hInv hStep => hInv.step hStep
  have inv : GroupInv s := run.invariant GroupInv.initial fun _ _ _ hInv _ => hStep _ _ _ hInv
  refine ⟨?_, ?_⟩
  · intro interruption t waiting u answer v hInterrupts hFirst hWaiting hAnswers hAnswer
      members hMembers
    obtain ⟨-, hPhase, hBefore⟩ := stillAt_answered hInterrupts hFirst hWaiting hAnswers hAnswer
    have hFound : GroupInv u := hWaiting.invariant (hStep _ _ _ inv hFirst) fun _ _ _ hInv _ =>
      hStep _ _ _ hInv
    obtain ⟨hClosing, hAfter, hSent⟩ := answer_cases hFound hAnswers hAnswer
    rw [cleansUp_iff_sent members hClosing hAfter]
    exact (killReaches_iff inv hPhase hBefore hMembers hSent).symm
  · intro result hDone
    obtain ⟨hCode, hEof⟩ := inv.normal result hDone
    exact ⟨hCode, (inv.exited hCode).1, hEof⟩

/-- A shell with a background job. -/
def shell : Command := ⟨"sh", ["-c", "sleep 30 & wait"], fun _ => ""⟩

/-- While the shell waits for its job, the timeout reaches both. -/
theorem noSurvivors_waiting_shell : ∃ s t u v w : State,
    execute (step shell) State.initial [.spawn, .started, .fork leader] = some s ∧
      step shell s .timeout = some t ∧ step shell t (.write 1 .stdout []) = some u ∧
      step shell u .handle = some v ∧ step shell v .waited = some w ∧
      s.alive = [1, leader] ∧ (∀ p ∈ s.alive, p ∈ w.sigkilled) ∧ w.transportClosed = true := by
  obtain ⟨s, t, u, v, w, hRun, hTimeout, hWrite, hHandle, hWaited, hAlive, hFound⟩ : ∃ s t u v w,
      execute (step shell) State.initial [.spawn, .started, .fork leader] = some s ∧
      step shell s .timeout = some t ∧ step shell t (.write 1 .stdout []) = some u ∧
      step shell u .handle = some v ∧ step shell v .waited = some w ∧ s.alive = [1, leader] ∧
      u.phase = .communicating ∧ u.returncode = none ∧ u.alive = s.alive ∧ w.GaveUp :=
    ⟨_, _, _, _, _, rfl, rfl, rfl, rfl, rfl, rfl, rfl, rfl, rfl, .inl ⟨_, rfl⟩⟩
  obtain ⟨hPhase, hReturn, hSame, hOver⟩ := hFound
  have hReaches : u.KillReaches s.alive := fun _ => by simp [hPhase, hReturn, hSame]
  have hClean := ((noSurvivors_iff_killReaches (runs_of_execute hRun)).1 .timeout t _ u .handle v
    trivial hTimeout (.succ (.zero t) id hWrite) trivial hHandle s.alive
    (List.Subset.refl _)).mpr hReaches
  exact ⟨s, t, u, v, w, hRun, hTimeout, hWrite, hHandle, hWaited, hAlive,
    hClean [.waited] w (.succ (.zero v) trivial hWaited) hOver⟩

/-- The child forks a process that keeps the pipes open, exits and is reaped
before the timeout. -/
def leaderDiesFirst : List Action :=
  [.spawn, .started, .fork leader, .exit leader 0, .reap]

/-- A descendant survives when the child was reaped before the timeout. -/
theorem not_noSurvivors : ¬∀ (cmd : Command) (actions : List Action) (s t : State)
    (action : Action), Runs (step cmd) State.initial actions s → action.Interrupts →
      step cmd s action = some t → CleansUp cmd s.alive t := by
  intro hAll
  have hClean := hAll shell leaderDiesFirst _ _ .timeout (runs_of_execute rfl) trivial rfl
  have hSent := (hClean [.handle, .waited] _ (runs_of_execute rfl) (.inl ⟨_, rfl⟩)).1 1
    (by decide)
  exact absurd hSent (by decide)

end NodeDebugDashboard.Collectors.RunCommand
