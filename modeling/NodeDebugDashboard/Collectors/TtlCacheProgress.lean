import Mathlib.Data.Set.Card
import NodeDebugDashboard.Collectors.TtlCacheLocks
import NodeDebugDashboard.Library.Progress

/-! The calls of a cached collector come to an end. Eviction may part a key from its lock,
so nothing here relies on the lock table: a call stays with the lock it has found. -/
namespace NodeDebugDashboard.Collectors.TtlCache

open Library

variable {K V E : Type} [DecidableEq K]

/-- The lock under which a call executes the wrapped function. -/
def Phase.lockHeld : Phase K V E → Option LockId
  | .running _ l _ => some l
  | _ => none

/-- The lock that a call is queued on. -/
def Phase.lockAwaited : Phase K V E → Option LockId
  | .queued _ l _ => some l
  | _ => none

/-- Each lock knows exactly the calls that hold it and await it. -/
structure QueueInv (s : State K V E) : Prop where
  holder : ∀ c l, (s.lock l).holder = some c ↔ (s.call c).lockHeld = some l
  waiters : ∀ c l, c ∈ (s.lock l).waiters ↔ (s.call c).lockAwaited = some l
  nodup : ∀ l, (s.lock l).waiters.Nodup

omit [DecidableEq K] in
theorem QueueInv.initial (clock : ℚ) : QueueInv (State.initial clock : State K V E) where
  holder := by simp [State.initial, Phase.lockHeld]
  waiters := by simp [State.initial, Phase.lockAwaited]
  nodup := by simp [State.initial]

omit [DecidableEq K] in
/-- The invariant reads nothing but the locks and the calls. -/
theorem QueueInv.congr {s t : State K V E} (inv : QueueInv s) (hLock : t.lock = s.lock)
    (hCall : t.call = s.call) : QueueInv t := by
  constructor <;> simp only [hLock, hCall]
  · exact inv.holder
  · exact inv.waiters
  · exact inv.nodup

omit [DecidableEq K] in
/-- One call changes its phase together with the one lock it has to do with. -/
theorem QueueInv.move {s : State K V E} (inv : QueueInv s) {c : CallId} {l : LockId} {lock : Lock}
    {phase : Phase K V E}
    (hOld : ∀ m ≠ l, (s.call c).lockHeld ≠ some m ∧ (s.call c).lockAwaited ≠ some m)
    (hNew : ∀ m ≠ l, phase.lockHeld ≠ some m ∧ phase.lockAwaited ≠ some m)
    (hHolder : ∀ other, lock.holder = some other ↔
      (Function.update s.call c phase other).lockHeld = some l)
    (hWaiters : ∀ other, other ∈ lock.waiters ↔
      (Function.update s.call c phase other).lockAwaited = some l)
    (hNodup : lock.waiters.Nodup) : QueueInv ((s.setLock l lock).setCall c phase) where
  holder other m := by
    by_cases hLock : m = l
    · subst hLock
      change (Function.update s.lock m lock m).holder = some other ↔ _
      rw [Function.update_self]
      exact hHolder other
    · by_cases hOther : other = c
      · subst hOther
        have hNone : (s.lock m).holder ≠ some other :=
          fun h => (hOld m hLock).1 ((inv.holder other m).mp h)
        simpa [Function.update_of_ne hLock, (hNew m hLock).1] using hNone
      · simpa [Function.update_of_ne hLock, Function.update_of_ne hOther] using inv.holder other m
  waiters other m := by
    by_cases hLock : m = l
    · subst hLock
      change other ∈ (Function.update s.lock m lock m).waiters ↔ _
      rw [Function.update_self]
      exact hWaiters other
    · by_cases hOther : other = c
      · subst hOther
        have hNone : other ∉ (s.lock m).waiters :=
          fun h => (hOld m hLock).2 ((inv.waiters other m).mp h)
        simpa [Function.update_of_ne hLock, (hNew m hLock).2] using hNone
      · simpa [Function.update_of_ne hLock, Function.update_of_ne hOther] using inv.waiters other m
  nodup m := by
    by_cases hLock : m = l
    · simpa [hLock] using hNodup
    · simpa [Function.update_of_ne hLock] using inv.nodup m

/-- Going on under a free lock, whether the call ends at once or starts an execution. `lock`
is the lock with the call taken off its queue. -/
theorem QueueInv.entered {s t : State K V E} (inv : QueueInv s) {c : CallId} {key : K}
    {l : LockId} {arrived now : ℚ} {lock : Lock}
    (h : Entered (s.setLock l lock) c key l arrived now t)
    (hOld : ∀ m ≠ l, (s.call c).lockHeld ≠ some m ∧ (s.call c).lockAwaited ≠ some m)
    (hFree : (s.lock l).holder = none) (hHolder : lock.holder = none)
    (hWaiters : ∀ other, other ∈ lock.waiters ↔ other ≠ c ∧ other ∈ (s.lock l).waiters)
    (hNodup : lock.waiters.Nodup) : QueueInv t := by
  have hHeld : ∀ other, (s.call other).lockHeld ≠ some l := by
    intro other hOther
    have hHolds := (inv.holder other l).mpr hOther
    simp [hFree] at hHolds
  have hQueue : ∀ (phase : Phase K V E), phase.lockAwaited = none → ∀ other, other ∈ lock.waiters ↔
      (Function.update s.call c phase other).lockAwaited = some l := by
    intro phase hPhase other
    rw [hWaiters]
    by_cases hOther : other = c
    · simp [hOther, hPhase]
    · simp [hOther, inv.waiters]
  have hEnded :
      ∀ result : Result V E,
      QueueInv ((s.setLock l lock).setCall c (.ended key arrived result)) := by
    intro result
    apply inv.move hOld
    · simp [Phase.lockHeld, Phase.lockAwaited]
    · intro other
      by_cases hOther : other = c
      · simp [hOther, hHolder, Phase.lockHeld]
      · simp [hOther, hHolder, hHeld]
    · exact hQueue _ rfl
    · exact hNodup
  cases h with
  | hit value => exact hEnded _
  | shared failed => exact hEnded _
  | started =>
      rw [State.setLock_setLock]
      apply inv.move hOld
      · intro m hLock
        simp [Phase.lockHeld, Phase.lockAwaited, hLock.symm]
      · intro other
        by_cases hOther : other = c
        · simp [hOther, Phase.lockHeld]
        · simp [hOther, Ne.symm hOther, hHeld]
      · simpa using hQueue _ rfl
      · simpa using hNodup

/-- The call that an action is about leaves its lock, or queues up. -/
theorem QueueInv.step {cfg : Config V} {s t : State K V E} {action : Action K V E}
    (inv : QueueInv s) (h : step cfg s action = some t) : QueueInv t := by
  cases step_cases h with
  | @hit c key t₀ t₁ t₂ value hCall hTime hFresh =>
      have hTick : QueueInv (s.tick t₂) := inv.congr rfl rfl
      rw [← State.setLock_self (s.tick t₂) 0]
      apply hTick.move
      · simp [hCall, Phase.lockHeld, Phase.lockAwaited]
      · simp [Phase.lockHeld, Phase.lockAwaited]
      · intro other
        by_cases hOther : other = c
        · simp [hOther, inv.holder, hCall, Phase.lockHeld]
        · simp [hOther, inv.holder]
      · intro other
        by_cases hOther : other = c
        · simp [hOther, inv.waiters, hCall, Phase.lockAwaited]
        · simp [hOther, inv.waiters]
      · exact hTick.nodup 0
  | @acquire c key t₀ t₁ t₂ _ hCall hTime hStale hFree hQueue hEntered =>
      have hReady : QueueInv ((s.tick t₂).setdefaultLock key) :=
        inv.congr (State.setdefaultLock_lock (s.tick t₂) key)
          (State.setdefaultLock_call (s.tick t₂) key)
      rw [← State.setLock_self ((s.tick t₂).setdefaultLock key) (s.lockFor key)] at hEntered
      apply hReady.entered hEntered
      · simp [hCall, Phase.lockHeld, Phase.lockAwaited]
      · simpa using hFree
      · simpa using hFree
      · simp [hQueue]
      · simp [hQueue]
  | @wait c key t₀ t₁ t₂ hCall hTime hStale hBusy =>
      have hReady : QueueInv ((s.tick t₂).setdefaultLock key) :=
        inv.congr (State.setdefaultLock_lock (s.tick t₂) key)
          (State.setdefaultLock_call (s.tick t₂) key)
      have hOutside : c ∉ (((s.tick t₂).setdefaultLock key).lock (s.lockFor key)).waiters := by
        simp [inv.waiters, hCall, Phase.lockAwaited]
      apply hReady.move
      · simp [hCall, Phase.lockHeld, Phase.lockAwaited]
      · intro m hLock
        simp [Phase.lockHeld, Phase.lockAwaited, hLock.symm]
      · intro other
        by_cases hOther : other = c
        · simp [hOther, inv.holder, hCall, Phase.lockHeld]
        · simp [hOther, inv.holder]
      · intro other
        by_cases hOther : other = c
        · simp [hOther, Phase.lockAwaited]
        · simp [hOther, inv.waiters]
      · exact (hReady.nodup _).append (List.nodup_singleton c) (by simpa using hOutside)
  | @resume c key l arrived now rest _ hCall hTime hFree hQueue hEntered =>
      have hTick : QueueInv (s.tick now) := inv.congr rfl rfl
      have hNodup := inv.nodup l
      rw [hQueue, List.nodup_cons] at hNodup
      apply hTick.entered hEntered
      · intro m hLock
        simp [hCall, Phase.lockHeld, Phase.lockAwaited, hLock.symm]
      · exact hFree
      · exact hFree
      · intro other
        simp only [State.tick_lock, hQueue, List.mem_cons]
        grind
      · exact hNodup.2
  | @complete c key l arrived now outcome hCall hTime =>
      have hTick : QueueInv (s.tick now) := inv.congr rfl rfl
      have hEnded : ∀ result : Result V E, QueueInv (((s.tick now).setLock l
          { s.lock l with holder := none }).setCall c (.ended key arrived result)) := by
        intro result
        apply hTick.move
        · intro m hLock
          simp [hCall, Phase.lockHeld, Phase.lockAwaited, hLock.symm]
        · simp [Phase.lockHeld, Phase.lockAwaited]
        · intro other
          by_cases hOther : other = c
          · simp [hOther, Phase.lockHeld]
          · have hHolds := (inv.holder c l).mpr (by simp [hCall, Phase.lockHeld])
            simp [hOther, ← inv.holder, hHolds, Ne.symm hOther]
        · intro other
          by_cases hOther : other = c
          · simp [hOther, inv.waiters, hCall, Phase.lockAwaited]
          · simp [hOther, inv.waiters]
        · exact inv.nodup l
      cases outcome with
      | value value => exact (hEnded (.computed value now)).congr rfl rfl
      | exception error => exact (hEnded (.raised error now)).congr rfl rfl
      | cancelled => exact (hEnded .cancelled).congr rfl rfl
  | @cancel c key l arrived hCall =>
      apply inv.move
      · intro m hLock
        simp [hCall, Phase.lockHeld, Phase.lockAwaited, hLock.symm]
      · simp [Phase.lockHeld, Phase.lockAwaited]
      · intro other
        by_cases hOther : other = c
        · simp [hOther, inv.holder, hCall, Phase.lockHeld]
        · simp [hOther, inv.holder]
      · intro other
        rw [(inv.nodup l).mem_erase_iff]
        by_cases hOther : other = c
        · simp [hOther, Phase.lockAwaited]
        · simp [hOther, inv.waiters]
      · exact (inv.nodup l).erase c

theorem QueueInv.run {cfg : Config V} {s t : State K V E} {actions : List (Action K V E)}
    (run : Runs (TtlCache.step cfg) s actions t) (inv : QueueInv s) : QueueInv t :=
  run.invariant inv fun _ _ _ hInv _ hStep => hInv.step hStep

/-- The calls that are queued on some lock. -/
def State.queuedCalls (s : State K V E) : Set CallId := {c | (s.call c).lockAwaited ≠ none}

/-- The calls that execute the wrapped function. -/
def State.runningCalls (s : State K V E) : Set CallId := {c | (s.call c).lockHeld ≠ none}

/-- The steps that the calls can need to come to an end: a queued call goes on and then
completes. -/
noncomputable def State.work (s : State K V E) : Nat :=
  2 * s.queuedCalls.ncard + s.runningCalls.ncard

/-- No new call is made. -/
def Action.Continues : Action K V E → Prop
  | .arrive .. => False
  | _ => True

/-- Queued calls go on and executions end without delay, each with the outcome that is
given for it. -/
def Drains (outcome : CallId → Outcome V E) (s : State K V E) : Action K V E → Prop
  | .arrive .. => False
  | .resume _ now => now = s.clock
  | .complete c result now => result = outcome c ∧ now = s.clock
  | .cancel _ => False

structure ProgressInv (s : State K V E) : Prop where
  queues : QueueInv s
  queued : s.queuedCalls.Finite
  running : s.runningCalls.Finite

omit [DecidableEq K] in
theorem ProgressInv.initial (clock : ℚ) : ProgressInv (State.initial clock : State K V E) where
  queues := .initial clock
  queued := by simp [State.queuedCalls, State.initial, Phase.lockAwaited]
  running := by simp [State.runningCalls, State.initial, Phase.lockHeld]

/-- A step changes nothing about the other calls. -/
theorem Step.subset_insert {cfg : Config V} {s t : State K V E} {action : Action K V E}
    (h : Step cfg s action t) : t.queuedCalls ⊆ insert action.actor s.queuedCalls ∧
      t.runningCalls ⊆ insert action.actor s.runningCalls := by
  constructor
  · intro c hMem
    by_cases hActor : c = action.actor
    · exact .inl hActor
    · exact .inr (by simpa [State.queuedCalls, h.call_other hActor] using hMem)
  · intro c hMem
    by_cases hActor : c = action.actor
    · exact .inl hActor
    · exact .inr (by simpa [State.runningCalls, h.call_other hActor] using hMem)

theorem ProgressInv.step {cfg : Config V} {s t : State K V E} {action : Action K V E}
    (inv : ProgressInv s) (h : TtlCache.step cfg s action = some t) : ProgressInv t where
  queues := inv.queues.step h
  queued := (inv.queued.insert _).subset (step_cases h).subset_insert.1
  running := (inv.running.insert _).subset (step_cases h).subset_insert.2

/-- What a step other than an arrival does for its call: it takes it off a queue, or ends
an execution. -/
theorem Step.leaves {cfg : Config V} {s t : State K V E} {action : Action K V E}
    (h : Step cfg s action t) (hContinues : action.Continues) :
    action.actor ∉ t.queuedCalls ∧ (action.actor ∈ s.queuedCalls ∨
      action.actor ∈ s.runningCalls ∧ action.actor ∉ t.runningCalls) := by
  cases h with
  | hit => exact hContinues.elim
  | acquire => exact hContinues.elim
  | wait => exact hContinues.elim
  | @resume c _ _ _ _ _ _ hCall _ _ _ hEntered =>
      have hQueued : c ∈ s.queuedCalls := by simp [State.queuedCalls, hCall, Phase.lockAwaited]
      refine ⟨?_, .inl hQueued⟩
      cases hEntered <;> simp [State.queuedCalls, Action.actor, Phase.lockAwaited]
  | @complete c _ _ _ _ outcome hCall =>
      have hRunning : c ∈ s.runningCalls := by simp [State.runningCalls, hCall, Phase.lockHeld]
      refine ⟨?_, .inr ⟨hRunning, ?_⟩⟩
      · cases outcome <;>
          simp [State.queuedCalls, Action.actor, State.finish, State.release, Phase.lockAwaited]
      · cases outcome <;>
          simp [State.runningCalls, Action.actor, State.finish, State.release, Phase.lockHeld]
  | cancel hCall =>
      constructor
      · simp [State.queuedCalls, Action.actor, Phase.lockAwaited]
      · left
        simp [State.queuedCalls, Action.actor, hCall, Phase.lockAwaited]

/-- A call that has come up leaves the queue, and an execution that ends is one less. -/
theorem Step.work_lt {cfg : Config V} {s t : State K V E} {action : Action K V E}
    (h : Step cfg s action t) (hContinues : action.Continues) (inv : ProgressInv s) :
    t.work < s.work := by
  obtain ⟨hSubsetQueued, hSubsetRunning⟩ := h.subset_insert
  obtain ⟨hGone, hOld⟩ := h.leaves hContinues
  have hQueuedSubset : t.queuedCalls ⊆ s.queuedCalls :=
    (Set.subset_insert_iff_of_notMem hGone).mp hSubsetQueued
  unfold State.work
  rcases hOld with hQueued | ⟨hRunning, hEnded⟩
  · have hLess : t.queuedCalls.ncard < s.queuedCalls.ncard :=
      Set.ncard_lt_ncard ⟨hQueuedSubset, fun hSame => hGone (hSame hQueued)⟩ inv.queued
    have hMore : t.runningCalls.ncard ≤ s.runningCalls.ncard + 1 :=
      (Set.ncard_le_ncard hSubsetRunning (inv.running.insert _)).trans (Set.ncard_insert_le _ _)
    omega
  · have hLess : t.queuedCalls.ncard ≤ s.queuedCalls.ncard :=
      Set.ncard_le_ncard hQueuedSubset inv.queued
    have hRunningSubset : t.runningCalls ⊆ s.runningCalls :=
      (Set.subset_insert_iff_of_notMem hEnded).mp hSubsetRunning
    have hFewer : t.runningCalls.ncard < s.runningCalls.ncard :=
      Set.ncard_lt_ncard ⟨hRunningSubset, fun hSame => hEnded (hSame hRunning)⟩ inv.running
    omega

/-- The first waiter of a free lock can go on. -/
theorem QueueInv.exists_resume {cfg : Config V} {s : State K V E} (inv : QueueInv s) {l : LockId}
    (hFree : (s.lock l).holder = none) (hQueue : (s.lock l).waiters ≠ []) :
    ∃ c t, TtlCache.step cfg s (.resume c s.clock) = some t := by
  obtain ⟨c, rest, hWaiters⟩ := List.exists_cons_of_ne_nil hQueue
  have hAwaited := (inv.waiters c l).mp (by simp [hWaiters])
  cases hCall : s.call c with
  | queued key m arrived =>
      simp only [hCall, Phase.lockAwaited, Option.some.injEq] at hAwaited
      subst hAwaited
      have hSome : (TtlCache.step cfg s (.resume c s.clock)).isSome := by
        simp [TtlCache.step, hCall, hFree, hWaiters]
      exact ⟨c, Option.isSome_iff_exists.mp hSome⟩
  | _ => simp [hCall, Phase.lockAwaited] at hAwaited

/-- While a call is inside, an execution is in progress or a queued call can go on. -/
theorem QueueInv.exists_running_or_resume (cfg : Config V) {s : State K V E} (inv : QueueInv s)
    (hInside : s.queuedCalls.Nonempty ∨ s.runningCalls.Nonempty) :
    s.runningCalls.Nonempty ∨ ∃ c t, TtlCache.step cfg s (.resume c s.clock) = some t := by
  rcases hInside with ⟨c, hQueued⟩ | hRunning
  · obtain ⟨l, hAwaited⟩ := Option.ne_none_iff_exists'.mp hQueued
    have hListed := (inv.waiters c l).mpr hAwaited
    cases hHolder : (s.lock l).holder with
    | none => exact .inr (inv.exists_resume hHolder (List.ne_nil_of_mem hListed))
    | some d =>
        have hHeld := (inv.holder d l).mp hHolder
        exact .inl ⟨d, by simp [State.runningCalls, hHeld]⟩
  · exact .inl hRunning

omit [DecidableEq K] in
theorem ProgressInv.work_ne_zero_iff {s : State K V E} (inv : ProgressInv s) :
    s.work ≠ 0 ↔ s.queuedCalls.Nonempty ∨ s.runningCalls.Nonempty := by
  have hQueued := Set.ncard_pos inv.queued
  have hRunning := Set.ncard_pos inv.running
  rw [← hQueued, ← hRunning, State.work]
  omega

/-- Whatever the executions come to, a next step is there until all calls have ended. -/
theorem ProgressInv.exists_drains (cfg : Config V) (outcome : CallId → Outcome V E)
    {s : State K V E} (inv : ProgressInv s) (hWork : s.work ≠ 0) :
    ∃ action t, Drains outcome s action ∧ TtlCache.step cfg s action = some t := by
  rcases inv.queues.exists_running_or_resume cfg (inv.work_ne_zero_iff.mp hWork) with ⟨c,
    hRunning⟩ | ⟨c, t, hStep⟩
  · cases hCall : s.call c with
    | running key l arrived =>
        have hSome : (TtlCache.step cfg s (.complete c (outcome c) s.clock)).isSome := by
          simp [TtlCache.step, hCall]
        obtain ⟨t, hStep⟩ := Option.isSome_iff_exists.mp hSome
        exact ⟨.complete c (outcome c) s.clock, t, ⟨rfl, rfl⟩, hStep⟩
    | _ => simp [State.runningCalls, hCall, Phase.lockHeld] at hRunning
  · exact ⟨.resume c s.clock, t, rfl, hStep⟩

omit [DecidableEq K] in
theorem Drains.continues {outcome : CallId → Outcome V E} {s : State K V E} {action : Action K V E}
    (h : Drains outcome s action) : action.Continues := by
  cases action with
  | arrive => exact h
  | _ => trivial

/-- The wrapper does not get stuck. In every reachable state, a run without new calls is
bounded by the calls inside, an execution is in progress or a queued call can go on as long
as there are any, and whatever the executions come to, all calls can be brought to an end. -/
theorem noDeadlock {cfg : Config V} {clock : ℚ} {actions : List (Action K V E)} {s : State K V E}
    (run : Runs (step cfg) (.initial clock) actions s) :
    (∀ later t, RunsWhere (step cfg) (fun _ action => action.Continues) s later t →
      later.length ≤ 2 * s.queuedCalls.ncard + s.runningCalls.ncard) ∧
      (s.queuedCalls.Nonempty ∨ s.runningCalls.Nonempty →
        s.runningCalls.Nonempty ∨ ∃ c t, step cfg s (.resume c s.clock) = some t) ∧
      ∀ outcome, ∃ later t, RunsWhere (step cfg) (Drains outcome) s later t ∧
        t.queuedCalls = ∅ ∧ t.runningCalls = ∅ := by
  have inv : ProgressInv s :=
    run.invariant (.initial clock) fun _ _ _ hInv _ hStep => hInv.step hStep
  refine ⟨?_, inv.queues.exists_running_or_resume cfg, ?_⟩
  · intro later t rest
    have hLength :=
      rest.length_add_measure_le inv (fun _ _ _ hInv _ hStep => hInv.step hStep) State.work
      fun _ _ _ hInv hContinues hStep => (step_cases hStep).work_lt hContinues hInv
    exact (Nat.le_add_right _ _).trans hLength
  · intro outcome
    obtain ⟨later, t, rest, hInv, hDone⟩ := exists_runsWhere_zero State.work
      (fun _ _ _ hInv hDrains hStep =>
        ⟨hInv.step hStep, (step_cases hStep).work_lt hDrains.continues hInv⟩)
      (fun _ hInv hWork => hInv.exists_drains cfg outcome hWork) inv
    have hEmpty := mt hInv.work_ne_zero_iff.mpr (not_not.mpr hDone)
    rw [not_or, Set.not_nonempty_iff_eq_empty, Set.not_nonempty_iff_eq_empty] at hEmpty
    exact ⟨later, t, rest, hEmpty⟩

/-- One execution, and two callers behind it. -/
def threeCallers : List (Action Nat Nat Nat) :=
  [.arrive 0 7 0 0 0, .arrive 1 7 1 1 1, .arrive 2 7 2 2 2]

theorem noDeadlock_threeCallers : ∃ s : State Nat Nat Nat,
    execute (step {}) (.initial 0) threeCallers = some s ∧ s.call 2 = .queued 7 0 2 ∧
      ∃ later t, RunsWhere (step {}) (Drains fun _ => .exception 1) s later t ∧
        t.queuedCalls = ∅ ∧ t.runningCalls = ∅ := by
  have hRun : execute (step {}) (.initial 0) threeCallers = some _ := rfl
  obtain ⟨-, -, hDrains⟩ := noDeadlock (runs_of_execute hRun)
  exact ⟨_, hRun, rfl, hDrains fun _ => .exception 1⟩

end NodeDebugDashboard.Collectors.TtlCache
