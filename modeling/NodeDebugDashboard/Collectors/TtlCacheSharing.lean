import NodeDebugDashboard.Collectors.TtlCacheFailures

/-! Callers queued behind a failed execution. As long as the queue of the key
drains, nothing else happens to the key: every waiter in turn finds the stored
failure and ends with it. -/
namespace NodeDebugDashboard.Collectors.TtlCache

open Library

variable {K V E : Type} [DecidableEq K]

omit [DecidableEq K] in
theorem Phase.key_of_inside {phase : Phase K V E} {key : K} {l : LockId}
    (h : phase.waits = some (key, l) ∨ phase.holds = some (key, l)) : phase.key = some key := by
  cases phase <;> simp_all [Phase.waits, Phase.holds, Phase.key]

/-- In a one-key run everything inside uses one lock. -/
theorem SharingInv.lock_eq {k : K} {s : State K V E} (inv : SharingInv k s) {c other : CallId}
    {key key' : K} {l m : LockId} (hFirst : (s.call c).waits = some (key, l) ∨
      (s.call c).holds = some (key, l)) (hSecond : (s.call other).waits = some (key', m) ∨
      (s.call other).holds = some (key', m)) : key = k ∧ key' = k ∧ l = m := by
  have hKeyed : ∀ {c key l}, (s.call c).waits = some (key, l) ∨
      (s.call c).holds = some (key, l) → key = k ∧ s.locks.get? key = some l := by
    intro c key l hInside
    refine ⟨inv.keyed (Phase.key_of_inside hInside), ?_⟩
    exact hInside.elim (fun h => (inv.locks.waiting h).1) (fun h => (inv.locks.holding h).1)
  obtain ⟨rfl, hTable⟩ := hKeyed hFirst
  obtain ⟨rfl, hTable'⟩ := hKeyed hSecond
  exact ⟨rfl, rfl, Option.some.inj (hTable.symm.trans hTable')⟩

/-- A call waits where it will find the failure: the lock is free, the key has
no live entry, and the failure is no older than any call up to this one in the
queue. -/
structure Pending (k : K) (l : LockId) (failure : Raised E) (failedAt : ℚ)
    (ahead : List CallId) (c : CallId) (arrived : ℚ) (s : State K V E) : Prop where
  free : (s.lock l).holder = none
  failed : s.failures.get? k = some (failure, failedAt)
  stale : ∀ entry, s.cache.get? k = some entry → entry.2 ≤ s.clock
  queued : s.call c = .queued k l arrived
  queue : ahead ++ [c] <+: (s.lock l).waiters
  recent : ∀ other ∈ ahead ++ [c], ∀ since, s.call other = .queued k l since → since ≤ failedAt

/-- Nobody who goes on under the lock now finds anything but the failure. -/
theorem Entered.eq_shared {s t : State K V E} {k : K} {l : LockId} {c : CallId}
    {since now failedAt : ℚ} {failure : Raised E} (h : Entered s c k l since now t)
    (hFailed : s.failures.get? k = some (failure, failedAt))
    (hStale : ∀ entry, s.cache.get? k = some entry → entry.2 ≤ now) (hRecent : since ≤ failedAt) :
    t = s.setCall c (.ended k since (.shared failure failedAt)) := by
  cases h with
  | hit value hFresh => simp [(fresh_eq_none_iff s k now).mpr hStale] at hFresh
  | shared failed _ hFailed' _ =>
      rw [hFailed] at hFailed'
      cases hFailed'
      rfl
  | started _ hOld => exact absurd (hOld _ hFailed) (not_lt.mpr hRecent)

/-- An action that takes the head of a queue. -/
def Action.isResume : Action K V E → Bool
  | .resume _ _ => true
  | _ => false

/-- While a call is pending, a step ends it with the failure, cancels it, or
leaves it pending; and a step that takes the head of the queue moves it up. -/
theorem Pending.step {cfg : Config V} {k : K} {l : LockId} {failure : Raised E} {failedAt : ℚ}
    {ahead : List CallId} {c : CallId} {arrived : ℚ} {s t : State K V E} {action : Action K V E}
    (pending : Pending k l failure failedAt ahead c arrived s) (inv : SharingInv k s)
    (hKey : action.UsesKey k) (h : Step cfg s action t) :
    t.call c = .ended k arrived (.shared failure failedAt) ∨
      t.call c = .ended k arrived .cancelled ∨
      ∃ ahead', Pending k l failure failedAt ahead' c arrived t ∧
        ahead'.length + (if action.isResume then 1 else 0) ≤ ahead.length := by
  have hWaits : (s.call c).waits = some (k, l) := by simp [pending.queued, Phase.waits]
  have hTable : s.locks.get? k = some l := (inv.locks.waiting hWaits).1
  have hLockFor : s.lockFor k = l := by simp [State.lockFor, hTable]
  have hQueue : (s.lock l).waiters ≠ [] := by
    intro hEmpty
    simpa [hEmpty] using pending.queue
  have hListed : ∀ other ∈ ahead ++ [c], ∃ key, (s.call other).waits = some (key, l) :=
    fun other hOther => inv.locks.waiters (pending.queue.subset hOther)
  cases h with
  | @hit c' key t₀ t₁ t₂ value _ hTime hFresh =>
      obtain rfl : key = k := hKey
      have hStale := (fresh_eq_none_iff s key t₀).mpr
        fun entry hEntry => (pending.stale entry hEntry).trans hTime.1
      simp [hStale] at hFresh
  | @acquire c' key t₀ t₁ t₂ _ _ _ _ _ hEmpty =>
      obtain rfl : key = k := hKey
      exact absurd (hLockFor ▸ hEmpty) hQueue
  | @wait c' key t₀ t₁ t₂ hCall hTime _ _ =>
      obtain rfl : key = k := hKey
      have hOther : ∀ other ∈ ahead ++ [c], other ≠ c' := by
        rintro other hOther rfl
        obtain ⟨key', hWaiting⟩ := hListed other hOther
        simp [hCall, Phase.waits] at hWaiting
      have hNe : c ≠ c' := hOther c (by simp)
      refine .inr (.inr ⟨ahead, ?_, by simp [Action.isResume]⟩)
      rw [hLockFor]
      exact {
        free := by simpa [State.enqueue] using pending.free
        failed := by simpa [State.enqueue] using pending.failed
        stale := by
          intro entry hEntry
          have hPast := pending.stale entry (by simpa [State.enqueue] using hEntry)
          simpa [State.enqueue] using
            hPast.trans (hTime.1.trans (hTime.2.1.trans hTime.2.2))
        queued := by simpa [State.enqueue, Function.update_of_ne hNe] using pending.queued
        queue := by simpa [State.enqueue] using pending.queue.trans (List.prefix_append _ [c'])
        recent := by
          intro other hMem since hSince
          apply pending.recent other hMem since
          simpa [State.enqueue, Function.update_of_ne (hOther other hMem)] using hSince }
  | @resume c' key m since now rest _ hCall hTime _ hHead hEntered =>
      have hCalled : (s.call c').waits = some (key, m) := by simp [hCall, Phase.waits]
      obtain ⟨rfl, _, rfl⟩ := inv.lock_eq (.inl hCalled) (.inl hWaits)
      have hStale : ∀ entry, s.cache.get? key = some entry → entry.2 ≤ now :=
        fun entry hEntry => (pending.stale entry hEntry).trans hTime
      have hPrefix := pending.queue
      rw [hHead] at hPrefix
      cases ahead with
      | nil =>
          obtain rfl : c = c' := by simpa using hPrefix
          have hSame : since = arrived := by simpa [hCall] using pending.queued
          have hRecent := pending.recent c (by simp) since hCall
          rw [hEntered.eq_shared pending.failed hStale hRecent]
          exact .inl (by simp [hSame])
      | cons first others =>
          obtain ⟨rfl, hRest⟩ : first = c' ∧ others ++ [c] <+: rest := by
            simpa [List.cons_prefix_cons] using hPrefix
          have hRecent := pending.recent first (by simp) since hCall
          rw [hEntered.eq_shared pending.failed hStale hRecent]
          have hNodup := inv.locks.nodup m
          rw [hHead, List.nodup_cons] at hNodup
          have hOther : ∀ other ∈ others ++ [c], other ≠ first := by
            rintro other hOther rfl
            exact hNodup.1 (hRest.subset hOther)
          refine .inr (.inr ⟨others, ?_, by simp [Action.isResume]⟩)
          exact {
            free := by simpa using pending.free
            failed := pending.failed
            stale := hStale
            queued := by
              simpa [Function.update_of_ne (hOther c (by simp))] using pending.queued
            queue := by simpa using hRest
            recent := by
              intro other hMem later hLater
              apply pending.recent other (by simp_all) later
              simpa [Function.update_of_ne (hOther other hMem)] using hLater }
  | @complete c' key m since now outcome hCall =>
      have hRunning : (s.call c').holds = some (key, m) := by simp [hCall, Phase.holds]
      obtain ⟨rfl, _, rfl⟩ := inv.lock_eq (.inr hRunning) (.inl hWaits)
      have hHolder := (inv.locks.holding hRunning).2
      simp [pending.free] at hHolder
  | @cancel c' key m since hCall =>
      have hCalled : (s.call c').waits = some (key, m) := by simp [hCall, Phase.waits]
      obtain ⟨rfl, _, rfl⟩ := inv.lock_eq (.inl hCalled) (.inl hWaits)
      by_cases hNe : c' = c
      · subst hNe
        have hSame : since = arrived := by simpa [hCall] using pending.queued
        exact .inr (.inl (by simp [hSame]))
      · have hErased := pending.queue.erase c'
        have hKept : (ahead ++ [c]).erase c' = ahead.erase c' ++ [c] := by
          by_cases hMem : c' ∈ ahead
          · exact List.erase_append_left _ hMem
          · rw [List.erase_append_right _ hMem, List.erase_of_not_mem hMem,
              List.erase_of_not_mem (by simpa using hNe)]
        rw [hKept] at hErased
        have hOther : ∀ other ∈ ahead.erase c' ++ [c], other ≠ c' := by
          rintro other hOther rfl
          exact ((inv.locks.nodup m).mem_erase_iff.mp (hErased.subset hOther)).1 rfl
        refine .inr (.inr ⟨ahead.erase c', ?_, ?_⟩)
        · exact {
            free := by simpa using pending.free
            failed := pending.failed
            stale := pending.stale
            queued := by simpa [Function.update_of_ne (Ne.symm hNe)] using pending.queued
            queue := by simpa using hErased
            recent := by
              intro other hMem later hLater
              have hMem' : other ∈ ahead ++ [c] := List.mem_of_mem_erase (hKept ▸ hMem)
              apply pending.recent other hMem' later
              simpa [Function.update_of_ne (hOther other hMem)] using hLater }
        · simpa [Action.isResume] using List.length_erase_le

theorem Pending.run {cfg : Config V} {k : K} {l : LockId} {failure : Raised E} {failedAt : ℚ}
    {ahead : List CallId} {c : CallId} {arrived : ℚ} {s u : State K V E}
    {actions : List (Action K V E)} (run : RunsWhere (TtlCache.step cfg) (OneKey cfg k) s actions u)
    (inv : SharingInv k s) (pending : Pending k l failure failedAt ahead c arrived s) :
    u.call c = .ended k arrived (.shared failure failedAt) ∨
      u.call c = .ended k arrived .cancelled ∨
      ∃ ahead', Pending k l failure failedAt ahead' c arrived u ∧
        ahead'.length + actions.countP Action.isResume ≤ ahead.length := by
  induction run with
  | zero => exact .inr (.inr ⟨ahead, pending, le_refl _⟩)
  | @succ t u actions action prior meets last ih =>
      have invNow := prior.invariant inv fun _ _ _ hInv hAllowed hStep => hInv.step hAllowed hStep
      have h := step_cases last
      rcases ih with hShared | hCancelled | ⟨middle, hPending, hCount⟩
      · exact .inl (h.ended hShared)
      · exact .inr (.inl (h.ended hCancelled))
      · rcases hPending.step invNow meets.2 h with hShared | hCancelled | ⟨last, hLast, hMoved⟩
        · exact .inl hShared
        · exact .inr (.inl hCancelled)
        · refine .inr (.inr ⟨last, hLast, ?_⟩)
          rw [List.countP_append, List.countP_singleton]
          omega

/-- The queue that a pending call is in can go on at any time. -/
theorem Pending.enabled {k : K} {l : LockId} {failure : Raised E} {failedAt : ℚ}
    {ahead : List CallId} {c : CallId} {arrived : ℚ} {s : State K V E} (cfg : Config V)
    (pending : Pending k l failure failedAt ahead c arrived s) (inv : SharingInv k s) :
    ∃ head, ∀ now ≥ s.clock, (TtlCache.step cfg s (.resume head now)).isSome := by
  obtain ⟨head, hHead⟩ : ∃ head, (s.lock l).waiters.head? = some head := by
    cases hQueue : (s.lock l).waiters with
    | nil => simpa [hQueue] using pending.queue
    | cons head rest => exact ⟨head, rfl⟩
  obtain ⟨key, hWaits⟩ := inv.locks.waiters (List.mem_of_head? hHead)
  refine ⟨head, fun now hNow => ?_⟩
  cases hCall : s.call head with
  | queued key' m since =>
      obtain ⟨rfl, rfl⟩ : key' = key ∧ m = l := by simpa [hCall, Phase.waits] using hWaits
      simp [TtlCache.step, hCall, pending.free, hHead, hNow]
  | absent => simp [hCall, Phase.waits] at hWaits
  | running => simp [hCall, Phase.waits] at hWaits
  | ended => simp [hCall, Phase.waits] at hWaits

/-- When an execution raises, every call queued behind it is pending, at its
place in the queue. -/
theorem SharingInv.pending {cfg : Config V} {k : K} {s t : State K V E} (inv : SharingInv k s)
    {executor c : CallId} {error : E} {failedAt : ℚ}
    (hStep : TtlCache.step cfg s (.complete executor (.exception error) failedAt) = some t)
    {key : K} {l : LockId} {arrived : ℚ} (hQueued : s.call c = .queued key l arrived) :
    key = k ∧ Pending k l ⟨error, executor⟩ failedAt
      ((s.lock l).waiters.take ((s.lock l).waiters.idxOf c)) c arrived t := by
  have hWaits : (s.call c).waits = some (key, l) := by simp [hQueued, Phase.waits]
  cases step_cases hStep with
  | @complete _ own m since _ _ hCall hTime =>
      have hHolds : (s.call executor).holds = some (own, m) := by simp [hCall, Phase.holds]
      obtain ⟨rfl, rfl, rfl⟩ := inv.lock_eq (.inl hWaits) (.inr hHolds)
      have hMem : c ∈ (s.lock l).waiters := (inv.locks.waiting hWaits).2
      have hPlace := List.idxOf_lt_length_of_mem hMem
      have hNe : c ≠ executor := by
        rintro rfl
        simp [hQueued] at hCall
      have hFront : (s.lock l).waiters.take ((s.lock l).waiters.idxOf c) ++ [c] =
          (s.lock l).waiters.take ((s.lock l).waiters.idxOf c + 1) := by
        rw [List.take_add_one, List.getElem?_eq_getElem hPlace, List.getElem_idxOf]
        rfl
      refine ⟨rfl, ?_⟩
      exact {
        free := by simp [State.finish, State.release]
        failed := by simp [State.finish, State.release]
        stale := fun entry hEntry => (inv.stale hCall entry hEntry).trans hTime
        queued := by
          simpa [State.finish, State.release, Function.update_of_ne hNe] using hQueued
        queue := by
          rw [hFront]
          simpa [State.finish, State.release] using List.take_prefix _ _
        recent := by
          intro other _ later hLater
          have hOther : other ≠ executor := by
            rintro rfl
            simp [State.finish, State.release] at hLater
          have hBefore : s.call other = .queued own l later := by
            simpa [State.finish, State.release, Function.update_of_ne hOther] using hLater
          exact (inv.arrived hBefore).trans hTime }

/-- The task of the call is cancelled, while it waits or while it executes. -/
def TaskCancelled (actions : List (Action K V E)) (c : CallId) : Prop :=
  .cancel c ∈ actions ∨ ∃ now, .complete c .cancelled now ∈ actions

theorem cancelled_of_runsWhere {cfg : Config V} {allowed : State K V E → Action K V E → Prop}
    {s u : State K V E} {actions : List (Action K V E)}
    (run : RunsWhere (step cfg) allowed s actions u) {c : CallId} {key : K} {arrived : ℚ}
    (hCancelled : u.call c = .ended key arrived .cancelled) :
    s.call c = .ended key arrived .cancelled ∨ TaskCancelled actions c := by
  induction run with
  | zero => exact .inl hCancelled
  | succ prior meets last ih =>
      rcases (step_cases last).cancelled_origin hCancelled with hOld | rfl | ⟨now, rfl⟩
      · rcases ih hOld with hStart | hQueue | ⟨now, hExecution⟩
        · exact .inl hStart
        · exact .inr (.inl (List.mem_append_left _ hQueue))
        · exact .inr (.inr ⟨now, List.mem_append_left _ hExecution⟩)
      · exact .inr (.inl (by simp))
      · exact .inr (.inr ⟨now, by simp⟩)

/-- Every call that is queued when an execution raises ends with that very
exception, or cancelled with its task. Until then it is queued, each call taken
off the queue brings it nearer, and the queue can go on at any time. -/
def FailureShared (cfg : Config V) (allowed : State K V E → Action K V E → Prop)
    (s : State K V E) : Prop :=
  ∀ executor error failedAt t,
    step cfg s (.complete executor (.exception error) failedAt) = some t →
    ∀ c key l arrived, s.call c = .queued key l arrived →
      ∀ later u, RunsWhere (step cfg) allowed t later u →
        u.call c = .ended key arrived (.shared ⟨error, executor⟩ failedAt) ∨
        u.call c = .ended key arrived .cancelled ∧ TaskCancelled later c ∨
        u.call c = .queued key l arrived ∧
          later.countP Action.isResume ≤ (s.lock l).waiters.idxOf c ∧
          ∃ head, ∀ now ≥ u.clock, (step cfg u (.resume head now)).isSome

theorem SharingInv.failureShared {cfg : Config V} {k : K} {s : State K V E}
    (inv : SharingInv k s) : FailureShared cfg (OneKey cfg k) s := by
  intro executor error failedAt t hStep c key l arrived hQueued later u run
  have hAllowed : OneKey cfg k s (.complete executor (.exception error) failedAt) :=
    ⟨fun h => h, trivial⟩
  have invAfter : SharingInv k t := inv.step hAllowed hStep
  obtain ⟨rfl, hPending⟩ := inv.pending hStep hQueued
  rcases hPending.run run invAfter with hShared | hCancelled | ⟨ahead, hStill, hCount⟩
  · exact .inl hShared
  · refine .inr (.inl ⟨hCancelled, ?_⟩)
    rcases cancelled_of_runsWhere run hCancelled with hBefore | hTask
    · simp [hPending.queued] at hBefore
    · exact hTask
  · have invEnd := run.invariant invAfter fun _ _ _ hInv hAllowed hStep => hInv.step hAllowed hStep
    refine .inr (.inr ⟨hStill.queued, ?_, hStill.enabled cfg invEnd⟩)
    have hPlace := List.length_take_le ((s.lock l).waiters.idxOf c) (s.lock l).waiters
    omega

/-- The call is over. -/
def State.Over (s : State K V E) (c : CallId) : Prop :=
  ∃ key arrived result, s.call c = .ended key arrived result

/-- After a success, no call ends with an exception of an execution that was
over by then. -/
def FailureForgotten (cfg : Config V) (allowed : State K V E → Action K V E → Prop)
    (s : State K V E) : Prop :=
  ∀ executor value now t, step cfg s (.complete executor (.value value) now) = some t →
    ∀ later u, RunsWhere (step cfg) allowed t later u →
      ∀ c key arrived failure failedAt, u.call c = .ended key arrived (.shared failure failedAt) →
        t.Over failure.raisedBy → t.Over c

/-- Along a run, the failures in the table are those it started with and those
of executions that were not over at its start. -/
theorem failure_of_runsWhere {cfg : Config V} {allowed : State K V E → Action K V E → Prop}
    {s u : State K V E} {actions : List (Action K V E)}
    (run : RunsWhere (step cfg) allowed s actions u) {key : K} {failed : Raised E × ℚ}
    (hFailed : u.failures.get? key = some failed) :
    s.failures.get? key = some failed ∨ ¬s.Over failed.1.raisedBy := by
  induction run with
  | zero => exact .inl hFailed
  | succ prior meets last ih =>
      rcases (step_cases last).failure_origin hFailed with
        hOld | ⟨c, l, arrived, error, now, rfl, hCall, rfl⟩
      · exact ih hOld
      · right
        rintro ⟨key', arrived', result, hOver⟩
        simp [ended_of_runsWhere prior hOver] at hCall

theorem shared_of_runsWhere {cfg : Config V} {allowed : State K V E → Action K V E → Prop}
    {s u : State K V E} {actions : List (Action K V E)}
    (run : RunsWhere (step cfg) allowed s actions u) {c : CallId} {key : K}
    {arrived failedAt : ℚ} {failure : Raised E}
    (hShared : u.call c = .ended key arrived (.shared failure failedAt)) :
    s.Over c ∨ s.failures.get? key = some (failure, failedAt) ∨ ¬s.Over failure.raisedBy := by
  induction run with
  | zero => exact .inl ⟨key, arrived, _, hShared⟩
  | succ prior meets last ih =>
      rcases (step_cases last).shared_origin hShared with hOld | ⟨_, hFailed⟩
      · exact ih hOld
      · exact .inr (failure_of_runsWhere prior hFailed)

theorem SharingInv.failureForgotten {cfg : Config V} {k : K} {s : State K V E}
    (inv : SharingInv k s) (hFailures : FailureInv s) :
    FailureForgotten cfg (OneKey cfg k) s := by
  intro executor value now t hStep later u run c key arrived failure failedAt hShared hOver
  rcases shared_of_runsWhere run hShared with hDone | hTable | hNew
  · exact hDone
  · exfalso
    cases step_cases hStep with
    | @complete _ own l since _ _ hCall hTime =>
        have hErased := get?_pop hTable
        change (s.failures.erase own).get? key = _ at hErased
        rw [Dict.get?_erase] at hErased
        split_ifs at hErased with hKey
        obtain ⟨arrived', hRaised⟩ := hFailures.table hErased
        have hSame : key = k := inv.keyed (c := failure.raisedBy) (by simp [hRaised, Phase.key])
        have hOwn : own = k := inv.keyed (c := executor) (by simp [hCall, Phase.key])
        exact hKey (hSame.trans hOwn.symm)
  · exact absurd hOver hNew

theorem FailureInv.run {cfg : Config V} {allowed : State K V E → Action K V E → Prop}
    {clock : ℚ} {s : State K V E} {actions : List (Action K V E)}
    (run : RunsWhere (TtlCache.step cfg) allowed (State.initial clock) actions s) : FailureInv s :=
  run.invariant (FailureInv.initial clock) fun _ _ _ hInv _ hStep => hInv.step (step_cases hStep)

/-- Outcome sharing along every run for one key in which no eviction pops the
lock of the key while another call is inside. -/
theorem outcomeSharing_of_unused_evictions {cfg : Config V} {k : K} {clock : ℚ}
    {actions : List (Action K V E)} {s : State K V E}
    (run : RunsWhere (step cfg) (OneKey cfg k) (State.initial clock) actions s) :
    FailureShared cfg (OneKey cfg k) s ∧
    (∀ c key arrived failure failedAt, s.call c = .ended key arrived (.shared failure failedAt) →
      arrived ≤ failedAt ∧ ∃ arrived',
        s.call failure.raisedBy = .ended key arrived' (.raised failure.error failedAt)) ∧
    (∀ c key arrived, s.call c = .ended key arrived .cancelled → TaskCancelled actions c) ∧
    FailureForgotten cfg (OneKey cfg k) s := by
  have inv : SharingInv k s := run.invariant (SharingInv.initial k clock)
    fun _ _ _ hInv hAllowed hStep => hInv.step hAllowed hStep
  have hFailures := FailureInv.run run
  refine ⟨inv.failureShared, ?_, ?_, inv.failureForgotten hFailures⟩
  · intro c key arrived failure failedAt hShared
    exact hFailures.shared hShared
  · intro c key arrived hCancelled
    rcases cancelled_of_runsWhere run hCancelled with hStart | hTask
    · simp [State.initial] at hStart
    · exact hTask

/-- A failure reaches the caller that queued behind it. -/
theorem outcomeSharing_two_callers : ∃ s t u : State Nat Nat Nat,
    execute (step {}) (State.initial 0) [.arrive 0 7 0 0 0, .arrive 1 7 1 1 1] = some s ∧
      step {} s (.complete 0 (.exception 9) 2) = some t ∧ step {} t (.resume 1 3) = some u ∧
      u.call 1 = .ended 7 1 (.shared ⟨9, 0⟩ 2) := by
  have run : RunsWhere (step {}) (OneKey {} 7) (State.initial 0 : State Nat Nat Nat)
      [.arrive 0 7 0 0 0, .arrive 1 7 1 1 1] _ :=
    .succ (.succ (.zero _) ⟨fun h => h, rfl⟩ rfl) ⟨fun h => h, rfl⟩ rfl
  have hShared := (outcomeSharing_of_unused_evictions run).1 0 9 2 _ rfl 1 7 0 1 rfl
    [.resume 1 3] _ (.succ (.zero _) ⟨fun h => h, trivial⟩ rfl)
  refine ⟨_, _, _, rfl, rfl, rfl, ?_⟩
  rcases hShared with hShared | ⟨_, hTask⟩ | ⟨_, hCount, _⟩
  · exact hShared
  · simp [TaskCancelled] at hTask
  · exact absurd hCount (by decide)

/-- With room for no entry every success pops the lock of its own key. Call 1
goes on under the popped lock while calls 2 and 3 use a new one; call 2 fails,
but call 1 succeeds before call 3 goes on. -/
def selfEviction : List (Action Nat Nat Nat) :=
  [.arrive 0 0 0 0 0, .arrive 1 0 1 1 1, .complete 0 (.value 5) 2, .resume 1 3,
    .arrive 2 0 4 4 4, .arrive 3 0 5 5 5]

theorem selfEviction_calls :
    (execute (step { maxsize := 0 }) (State.initial 0) selfEviction).bind (fun s =>
      (step { maxsize := 0 } s (.complete 2 (.exception 9) 6)).bind (fun t =>
        (execute (step { maxsize := 0 }) t [.complete 1 (.value 6) 7, .resume 3 8]).map
          (fun u => (s.call 3, u.call 3)))) = some (.queued 0 1 5, .running 0 1 5) := by
  decide +kernel

/-- With room for no entry a queued caller can be left to run the function
again after the failure it was queued behind. -/
theorem not_failureShared : ¬∀ (cfg : Config Nat) (k : Nat) (clock : ℚ)
    (actions : List (Action Nat Nat Nat)) (s : State Nat Nat Nat),
      RunsWhere (step cfg) (fun _ action => action.UsesKey k) (State.initial clock) actions s →
        FailureShared cfg (fun _ action => action.UsesKey k) s := by
  intro hAll
  obtain ⟨s, hRun, hRest⟩ := Option.bind_eq_some_iff.mp selfEviction_calls
  obtain ⟨t, hFailure, hLast⟩ := Option.bind_eq_some_iff.mp hRest
  obtain ⟨u, hLater, hCalls⟩ := Option.map_eq_some_iff.mp hLast
  have hOneKey : ∀ action ∈ selfEviction, ∀ _ : State Nat Nat Nat, action.UsesKey 0 := by
    simp [selfEviction, Action.UsesKey]
  have hShared := hAll { maxsize := 0 } 0 0 selfEviction s (runsWhere_of_execute hRun hOneKey)
    2 9 6 t hFailure 3 0 1 5 (congrArg Prod.fst hCalls) _ u
    (runsWhere_of_execute hLater (by simp [Action.UsesKey]))
  have hCall : u.call 3 = .running 0 1 5 := congrArg Prod.snd hCalls
  simp [hCall] at hShared

/-- With room for one entry, the only key is never evicted. -/
theorem oneKey_of_maxsize_pos {cfg : Config V} {k : K} {clock : ℚ}
    {actions : List (Action K V E)} {s : State K V E} (hRoom : 1 ≤ cfg.maxsize)
    (run : RunsWhere (step cfg) (fun _ action => action.UsesKey k) (State.initial clock)
      actions s) : RunsWhere (step cfg) (OneKey cfg k) (State.initial clock) actions s := by
  have hUnused : ∀ (t : State K V E) (action : Action K V E), SharingInv k t → TableInv cfg t →
      ¬EvictsUsedLock cfg t action := by
    intro t action inv table hEvicts
    cases action with
    | complete c outcome now =>
        cases outcome with
        | value value =>
            obtain ⟨key, l, arrived, evicted, other, hCall, hVictim, _, _⟩ := hEvicts
            have hKey : key = k := inv.keyed (c := c) (by simp [hCall, Phase.key])
            have hSize : (t.cache.set key (value, now + cfg.ttl value)).size ≤ 1 := by
              refine Dict.size_le_one _ (fun stored entry hEntry => (?_ : stored = k))
              rw [Dict.get?_set] at hEntry
              split_ifs at hEntry with hStored
              · exact hStored.trans hKey
              · obtain ⟨_, _, ⟨d, since, hOver⟩, _⟩ := table.entry hEntry
                exact inv.keyed (c := d) (by simp [hOver, Phase.key])
            simp [State.victim, not_lt.mpr (hSize.trans hRoom)] at hVictim
        | exception => exact hEvicts
        | cancelled => exact hEvicts
    | arrive => exact hEvicts
    | resume => exact hEvicts
    | cancel => exact hEvicts
  have hStart : SharingInv k (State.initial clock : State K V E) ∧
      TableInv cfg (State.initial clock : State K V E) :=
    ⟨SharingInv.initial k clock, TableInv.initial cfg clock⟩
  apply run.strengthen (fun t => SharingInv k t ∧ TableInv cfg t) hStart
  · rintro t action u ⟨inv, table⟩ hKey hStep
    exact ⟨inv.step ⟨hUnused t action inv table, hKey⟩ hStep, table.step hStep⟩
  · rintro t action ⟨inv, table⟩ hKey
    exact ⟨hUnused t action inv table, hKey⟩

end NodeDebugDashboard.Collectors.TtlCache
