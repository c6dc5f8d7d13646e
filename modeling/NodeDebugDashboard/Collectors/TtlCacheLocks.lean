import Mathlib.Tactic.Linarith
import NodeDebugDashboard.Collectors.TtlCache

/-! Single flight. The lock table protects a key only while no eviction pops
the lock of a key that is in use. -/
namespace NodeDebugDashboard.Collectors.TtlCache

open Library

variable {K V E : Type} [DecidableEq K]

/-- The key and the lock a call is queued on. -/
def Phase.waits : Phase K V E → Option (K × LockId)
  | .queued key l _ => some (key, l)
  | _ => none

/-- The key and the lock a call executes the wrapped function under. -/
def Phase.holds : Phase K V E → Option (K × LockId)
  | .running key l _ => some (key, l)
  | _ => none

/-- Every call inside uses the lock that the table has for its key, and each
lock knows exactly the calls that hold it and await it. -/
structure LockInv (s : State K V E) : Prop where
  allocated : ∀ {key l}, s.locks.get? key = some l → l < s.nextLock
  distinct : ∀ {key other l}, s.locks.get? key = some l → s.locks.get? other = some l →
    key = other
  holding : ∀ {c key l}, (s.call c).holds = some (key, l) →
    s.locks.get? key = some l ∧ (s.lock l).holder = some c
  waiting : ∀ {c key l}, (s.call c).waits = some (key, l) →
    s.locks.get? key = some l ∧ c ∈ (s.lock l).waiters
  holder : ∀ {c l}, (s.lock l).holder = some c → ∃ key, (s.call c).holds = some (key, l)
  waiters : ∀ {c l}, c ∈ (s.lock l).waiters → ∃ key, (s.call c).waits = some (key, l)
  nodup : ∀ l, (s.lock l).waiters.Nodup

theorem LockInv.initial (clock : ℚ) : LockInv (State.initial clock : State K V E) where
  allocated := by simp [State.initial]
  distinct := by simp [State.initial]
  holding := by simp [State.initial, Phase.holds]
  waiting := by simp [State.initial, Phase.waits]
  holder := by simp [State.initial]
  waiters := by simp [State.initial]
  nodup := by simp [State.initial]

/-- The invariant reads neither the cache, nor the failures, nor the clock. -/
theorem LockInv.congr {s t : State K V E} (inv : LockInv s) (hLocks : t.locks = s.locks)
    (hLock : t.lock = s.lock) (hNext : t.nextLock = s.nextLock) (hCall : t.call = s.call) :
    LockInv t := by
  constructor <;> simp only [hLocks, hLock, hNext, hCall]
  · exact inv.allocated
  · exact inv.distinct
  · exact inv.holding
  · exact inv.waiting
  · exact inv.holder
  · exact inv.waiters
  · exact inv.nodup

/-- A new lock object takes the next identity, which no key and no call has. -/
theorem LockInv.setdefaultLock {s : State K V E} (inv : LockInv s) (key : K) :
    LockInv (s.setdefaultLock key) := by
  unfold State.setdefaultLock
  cases hKey : s.locks.get? key with
  | some l => exact inv
  | none =>
      have hNew : ∀ {other l}, s.locks.get? other = some l →
          (s.locks.set key s.nextLock).get? other = some l := by
        intro other l hOther
        have hNe : other ≠ key := fun h => by simp [h, hKey] at hOther
        simpa [Dict.get?_set, hNe] using hOther
      have hOld : ∀ {other l}, (s.locks.set key s.nextLock).get? other = some l →
          (other = key ∧ l = s.nextLock) ∨ s.locks.get? other = some l := by
        intro other l hOther
        grind [Dict.get?_set]
      exact {
        allocated := by
          intro other l hOther
          rcases hOld hOther with ⟨_, rfl⟩ | hPrior
          · exact Nat.lt_succ_self _
          · exact (inv.allocated hPrior).trans (Nat.lt_succ_self _)
        distinct := by
          intro first second l hFirst hSecond
          rcases hOld hFirst with ⟨hKey₁, hNew₁⟩ | hPrior₁ <;>
            rcases hOld hSecond with ⟨hKey₂, hNew₂⟩ | hPrior₂
          · exact hKey₁.trans hKey₂.symm
          · exact absurd (inv.allocated hPrior₂) (by simp [hNew₁])
          · exact absurd (inv.allocated hPrior₁) (by simp [hNew₂])
          · exact inv.distinct hPrior₁ hPrior₂
        holding := fun h => ⟨hNew (inv.holding h).1, (inv.holding h).2⟩
        waiting := fun h => ⟨hNew (inv.waiting h).1, (inv.waiting h).2⟩
        holder := inv.holder
        waiters := inv.waiters
        nodup := inv.nodup }

theorem State.setdefaultLock_get? (s : State K V E) (key : K) :
    (s.setdefaultLock key).locks.get? key = some (s.lockFor key) := by
  unfold State.setdefaultLock State.lockFor
  cases hKey : s.locks.get? key <;> simp [hKey]

/-- One call changes its phase together with the one lock it has to do with.
The new lock must list it exactly as the new phase says, and all other calls
as before. -/
theorem LockInv.move {s : State K V E} (inv : LockInv s) {c : CallId} {l : LockId}
    {lock : Lock} {phase : Phase K V E}
    (hOnly : ∀ key other, (s.call c).holds = some (key, other) ∨
      (s.call c).waits = some (key, other) → other = l)
    (hPhase : ∀ key other, phase.holds = some (key, other) ∨ phase.waits = some (key, other) →
      other = l ∧ s.locks.get? key = some l)
    (hHolder : ∀ other, lock.holder = some other ↔
      if other = c then phase.holds ≠ none else (s.lock l).holder = some other)
    (hWaiters : ∀ other, other ∈ lock.waiters ↔
      if other = c then phase.waits ≠ none else other ∈ (s.lock l).waiters)
    (hNodup : lock.waiters.Nodup) : LockInv ((s.setLock l lock).setCall c phase) where
  allocated := inv.allocated
  distinct := inv.distinct
  nodup := by
    intro other
    by_cases hOther : other = l
    · simpa [hOther] using hNodup
    · simpa [Function.update_of_ne hOther] using inv.nodup other
  holding := by
    have hHolding := @inv.holding
    simp only [State.setCall_call, State.setLock_call, State.setCall_lock, State.setLock_lock,
      State.setCall_locks, State.setLock_locks, Function.update_apply]
    grind
  waiting := by
    have hWaiting := @inv.waiting
    simp only [State.setCall_call, State.setLock_call, State.setCall_lock, State.setLock_lock,
      State.setCall_locks, State.setLock_locks, Function.update_apply]
    grind
  holder := by
    intro other m h
    by_cases hLock : m = l
    · subst hLock
      have hListed := (hHolder other).mp (by simpa using h)
      by_cases hOther : other = c
      · subst hOther
        obtain ⟨⟨key, own⟩, hKey⟩ := Option.ne_none_iff_exists'.mp (by simpa using hListed)
        obtain ⟨rfl, _⟩ := hPhase key own (.inl hKey)
        exact ⟨key, by simpa using hKey⟩
      · simpa [Function.update_of_ne hOther] using inv.holder (by simpa [hOther] using hListed)
    · obtain ⟨key, hKey⟩ := inv.holder (c := other) (l := m)
        (by simpa [Function.update_of_ne hLock] using h)
      have hOther : other ≠ c := fun hEq => hLock (hOnly key m (.inl (hEq ▸ hKey)))
      exact ⟨key, by simpa [Function.update_of_ne hOther] using hKey⟩
  waiters := by
    intro other m h
    by_cases hLock : m = l
    · subst hLock
      have hListed := (hWaiters other).mp (by simpa using h)
      by_cases hOther : other = c
      · subst hOther
        obtain ⟨⟨key, own⟩, hKey⟩ := Option.ne_none_iff_exists'.mp (by simpa using hListed)
        obtain ⟨rfl, _⟩ := hPhase key own (.inr hKey)
        exact ⟨key, by simpa using hKey⟩
      · simpa [Function.update_of_ne hOther] using inv.waiters (by simpa [hOther] using hListed)
    · obtain ⟨key, hKey⟩ := inv.waiters (c := other) (l := m)
        (by simpa [Function.update_of_ne hLock] using h)
      have hOther : other ≠ c := fun hEq => hLock (hOnly key m (.inr (hEq ▸ hKey)))
      exact ⟨key, by simpa [Function.update_of_ne hOther] using hKey⟩

omit [DecidableEq K] in
@[simp] theorem State.setLock_self (s : State K V E) (l : LockId) : s.setLock l (s.lock l) = s := by
  simp [State.setLock]

omit [DecidableEq K] in
@[simp] theorem State.setLock_setLock (s : State K V E) (l : LockId) (first second : Lock) :
    (s.setLock l first).setLock l second = s.setLock l second := by
  simp [State.setLock]

/-- A call that was outside ends without touching any lock. -/
theorem LockInv.stayOut {s : State K V E} (inv : LockInv s) {c : CallId} {phase : Phase K V E}
    (hHolds : (s.call c).holds = none) (hWaits : (s.call c).waits = none)
    (hEndHolds : phase.holds = none) (hEndWaits : phase.waits = none) :
    LockInv (s.setCall c phase) := by
  have hMove := @LockInv.move K V E _ s inv c 0 (s.lock 0) phase
  rw [State.setLock_self] at hMove
  have hNotHolder : (s.lock 0).holder ≠ some c := fun h => by
    obtain ⟨key, hKey⟩ := inv.holder h
    simp [hHolds] at hKey
  have hNotWaiter : c ∉ (s.lock 0).waiters := fun h => by
    obtain ⟨key, hKey⟩ := inv.waiters h
    simp [hWaits] at hKey
  apply hMove
  · simp [hHolds, hWaits]
  · simp [hEndHolds, hEndWaits]
  · intro other
    by_cases hOther : other = c <;> simp [hOther, hEndHolds, hNotHolder]
  · intro other
    by_cases hOther : other = c <;> simp [hOther, hEndWaits, hNotWaiter]
  · exact inv.nodup 0

/-- Going on under a free lock keeps the invariant, whether the call ends at
once or starts an execution. `lock` is the lock with the call taken off its
queue. -/
theorem LockInv.entered {s t : State K V E} (inv : LockInv s) {c : CallId} {key : K}
    {l : LockId} {arrived now : ℚ} {lock : Lock}
    (h : Entered (s.setLock l lock) c key l arrived now t)
    (hTable : s.locks.get? key = some l) (hFree : (s.lock l).holder = none)
    (hHolds : (s.call c).holds = none)
    (hOnly : ∀ key' other, (s.call c).waits = some (key', other) → other = l)
    (hHolder : lock.holder = none)
    (hWaiters : ∀ other, other ∈ lock.waiters ↔ other ≠ c ∧ other ∈ (s.lock l).waiters)
    (hNodup : lock.waiters.Nodup) : LockInv t := by
  have hOnly' : ∀ key' other, (s.call c).holds = some (key', other) ∨
      (s.call c).waits = some (key', other) → other = l := by
    intro key' other h
    rcases h with h | h
    · simp [hHolds] at h
    · exact hOnly key' other h
  have hOut : ∀ phase : Phase K V E, phase.holds = none → phase.waits = none →
      LockInv ((s.setLock l lock).setCall c phase) := by
    intro phase hEndHolds hEndWaits
    apply inv.move hOnly'
    · simp [hEndHolds, hEndWaits]
    · intro other
      by_cases hOther : other = c <;> simp [hOther, hEndHolds, hHolder, hFree]
    · intro other
      by_cases hOther : other = c <;> simp [hOther, hEndWaits, hWaiters]
    · exact hNodup
  cases h with
  | hit value hFresh => exact hOut _ rfl rfl
  | shared failed hStale hFailed hRecent => exact hOut _ rfl rfl
  | started hStale hOld =>
      rw [State.setLock_setLock]
      apply inv.move hOnly'
      · simp [Phase.holds, Phase.waits, hTable]
      · intro other
        by_cases hOther : other = c
        · simp [hOther, Phase.holds]
        · simp [hOther, Ne.symm hOther, hFree]
      · intro other
        by_cases hOther : other = c <;> simp [hOther, Phase.waits, hWaiters]
      · simpa using hNodup

/-- Popping the lock of a key that no call is inside for. -/
theorem LockInv.popLock {s : State K V E} (inv : LockInv s) {key : K}
    (hUnused : ∀ c l, (s.call c).holds ≠ some (key, l) ∧ (s.call c).waits ≠ some (key, l)) :
    LockInv { s with locks := s.locks.erase key } where
  allocated := by
    intro other l h
    have hOther : s.locks.get? other = some l := by grind [Dict.get?_erase]
    exact inv.allocated hOther
  distinct := by
    intro first second l hFirst hSecond
    have hFirst' : s.locks.get? first = some l := by grind [Dict.get?_erase]
    have hSecond' : s.locks.get? second = some l := by grind [Dict.get?_erase]
    exact inv.distinct hFirst' hSecond'
  holding := by
    intro c other l h
    have hNe : other ≠ key := fun hEq => (hUnused c l).1 (hEq ▸ h)
    simpa [Dict.get?_erase, hNe] using inv.holding h
  waiting := by
    intro c other l h
    have hNe : other ≠ key := fun hEq => (hUnused c l).2 (hEq ▸ h)
    simpa [Dict.get?_erase, hNe] using inv.waiting h
  holder := inv.holder
  waiters := inv.waiters
  nodup := inv.nodup

/-- The call is queued or running for the key. -/
def State.Inside (s : State K V E) (c : CallId) (key : K) : Prop :=
  ∃ l, (s.call c).holds = some (key, l) ∨ (s.call c).waits = some (key, l)

/-- The step stores a result and pops the lock of a key that some other call
is still queued or running for. -/
def EvictsUsedLock (cfg : Config V) (s : State K V E) : Action K V E → Prop
  | .complete c (.value value) now =>
      ∃ key l arrived evicted other, s.call c = .running key l arrived ∧
        State.victim cfg (s.cache.set key (value, now + cfg.ttl value)) = some evicted ∧
        other ≠ c ∧ s.Inside other evicted
  | _ => False

theorem LockInv.complete {cfg : Config V} {s : State K V E} (inv : LockInv s) {c : CallId}
    {key : K} {l : LockId} {arrived now : ℚ} {outcome : Outcome V E}
    (hCall : s.call c = .running key l arrived)
    (hUnused : ¬EvictsUsedLock cfg s (.complete c outcome now)) :
    LockInv (((s.tick now).finish cfg c key arrived outcome now).release l) := by
  have hHolds : (s.call c).holds = some (key, l) := by simp [hCall, Phase.holds]
  have hHolding := (inv.holding hHolds).2
  have hEnd : ∀ result : Result V E, LockInv
      ((s.setLock l { s.lock l with holder := none }).setCall c (.ended key arrived result)) := by
    intro result
    have hNotWaiter : c ∉ (s.lock l).waiters := fun h => by
      obtain ⟨other, hOther⟩ := inv.waiters h
      simp [hCall, Phase.waits] at hOther
    apply inv.move
    · simp [hCall, Phase.holds, Phase.waits]
    · simp [Phase.holds, Phase.waits]
    · intro other
      by_cases hOther : other = c
      · simp [hOther, Phase.holds]
      · simp [hOther, Ne.symm hOther, hHolding]
    · intro other
      by_cases hOther : other = c <;> simp [hOther, Phase.waits, hNotWaiter]
    · simpa using inv.nodup l
  cases outcome with
  | exception error => exact (hEnd (.raised error now)).congr rfl rfl rfl rfl
  | cancelled => exact (hEnd .cancelled).congr rfl rfl rfl rfl
  | value value =>
      have hStored := hEnd (.computed value now)
      cases hVictim : State.victim cfg (s.cache.set key (value, now + cfg.ttl value)) with
      | none =>
          refine hStored.congr ?_ rfl rfl rfl
          simp [State.finish, State.store, State.release, State.pop, hVictim]
      | some evicted =>
          refine (hStored.popLock (fun other m => ?_)).congr (?_ : _ = s.locks.erase evicted)
            rfl rfl rfl
          · by_cases hOther : other = c
            · simp [hOther, Phase.holds, Phase.waits]
            · have hOutside : ¬s.Inside other evicted := fun h =>
                hUnused ⟨key, l, arrived, evicted, other, hCall, hVictim, hOther, h⟩
              constructor <;> intro h <;> apply hOutside
              · exact ⟨m, .inl (by simpa [Function.update_of_ne hOther] using h)⟩
              · exact ⟨m, .inr (by simpa [Function.update_of_ne hOther] using h)⟩
          · simp [State.finish, State.store, State.release, State.pop, hVictim]

/-- One step that pops no lock in use. -/
theorem LockInv.step {cfg : Config V} {s t : State K V E} {action : Action K V E}
    (inv : LockInv s) (hUnused : ¬EvictsUsedLock cfg s action)
    (h : step cfg s action = some t) : LockInv t := by
  cases step_cases h with
  | @hit c key t₀ t₁ t₂ value hCall hTime hFresh =>
      have hTick : LockInv (s.tick t₂) := inv.congr rfl rfl rfl rfl
      exact hTick.stayOut (by simp [hCall, Phase.holds]) (by simp [hCall, Phase.waits]) rfl rfl
  | @acquire c key t₀ t₁ t₂ _ hCall hTime hStale hFree hQueue hEntered =>
      have hTick : LockInv (s.tick t₂) := inv.congr rfl rfl rfl rfl
      rw [← State.setLock_self ((s.tick t₂).setdefaultLock key) (s.lockFor key)] at hEntered
      refine (hTick.setdefaultLock key).entered hEntered
        (State.setdefaultLock_get? _ key) ?_ ?_ ?_ ?_ ?_ ?_
      · simpa using hFree
      · simp [hCall, Phase.holds]
      · simp [hCall, Phase.waits]
      · simpa using hFree
      · simp [hQueue]
      · simp [hQueue]
  | @wait c key t₀ t₁ t₂ hCall hTime hStale hBusy =>
      have hTick : LockInv (s.tick t₂) := inv.congr rfl rfl rfl rfl
      have hReady := hTick.setdefaultLock key
      have hNotHolder :
          (((s.tick t₂).setdefaultLock key).lock (s.lockFor key)).holder ≠ some c := by
        intro hHolder
        obtain ⟨other, hOther⟩ := hReady.holder hHolder
        simp [hCall, Phase.holds] at hOther
      have hNotWaiter : c ∉ (((s.tick t₂).setdefaultLock key).lock (s.lockFor key)).waiters := by
        intro hWaiter
        obtain ⟨other, hOther⟩ := hReady.waiters hWaiter
        simp [hCall, Phase.waits] at hOther
      apply hReady.move
      · simp [hCall, Phase.holds, Phase.waits]
      · have hLookup := State.setdefaultLock_get? (s.tick t₂) key
        have hSame : (s.tick t₂).lockFor key = s.lockFor key := rfl
        simp [Phase.holds, Phase.waits, hLookup, hSame]
      · intro other
        by_cases hOther : other = c
        · simpa [hOther, Phase.holds] using hNotHolder
        · simp [hOther]
      · intro other
        by_cases hOther : other = c <;> simp [hOther, Phase.waits]
      · exact (hReady.nodup _).append (List.nodup_singleton c) (by simpa using hNotWaiter)
  | @resume c key l arrived now rest _ hCall hTime hFree hQueue hEntered =>
      have hTick : LockInv (s.tick now) := inv.congr rfl rfl rfl rfl
      have hNodup := inv.nodup l
      rw [hQueue, List.nodup_cons] at hNodup
      apply hTick.entered hEntered
      · exact (inv.waiting (c := c) (by simp [hCall, Phase.waits])).1
      · exact hFree
      · simp [hCall, Phase.holds]
      · simp [hCall, Phase.waits]
      · exact hFree
      · intro other
        simp only [State.tick_lock, hQueue, List.mem_cons]
        grind
      · exact hNodup.2
  | complete hCall hTime => exact inv.complete hCall hUnused
  | @cancel c key l arrived hCall =>
      have hNotHolder : (s.lock l).holder ≠ some c := by
        intro hHolder
        obtain ⟨other, hOther⟩ := inv.holder hHolder
        simp [hCall, Phase.holds] at hOther
      apply inv.move
      · simp [hCall, Phase.holds, Phase.waits]
      · simp [Phase.holds, Phase.waits]
      · intro other
        by_cases hOther : other = c <;> simp [hOther, Phase.holds, hNotHolder]
      · intro other
        rw [(inv.nodup l).mem_erase_iff]
        by_cases hOther : other = c <;> simp [hOther, Phase.waits]
      · exact (inv.nodup l).erase c

theorem LockInv.run {cfg : Config V} {s t : State K V E} {actions : List (Action K V E)}
    (run : RunsWhere (TtlCache.step cfg) (fun s action => ¬EvictsUsedLock cfg s action) s actions t)
    (inv : LockInv s) : LockInv t :=
  run.invariant inv fun _ _ _ hInv hUnused hStep => hInv.step hUnused hStep

/-- The call is executing the wrapped function for the key. -/
def State.Executing (s : State K V E) (c : CallId) (key : K) : Prop :=
  ∃ l arrived, s.call c = .running key l arrived

/-- At most one execution per key is in progress. -/
def State.SingleFlight (s : State K V E) : Prop :=
  ∀ key first second, s.Executing first key → s.Executing second key → first = second

theorem LockInv.singleFlight {s : State K V E} (inv : LockInv s) : s.SingleFlight := by
  rintro key first second ⟨l, arrived, hFirst⟩ ⟨m, arrived', hSecond⟩
  have hHolds : (s.call first).holds = some (key, l) := by simp [hFirst, Phase.holds]
  have hHolds' : (s.call second).holds = some (key, m) := by simp [hSecond, Phase.holds]
  obtain ⟨hTable, hHolder⟩ := inv.holding hHolds
  obtain ⟨hTable', hHolder'⟩ := inv.holding hHolds'
  have hSame : l = m := Option.some.inj (hTable.symm.trans hTable')
  subst hSame
  exact Option.some.inj (hHolder.symm.trans hHolder')

/-- Single flight holds along every run in which no eviction pops the lock of
a key that another call is inside for. -/
theorem singleFlight_of_unused_evictions {cfg : Config V} {clock : ℚ}
    {actions : List (Action K V E)} {s : State K V E}
    (run : RunsWhere (step cfg) (fun s action => ¬EvictsUsedLock cfg s action)
      (State.initial clock) actions s) : s.SingleFlight :=
  (LockInv.run run (LockInv.initial clock)).singleFlight

/-- Two callers of one key share one execution. -/
theorem singleFlight_two_callers : ∃ s : State Nat Nat Nat,
    execute (step {}) (State.initial 0) [.arrive 0 7 0 0 0, .arrive 1 7 1 1 1] = some s ∧
      s.Executing 0 7 ∧ s.SingleFlight := by
  have run : RunsWhere (step {}) (fun s action => ¬EvictsUsedLock {} s action)
      (State.initial 0 : State Nat Nat Nat) [.arrive 0 7 0 0 0, .arrive 1 7 1 1 1] _ :=
    .succ (.succ (.zero _) (fun h => h) rfl) (fun h => h) rfl
  exact ⟨_, rfl, ⟨0, 0, rfl⟩, singleFlight_of_unused_evictions run⟩

/-- With room for one entry: key 0 is computed and expires, is being computed
again when key 1 is stored and evicts it, and is then asked for once more. -/
def evictionRace : List (Action Nat Nat Nat) :=
  [.arrive 0 0 0 0 0, .complete 0 (.value 1) 0, .arrive 1 0 20 20 20, .arrive 2 1 21 21 21,
    .complete 2 (.value 2) 22, .arrive 3 0 23 23 23]

theorem evictionRace_calls :
    (execute (step { maxsize := 1 }) (State.initial 0) evictionRace).map
      (fun s => (s.call 1, s.call 3)) = some (.running 0 0 20, .running 0 2 23) := by
  decide +kernel

/-- Room for one entry is not enough: an eviction can pop the lock of a key
whose expired entry is being recomputed. -/
theorem not_singleFlight : ¬∀ (cfg : Config Nat) (clock : ℚ) (actions : List (Action Nat Nat Nat))
    (s : State Nat Nat Nat), 1 ≤ cfg.maxsize →
      Runs (step cfg) (State.initial clock) actions s → s.SingleFlight := by
  intro hAll
  obtain ⟨s, hRun, hCalls⟩ := Option.map_eq_some_iff.mp evictionRace_calls
  have hFlight := hAll { maxsize := 1 } 0 evictionRace s (by simp) (runs_of_execute hRun)
  have hFirst : s.Executing 1 0 := ⟨0, 20, congrArg Prod.fst hCalls⟩
  have hSecond : s.Executing 3 0 := ⟨2, 23, congrArg Prod.snd hCalls⟩
  exact absurd (hFlight 0 1 3 hFirst hSecond) (by decide)

/-- A lock object that no key has been given yet is free. -/
theorem LockInv.nextLock_free {s : State K V E} (inv : LockInv s) :
    (s.lock s.nextLock).holder = none ∧ (s.lock s.nextLock).waiters = [] := by
  constructor
  · apply Option.eq_none_iff_forall_ne_some.mpr
    intro c hHolder
    obtain ⟨key, hKey⟩ := inv.holder hHolder
    exact absurd (inv.allocated (inv.holding hKey).1) (lt_irrefl _)
  · apply List.eq_nil_iff_forall_not_mem.mpr
    intro c hWaiter
    obtain ⟨key, hKey⟩ := inv.waiters hWaiter
    exact absurd (inv.allocated (inv.waiting hKey).1) (lt_irrefl _)

/-- A key that has no table entry and no lock starts an execution for a new
caller, whatever its last failure was. -/
theorem arrive_starts {cfg : Config V} {t : State K V E} {c : CallId} {key : K}
    (hCall : t.call c = .absent) (hCache : t.cache.get? key = none)
    (hLock : t.locks.get? key = none)
    (hFree : (t.lock t.nextLock).holder = none ∧ (t.lock t.nextLock).waiters = []) :
    ∃ later u, step cfg t (.arrive c key later later later) = some u ∧ u.Executing c key ∧
      ∀ other ≠ c, u.call other = t.call other := by
  obtain ⟨later, hClock, hLater⟩ : ∃ later, t.clock ≤ later ∧
      ∀ failed, t.failures.get? key = some failed → failed.2 < later := by
    cases hFailed : t.failures.get? key with
    | none => exact ⟨t.clock, le_refl _, by simp⟩
    | some failed =>
        refine ⟨max t.clock failed.2 + 1, ?_, ?_⟩
        · linarith [le_max_left t.clock failed.2]
        · rintro _ ⟨⟩
          linarith [le_max_right t.clock failed.2]
  have hStale : ∀ now, t.fresh key now = none := fun now => by simp [State.fresh, hCache]
  have hLockFor : t.lockFor key = t.nextLock := by simp [State.lockFor, hLock]
  obtain ⟨u, hStep⟩ : ∃ u, step cfg t (.arrive c key later later later) = some u :=
    ⟨_, by simp [step, hCall, hClock]; rfl⟩
  refine ⟨later, u, hStep, ?_⟩
  cases step_cases hStep with
  | hit _ _ hFresh => simp [hStale] at hFresh
  | wait _ _ _ hBusy =>
      rw [hLockFor] at hBusy
      exact absurd hFree.2 (hBusy hFree.1)
  | acquire _ _ _ _ _ hEntered =>
      have hTables : ((t.tick later).setdefaultLock key).fresh key later = none ∧
          ((t.tick later).setdefaultLock key).failures = t.failures := by
        simp [State.setdefaultLock, hLock, State.fresh, hCache]
      cases hEntered with
      | hit _ hFresh => simp [hTables.1] at hFresh
      | shared failed _ hFailed hRecent =>
          rw [hTables.2] at hFailed
          exact absurd (hLater failed hFailed) (not_lt.mpr hRecent)
      | started =>
          refine ⟨⟨_, later, by simp; rfl⟩, fun other hOther => ?_⟩
          simp [Function.update_of_ne hOther]

/-- The condition cannot be dropped: once a step has popped the lock under
which some call executes, one further call of that key starts a second
execution. -/
theorem not_singleFlight_of_evictsUsedLock {cfg : Config V} {s t : State K V E}
    (inv : LockInv s) {c other fresh : CallId} {key evicted : K} {l : LockId}
    {arrived now : ℚ} {value : V} (hCall : s.call c = .running key l arrived)
    (hVictim : State.victim cfg (s.cache.set key (value, now + cfg.ttl value)) = some evicted)
    (hOther : other ≠ c) (hExecuting : s.Executing other evicted)
    (hNew : s.call fresh = .absent)
    (hStep : step cfg s (.complete c (.value value) now) = some t) :
    ∃ later u, step cfg t (.arrive fresh evicted later later later) = some u ∧
      ¬u.SingleFlight := by
  simp only [step, hCall, Option.ite_none_right_eq_some, Option.some.injEq] at hStep
  obtain ⟨_, rfl⟩ := hStep
  have hFresh : fresh ≠ c := fun h => by simp [h, hCall] at hNew
  let t := ((s.tick now).finish cfg c key arrived (.value value) now).release l
  have hCallNew : t.call fresh = .absent := by
    simpa [t, State.finish, State.store, State.release, Function.update_of_ne hFresh] using hNew
  have hCache : t.cache.get? evicted = none := by
    simp [t, State.finish, State.store, State.release, State.pop, hVictim]
  have hLocks : t.locks.get? evicted = none := by
    simp [t, State.finish, State.store, State.release, State.pop, hVictim]
  have hFree : (t.lock t.nextLock).holder = none ∧ (t.lock t.nextLock).waiters = [] := by
    have hNextFree := inv.nextLock_free
    by_cases hLock : s.nextLock = l
    · subst hLock
      simp [t, State.finish, State.store, State.release, hNextFree]
    · simp [t, State.finish, State.store, State.release, Function.update_of_ne hLock, hNextFree]
  obtain ⟨later, u, hArrive, hSecond, hKeep⟩ := arrive_starts hCallNew hCache hLocks hFree
  refine ⟨later, u, hArrive, fun hFlight => ?_⟩
  obtain ⟨m, since, hRunning⟩ := hExecuting
  have hApart : other ≠ fresh := fun h => by simp [h, hNew] at hRunning
  refine hApart (hFlight evicted other fresh ⟨m, since, ?_⟩ hSecond)
  rw [hKeep other hApart]
  simpa [t, State.finish, State.store, State.release, Function.update_of_ne hOther] using hRunning

end NodeDebugDashboard.Collectors.TtlCache
