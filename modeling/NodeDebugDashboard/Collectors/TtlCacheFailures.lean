import NodeDebugDashboard.Collectors.TtlCacheLocks
import NodeDebugDashboard.Collectors.TtlCacheTable

/-! Outcome sharing: which calls end with the exception of an execution that
was not their own. -/
namespace NodeDebugDashboard.Collectors.TtlCache

open Library

variable {K V E : Type} [DecidableEq K]

/-- A failure that a step leaves in the table was there, or is the exception
the step raised. -/
theorem Step.failure_origin {cfg : Config V} {s t : State K V E} {action : Action K V E}
    (h : Step cfg s action t) {key : K} {failed : Raised E × ℚ}
    (hFailed : t.failures.get? key = some failed) :
    s.failures.get? key = some failed ∨
      ∃ c l arrived error now, action = .complete c (.exception error) now ∧
        s.call c = .running key l arrived ∧ failed = (⟨error, c⟩, now) := by
  cases h with
  | hit => exact .inl hFailed
  | acquire _ _ _ _ _ hEntered =>
      rw [hEntered.frame.2.1] at hFailed
      exact .inl (by simpa using hFailed)
  | wait => exact .inl (by simpa [State.enqueue] using hFailed)
  | resume _ _ _ _ hEntered =>
      rw [hEntered.frame.2.1] at hFailed
      exact .inl hFailed
  | cancel => exact .inl hFailed
  | @complete c own l arrived now outcome hCall hTime =>
      cases outcome with
      | cancelled => exact .inl hFailed
      | value value =>
          have hErased := Dict.get?_erase s.failures own key
          have hKept := get?_pop hFailed
          change (s.failures.erase own).get? key = some failed at hKept
          rw [hErased] at hKept
          split_ifs at hKept
          exact .inl hKept
      | exception error =>
          change (s.failures.set own (⟨error, c⟩, now)).get? key = some failed at hFailed
          rw [Dict.get?_set] at hFailed
          split_ifs at hFailed with hKey
          · subst hKey
            cases hFailed
            exact .inr ⟨c, l, arrived, error, now, rfl, hCall, rfl⟩
          · exact .inl hFailed

theorem Entered.shared_inv {s t : State K V E} {c : CallId} {key : K} {l : LockId}
    {arrived now : ℚ} (h : Entered s c key l arrived now t) {key' : K} {arrived' failedAt : ℚ}
    {failure : Raised E} (hCall : t.call c = .ended key' arrived' (.shared failure failedAt)) :
    key' = key ∧ arrived' ≤ failedAt ∧ s.failures.get? key = some (failure, failedAt) := by
  cases h with
  | hit => simp at hCall
  | started => simp at hCall
  | shared failed _ hFailed hRecent =>
      simp only [State.setCall_call, Function.update_self, Phase.ended.injEq,
        Result.shared.injEq] at hCall
      obtain ⟨rfl, rfl, rfl, rfl⟩ := hCall
      exact ⟨rfl, hRecent, hFailed⟩

/-- A call that ends with a shared failure takes it from the table, and it was
raised no earlier than the call arrived. -/
theorem Step.shared_origin {cfg : Config V} {s t : State K V E} {action : Action K V E}
    (h : Step cfg s action t) {c : CallId} {key : K} {arrived failedAt : ℚ} {failure : Raised E}
    (hShared : t.call c = .ended key arrived (.shared failure failedAt)) :
    s.call c = .ended key arrived (.shared failure failedAt) ∨
      (arrived ≤ failedAt ∧ s.failures.get? key = some (failure, failedAt)) := by
  by_cases hActor : c = action.actor
  · right
    subst hActor
    cases h with
    | hit => simp [Action.actor] at hShared
    | acquire _ _ _ _ _ hEntered =>
        obtain ⟨rfl, hRecent, hFailed⟩ := hEntered.shared_inv hShared
        exact ⟨hRecent, by simpa using hFailed⟩
    | wait => simp [Action.actor, State.enqueue] at hShared
    | resume _ _ _ _ hEntered =>
        obtain ⟨rfl, hRecent, hFailed⟩ := hEntered.shared_inv hShared
        exact ⟨hRecent, hFailed⟩
    | @complete _ _ _ _ _ outcome =>
        cases outcome <;> simp [Action.actor, State.finish, State.release] at hShared
    | cancel => simp [Action.actor] at hShared
  · exact .inl (h.call_other hActor ▸ hShared)

/-- A call ends cancelled only by its own cancellation. -/
theorem Step.cancelled_origin {cfg : Config V} {s t : State K V E} {action : Action K V E}
    (h : Step cfg s action t) {c : CallId} {key : K} {arrived : ℚ}
    (hCancelled : t.call c = .ended key arrived .cancelled) :
    s.call c = .ended key arrived .cancelled ∨ action = .cancel c ∨
      ∃ now, action = .complete c .cancelled now := by
  by_cases hActor : c = action.actor
  · right
    subst hActor
    cases h with
    | hit => simp [Action.actor] at hCancelled
    | acquire _ _ _ _ _ hEntered => cases hEntered <;> simp [Action.actor] at hCancelled
    | wait => simp [Action.actor, State.enqueue] at hCancelled
    | resume _ _ _ _ hEntered => cases hEntered <;> simp [Action.actor] at hCancelled
    | @complete _ _ _ _ now outcome =>
        cases outcome with
        | value => simp [Action.actor, State.finish, State.release] at hCancelled
        | exception => simp [Action.actor, State.finish, State.release] at hCancelled
        | cancelled => exact .inr ⟨now, rfl⟩
    | cancel => exact .inl rfl
  · exact .inl (h.call_other hActor ▸ hCancelled)

/-- Every failure in the table, or served from it, is the exception that the
execution of its call raised at the recorded time. -/
structure FailureInv (s : State K V E) : Prop where
  table : ∀ {key failure failedAt}, s.failures.get? key = some (failure, failedAt) →
    ∃ arrived, s.call failure.raisedBy = .ended key arrived (.raised failure.error failedAt)
  shared : ∀ {c key arrived failure failedAt},
    s.call c = .ended key arrived (.shared failure failedAt) → arrived ≤ failedAt ∧
      ∃ arrived', s.call failure.raisedBy = .ended key arrived' (.raised failure.error failedAt)

theorem FailureInv.initial (clock : ℚ) : FailureInv (State.initial clock : State K V E) where
  table := by simp [State.initial]
  shared := by simp [State.initial]

theorem FailureInv.step {cfg : Config V} {s t : State K V E} {action : Action K V E}
    (inv : FailureInv s) (h : Step cfg s action t) : FailureInv t where
  table := by
    intro key failure failedAt hFailed
    rcases h.failure_origin hFailed with hOld | ⟨c, l, arrived, error, now, rfl, hCall, hNew⟩
    · obtain ⟨arrived, hRaised⟩ := inv.table hOld
      exact ⟨arrived, h.ended hRaised⟩
    · cases hNew
      cases h with
      | complete hCall' =>
          rw [hCall] at hCall'
          cases hCall'
          exact ⟨arrived, by simp [State.finish, State.release]⟩
  shared := by
    intro c key arrived failure failedAt hShared
    rcases h.shared_origin hShared with hOld | ⟨hRecent, hFailed⟩
    · obtain ⟨hRecent, arrived', hRaised⟩ := inv.shared hOld
      exact ⟨hRecent, arrived', h.ended hRaised⟩
    · obtain ⟨arrived', hRaised⟩ := inv.table hFailed
      exact ⟨hRecent, arrived', h.ended hRaised⟩

theorem ended_of_runsWhere {cfg : Config V} {allowed : State K V E → Action K V E → Prop}
    {s t : State K V E} {actions : List (Action K V E)}
    (run : RunsWhere (step cfg) allowed s actions t) {c : CallId} {key : K} {arrived : ℚ}
    {result : Result V E} (hEnded : s.call c = .ended key arrived result) :
    t.call c = .ended key arrived result := by
  induction run with
  | zero => exact hEnded
  | succ prior meets last ih => exact (step_cases last).ended ih

theorem fresh_eq_none_iff (s : State K V E) (key : K) (now : ℚ) :
    s.fresh key now = none ↔ ∀ entry, s.cache.get? key = some entry → entry.2 ≤ now := by
  unfold State.fresh
  cases s.cache.get? key with
  | none => simp
  | some entry => simp

/-- A queued call was queued before, or arrived by the step. -/
theorem Step.queued_origin {cfg : Config V} {s t : State K V E} {action : Action K V E}
    (h : Step cfg s action t) {c : CallId} {key : K} {l : LockId} {arrived : ℚ}
    (hQueued : t.call c = .queued key l arrived) :
    s.call c = .queued key l arrived ∨
      (∃ t₀ t₂, action = .arrive c key t₀ arrived t₂) ∧ arrived ≤ t.clock := by
  by_cases hActor : c = action.actor
  · right
    subst hActor
    cases h with
    | hit => simp [Action.actor] at hQueued
    | acquire _ _ _ _ _ hEntered => cases hEntered <;> simp [Action.actor] at hQueued
    | @wait _ _ t₀ t₁ t₂ _ hTime =>
        simp only [Action.actor, State.enqueue, State.setCall_call, Function.update_self,
          Phase.queued.injEq] at hQueued
        obtain ⟨rfl, _, rfl⟩ := hQueued
        exact ⟨⟨t₀, t₂, rfl⟩, by simpa [State.enqueue] using hTime.2.2⟩
    | resume _ _ _ _ hEntered => cases hEntered <;> simp [Action.actor] at hQueued
    | @complete _ _ _ _ _ outcome =>
        cases outcome <;> simp [Action.actor, State.finish, State.release] at hQueued
    | cancel => simp [Action.actor] at hQueued
  · exact .inl (h.call_other hActor ▸ hQueued)

theorem Entered.running_inv {s t : State K V E} {c : CallId} {key : K} {l : LockId}
    {arrived now : ℚ} (h : Entered s c key l arrived now t) {key' : K} {l' : LockId}
    {arrived' : ℚ} (hCall : t.call c = .running key' l' arrived') :
    key' = key ∧ l' = l ∧ arrived' = arrived ∧
      ∀ entry, s.cache.get? key = some entry → entry.2 ≤ now := by
  cases h with
  | hit => simp at hCall
  | shared => simp at hCall
  | started hStale =>
      simp only [State.setCall_call, Function.update_self, Phase.running.injEq] at hCall
      obtain ⟨rfl, rfl, rfl⟩ := hCall
      exact ⟨rfl, rfl, rfl, (fresh_eq_none_iff _ _ _).mp hStale⟩

/-- A running call was running before, or starts with the step, when the table
holds nothing live for its key. -/
theorem Step.running_origin {cfg : Config V} {s t : State K V E} {action : Action K V E}
    (h : Step cfg s action t) {c : CallId} {key : K} {l : LockId} {arrived : ℚ}
    (hRunning : t.call c = .running key l arrived) :
    s.call c = .running key l arrived ∨
      (s.call c = .queued key l arrived ∨ ∃ t₀ t₂, action = .arrive c key t₀ arrived t₂) ∧
        ∀ entry, t.cache.get? key = some entry → entry.2 ≤ t.clock := by
  by_cases hActor : c = action.actor
  · right
    subst hActor
    cases h with
    | hit => simp [Action.actor] at hRunning
    | @acquire _ _ t₀ t₁ t₂ _ _ _ _ _ _ hEntered =>
        obtain ⟨rfl, rfl, rfl, hStale⟩ := hEntered.running_inv hRunning
        obtain ⟨hCache, _, hClock, _⟩ := hEntered.frame
        rw [hCache, hClock]
        exact ⟨.inr ⟨t₀, t₂, rfl⟩, by simpa using hStale⟩
    | wait => simp [Action.actor, State.enqueue] at hRunning
    | resume hCall _ _ _ hEntered =>
        obtain ⟨rfl, rfl, rfl, hStale⟩ := hEntered.running_inv hRunning
        obtain ⟨hCache, _, hClock, _⟩ := hEntered.frame
        rw [hCache, hClock]
        exact ⟨.inl hCall, by simpa using hStale⟩
    | @complete _ _ _ _ _ outcome =>
        cases outcome <;> simp [Action.actor, State.finish, State.release] at hRunning
    | cancel => simp [Action.actor] at hRunning
  · exact .inl (h.call_other hActor ▸ hRunning)

/-- The key that a call was made for. -/
def Phase.key : Phase K V E → Option K
  | .absent => none
  | .queued key _ _ | .running key _ _ | .ended key _ _ => some key

/-- A call keeps the key it arrived with. -/
theorem Step.key_origin {cfg : Config V} {s t : State K V E} {action : Action K V E}
    (h : Step cfg s action t) {c : CallId} {key : K} (hKey : (t.call c).key = some key) :
    (s.call c).key = some key ∨ ∃ t₀ t₁ t₂, action = .arrive c key t₀ t₁ t₂ := by
  by_cases hActor : c = action.actor
  · subst hActor
    cases h with
    | hit => simp_all [Action.actor, Phase.key]
    | acquire _ _ _ _ _ hEntered => cases hEntered <;> simp_all [Action.actor, Phase.key]
    | wait => simp_all [Action.actor, State.enqueue, Phase.key]
    | resume hCall _ _ _ hEntered => cases hEntered <;> simp_all [Action.actor, Phase.key]
    | @complete _ _ _ _ _ outcome =>
        cases outcome <;> simp_all [Action.actor, State.finish, State.release, Phase.key]
    | cancel => simp_all [Action.actor, Phase.key]
  · exact .inl (h.call_other hActor ▸ hKey)

def Action.UsesKey (k : K) : Action K V E → Prop
  | .arrive _ key _ _ _ => key = k
  | _ => True

/-- The step is about the one key, and pops no lock in use. -/
def OneKey (cfg : Config V) (k : K) (s : State K V E) (action : Action K V E) : Prop :=
  ¬EvictsUsedLock cfg s action ∧ action.UsesKey k

/-- All calls are for one key, queued ones have arrived in the past, and an
execution runs only while the table holds nothing live for the key. -/
structure SharingInv (k : K) (s : State K V E) : Prop where
  locks : LockInv s
  keyed : ∀ {c key}, (s.call c).key = some key → key = k
  arrived : ∀ {c key l arrived}, s.call c = .queued key l arrived → arrived ≤ s.clock
  stale : ∀ {c key l arrived}, s.call c = .running key l arrived →
    ∀ entry, s.cache.get? key = some entry → entry.2 ≤ s.clock

theorem SharingInv.initial (k : K) (clock : ℚ) :
    SharingInv k (State.initial clock : State K V E) where
  locks := .initial clock
  keyed := by simp [State.initial, Phase.key]
  arrived := by simp [State.initial]
  stale := by simp [State.initial]

/-- The table entry of a key under execution stays as it is. -/
theorem SharingInv.entry_of_running {cfg : Config V} {k : K} {s t : State K V E}
    {action : Action K V E} (inv : SharingInv k s) (h : Step cfg s action t) {c : CallId}
    {key : K} {l : LockId} {arrived : ℚ} (hBefore : s.call c = .running key l arrived)
    (hAfter : t.call c = .running key l arrived) {entry : V × ℚ}
    (hEntry : t.cache.get? key = some entry) : s.cache.get? key = some entry := by
  have hSeen : (checkedTable cfg s action).get? key = some entry := by
    rcases h.cache_eq with hSame | hCut
    · rwa [hSame] at hEntry
    · rw [hCut] at hEntry
      exact get?_pop hEntry
  cases h with
  | @complete other own m _ _ outcome hCall =>
      cases outcome with
      | value value =>
          simp only [checkedTable, hCall, Dict.get?_set] at hSeen
          split_ifs at hSeen with hOwn
          · subst hOwn
            have hSame := inv.locks.singleFlight key c other ⟨_, _, hBefore⟩ ⟨_, _, hCall⟩
            subst hSame
            simp [State.finish, State.release] at hAfter
          · exact hSeen
      | exception error => exact hSeen
      | cancelled => exact hSeen
  | hit => exact hSeen
  | acquire => exact hSeen
  | wait => exact hSeen
  | resume => exact hSeen
  | cancel => exact hSeen

theorem SharingInv.step {cfg : Config V} {k : K} {s t : State K V E} {action : Action K V E}
    (inv : SharingInv k s) (hAllowed : OneKey cfg k s action)
    (hStep : step cfg s action = some t) : SharingInv k t := by
  have h := step_cases hStep
  exact {
    locks := inv.locks.step hAllowed.1 hStep
    keyed := by
      intro c key hKey
      rcases h.key_origin hKey with hOld | ⟨t₀, t₁, t₂, rfl⟩
      · exact inv.keyed hOld
      · exact hAllowed.2
    arrived := by
      intro c key l arrived hQueued
      rcases h.queued_origin hQueued with hOld | ⟨_, hPast⟩
      · exact (inv.arrived hOld).trans h.clock_le
      · exact hPast
    stale := by
      intro c key l arrived hRunning entry hEntry
      rcases h.running_origin hRunning with hOld | ⟨_, hStale⟩
      · exact (inv.stale hOld entry (inv.entry_of_running h hOld hRunning hEntry)).trans h.clock_le
      · exact hStale entry hEntry }

end NodeDebugDashboard.Collectors.TtlCache
