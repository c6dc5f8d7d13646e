import Mathlib.Data.Set.Card
import NodeDebugDashboard.Collectors.TtlCacheLocks
import NodeDebugDashboard.Collectors.TtlCacheTable

/-! How large the lock table and the failure table get. Both are cut only where
a result is stored, so what a raised exception adds to them stays. -/
namespace NodeDebugDashboard.Collectors.TtlCache

open Library

variable {K V E : Type} [DecidableEq K]

/-- The calls between their first line and their last. -/
def State.insideCalls (s : State K V E) : Set CallId := {c | ∃ key, s.Inside c key}

/-- The key that a call is queued or running for. -/
def Phase.insideKey : Phase K V E → Option K
  | .queued key _ _ | .running key _ _ => some key
  | _ => none

omit [DecidableEq K] in
theorem State.inside_iff (s : State K V E) (c : CallId) (key : K) :
    s.Inside c key ↔ (s.call c).insideKey = some key := by
  cases hCall : s.call c <;>
    simp [State.Inside, hCall, Phase.holds, Phase.waits, Phase.insideKey]

/-- Without the call, nothing gives a reason to keep a lock for the key: it has
no entry in the cache, and no other call is queued or running for it. -/
def State.OnlyFor (s : State K V E) (c : CallId) (key : K) : Prop :=
  s.cache.get? key = none ∧ ∀ other ≠ c, ¬s.Inside other key

/-- The lock of the key is in the table, and nothing is left that could make a
later eviction take it out. -/
def State.Stranded (s : State K V E) (key : K) : Prop :=
  s.locks.get? key ≠ none ∧ s.cache.get? key = none ∧ ∀ c, ¬s.Inside c key

/-- The call goes, by an exception, a cancellation or the failure of another
call, and the lock of its key was in the table for it alone. -/
def LeavesLock (s : State K V E) : Action K V E → Prop
  | .arrive c key _ t₁ _ =>
      ((s.lock (s.lockFor key)).holder = none ∧ (s.lock (s.lockFor key)).waiters = []) ∧
        s.OnlyFor c key ∧ ∃ failed, s.failures.get? key = some failed ∧ t₁ ≤ failed.2
  | .resume c _ => ∃ key l arrived, s.call c = .queued key l arrived ∧
      s.locks.get? key ≠ none ∧ s.OnlyFor c key ∧
        ∃ failed, s.failures.get? key = some failed ∧ arrived ≤ failed.2
  | .complete _ (.value _) _ => False
  | .complete c _ _ => ∃ key l arrived, s.call c = .running key l arrived ∧
      s.locks.get? key ≠ none ∧ s.OnlyFor c key
  | .cancel c => ∃ key l arrived, s.call c = .queued key l arrived ∧
      s.locks.get? key ≠ none ∧ s.OnlyFor c key

/-- An execution raises, for a key without a recorded failure, when the table
of failures is full. -/
def Overfills (cfg : Config V) (s : State K V E) : Action K V E → Prop
  | .complete c (.exception _) _ => ∃ key l arrived, s.call c = .running key l arrived ∧
      s.failures.get? key = none ∧ cfg.maxsize ≤ s.failures.size
  | _ => False

/-- Every lock is in the table for an entry of the cache or for a call, and
the failures are within the bound. -/
structure BoundsInv (cfg : Config V) (s : State K V E) : Prop where
  used : ∀ {key}, s.locks.get? key ≠ none → s.cache.get? key ≠ none ∨ ∃ c, s.Inside c key
  finite : s.insideCalls.Finite
  failures : s.failures.size ≤ cfg.maxsize

theorem BoundsInv.initial (cfg : Config V) (clock : ℚ) :
    BoundsInv cfg (State.initial clock : State K V E) where
  used := by simp [State.initial]
  finite := by simp [State.insideCalls, State.inside_iff, State.initial, Phase.insideKey]
  failures := Nat.zero_le _

/-- One call is inside for one key at most, so the locks are no more than the
cached keys and the calls inside together. -/
theorem BoundsInv.locks_size_le {cfg : Config V} {s : State K V E} (inv : BoundsInv cfg s) :
    s.locks.size ≤ s.cache.size + s.insideCalls.ncard := by
  let inside := inv.finite.toFinset.toList.filterMap (fun c => (s.call c).insideKey)
  have hNamed : ∀ key, s.locks.get? key ≠ none → key ∈ s.cache.entries.map Prod.fst ++ inside := by
    intro key hKey
    rcases inv.used hKey with hCached | ⟨c, hInside⟩
    · obtain ⟨entry, hEntry⟩ := Option.ne_none_iff_exists'.mp hCached
      have hMem := (s.cache.get?_eq_some_iff key entry).mp hEntry
      exact List.mem_append_left _ (List.mem_map_of_mem hMem)
    · have hMem : c ∈ inv.finite.toFinset.toList := by
        simpa using ⟨key, hInside⟩
      have hKeyed := (s.inside_iff c key).mp hInside
      exact List.mem_append_right _ (List.mem_filterMap.mpr ⟨c, hMem, hKeyed⟩)
  have hInside : inside.length ≤ s.insideCalls.ncard := by
    rw [Set.ncard_eq_toFinset_card _ inv.finite, ← Finset.length_toList]
    exact List.length_filterMap_le _ _
  have hSize := s.locks.size_le_length hNamed
  rw [List.length_append, List.length_map] at hSize
  exact hSize.trans (Nat.add_le_add_left hInside _)

theorem get?_pop_ne_none {A : Type} {d : Dict K A} {evicted : Option K} {key : K} :
    (State.pop d evicted).get? key ≠ none ↔ d.get? key ≠ none ∧ evicted ≠ some key := by
  cases evicted with
  | none => simp [State.pop]
  | some oldest =>
      by_cases hKey : key = oldest
      · simp [State.pop, hKey]
      · simp [State.pop, Dict.get?_erase, hKey, Ne.symm hKey]

theorem Entered.locks {s t : State K V E} {c : CallId} {key : K} {l : LockId}
    {arrived now : ℚ} (h : Entered s c key l arrived now t) : t.locks = s.locks := by
  cases h <;> rfl

/-- Only an arrival puts a lock into the table, for its own key. -/
theorem Step.lock_origin {cfg : Config V} {s t : State K V E} {action : Action K V E}
    (h : Step cfg s action t) {key : K} (hLock : t.locks.get? key ≠ none) :
    s.locks.get? key ≠ none ∨ ∃ c t₀ t₁ t₂, action = .arrive c key t₀ t₁ t₂ := by
  have hSetdefault : ∀ (u : State K V E) (own : K), (u.setdefaultLock own).locks.get? key ≠ none →
      u.locks.get? key ≠ none ∨ key = own := by
    intro u own hOwn
    unfold State.setdefaultLock at hOwn
    split at hOwn
    · exact .inl hOwn
    · rw [Dict.get?_set] at hOwn
      split_ifs at hOwn with hKey
      · exact .inr hKey
      · exact .inl hOwn
  cases h with
  | hit => exact .inl hLock
  | @acquire c own t₀ t₁ t₂ _ _ _ _ _ _ hEntered =>
      rw [hEntered.locks] at hLock
      rcases hSetdefault _ own hLock with hOld | rfl
      · exact .inl hOld
      · exact .inr ⟨c, t₀, t₁, t₂, rfl⟩
  | @wait c own t₀ t₁ t₂ =>
      rcases hSetdefault (s.tick t₂) own hLock with hOld | rfl
      · exact .inl hOld
      · exact .inr ⟨c, t₀, t₁, t₂, rfl⟩
  | resume _ _ _ _ hEntered =>
      rw [hEntered.locks] at hLock
      exact .inl hLock
  | @complete c own l arrived now outcome =>
      cases outcome with
      | value value => exact .inl (get?_pop_ne_none.mp hLock).1
      | exception error => exact .inl hLock
      | cancelled => exact .inl hLock
  | cancel => exact .inl hLock

/-- A step that drops an entry of the cache drops its lock with it. -/
theorem Step.entry_kept {cfg : Config V} {s t : State K V E} {action : Action K V E}
    (h : Step cfg s action t) {key : K} (hEntry : s.cache.get? key ≠ none)
    (hLock : t.locks.get? key ≠ none) : t.cache.get? key ≠ none := by
  cases h with
  | hit => exact hEntry
  | acquire _ _ _ _ _ hEntered => simpa [hEntered.frame.1] using hEntry
  | wait => simpa [State.enqueue] using hEntry
  | resume _ _ _ _ hEntered => simpa [hEntered.frame.1] using hEntry
  | @complete c own l arrived now outcome =>
      cases outcome with
      | value value =>
          refine get?_pop_ne_none.mpr ⟨?_, (get?_pop_ne_none.mp hLock).2⟩
          rw [Dict.get?_set]
          split_ifs
          · exact Option.some_ne_none _
          · exact hEntry
      | exception error => exact hEntry
      | cancelled => exact hEntry
  | cancel => exact hEntry

theorem State.not_onlyFor {s : State K V E} {c : CallId} {key : K} (h : ¬s.OnlyFor c key) :
    s.cache.get? key ≠ none ∨ ∃ other ≠ c, s.Inside other key := by
  by_contra hNone
  push Not at hNone
  exact h ⟨hNone.1, hNone.2⟩

theorem State.cached_of_fresh {s : State K V E} {key : K} {now : ℚ} {value : V}
    (h : s.fresh key now = some value) : s.cache.get? key ≠ none := by
  intro hNone
  simp [State.fresh, hNone] at h

/-- When the moving call was the reason for a lock, or asks for one, the lock
it leaves in the table has a reason after the step. -/
theorem Step.reason {cfg : Config V} {s t : State K V E} {action : Action K V E}
    (h : Step cfg s action t) (hKept : ¬LeavesLock s action) {key : K}
    (hOwn : s.Inside action.actor key ∨ ∃ c t₀ t₁ t₂, action = .arrive c key t₀ t₁ t₂)
    (hLock : t.locks.get? key ≠ none) :
    t.cache.get? key ≠ none ∨ t.Inside action.actor key ∨
      ∃ other ≠ action.actor, s.Inside other key := by
  have hSameKey : ∀ own, (s.call action.actor).insideKey = some own →
      s.Inside action.actor key → own = key := by
    intro own hCall hInside
    rw [s.inside_iff, hCall] at hInside
    exact Option.some.inj hInside
  cases h with
  | @hit c own t₀ t₁ t₂ value hCall hTime hFresh =>
      rcases hOwn with hInside | ⟨_, _, _, _, hAction⟩
      · simp [State.inside_iff, Action.actor, hCall, Phase.insideKey] at hInside
      · cases hAction
        exact .inl (State.cached_of_fresh hFresh)
  | @acquire c own t₀ t₁ t₂ _ hCall hTime hStale hFree hQueue hEntered =>
      rcases hOwn with hInside | ⟨_, _, _, _, hAction⟩
      · simp [State.inside_iff, Action.actor, hCall, Phase.insideKey] at hInside
      cases hAction
      cases hEntered with
      | hit value hFresh => exact .inl (State.cached_of_fresh hFresh)
      | started => exact .inr (.inl (by simp [State.inside_iff, Action.actor, Phase.insideKey]))
      | shared failed hStale' hFailed hRecent =>
          have hNotOnly : ¬s.OnlyFor c key := fun hOnly =>
            hKept ⟨⟨hFree, hQueue⟩, hOnly, failed, by simpa using hFailed, hRecent⟩
          rcases State.not_onlyFor hNotOnly with hCached | hOther
          · exact .inl (by simpa using hCached)
          · exact .inr (.inr hOther)
  | @wait c own t₀ t₁ t₂ hCall =>
      rcases hOwn with hInside | ⟨_, _, _, _, hAction⟩
      · simp [State.inside_iff, Action.actor, hCall, Phase.insideKey] at hInside
      cases hAction
      exact .inr (.inl (by simp [State.inside_iff, Action.actor, Phase.insideKey, State.enqueue]))
  | @resume c own l arrived now rest _ hCall hTime hFree hQueue hEntered =>
      have hInside := hOwn.resolve_right (by simp)
      obtain rfl := hSameKey own (congrArg Phase.insideKey hCall) hInside
      rw [hEntered.locks] at hLock
      cases hEntered with
      | hit value hFresh => exact .inl (State.cached_of_fresh hFresh)
      | started => exact .inr (.inl (by simp [State.inside_iff, Action.actor, Phase.insideKey]))
      | shared failed hStale' hFailed hRecent =>
          have hNotOnly : ¬s.OnlyFor c own := fun hOnly =>
            hKept ⟨own, l, arrived, hCall, hLock, hOnly, failed, hFailed, hRecent⟩
          rcases State.not_onlyFor hNotOnly with hCached | hOther
          · exact .inl hCached
          · exact .inr (.inr hOther)
  | @complete c own l arrived now outcome hCall =>
      have hInside := hOwn.resolve_right (by simp)
      obtain rfl := hSameKey own (congrArg Phase.insideKey hCall) hInside
      have hLeft : s.locks.get? own ≠ none → ¬LeavesLock s (.complete c outcome now) →
          (∀ value, outcome ≠ .value value) →
            s.cache.get? own ≠ none ∨ ∃ other ≠ c, s.Inside other own := by
        intro hOld hKept hNoValue
        apply State.not_onlyFor
        intro hOnly
        cases outcome with
        | value value => exact hNoValue value rfl
        | exception error => exact hKept ⟨own, l, arrived, hCall, hOld, hOnly⟩
        | cancelled => exact hKept ⟨own, l, arrived, hCall, hOld, hOnly⟩
      cases outcome with
      | value value =>
          refine .inl (get?_pop_ne_none.mpr ⟨?_, (get?_pop_ne_none.mp hLock).2⟩)
          simp
      | exception error =>
          exact (hLeft hLock hKept (by simp)).imp id .inr
      | cancelled =>
          exact (hLeft hLock hKept (by simp)).imp id .inr
  | @cancel c own l arrived hCall =>
      have hInside := hOwn.resolve_right (by simp)
      obtain rfl := hSameKey own (congrArg Phase.insideKey hCall) hInside
      have hNotOnly : ¬s.OnlyFor c own := fun hOnly =>
        hKept ⟨own, l, arrived, hCall, hLock, hOnly⟩
      exact (State.not_onlyFor hNotOnly).imp id .inr

theorem size_pop_le {A : Type} (d : Dict K A) (evicted : Option K) :
    (State.pop d evicted).size ≤ d.size := by
  cases evicted with
  | none => exact le_refl _
  | some key => exact d.size_erase_le key

/-- Only an execution that raises adds to the failures. -/
theorem Step.failures_size {cfg : Config V} {s t : State K V E} {action : Action K V E}
    (h : Step cfg s action t) (hRoom : ¬Overfills cfg s action)
    (hSize : s.failures.size ≤ cfg.maxsize) : t.failures.size ≤ cfg.maxsize := by
  cases h with
  | hit => exact hSize
  | acquire _ _ _ _ _ hEntered =>
      rw [hEntered.frame.2.1]
      simpa using hSize
  | wait => simpa [State.enqueue] using hSize
  | resume _ _ _ _ hEntered =>
      rw [hEntered.frame.2.1]
      exact hSize
  | @complete c own l arrived now outcome hCall =>
      cases outcome with
      | value value => exact (size_pop_le _ _).trans ((s.failures.size_erase_le own).trans hSize)
      | cancelled => exact hSize
      | exception error =>
          change (s.failures.set own (⟨error, c⟩, now)).size ≤ cfg.maxsize
          rw [Dict.size_set]
          split_ifs with hNew
          · by_contra hFull
            exact hRoom ⟨own, l, arrived, hCall, hNew, by omega⟩
          · exact hSize
  | cancel => exact hSize

theorem BoundsInv.step {cfg : Config V} {s t : State K V E} {action : Action K V E}
    (inv : BoundsInv cfg s) (hKept : ¬LeavesLock s action) (hRoom : ¬Overfills cfg s action)
    (hStep : TtlCache.step cfg s action = some t) : BoundsInv cfg t where
  used := by
    intro key hLock
    have h := step_cases hStep
    have hStays : ∀ other ≠ action.actor, s.Inside other key → t.Inside other key := by
      intro other hOther hInside
      rw [State.inside_iff, h.call_other hOther, ← State.inside_iff]
      exact hInside
    have hOwn : s.Inside action.actor key ∨ (∃ c t₀ t₁ t₂, action = .arrive c key t₀ t₁ t₂) →
        t.cache.get? key ≠ none ∨ ∃ c, t.Inside c key := by
      intro hOwn
      rcases h.reason hKept hOwn hLock with hCached | hInside | ⟨other, hOther, hInside⟩
      · exact .inl hCached
      · exact .inr ⟨_, hInside⟩
      · exact .inr ⟨other, hStays other hOther hInside⟩
    rcases h.lock_origin hLock with hOld | hArrival
    · rcases inv.used hOld with hCached | ⟨c, hInside⟩
      · exact .inl (h.entry_kept hCached hLock)
      · by_cases hActor : c = action.actor
        · exact hOwn (.inl (hActor ▸ hInside))
        · exact .inr ⟨c, hStays c hActor hInside⟩
    · exact hOwn (.inr hArrival)
  finite := by
    refine (inv.finite.insert action.actor).subset fun c hInside => ?_
    by_cases hActor : c = action.actor
    · exact Set.mem_insert_iff.mpr (.inl hActor)
    · obtain ⟨key, hKey⟩ := hInside
      rw [State.inside_iff, (step_cases hStep).call_other hActor, ← State.inside_iff] at hKey
      exact Set.mem_insert_of_mem _ ⟨key, hKey⟩
  failures := (step_cases hStep).failures_size hRoom inv.failures

theorem BoundsInv.run {cfg : Config V} {s t : State K V E} {actions : List (Action K V E)}
    (run : RunsWhere (TtlCache.step cfg)
      (fun s action => ¬LeavesLock s action ∧ ¬Overfills cfg s action) s actions t)
    (inv : BoundsInv cfg s) : BoundsInv cfg t :=
  run.invariant inv fun _ _ _ hInv hAllowed hStep => hInv.step hAllowed.1 hAllowed.2 hStep

/-- A call that goes when the lock was there for it alone strands the lock. -/
theorem Step.stranded {cfg : Config V} {s t : State K V E} {action : Action K V E}
    (h : Step cfg s action t) (hLeaves : LeavesLock s action) : ∃ key, t.Stranded key := by
  have hStranded : ∀ key, s.OnlyFor action.actor key → (t.call action.actor).insideKey = none →
      t.locks.get? key ≠ none → t.cache = s.cache → ∃ key, t.Stranded key := by
    intro key hOnly hGone hLock hCache
    refine ⟨key, hLock, hCache ▸ hOnly.1, fun c hInside => ?_⟩
    by_cases hActor : c = action.actor
    · subst hActor
      rw [State.inside_iff, hGone] at hInside
      cases hInside
    · rw [State.inside_iff, h.call_other hActor, ← State.inside_iff] at hInside
      exact hOnly.2 c hActor hInside
  cases hCase : h with
  | hit _ _ hFresh => exact absurd hLeaves.2.1.1 (State.cached_of_fresh hFresh)
  | wait _ _ _ hBusy => exact absurd hLeaves.1.2 (hBusy hLeaves.1.1)
  | @acquire c key t₀ t₁ t₂ _ _ _ _ _ _ hEntered =>
      obtain ⟨_, hOnly, failed, hFailed, hRecent⟩ := hLeaves
      cases hEntered with
      | hit value hFresh =>
          have hCached : s.cache.get? key ≠ none := by
            simpa using State.cached_of_fresh hFresh
          exact absurd hOnly.1 hCached
      | started hStale hOld =>
          exact absurd (hOld failed (by simpa using hFailed)) (not_lt.mpr hRecent)
      | shared =>
          apply hStranded key hOnly
          · simp [Action.actor, Phase.insideKey]
          · simp [State.setdefaultLock_get?]
          · simp
  | @resume c own l arrived now rest _ hCall _ _ _ hEntered =>
      obtain ⟨key, l', arrived', hCall', hLock, hOnly, failed, hFailed, hRecent⟩ := hLeaves
      rw [hCall] at hCall'
      cases hCall'
      cases hEntered with
      | hit value hFresh => exact absurd hOnly.1 (State.cached_of_fresh hFresh)
      | started hStale hOld => exact absurd (hOld failed hFailed) (not_lt.mpr hRecent)
      | shared =>
          apply hStranded own hOnly
          · simp [Action.actor, Phase.insideKey]
          · exact hLock
          · rfl
  | @complete c own l arrived now outcome hCall =>
      cases outcome with
      | value value => exact hLeaves.elim
      | exception error =>
          obtain ⟨key, l', arrived', hCall', hLock, hOnly⟩ := hLeaves
          apply hStranded key hOnly
          · simp [Action.actor, State.finish, State.release, Phase.insideKey]
          · exact hLock
          · rfl
      | cancelled =>
          obtain ⟨key, l', arrived', hCall', hLock, hOnly⟩ := hLeaves
          apply hStranded key hOnly
          · simp [Action.actor, State.finish, State.release, Phase.insideKey]
          · exact hLock
          · rfl
  | @cancel c own l arrived hCall =>
      obtain ⟨key, l', arrived', hCall', hLock, hOnly⟩ := hLeaves
      apply hStranded key hOnly
      · simp [Action.actor, Phase.insideKey]
      · exact hLock
      · rfl

theorem Step.overfilled {cfg : Config V} {s t : State K V E} {action : Action K V E}
    (h : Step cfg s action t) (hFull : Overfills cfg s action) :
    cfg.maxsize < t.failures.size := by
  cases h with
  | @complete c own l arrived now outcome hCall =>
      cases outcome with
      | value value => exact hFull.elim
      | cancelled => exact hFull.elim
      | exception error =>
          obtain ⟨key, l', arrived', hCall', hNew, hSize⟩ := hFull
          rw [hCall] at hCall'
          cases hCall'
          change cfg.maxsize < (s.failures.set own (⟨error, c⟩, now)).size
          rw [Dict.size_set, if_pos hNew]
          omega
  | _ => exact hFull.elim

/-- The tables beside the cache, over all runs. While no raised exception finds
the failures full, and no call goes for which alone a lock was kept, both are
within their bounds. A step that does either puts a failure above the bound,
or leaves a lock behind for a key that is neither cached nor asked for. -/
theorem auxiliaryTables (cfg : Config V) (clock : ℚ) (actions : List (Action K V E))
    (s : State K V E)
    (run : RunsWhere (step cfg) (fun s action => ¬LeavesLock s action ∧ ¬Overfills cfg s action)
      (State.initial clock) actions s) :
    s.failures.size ≤ cfg.maxsize ∧
    s.locks.size ≤ cfg.maxsize + s.insideCalls.ncard ∧
    ∀ action t, step cfg s action = some t →
      (Overfills cfg s action → cfg.maxsize < t.failures.size) ∧
      (LeavesLock s action → ∃ key, t.Stranded key) := by
  have inv := BoundsInv.run run (BoundsInv.initial cfg clock)
  have hRun : Runs (step cfg) (State.initial clock) actions s :=
    run.strengthen (fun _ => True) trivial (fun _ _ _ _ _ _ => trivial) fun _ _ _ _ => trivial
  refine ⟨inv.failures, ?_, fun action t hStep => ⟨?_, ?_⟩⟩
  · exact inv.locks_size_le.trans (Nat.add_le_add_right (TableInv.run hRun).bounded _)
  · exact (step_cases hStep).overfilled
  · exact (step_cases hStep).stranded

/-- An execution raises while a second caller waits for the key. -/
theorem auxiliaryTables_twoCallers : ∃ s : State Nat Nat Nat,
    execute (step { maxsize := 1 }) (State.initial 0)
      [.arrive 0 7 0 0 0, .arrive 1 7 1 1 1, .complete 0 (.exception 4) 2] = some s ∧
    s.failures.size ≤ 1 ∧ s.locks.size ≤ 1 + s.insideCalls.ncard := by
  obtain ⟨s, hExecute, run⟩ : ∃ s : State Nat Nat Nat,
      execute (step { maxsize := 1 }) (State.initial 0)
        [.arrive 0 7 0 0 0, .arrive 1 7 1 1 1, .complete 0 (.exception 4) 2] = some s ∧
      RunsWhere (step { maxsize := 1 })
        (fun s action => ¬LeavesLock s action ∧ ¬Overfills { maxsize := 1 } s action)
        (State.initial 0) [.arrive 0 7 0 0 0, .arrive 1 7 1 1 1, .complete 0 (.exception 4) 2]
        s := by
    refine ⟨_, rfl, .succ (.succ (.succ (.zero _) ⟨?_, id⟩ rfl) ⟨?_, id⟩ rfl) ⟨?_, ?_⟩ rfl⟩
    · rintro ⟨key, l, arrived, hCall, _, hOnly⟩
      cases hCall
      exact hOnly.2 1 (by decide) ⟨0, .inr rfl⟩
    · rintro ⟨key, l, arrived, _, _, hFull⟩
      exact absurd hFull (by decide)
    · rintro ⟨_, _, failed, hFailed, _⟩
      cases hFailed
    · rintro ⟨_, _, failed, hFailed, _⟩
      cases hFailed
  obtain ⟨hFailures, hLocks, _⟩ := auxiliaryTables _ 0 _ s run
  exact ⟨s, hExecute, hFailures, hLocks⟩

/-- With room for one entry, two keys that only ever fail leave two failures
and two locks. -/
def failingKeys : List (Action Nat Nat Nat) :=
  [.arrive 0 0 0 0 0, .complete 0 (.exception 4) 1, .arrive 1 1 2 2 2,
    .complete 1 (.exception 4) 3]

/-- Both tables outgrow a bound of one, with no call inside. -/
theorem not_auxiliaryTables : ∃ (cfg : Config Nat) (clock : ℚ) (s : State Nat Nat Nat),
    1 ≤ cfg.maxsize ∧ Runs (step cfg) (State.initial clock) failingKeys s ∧
      ¬s.failures.size ≤ cfg.maxsize ∧ ¬s.locks.size ≤ cfg.maxsize + s.insideCalls.ncard := by
  obtain ⟨s, hExecute, hSizes, hCalls⟩ : ∃ s : State Nat Nat Nat,
      execute (step { maxsize := 1 }) (State.initial 0) failingKeys = some s ∧
      (s.failures.size = 2 ∧ s.locks.size = 2) ∧ ∀ c, (s.call c).insideKey = none :=
    ⟨_, rfl, by decide +kernel, fun
      | 0 => rfl
      | 1 => rfl
      | _ + 2 => rfl⟩
  have hEmpty : s.insideCalls = ∅ := by
    refine Set.eq_empty_of_forall_notMem fun c ⟨key, hInside⟩ => ?_
    rw [State.inside_iff, hCalls] at hInside
    cases hInside
  refine ⟨{ maxsize := 1 }, 0, s, le_refl 1, runs_of_execute hExecute, ?_, ?_⟩
  · simp [hSizes.1]
  · simp [hSizes.2, hEmpty]

end NodeDebugDashboard.Collectors.TtlCache
