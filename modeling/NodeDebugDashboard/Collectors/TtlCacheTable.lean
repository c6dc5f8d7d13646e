import Mathlib.Tactic.Linarith
import NodeDebugDashboard.Collectors.TtlCache

/-! What the cache table holds: its size, where its values come from, and
which entries an eviction takes. Nothing here depends on single flight. -/
namespace NodeDebugDashboard.Collectors.TtlCache

open Library

variable {K V E : Type} [DecidableEq K]

/-- Some execution for the key returned the value and stored it at that time. -/
def State.StoredAt (s : State K V E) (key : K) (value : V) (stored : ℚ) : Prop :=
  ∃ c arrived, s.call c = .ended key arrived (.computed value stored)

theorem Step.storedAt {cfg : Config V} {s t : State K V E} {action : Action K V E}
    (h : Step cfg s action t) {key : K} {value : V} {stored : ℚ}
    (hStored : s.StoredAt key value stored) : t.StoredAt key value stored := by
  obtain ⟨c, arrived, hCall⟩ := hStored
  exact ⟨c, arrived, h.ended hCall⟩

/-- The table is within its bound, and every value in it, or returned from it,
was stored by an execution for the same key and had not expired. -/
structure TableInv (cfg : Config V) (s : State K V E) : Prop where
  bounded : s.cache.size ≤ cfg.maxsize
  entry : ∀ {key value expires}, s.cache.get? key = some (value, expires) →
    ∃ stored ≤ s.clock, s.StoredAt key value stored ∧ expires = stored + cfg.ttl value
  hit : ∀ {c key arrived value now}, s.call c = .ended key arrived (.hit value now) →
    ∃ stored ≤ now, s.StoredAt key value stored ∧ now < stored + cfg.ttl value

theorem TableInv.initial (cfg : Config V) (clock : ℚ) :
    TableInv cfg (State.initial clock : State K V E) where
  bounded := Nat.zero_le _
  entry := by simp [State.initial]
  hit := by simp [State.initial]

theorem TableInv.fresh {cfg : Config V} {s : State K V E} (inv : TableInv cfg s) {key : K}
    {value : V} {now : ℚ} (hTime : s.clock ≤ now) (h : s.fresh key now = some value) :
    ∃ stored ≤ now, s.StoredAt key value stored ∧ now < stored + cfg.ttl value := by
  unfold State.fresh at h
  cases hEntry : s.cache.get? key with
  | none => simp [hEntry] at h
  | some found =>
      obtain ⟨value', expires⟩ := found
      simp only [hEntry, Option.ite_none_right_eq_some, Option.some.injEq] at h
      obtain ⟨hLive, rfl⟩ := h
      obtain ⟨stored, hPast, hStored, rfl⟩ := inv.entry hEntry
      exact ⟨stored, hPast.trans hTime, hStored, hLive⟩

/-- A step that leaves the table alone keeps the invariant if a hit it makes
is justified. -/
theorem TableInv.frame {cfg : Config V} {s t : State K V E} {action : Action K V E}
    (inv : TableInv cfg s) (h : Step cfg s action t) (hCache : t.cache = s.cache)
    (hHit : ∀ key arrived value now, t.call action.actor = .ended key arrived (.hit value now) →
      ∃ stored ≤ now, s.StoredAt key value stored ∧ now < stored + cfg.ttl value) :
    TableInv cfg t where
  bounded := hCache ▸ inv.bounded
  entry := by
    intro key value expires hEntry
    rw [hCache] at hEntry
    obtain ⟨stored, hPast, hStored, hExpires⟩ := inv.entry hEntry
    exact ⟨stored, hPast.trans h.clock_le, h.storedAt hStored, hExpires⟩
  hit := by
    intro c key arrived value now hCall
    have hOld : ∃ stored ≤ now, s.StoredAt key value stored ∧ now < stored + cfg.ttl value := by
      by_cases hActor : c = action.actor
      · exact hHit key arrived value now (hActor ▸ hCall)
      · exact inv.hit (h.call_other hActor ▸ hCall)
    obtain ⟨stored, hPast, hStored, hLive⟩ := hOld
    exact ⟨stored, hPast, h.storedAt hStored, hLive⟩

theorem Entered.hit_fresh {s t : State K V E} {c : CallId} {key : K} {l : LockId}
    {arrived now : ℚ} (h : Entered s c key l arrived now t) {key' : K} {arrived' now' : ℚ}
    {value : V} (hCall : t.call c = .ended key' arrived' (.hit value now')) :
    key' = key ∧ now' = now ∧ s.fresh key now = some value := by
  cases h with
  | hit value' hFresh =>
      simp only [State.setCall_call, Function.update_self, Phase.ended.injEq,
        Result.hit.injEq] at hCall
      obtain ⟨rfl, _, rfl, rfl⟩ := hCall
      exact ⟨rfl, rfl, hFresh⟩
  | shared => simp at hCall
  | started => simp at hCall

theorem size_pop_victim {cfg : Config V} {cache : Dict K (V × ℚ)}
    (h : cache.size ≤ cfg.maxsize + 1) :
    (State.pop cache (State.victim cfg cache)).size ≤ cfg.maxsize := by
  unfold State.victim
  by_cases hFull : cfg.maxsize < cache.size
  · obtain ⟨oldest, hOldest⟩ := cache.minBy_isSome Prod.snd (by omega)
    obtain ⟨entry, hEntry, _⟩ := cache.minBy_spec Prod.snd hOldest
    have hSmaller := cache.size_erase_lt hEntry
    simp only [hFull, hOldest, State.pop, if_true]
    omega
  · simpa [hFull, State.pop] using Nat.le_of_not_lt hFull

theorem TableInv.store {cfg : Config V} {s : State K V E} (inv : TableInv cfg s) {c : CallId}
    {key : K} {l : LockId} {arrived now : ℚ} {value : V}
    (hCall : s.call c = .running key l arrived) (hTime : s.clock ≤ now)
    (h : Step cfg s (.complete c (.value value) now)
      (((s.tick now).finish cfg c key arrived (.value value) now).release l)) :
    TableInv cfg (((s.tick now).finish cfg c key arrived (.value value) now).release l) where
  bounded := by
    have hSet := s.cache.size_set_le key (value, now + cfg.ttl value)
    exact size_pop_victim (hSet.trans (Nat.add_le_add_right inv.bounded 1))
  entry := by
    intro other found expires hEntry
    have hTable := get?_pop hEntry
    rw [Dict.get?_set] at hTable
    split_ifs at hTable with hOwn
    · subst hOwn
      cases hTable
      refine ⟨now, le_refl _, ⟨c, arrived, ?_⟩, rfl⟩
      simp [State.finish, State.release]
    · obtain ⟨stored, hPast, hStored, hExpires⟩ := inv.entry hTable
      exact ⟨stored, hPast.trans hTime, h.storedAt hStored, hExpires⟩
  hit := by
    intro other key' arrived' found now' hHit
    have hOther : other ≠ c := by
      rintro rfl
      simp [State.finish, State.release] at hHit
    rw [h.call_other hOther] at hHit
    obtain ⟨stored, hPast, hStored, hLive⟩ := inv.hit hHit
    exact ⟨stored, hPast, h.storedAt hStored, hLive⟩

theorem TableInv.step {cfg : Config V} {s t : State K V E} {action : Action K V E}
    (inv : TableInv cfg s) (hStep : step cfg s action = some t) : TableInv cfg t := by
  have h := step_cases hStep
  cases hCase : h with
  | @hit c key t₀ t₁ t₂ value hCall hTime hFresh =>
      apply inv.frame h rfl
      intro key' arrived' value' now' hHit
      simp only [Action.actor, State.setCall_call, Function.update_self, Phase.ended.injEq,
        Result.hit.injEq] at hHit
      obtain ⟨rfl, _, rfl, rfl⟩ := hHit
      exact inv.fresh hTime.1 hFresh
  | @acquire c key t₀ t₁ t₂ _ hCall hTime hStale hFree hQueue hEntered =>
      apply inv.frame h (by simpa using hEntered.frame.1)
      intro key' arrived' value' now' hHit
      obtain ⟨rfl, rfl, hFresh⟩ := hEntered.hit_fresh hHit
      have hSame : s.fresh key' now' = some value' := by simpa [State.fresh] using hFresh
      exact inv.fresh (hTime.1.trans (hTime.2.1.trans hTime.2.2)) hSame
  | wait hCall hTime hStale hBusy =>
      apply inv.frame h (by simp [State.enqueue])
      intro key' arrived' value' now' hHit
      simp [Action.actor, State.enqueue] at hHit
  | @resume c key l arrived now rest _ hCall hTime hFree hQueue hEntered =>
      apply inv.frame h (by simpa using hEntered.frame.1)
      intro key' arrived' value' now' hHit
      obtain ⟨rfl, rfl, hFresh⟩ := hEntered.hit_fresh hHit
      exact inv.fresh hTime hFresh
  | @complete c key l arrived now outcome hCall hTime =>
      cases outcome with
      | value value => exact inv.store hCall hTime h
      | exception error =>
          apply inv.frame h rfl
          intro key' arrived' value' now' hHit
          simp [Action.actor, State.finish, State.release] at hHit
      | cancelled =>
          apply inv.frame h rfl
          intro key' arrived' value' now' hHit
          simp [Action.actor, State.finish, State.release] at hHit
  | cancel hCall =>
      apply inv.frame h rfl
      intro key' arrived' value' now' hHit
      simp [Action.actor] at hHit

theorem TableInv.run {cfg : Config V} {clock : ℚ} {s : State K V E}
    {actions : List (Action K V E)}
    (run : Runs (TtlCache.step cfg) (State.initial clock) actions s) :
    TableInv cfg s :=
  run.invariant (TableInv.initial cfg clock) fun _ _ _ hInv _ hStep => hInv.step hStep

/-- The table that the size check of a step sees, and that it evicts from. -/
def checkedTable (cfg : Config V) (s : State K V E) : Action K V E → Dict K (V × ℚ)
  | .complete c (.value value) now =>
      match s.call c with
      | .running key _ _ => s.cache.set key (value, now + cfg.ttl value)
      | _ => s.cache
  | _ => s.cache

/-- A step cuts the table that its size check sees, or leaves it. -/
theorem Step.cache_eq {cfg : Config V} {s t : State K V E} {action : Action K V E}
    (h : Step cfg s action t) :
    t.cache = checkedTable cfg s action ∨
      t.cache = State.pop (checkedTable cfg s action)
        (State.victim cfg (checkedTable cfg s action)) := by
  cases h with
  | hit => exact .inl rfl
  | acquire _ _ _ _ _ hEntered =>
      exact .inl (hEntered.frame.1.trans (State.setdefaultLock_cache _ _))
  | @wait c key _ _ t₂ => exact .inl (State.setdefaultLock_cache (s.tick t₂) key)
  | resume _ _ _ _ hEntered => exact .inl hEntered.frame.1
  | cancel => exact .inl rfl
  | @complete c key l arrived now outcome hCall =>
      cases outcome with
      | exception error => exact .inl rfl
      | cancelled => exact .inl rfl
      | value value =>
          right
          simp only [checkedTable, hCall]
          rfl

theorem victim_first {cfg : Config V} {cache : Dict K (V × ℚ)} {key other : K}
    {entry kept : V × ℚ} (hSeen : cache.get? key = some entry)
    (hDropped : (State.pop cache (State.victim cfg cache)).get? key = none)
    (hKept : cache.get? other = some kept) : entry.2 ≤ kept.2 := by
  cases hVictim : State.victim cfg cache with
  | none => simp [hVictim, State.pop, hSeen] at hDropped
  | some oldest =>
      have hOldest : key = oldest := by
        rw [hVictim, State.pop, Dict.get?_erase] at hDropped
        split_ifs at hDropped with hKey
        · exact hKey
        · simp [hSeen] at hDropped
      unfold State.victim at hVictim
      split_ifs at hVictim
      obtain ⟨least, hLeast, hMin⟩ := cache.minBy_spec Prod.snd hVictim
      rw [← hOldest, hSeen] at hLeast
      cases hLeast
      exact hMin other kept hKept

/-- An entry that the size check sees and the step drops expires no later than
any entry it keeps. -/
theorem Step.evicted_first {cfg : Config V} {s t : State K V E} {action : Action K V E}
    (h : Step cfg s action t) {key other : K} {entry kept : V × ℚ}
    (hSeen : (checkedTable cfg s action).get? key = some entry)
    (hDropped : t.cache.get? key = none) (hKept : t.cache.get? other = some kept) :
    entry.2 ≤ kept.2 := by
  rcases h.cache_eq with hSame | hCut
  · rw [hSame, hSeen] at hDropped
    cases hDropped
  · rw [hCut] at hDropped hKept
    exact victim_first hSeen hDropped (get?_pop hKept)

/-- `cache_if` marks the value as degraded. -/
def Config.Degraded (cfg : Config V) (value : V) : Prop :=
  ∃ keep, cfg.cacheIf = some keep ∧ keep value = false

theorem Config.ttl_of_degraded {cfg : Config V} {value : V} (h : cfg.Degraded value) :
    cfg.ttl value = min cfg.seconds cfg.retryAfter := by
  obtain ⟨keep, hKeep, hValue⟩ := h
  simp [Config.ttl, hKeep, hValue]

theorem Config.ttl_of_not_degraded {cfg : Config V} {value : V} (h : ¬cfg.Degraded value) :
    cfg.ttl value = cfg.seconds := by
  unfold Config.ttl
  cases hKeep : cfg.cacheIf with
  | none => rfl
  | some keep =>
      have hValue : keep value = true := by
        by_contra hFalse
        exact h ⟨keep, hKeep, by simpa using hFalse⟩
      simp [hValue]

/-- The table invariant over all runs: the size bound at every await point,
hits that an execution of the same key stored less than its lifetime ago, and
evictions that take an entry of least expiry. -/
theorem cacheTable_invariant (cfg : Config V) (clock : ℚ) (actions : List (Action K V E))
    (s : State K V E) (run : Runs (step cfg) (State.initial clock) actions s) :
    s.cache.size ≤ cfg.maxsize ∧
    (∀ c key arrived value now, s.call c = .ended key arrived (.hit value now) →
      ∃ stored ≤ now, s.StoredAt key value stored ∧
        (¬cfg.Degraded value → now < stored + cfg.seconds) ∧
        (cfg.Degraded value → now < stored + min cfg.seconds cfg.retryAfter)) ∧
    (∀ action t, step cfg s action = some t → ∀ key entry,
      (checkedTable cfg s action).get? key = some entry → t.cache.get? key = none →
        ∀ other kept, t.cache.get? other = some kept → entry.2 ≤ kept.2) := by
  have inv := TableInv.run run
  refine ⟨inv.bounded, ?_, ?_⟩
  · intro c key arrived value now hHit
    obtain ⟨stored, hPast, hStored, hLive⟩ := inv.hit hHit
    refine ⟨stored, hPast, hStored, fun hFull => ?_, fun hDegraded => ?_⟩
    · rwa [Config.ttl_of_not_degraded hFull] at hLive
    · rwa [Config.ttl_of_degraded hDegraded] at hLive
  · intro action t hStep key entry hSeen hDropped other kept hKept
    exact (step_cases hStep).evicted_first hSeen hDropped hKept

def oneEntry : Config Nat := { maxsize := 1 }

/-- Two calls with one key, and a third with another that still runs. -/
def twoKeys : List (Action Nat Nat Nat) :=
  [.arrive 0 7 0 0 0, .complete 0 (.value 4) 1, .arrive 1 7 5 5 5, .arrive 2 8 6 6 6]

theorem execute_twoKeys_hit :
    (execute (step oneEntry) (State.initial 0) twoKeys).map (fun s => s.call 1) =
      some (.ended 7 5 (.hit 4 5)) := by
  decide +kernel

theorem execute_twoKeys_evicted :
    (execute (step oneEntry) (State.initial 0) twoKeys).map (fun s =>
      ((checkedTable oneEntry s (.complete 2 (.value 9) 6)).get? 7,
        (step oneEntry s (.complete 2 (.value 9) 6)).map fun t =>
          (t.cache.get? 7, t.cache.get? 8))) =
      some (some (4, 11), some (none, some (9, 16))) := by
  decide +kernel

/-- The second call is served the value that the first one stored four seconds before, and
the value of the third call drives it out. -/
theorem cacheTable_hit_after_store : ∃ s t : State Nat Nat Nat,
    execute (step oneEntry) (State.initial 0) twoKeys = some s ∧
    step oneEntry s (.complete 2 (.value 9) 6) = some t ∧ s.cache.size ≤ 1 ∧
    (s.call 1 = .ended 7 5 (.hit 4 5) ∧ ∃ stored ≤ 5, s.StoredAt 7 4 stored ∧ 5 < stored + 10) ∧
    (checkedTable oneEntry s (.complete 2 (.value 9) 6)).get? 7 = some (4, 11) ∧
    t.cache.get? 7 = none ∧
    t.cache.get? 8 = some (9, 16) ∧ ∀ other kept, t.cache.get? other = some kept → 11 ≤ kept.2 := by
  obtain ⟨s, hRun, hCall⟩ := Option.map_eq_some_iff.mp execute_twoKeys_hit
  have hEvictedSeen := execute_twoKeys_evicted
  rw [hRun] at hEvictedSeen
  obtain ⟨hChecked, hStepped⟩ := Prod.mk.inj (Option.some.inj hEvictedSeen)
  obtain ⟨t, hStep, hTables⟩ := Option.map_eq_some_iff.mp hStepped
  obtain ⟨hGone, hKept⟩ := Prod.mk.inj hTables
  obtain ⟨hSize, hHit, hEvicted⟩ := cacheTable_invariant oneEntry 0 twoKeys s (runs_of_execute hRun)
  obtain ⟨stored, hPast, hStored, hLive, _⟩ := hHit 1 7 5 4 5 hCall
  have hFull : ¬oneEntry.Degraded 4 := by
    rintro ⟨keep, hKeep, _⟩
    cases hKeep
  exact ⟨s, t, hRun, hStep, hSize, ⟨hCall, stored, hPast, hStored, hLive hFull⟩,
    hChecked, hGone, hKept, hEvicted _ t hStep 7 (4, 11) hChecked hGone⟩

end NodeDebugDashboard.Collectors.TtlCache
