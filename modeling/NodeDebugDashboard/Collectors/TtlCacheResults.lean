import NodeDebugDashboard.Collectors.TtlCache

/-! `ttl_cache` does not look into what it keeps: its steps are the same whatever the
results and the exceptions are, as long as the results are kept equally long. -/
namespace NodeDebugDashboard.Collectors.TtlCache

open Library

variable {K V W E E' : Type} (f : V → W) (g : E → E')

def Raised.map (failure : Raised E) : Raised E' := ⟨g failure.error, failure.raisedBy⟩

def Outcome.map : Outcome V E → Outcome W E'
  | .value result => .value (f result)
  | .exception error => .exception (g error)
  | .cancelled => .cancelled

def Result.map : Result V E → Result W E'
  | .hit value now => .hit (f value) now
  | .computed value stored => .computed (f value) stored
  | .raised error now => .raised (g error) now
  | .shared failure failedAt => .shared (failure.map g) failedAt
  | .cancelled => .cancelled

def Phase.map : Phase K V E → Phase K W E'
  | .absent => .absent
  | .queued key lock arrived => .queued key lock arrived
  | .running key lock arrived => .running key lock arrived
  | .ended key arrived result => .ended key arrived (result.map f g)

def Action.map : Action K V E → Action K W E'
  | .arrive c key t₀ t₁ t₂ => .arrive c key t₀ t₁ t₂
  | .resume c now => .resume c now
  | .complete c outcome now => .complete c (outcome.map f g) now
  | .cancel c => .cancel c

/-- The state with other results and exceptions in place of those that are kept. -/
@[simps] def State.map (s : State K V E) : State K W E' where
  cache := s.cache.map fun entry => (f entry.1, entry.2)
  locks := s.locks
  failures := s.failures.map fun entry => (entry.1.map g, entry.2)
  lock := s.lock
  nextLock := s.nextLock
  call := fun c => (s.call c).map f g
  clock := s.clock

namespace State

theorem map_tick (s : State K V E) (now : ℚ) : (s.tick now).map f g = (s.map f g).tick now := rfl

theorem map_setCall (s : State K V E) (c : CallId) (phase : Phase K V E) :
    (s.setCall c phase).map f g = (s.map f g).setCall c (phase.map f g) := by
  have hCall : (fun d => (Function.update s.call c phase d).map f g) =
      Function.update (fun d => (s.call d).map f g) c (phase.map f g) := by
    funext d
    by_cases hSame : d = c
    · subst hSame
      simp
    · simp [Function.update_of_ne hSame]
  simp only [map, setCall, hCall]

variable [DecidableEq K]

theorem fresh_map (s : State K V E) (key : K) (now : ℚ) :
    (s.map f g).fresh key now = (s.fresh key now).map f := by
  unfold fresh
  rw [map_cache, Dict.get?_map]
  cases s.cache.get? key with
  | none => rfl
  | some entry =>
      obtain ⟨value, expires⟩ := entry
      simp only [Option.map_some]
      split_ifs <;> rfl

theorem recentFailure_map (s : State K V E) (key : K) (arrived : ℚ) :
    (s.map f g).recentFailure key arrived =
      (s.recentFailure key arrived).map fun failed => (failed.1.map g, failed.2) := by
  unfold recentFailure
  rw [map_failures, Dict.get?_map]
  cases s.failures.get? key with
  | none => rfl
  | some failed =>
      simp only [Option.map_some]
      split_ifs <;> rfl

theorem map_setdefaultLock (s : State K V E) (key : K) :
    (s.setdefaultLock key).map f g = (s.map f g).setdefaultLock key := by
  unfold setdefaultLock
  rw [map_locks]
  cases s.locks.get? key <;> rfl

theorem map_enter (s : State K V E) (c : CallId) (key : K) (l : LockId) (arrived now : ℚ) :
    (s.enter c key l arrived now).map f g = (s.map f g).enter c key l arrived now := by
  unfold enter
  rw [fresh_map, recentFailure_map]
  cases s.fresh key now with
  | some value => exact map_setCall f g s c _
  | none =>
      cases s.recentFailure key arrived with
      | some failed => exact map_setCall f g s c _
      | none => exact map_setCall f g _ c _

omit [DecidableEq K] in
theorem map_enqueue (s : State K V E) (c : CallId) (key : K) (l : LockId) (arrived : ℚ) :
    (s.enqueue c key l arrived).map f g = (s.map f g).enqueue c key l arrived :=
  map_setCall f g _ c _

theorem map_arrive (s : State K V E) (c : CallId) (key : K) (t₀ t₁ t₂ : ℚ) :
    (s.arrive c key t₀ t₁ t₂).map f g = (s.map f g).arrive c key t₀ t₁ t₂ := by
  unfold arrive
  rw [fresh_map]
  cases s.fresh key t₀ with
  | some value => exact map_setCall f g s c _
  | none =>
      have hLock : (s.map f g).lockFor key = s.lockFor key := rfl
      simp only [Option.map_none, hLock, map_lock, ← map_setdefaultLock]
      split_ifs
      · exact map_enter f g _ c key _ t₁ t₂
      · exact map_enqueue f g _ c key _ t₁

theorem map_pop {A B : Type} (h : A → B) (d : Dict K A) (key : Option K) :
    (pop d key).map h = pop (d.map h) key := by
  cases key with
  | none => rfl
  | some key => exact Dict.map_erase h d key

end State

variable [DecidableEq K] {cfg : Config V} {cfg' : Config W}

/-- Two configurations that treat what they keep alike. -/
structure Config.KeepsAlike (cfg : Config V) (cfg' : Config W) : Prop where
  maxsize : cfg'.maxsize = cfg.maxsize
  ttl : ∀ value, cfg'.ttl (f value) = cfg.ttl value

theorem State.map_store (h : cfg.KeepsAlike f cfg') (s : State K V E) (key : K)
    (value : V) (now : ℚ) :
    (s.store cfg key value now).map f g = (s.map f g).store cfg' key (f value) now := by
  have hCache :
      (s.cache.set key (value, now + cfg.ttl value)).map (fun entry => (f entry.1, entry.2)) =
      (s.map f g).cache.set key (f value, now + cfg'.ttl (f value)) := by
    rw [h.ttl, Dict.map_set]
    rfl
  have hVictim : victim cfg (s.cache.set key (value, now + cfg.ttl value)) =
      victim cfg' ((s.map f g).cache.set key (f value, now + cfg'.ttl (f value))) := by
    rw [victim, victim, ← hCache, h.maxsize, Dict.size_map, Dict.minBy_map]
  have hFailures : (s.failures.erase key).map (fun entry => (entry.1.map g, entry.2)) =
      (s.map f g).failures.erase key := Dict.map_erase _ _ _
  have hFailureVictim : failureVictim cfg (s.failures.erase key) =
      failureVictim cfg' ((s.map f g).failures.erase key) := by
    rw [failureVictim, failureVictim, ← hFailures, h.maxsize, Dict.size_map, Dict.minBy_map]
  simp only [State.map] at hCache hVictim hFailures hFailureVictim
  simp only [store, State.map, map_pop, hCache, hVictim, hFailures, hFailureVictim]

theorem State.map_finish (h : cfg.KeepsAlike f cfg') (s : State K V E) (c : CallId)
    (key : K) (arrived : ℚ) (outcome : Outcome V E) (now : ℚ) :
      (s.finish cfg c key arrived outcome now).map f g =
      (s.map f g).finish cfg' c key arrived (outcome.map f g) now := by
  cases outcome with
  | value result =>
      refine (map_setCall f g _ c _).trans ?_
      rw [map_store f g h]
      rfl
  | exception error =>
      refine (map_setCall f g _ c _).trans ?_
      simp only [finish, State.map, Outcome.map, Dict.map_set]
      rfl
  | cancelled => exact map_setCall f g s c _

/-- A step does with other results and exceptions what it does with these. -/
theorem step_map (h : cfg.KeepsAlike f cfg') (s : State K V E) (action : Action K V E) :
    step cfg' (s.map f g) (action.map f g) = (step cfg s action).map fun t => t.map f g := by
  cases action with
  | arrive c key t₀ t₁ t₂ =>
      simp only [step, Action.map, State.map_call, State.map_clock]
      cases s.call c with
      | absent =>
          simp only [Phase.map]
          split_ifs
          · exact congrArg some (State.map_arrive f g (s.tick t₂) c key t₀ t₁ t₂).symm
          · rfl
      | _ => rfl
  | resume c now =>
      simp only [step, Action.map, State.map_call, State.map_clock, State.map_lock]
      cases s.call c with
      | queued key l arrived =>
          simp only [Phase.map]
          split_ifs
          · let next : State K V E :=
              (s.tick now).setLock l { s.lock l with waiters := (s.lock l).waiters.tail }
            exact congrArg some (State.map_enter f g next c key l arrived now).symm
          · rfl
      | _ => rfl
  | complete c outcome now =>
      simp only [step, Action.map, State.map_call, State.map_clock]
      cases s.call c with
      | running key l arrived =>
          simp only [Phase.map]
          split_ifs
          · refine congrArg some ?_
            rw [← State.map_tick, ← State.map_finish f g h]
            rfl
          · rfl
      | _ => rfl
  | cancel c =>
      simp only [step, Action.map, State.map_call, State.map_lock]
      cases s.call c with
      | queued key l arrived =>
          let next : State K V E :=
            s.setLock l { s.lock l with waiters := (s.lock l).waiters.erase c }
          exact congrArg some (State.map_setCall f g next c (.ended key arrived .cancelled)).symm
      | _ => rfl

end NodeDebugDashboard.Collectors.TtlCache
