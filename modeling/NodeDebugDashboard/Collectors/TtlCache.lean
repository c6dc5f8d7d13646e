import Mathlib.Algebra.Order.Ring.Rat
import Mathlib.Logic.Function.Basic
import Mathlib.Tactic.Simps.Basic
import NodeDebugDashboard.Library.Dict
import NodeDebugDashboard.Library.Runs

/-! `ttl_cache` of app/collectors/base.py as a transition system. One action
is everything a task does between two await points; the clock readings it
makes on the way are part of the action. -/
namespace NodeDebugDashboard.Collectors.TtlCache

open Library

/-- The arguments of the decorator. -/
structure Config (V : Type) where
  seconds : Int := 10
  maxsize : Nat := 64
  cacheIf : Option (V → Bool) := none
  retryAfter : Int := 10

abbrev CallId := Nat
abbrev LockId := Nat

/-- An exception object: what it carries, and the call whose execution of the
wrapped function raised it. -/
structure Raised (E : Type) where
  error : E
  raisedBy : CallId
  deriving DecidableEq

/-- How an `await func(*args, **kwargs)` ends. -/
inductive Outcome (V E : Type) where
  | value (value : V)
  | exception (error : E)
  | cancelled

/-- An `asyncio.Lock`: the task inside it and the tasks awaiting it in FIFO
order. -/
structure Lock where
  holder : Option CallId := none
  waiters : List CallId := []

/-- How a call of the wrapper ended, with the clock reading that decided it. -/
inductive Result (V E : Type) where
  | hit (value : V) (now : ℚ)
  | computed (value : V) (stored : ℚ)
  | raised (error : E) (now : ℚ)
  | shared (failure : Raised E) (failedAt : ℚ)
  | cancelled
  deriving DecidableEq

/-- Where a call of the wrapper is: not made, awaiting the lock, awaiting the
wrapped function, or over. -/
inductive Phase (K V E : Type) where
  | absent
  | queued (key : K) (lock : LockId) (arrived : ℚ)
  | running (key : K) (lock : LockId) (arrived : ℚ)
  | ended (key : K) (arrived : ℚ) (result : Result V E)
  deriving DecidableEq

/-- The three tables of the decorator, the lock objects they refer to, the
calls, and the last clock reading. -/
structure State (K V E : Type) where
  cache : Dict K (V × ℚ)
  locks : Dict K LockId
  failures : Dict K (Raised E × ℚ)
  lock : LockId → Lock
  nextLock : LockId
  call : CallId → Phase K V E
  clock : ℚ

inductive Action (K V E : Type) where
  /-- A new call runs to its first await. It reads the clock in `_fresh`, for
  `arrived`, and in `_fresh` again when the lock is free. -/
  | arrive (c : CallId) (key : K) (t₀ t₁ t₂ : ℚ)
  /-- The first waiter of a free lock goes on under the lock. -/
  | resume (c : CallId) (now : ℚ)
  /-- The wrapped function returns, raises, or is cancelled with its caller. -/
  | complete (c : CallId) (outcome : Outcome V E) (now : ℚ)
  /-- A call is cancelled while it awaits the lock. -/
  | cancel (c : CallId)

variable {K V E : Type} [DecidableEq K]

namespace State

def initial (clock : ℚ) : State K V E where
  cache := .empty
  locks := .empty
  failures := .empty
  lock := fun _ => {}
  nextLock := 0
  call := fun _ => .absent
  clock := clock

/-- `_fresh(key)` when the clock reads `now`. -/
def fresh (s : State K V E) (key : K) (now : ℚ) : Option V :=
  match s.cache.get? key with
  | some (value, expires) => if now < expires then some value else none
  | none => none

/-- The failure that `failed is not None and failed[1] >= arrived` selects. -/
def recentFailure (s : State K V E) (key : K) (arrived : ℚ) : Option (Raised E × ℚ) :=
  match s.failures.get? key with
  | some failed => if arrived ≤ failed.2 then some failed else none
  | none => none

@[simps] def tick (s : State K V E) (now : ℚ) : State K V E := { s with clock := now }

@[simps] def setCall (s : State K V E) (c : CallId) (phase : Phase K V E) : State K V E :=
  { s with call := Function.update s.call c phase }

@[simps] def setLock (s : State K V E) (l : LockId) (lock : Lock) : State K V E :=
  { s with lock := Function.update s.lock l lock }

/-- The lock that `locks.setdefault(key, asyncio.Lock())` returns. -/
def lockFor (s : State K V E) (key : K) : LockId := (s.locks.get? key).getD s.nextLock

/-- The effect of `locks.setdefault(key, asyncio.Lock())` on the table. -/
def setdefaultLock (s : State K V E) (key : K) : State K V E :=
  match s.locks.get? key with
  | some _ => s
  | none => { s with locks := s.locks.set key s.nextLock, nextLock := s.nextLock + 1 }

/-- `async with lock` is left. -/
def release (s : State K V E) (l : LockId) : State K V E :=
  s.setLock l { s.lock l with holder := none }

/-- The lines under the lock up to `await func`. A call that returns or raises
here has released the lock again within the same step. -/
def enter (s : State K V E) (c : CallId) (key : K) (l : LockId) (arrived now : ℚ) :
    State K V E :=
  match s.fresh key now with
  | some value => s.setCall c (.ended key arrived (.hit value now))
  | none =>
      match s.recentFailure key arrived with
      | some failed => s.setCall c (.ended key arrived (.shared failed.1 failed.2))
      | none =>
          (s.setLock l { s.lock l with holder := some c }).setCall c (.running key l arrived)

/-- A call joins the queue of a lock that is taken or has waiters. -/
def enqueue (s : State K V E) (c : CallId) (key : K) (l : LockId) (arrived : ℚ) :
    State K V E :=
  (s.setLock l { s.lock l with waiters := (s.lock l).waiters ++ [c] }).setCall c
    (.queued key l arrived)

def arrive (s : State K V E) (c : CallId) (key : K) (t₀ t₁ t₂ : ℚ) : State K V E :=
  match s.fresh key t₀ with
  | some value => s.setCall c (.ended key t₀ (.hit value t₀))
  | none =>
      let l := s.lockFor key
      if (s.lock l).holder = none ∧ (s.lock l).waiters = [] then
        (s.setdefaultLock key).enter c key l t₁ t₂
      else (s.setdefaultLock key).enqueue c key l t₁

end State

/-- `ttl`: degraded results are kept for `retry_after` at most. -/
def Config.ttl (cfg : Config V) (value : V) : Int :=
  match cfg.cacheIf with
  | some keep => if keep value then cfg.seconds else min cfg.seconds cfg.retryAfter
  | none => cfg.seconds

namespace State

/-- The key that `if len(cache) > maxsize` pops from both tables. -/
def victim (cfg : Config V) (cache : Dict K (V × ℚ)) : Option K :=
  if cfg.maxsize < cache.size then cache.minBy Prod.snd else none

/-- The key that `if len(failures) > maxsize` pops. -/
def failureVictim (cfg : Config V) (failures : Dict K (Raised E × ℚ)) : Option K :=
  if cfg.maxsize < failures.size then failures.minBy Prod.snd else none

def pop {A : Type} (d : Dict K A) : Option K → Dict K A
  | some key => d.erase key
  | none => d

/-- A result is stored, and each table is cut back to `maxsize`. -/
def store (cfg : Config V) (s : State K V E) (key : K) (value : V) (now : ℚ) : State K V E :=
  let failures := s.failures.erase key
  let cache := s.cache.set key (value, now + cfg.ttl value)
  { s with
    cache := pop cache (victim cfg cache)
    locks := pop s.locks (victim cfg cache)
    failures := pop failures (failureVictim cfg failures) }

/-- The lines after `await func`, up to the end of the call. -/
def finish (cfg : Config V) (s : State K V E) (c : CallId) (key : K) (arrived : ℚ)
    (outcome : Outcome V E) (now : ℚ) : State K V E :=
  match outcome with
  | .value value =>
      (s.store cfg key value now).setCall c (.ended key arrived (.computed value now))
  | .exception error =>
      { s with failures := s.failures.set key (⟨error, c⟩, now) }.setCall c
        (.ended key arrived (.raised error now))
  | .cancelled => s.setCall c (.ended key arrived .cancelled)

end State

/-- One step of the event loop; `none` when the action is not possible. -/
def step (cfg : Config V) (s : State K V E) : Action K V E → Option (State K V E)
  | .arrive c key t₀ t₁ t₂ =>
      match s.call c with
      | .absent =>
          if s.clock ≤ t₀ ∧ t₀ ≤ t₁ ∧ t₁ ≤ t₂ then
            some ((s.tick t₂).arrive c key t₀ t₁ t₂)
          else none
      | _ => none
  | .resume c now =>
      match s.call c with
      | .queued key l arrived =>
          if (s.lock l).holder = none ∧ (s.lock l).waiters.head? = some c ∧ s.clock ≤ now then
            some (((s.tick now).setLock l
              { s.lock l with waiters := (s.lock l).waiters.tail }).enter c key l arrived now)
          else none
      | _ => none
  | .complete c outcome now =>
      match s.call c with
      | .running key l arrived =>
          if s.clock ≤ now then
            some (((s.tick now).finish cfg c key arrived outcome now).release l)
          else none
      | _ => none
  | .cancel c =>
      match s.call c with
      | .queued key l arrived =>
          some ((s.setLock l { s.lock l with waiters := (s.lock l).waiters.erase c }).setCall c
            (.ended key arrived .cancelled))
      | _ => none

/-- Everything that acquiring the lock can lead to. -/
inductive Entered (s : State K V E) (c : CallId) (key : K) (l : LockId) (arrived now : ℚ) :
    State K V E → Prop where
  | hit (value : V) (hFresh : s.fresh key now = some value) :
      Entered s c key l arrived now (s.setCall c (.ended key arrived (.hit value now)))
  | shared (failed : Raised E × ℚ) (hStale : s.fresh key now = none)
      (hFailed : s.failures.get? key = some failed) (hRecent : arrived ≤ failed.2) :
      Entered s c key l arrived now
        (s.setCall c (.ended key arrived (.shared failed.1 failed.2)))
  | started (hStale : s.fresh key now = none)
      (hOld : ∀ failed, s.failures.get? key = some failed → failed.2 < arrived) :
      Entered s c key l arrived now
        ((s.setLock l { s.lock l with holder := some c }).setCall c (.running key l arrived))

theorem State.entered (s : State K V E) (c : CallId) (key : K) (l : LockId)
    (arrived now : ℚ) : Entered s c key l arrived now (s.enter c key l arrived now) := by
  unfold State.enter State.recentFailure
  cases hFresh : s.fresh key now with
  | some value => exact .hit value hFresh
  | none =>
      cases hFailed : s.failures.get? key with
      | none => exact .started hFresh (by simp [hFailed])
      | some failed =>
          by_cases hRecent : arrived ≤ failed.2
          · simpa [hRecent] using Entered.shared failed hFresh hFailed hRecent
          · simpa [hRecent] using Entered.started hFresh (by
              intro other hOther
              rw [hFailed] at hOther
              cases hOther
              exact lt_of_not_ge hRecent)

/-- Everything that one action can do, with the conditions under which it is
possible. -/
inductive Step (cfg : Config V) (s : State K V E) : Action K V E → State K V E → Prop where
  | hit {c : CallId} {key : K} {t₀ t₁ t₂ : ℚ} {value : V} (hCall : s.call c = .absent)
      (hTime : s.clock ≤ t₀ ∧ t₀ ≤ t₁ ∧ t₁ ≤ t₂) (hFresh : s.fresh key t₀ = some value) :
      Step cfg s (.arrive c key t₀ t₁ t₂)
        ((s.tick t₂).setCall c (.ended key t₀ (.hit value t₀)))
  | acquire {c : CallId} {key : K} {t₀ t₁ t₂ : ℚ} {t : State K V E} (hCall : s.call c = .absent)
      (hTime : s.clock ≤ t₀ ∧ t₀ ≤ t₁ ∧ t₁ ≤ t₂) (hStale : s.fresh key t₀ = none)
      (hFree : (s.lock (s.lockFor key)).holder = none)
      (hQueue : (s.lock (s.lockFor key)).waiters = [])
      (hEntered : Entered ((s.tick t₂).setdefaultLock key) c key (s.lockFor key) t₁ t₂ t) :
      Step cfg s (.arrive c key t₀ t₁ t₂) t
  | wait {c : CallId} {key : K} {t₀ t₁ t₂ : ℚ} (hCall : s.call c = .absent)
      (hTime : s.clock ≤ t₀ ∧ t₀ ≤ t₁ ∧ t₁ ≤ t₂) (hStale : s.fresh key t₀ = none)
      (hBusy : (s.lock (s.lockFor key)).holder = none → (s.lock (s.lockFor key)).waiters ≠ []) :
      Step cfg s (.arrive c key t₀ t₁ t₂)
        (((s.tick t₂).setdefaultLock key).enqueue c key (s.lockFor key) t₁)
  | resume {c : CallId} {key : K} {l : LockId} {arrived now : ℚ} {rest : List CallId}
      {t : State K V E} (hCall : s.call c = .queued key l arrived) (hTime : s.clock ≤ now)
      (hFree : (s.lock l).holder = none) (hQueue : (s.lock l).waiters = c :: rest)
      (hEntered : Entered ((s.tick now).setLock l { s.lock l with waiters := rest })
        c key l arrived now t) :
      Step cfg s (.resume c now) t
  | complete {c : CallId} {key : K} {l : LockId} {arrived now : ℚ} {outcome : Outcome V E}
      (hCall : s.call c = .running key l arrived) (hTime : s.clock ≤ now) :
      Step cfg s (.complete c outcome now)
        (((s.tick now).finish cfg c key arrived outcome now).release l)
  | cancel {c : CallId} {key : K} {l : LockId} {arrived : ℚ}
      (hCall : s.call c = .queued key l arrived) :
      Step cfg s (.cancel c)
        ((s.setLock l { s.lock l with waiters := (s.lock l).waiters.erase c }).setCall c
          (.ended key arrived .cancelled))

/-- Inversion of `step`: an action that is taken is one of these. -/
theorem step_cases {cfg : Config V} {s t : State K V E} {action : Action K V E}
    (h : step cfg s action = some t) : Step cfg s action t := by
  cases action with
  | arrive c key t₀ t₁ t₂ =>
      cases hCall : s.call c <;> simp only [step, hCall, Option.ite_none_right_eq_some,
        reduceCtorEq, Option.some.injEq] at h
      obtain ⟨hTime, rfl⟩ := h
      have hFreshTick : (s.tick t₂).fresh key t₀ = s.fresh key t₀ := rfl
      cases hFresh : s.fresh key t₀ with
      | some value => simpa [State.arrive, hFreshTick, hFresh] using Step.hit hCall hTime hFresh
      | none =>
          by_cases hFree : (s.lock (s.lockFor key)).holder = none ∧
              (s.lock (s.lockFor key)).waiters = []
          · have hEntered := ((s.tick t₂).setdefaultLock key).entered c key (s.lockFor key) t₁ t₂
            have hArrive : (s.tick t₂).arrive c key t₀ t₁ t₂ =
                ((s.tick t₂).setdefaultLock key).enter c key (s.lockFor key) t₁ t₂ := by
              simp only [State.arrive, hFreshTick, hFresh]
              exact if_pos hFree
            rw [hArrive]
            exact .acquire hCall hTime hFresh hFree.1 hFree.2 hEntered
          · have hArrive : (s.tick t₂).arrive c key t₀ t₁ t₂ =
                ((s.tick t₂).setdefaultLock key).enqueue c key (s.lockFor key) t₁ := by
              simp only [State.arrive, hFreshTick, hFresh]
              exact if_neg hFree
            rw [hArrive]
            exact .wait hCall hTime hFresh (fun hHolder hEmpty => hFree ⟨hHolder, hEmpty⟩)
  | resume c now =>
      cases hCall : s.call c <;> simp only [step, hCall, Option.ite_none_right_eq_some,
        reduceCtorEq, Option.some.injEq] at h
      obtain ⟨⟨hFree, hHead, hTime⟩, rfl⟩ := h
      obtain ⟨rest, hQueue⟩ := List.head?_eq_some_iff.mp hHead
      apply Step.resume hCall hTime hFree hQueue
      simpa [hQueue] using State.entered _ c _ _ _ now
  | complete c outcome now =>
      cases hCall : s.call c <;> simp only [step, hCall, Option.ite_none_right_eq_some,
        reduceCtorEq, Option.some.injEq] at h
      obtain ⟨hTime, rfl⟩ := h
      exact .complete hCall hTime
  | cancel c =>
      cases hCall : s.call c <;> simp only [step, hCall, reduceCtorEq, Option.some.injEq] at h
      subst h
      exact .cancel hCall

theorem get?_pop {A : Type} {d : Dict K A} {evicted : Option K} {key : K} {value : A}
    (h : (State.pop d evicted).get? key = some value) : d.get? key = some value := by
  cases evicted with
  | none => exact h
  | some k =>
      rw [State.pop, Dict.get?_erase] at h
      split_ifs at h
      exact h

/-- The call that an action moves. -/
def Action.actor : Action K V E → CallId
  | .arrive c _ _ _ _ => c
  | .resume c _ => c
  | .complete c _ _ => c
  | .cancel c => c

@[simp] theorem State.setdefaultLock_lock (s : State K V E) (key : K) :
    (s.setdefaultLock key).lock = s.lock := by
  unfold State.setdefaultLock
  split <;> rfl

@[simp] theorem State.setdefaultLock_call (s : State K V E) (key : K) :
    (s.setdefaultLock key).call = s.call := by
  unfold State.setdefaultLock
  split <;> rfl

@[simp] theorem State.setdefaultLock_cache (s : State K V E) (key : K) :
    (s.setdefaultLock key).cache = s.cache := by
  unfold State.setdefaultLock
  split <;> rfl

@[simp] theorem State.setdefaultLock_failures (s : State K V E) (key : K) :
    (s.setdefaultLock key).failures = s.failures := by
  unfold State.setdefaultLock
  split <;> rfl

@[simp] theorem State.setdefaultLock_clock (s : State K V E) (key : K) :
    (s.setdefaultLock key).clock = s.clock := by
  unfold State.setdefaultLock
  split <;> rfl

/-- What going on under the lock leaves alone. -/
theorem Entered.frame {s t : State K V E} {c : CallId} {key : K} {l : LockId}
    {arrived now : ℚ} (h : Entered s c key l arrived now t) :
    t.cache = s.cache ∧ t.failures = s.failures ∧ t.clock = s.clock ∧
      ∀ other ≠ c, t.call other = s.call other := by
  cases h <;> exact ⟨rfl, rfl, rfl, fun other hOther => by simp [Function.update_of_ne hOther]⟩

/-- An action moves one call, and that call was not over. -/
theorem Step.call_other {cfg : Config V} {s t : State K V E} {action : Action K V E}
    (h : Step cfg s action t) {c : CallId} (hOther : c ≠ action.actor) :
    t.call c = s.call c := by
  cases h with
  | hit => exact Function.update_of_ne hOther _ _
  | acquire _ _ _ _ _ hEntered => simpa using hEntered.frame.2.2.2 c hOther
  | @wait c' key _ _ t₂ =>
      exact (Function.update_of_ne hOther _ _).trans
        (congrFun ((s.tick t₂).setdefaultLock_call key) c)
  | resume _ _ _ _ hEntered => exact hEntered.frame.2.2.2 c hOther
  | @complete _ _ _ _ _ outcome => cases outcome <;> exact Function.update_of_ne hOther _ _
  | cancel => exact Function.update_of_ne hOther _ _

theorem Step.ended {cfg : Config V} {s t : State K V E} {action : Action K V E}
    (h : Step cfg s action t) {c : CallId} {key : K} {arrived : ℚ} {result : Result V E}
    (hEnded : s.call c = .ended key arrived result) : t.call c = .ended key arrived result := by
  have hOther : c ≠ action.actor := by
    rintro rfl
    cases h <;> simp_all [Action.actor]
  rw [h.call_other hOther, hEnded]

theorem Step.clock_le {cfg : Config V} {s t : State K V E} {action : Action K V E}
    (h : Step cfg s action t) : s.clock ≤ t.clock := by
  cases h with
  | hit _ hTime => exact hTime.1.trans (hTime.2.1.trans hTime.2.2)
  | acquire _ hTime _ _ _ hEntered =>
      rw [hEntered.frame.2.2.1]
      simpa using hTime.1.trans (hTime.2.1.trans hTime.2.2)
  | wait _ hTime => simpa [State.enqueue] using hTime.1.trans (hTime.2.1.trans hTime.2.2)
  | resume _ hTime _ _ hEntered =>
      rw [hEntered.frame.2.2.1]
      exact hTime
  | @complete _ _ _ _ _ outcome _ hTime => cases outcome <;> exact hTime
  | cancel => exact le_refl _

end NodeDebugDashboard.Collectors.TtlCache
