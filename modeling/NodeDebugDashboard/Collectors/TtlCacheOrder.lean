import Mathlib.Data.List.Sublists
import NodeDebugDashboard.Collectors.TtlCacheProgress

/-! The callers of a cached collector are served in the order in which they came. -/
namespace NodeDebugDashboard.Collectors.TtlCache

open Library
open scoped List

variable {K V E : Type} [DecidableEq K]

/-- The calls that a sequence of actions makes, in order. -/
def arrivals (actions : List (Action K V E)) : List CallId :=
  actions.filterMap fun
    | .arrive c _ _ _ _ => some c
    | _ => none

omit [DecidableEq K] in
theorem arrivals_append (actions : List (Action K V E)) (action : Action K V E) :
    arrivals (actions ++ [action]) = arrivals actions ++ arrivals [action] :=
  List.filterMap_append

/-- The call inside a lock, and behind it the calls that wait for it. -/
def Lock.line (lock : Lock) : List CallId := lock.holder.toList ++ lock.waiters

/-- A call that goes on under a free lock stays in front of the line, or leaves it. -/
theorem Entered.line {s t : State K V E} {c : CallId} {key : K} {l : LockId} {arrived now : ℚ}
    (h : Entered s c key l arrived now t) (hFree : (s.lock l).holder = none) (m : LockId) :
    (t.lock m).line <+ if m = l then c :: (s.lock l).waiters else (s.lock m).line := by
  by_cases hLock : m = l
  · subst hLock
    cases h with
    | hit => simp [Lock.line, hFree]
    | shared => simp [Lock.line, hFree]
    | started => simp [Lock.line]
  · rw [if_neg hLock]
    cases h with
    | hit => simp
    | shared => simp
    | started => simp [Function.update_of_ne hLock]

/-- A step keeps the order of every line, and whoever comes goes to its end. -/
theorem Step.line {cfg : Config V} {s t : State K V E} {action : Action K V E}
    (h : Step cfg s action t) (l : LockId) :
    (t.lock l).line <+ (s.lock l).line ++ arrivals [action] := by
  cases h with
  | hit => exact List.sublist_append_left _ _
  | @acquire c key t₀ t₁ t₂ _ _ _ _ hFree hQueue hEntered =>
      have hLine := hEntered.line (by simpa using hFree) l
      by_cases hLock : l = s.lockFor key
      · subst hLock
        simpa [Lock.line, arrivals, hFree, hQueue] using hLine
      · rw [if_neg hLock, State.setdefaultLock_lock] at hLine
        exact hLine.trans (List.sublist_append_left _ _)
  | @wait c key t₀ t₁ t₂ =>
      by_cases hLock : l = s.lockFor key
      · subst hLock
        simp [State.enqueue, Lock.line, arrivals]
      · have hSame : (((s.tick t₂).setdefaultLock key).enqueue c key (s.lockFor key) t₁).lock l =
            s.lock l := by
          simp [State.enqueue, Function.update_of_ne hLock]
        rw [hSame]
        exact List.sublist_append_left _ _
  | @resume c key m arrived now rest _ _ _ hFree hQueue hEntered =>
      have hLine := hEntered.line (by simpa using hFree) l
      by_cases hLock : l = m
      · subst hLock
        simpa [Lock.line, arrivals, hFree, hQueue] using hLine
      · rw [if_neg hLock] at hLine
        simpa [arrivals, Function.update_of_ne hLock] using hLine
  | @complete c key m arrived now outcome =>
      have hLock : (((s.tick now).finish cfg c key arrived outcome now).release m).lock =
          Function.update s.lock m { s.lock m with holder := none } := by
        cases outcome <;> rfl
      rw [hLock]
      by_cases hSame : l = m
      · subst hSame
        simp [Lock.line, arrivals]
      · simp [Function.update_of_ne hSame, arrivals]
  | @cancel c key m arrived =>
      by_cases hSame : l = m
      · subst hSame
        simpa [Lock.line, arrivals] using List.erase_sublist
      · simp [Function.update_of_ne hSame, arrivals]

/-- Every call is made once, and every line is in the order of the arrivals. -/
structure OrderInv (actions : List (Action K V E)) (s : State K V E) : Prop where
  came : ∀ c ∈ arrivals actions, s.call c ≠ .absent
  once : (arrivals actions).Nodup
  sorted : ∀ l, (s.lock l).line <+ arrivals actions

theorem Step.call_ne_absent {cfg : Config V} {s t : State K V E} {action : Action K V E}
    (h : Step cfg s action t) {c : CallId} (hCame : s.call c ≠ .absent ∨ c = action.actor) :
    t.call c ≠ .absent := by
  by_cases hActor : c = action.actor
  · subst hActor
    cases h with
    | hit => simp [Action.actor]
    | acquire _ _ _ _ _ hEntered => cases hEntered <;> simp [Action.actor]
    | wait => simp [Action.actor, State.enqueue]
    | resume _ _ _ _ hEntered => cases hEntered <;> simp [Action.actor]
    | @complete _ _ _ _ _ outcome =>
        cases outcome <;> simp [Action.actor, State.finish, State.release]
    | cancel => simp [Action.actor]
  · rw [h.call_other hActor]
    exact hCame.resolve_right hActor

theorem OrderInv.step {cfg : Config V} {actions : List (Action K V E)} {s t : State K V E}
    {action : Action K V E} (inv : OrderInv actions s)
    (hStep : TtlCache.step cfg s action = some t) :
    OrderInv (actions ++ [action]) t where
  came c hMem := by
    rw [arrivals_append, List.mem_append] at hMem
    apply (step_cases hStep).call_ne_absent
    rcases hMem with hOld | hNew
    · exact .inl (inv.came c hOld)
    · right
      cases action <;> simp_all [arrivals, Action.actor]
  once := by
    rw [arrivals_append]
    cases action with
    | arrive c key t₀ t₁ t₂ =>
        have hAbsent : s.call c = .absent := by
          cases step_cases hStep <;> assumption
        exact inv.once.append (List.nodup_singleton c) (by
          simpa [arrivals] using fun hOld : c ∈ arrivals actions => inv.came c hOld hAbsent)
    | _ => simpa [arrivals] using inv.once
  sorted l := by
    rw [arrivals_append]
    exact ((step_cases hStep).line l).trans ((inv.sorted l).append (List.Sublist.refl _))

theorem OrderInv.run {cfg : Config V} {clock : ℚ} {actions : List (Action K V E)} {s : State K V E}
    (run : Runs (TtlCache.step cfg) (.initial clock) actions s) : OrderInv actions s := by
  induction run with
  | zero => exact ⟨by simp [arrivals], by simp [arrivals], by simp [State.initial, Lock.line]⟩
  | succ prior _ last ih => exact ih.step last

/-- Callers are served in the order of their arrival. In every reachable state, the call that
executes under a lock came before all that wait for the lock, and those wait in the order in
which they came; whoever goes on under the lock came before all that go on waiting. -/
theorem servedInOrder {cfg : Config V} {clock : ℚ} {actions : List (Action K V E)} {s : State K V E}
    (run : Runs (step cfg) (.initial clock) actions s) :
    (∀ l, (s.lock l).holder.toList ++ (s.lock l).waiters <+ arrivals actions) ∧
      (arrivals actions).Nodup ∧
      ∀ c l now t, (s.call c).lockAwaited = some l → step cfg s (.resume c now) = some t →
        ∀ d, (t.call d).lockAwaited = some l → [c, d] <+ arrivals actions := by
  have inv := OrderInv.run run
  have queues := QueueInv.run run (.initial clock)
  refine ⟨inv.sorted, inv.once, ?_⟩
  intro c l now t hCalls hStep d hWaits
  have hOther : d ≠ c := by
    rintro rfl
    exact ((step_cases hStep).leaves trivial).1 (by simp [State.queuedCalls, Action.actor, hWaits])
  have hLater := ((queues.step hStep).waiters d l).mpr hWaits
  cases step_cases hStep with
  | @resume _ key m arrived _ rest _ hCall _ hFree hQueue hEntered =>
      obtain rfl : m = l := by simpa [hCall, Phase.lockAwaited] using hCalls
      have hLine := hEntered.line (by simpa using hFree) m
      have hMem : d ∈ (t.lock m).line := List.mem_append_right _ hLater
      have hRest : d ∈ rest := by simpa [hOther] using hLine.subset hMem
      have hSorted := inv.sorted m
      rw [Lock.line, hFree, hQueue] at hSorted
      exact ((List.singleton_sublist.mpr hRest).cons_cons c).trans hSorted

theorem servedInOrder_threeCallers : ∃ s t : State Nat Nat Nat,
    execute (step {}) (.initial 0) (threeCallers ++ [.complete 0 (.exception 1) 3]) = some s ∧
      step {} s (.resume 1 4) = some t ∧ [1, 2] <+ arrivals threeCallers := by
  have hRun :
      execute (step {}) (.initial 0) (threeCallers ++ [.complete 0 (.exception 1) 3]) = some _ :=
        rfl
  obtain ⟨-, -, hOrder⟩ := servedInOrder (runs_of_execute hRun)
  exact ⟨_, _, hRun, rfl, hOrder 1 0 4 _ rfl rfl 2 rfl⟩

end NodeDebugDashboard.Collectors.TtlCache
