import NodeDebugDashboard.Library.Runs

/-! Runs that come to an end: a measure that every step lowers bounds their length, and
where a step is possible as long as the measure is positive, a run brings it down to zero. -/
namespace Library

variable {State Action : Type*} {step : State → Action → Option State}
  {allowed : State → Action → Prop}

/-- A measure that every allowed step lowers pays for the steps of a run. -/
theorem RunsWhere.length_add_measure_le {s t : State} {actions : List Action}
    (run : RunsWhere step allowed s actions t) {Inv : State → Prop} (hStart : Inv s)
    (hStep : ∀ t action u, Inv t → allowed t action → step t action = some u → Inv u)
    (measure : State → Nat)
    (hLower : ∀ t action u, Inv t → allowed t action → step t action = some u →
      measure u < measure t) : actions.length + measure t ≤ measure s := by
  induction run with
  | zero => simp
  | succ prior meets last ih =>
      have hLast := hLower _ _ _ (prior.invariant hStart hStep) meets last
      rw [List.length_append, List.length_singleton]
      omega

/-- Steps that lower the measure, taken as long as it is positive, bring it down to zero. -/
theorem exists_runsWhere_zero {Inv : State → Prop} (measure : State → Nat)
    (hStep : ∀ t action u, Inv t → allowed t action → step t action = some u →
      Inv u ∧ measure u < measure t)
    (hEnabled : ∀ t, Inv t → measure t ≠ 0 → ∃ action u, allowed t action ∧ step t action = some u)
    {s : State} (hStart : Inv s) :
    ∃ actions t, RunsWhere step allowed s actions t ∧ Inv t ∧ measure t = 0 := by
  induction hMeasure : measure s using Nat.strongRecOn generalizing s with
  | ind n ih =>
      by_cases hZero : measure s = 0
      · exact ⟨[], s, .zero s, hStart, hZero⟩
      · obtain ⟨action, u, hAllowed, hNext⟩ := hEnabled s hStart hZero
        obtain ⟨hInv, hLower⟩ := hStep s action u hStart hAllowed hNext
        obtain ⟨rest, t, run, hEnd, hDone⟩ := ih (measure u) (hMeasure ▸ hLower) hInv rfl
        exact ⟨[action] ++ rest, t, (RunsWhere.succ (.zero s) hAllowed hNext).trans run, hEnd,
          hDone⟩

end Library
