import Mathlib.Data.List.Basic

/-! Finite runs of a partial labelled step function, with an optional side
condition on the steps that are taken. -/
namespace Library

variable {State Action : Type*} {step : State → Action → Option State}
  {allowed : State → Action → Prop}

/-- A run from one state to another through enabled steps, each of which
meets `allowed` at the state it is taken from. -/
inductive RunsWhere (step : State → Action → Option State) (allowed : State → Action → Prop) :
    State → List Action → State → Prop where
  | zero (s : State) : RunsWhere step allowed s [] s
  | succ {s t u : State} {actions : List Action} {action : Action}
      (prior : RunsWhere step allowed s actions t) (meets : allowed t action)
      (last : step t action = some u) :
      RunsWhere step allowed s (actions ++ [action]) u

/-- A run without a side condition. -/
abbrev Runs (step : State → Action → Option State) : State → List Action → State → Prop :=
  RunsWhere step (fun _ _ => True)

/-- What holds at the start and is kept by every allowed step holds at the
end of every run. -/
theorem RunsWhere.invariant {Inv : State → Prop} {s t : State} {actions : List Action}
    (run : RunsWhere step allowed s actions t) (hStart : Inv s)
    (hStep : ∀ t action u, Inv t → allowed t action → step t action = some u → Inv u) :
    Inv t := by
  induction run with
  | zero => exact hStart
  | succ prior meets last ih => exact hStep _ _ _ ih meets last

/-- Side conditions met by every step of a run can be collected from an
invariant of the run. -/
theorem RunsWhere.strengthen (Inv : State → Prop) {stronger : State → Action → Prop}
    {s t : State} {actions : List Action} (run : RunsWhere step allowed s actions t)
    (hStart : Inv s)
    (hStep : ∀ t action u, Inv t → allowed t action → step t action = some u → Inv u)
    (hAllowed : ∀ t action, Inv t → allowed t action → stronger t action) :
    RunsWhere step stronger s actions t := by
  induction run with
  | zero => exact .zero _
  | succ prior meets last ih =>
      exact .succ ih (hAllowed _ _ (prior.invariant hStart hStep) meets) last

theorem RunsWhere.trans {s t u : State} {first second : List Action}
    (left : RunsWhere step allowed s first t) (right : RunsWhere step allowed t second u) :
    RunsWhere step allowed s (first ++ second) u := by
  induction right with
  | zero => simpa using left
  | succ prior meets last ih =>
      rw [← List.append_assoc]
      exact .succ ih meets last

/-- The actions determine where a run ends. -/
theorem RunsWhere.unique {s t t' : State} {actions : List Action}
    (run : RunsWhere step allowed s actions t) (other : RunsWhere step allowed s actions t') :
    t = t' := by
  induction run generalizing t' with
  | zero =>
      generalize hNil : ([] : List Action) = all at other
      cases other with
      | zero => rfl
      | succ => simp at hNil
  | @succ _ _ actions action _ _ last ih =>
      generalize hActions : actions ++ [action] = all at other
      cases other with
      | zero => simp at hActions
      | succ prior' _ last' =>
          obtain ⟨rfl, rfl⟩ := List.append_singleton_inj.mp hActions
          rw [ih prior', last'] at last
          exact (Option.some.inj last).symm

/-- Take the actions in turn; `none` when one of them is not enabled. -/
def execute (step : State → Action → Option State) : State → List Action → Option State
  | s, [] => some s
  | s, action :: rest => (step s action).bind (fun t => execute step t rest)

/-- Executing actions that are allowed everywhere makes a run. -/
theorem runsWhere_of_execute {s t : State} {actions : List Action}
    (h : execute step s actions = some t) (hAllowed : ∀ action ∈ actions, ∀ s, allowed s action) :
    RunsWhere step allowed s actions t := by
  induction actions generalizing s with
  | nil =>
      cases h
      exact .zero _
  | cons action rest ih =>
      obtain ⟨middle, hStep, hRest⟩ := Option.bind_eq_some_iff.mp h
      have hFirst := RunsWhere.succ (.zero s) (hAllowed action (by simp) s) hStep
      exact hFirst.trans (ih hRest fun later hLater =>
        hAllowed later (List.mem_cons_of_mem _ hLater))

/-- Take the actions in turn, as long as each of them passes a check. -/
def executeChecked (step : State → Action → Option State) (check : State → Action → Bool) :
    State → List Action → Option State
  | s, [] => some s
  | s, action :: rest => if check s action then (step s action).bind fun t =>
        executeChecked step check t rest else none

/-- Executing actions of which each is checked to be allowed makes a run. -/
theorem runsWhere_of_executeChecked {check : State → Action → Bool} {s t : State}
    {actions : List Action} (h : executeChecked step check s actions = some t)
    (hCheck : ∀ s action, check s action = true → allowed s action) :
    RunsWhere step allowed s actions t := by
  induction actions generalizing s with
  | nil =>
      cases h
      exact .zero _
  | cons action rest ih =>
      simp only [executeChecked, Option.ite_none_right_eq_some] at h
      obtain ⟨hAction, hSteps⟩ := h
      obtain ⟨middle, hStep, hRest⟩ := Option.bind_eq_some_iff.mp hSteps
      exact (RunsWhere.succ (.zero s) (hCheck s action hAction) hStep).trans (ih hRest)

theorem runs_of_execute {s t : State} {actions : List Action}
    (h : execute step s actions = some t) : Runs step s actions t :=
  runsWhere_of_execute h fun _ _ _ => trivial

end Library
