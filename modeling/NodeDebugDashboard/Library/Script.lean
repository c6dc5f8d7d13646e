import NodeDebugDashboard.Library.Runs

/-! Scripts that run commands one after the other, in a world that changes on its own. -/
namespace Library

/-- The commands of a script, and how it goes on with what they report. -/
inductive Script (Command Report α : Type) where
  | done (value : α)
  | run (command : Command) (next : Report → Script Command Report α)

namespace Script

variable {Command Report α β : Type}

/-- The commands that were run, with their reports. -/
abbrev Past (Command Report : Type) := List (Command × Report)

def bind : Script Command Report α → (α → Script Command Report β) → Script Command Report β
  | .done value, f => f value
  | .run command next, f => .run command fun report => (next report).bind f

instance : Monad (Script Command Report) where
  pure := .done
  bind := .bind

/-- What the script returns where each command has one report. -/
def eval (report : Command → Report) : Script Command Report α → α
  | .done value => value
  | .run command next => (next (report command)).eval report

/-- Every command of the script is one of these, whatever the reports are. -/
def Uses (P : Command → Prop) : Script Command Report α → Prop
  | .done _ => True
  | .run command next => P command ∧ ∀ report, (next report).Uses P

/-- Every command may be run after what was run before it, and at the end the
postcondition holds. -/
def Obeys (ok : Past Command Report → Command → Prop) :
    Script Command Report α → Past Command Report → (Past Command Report → α → Prop) → Prop
  | .done value, past, Post => Post past value
  | .run command next, past, Post =>
      ok past command ∧ ∀ report, (next report).Obeys ok (past ++ [(command, report)]) Post

/-- The command that the script runs next. -/
def next? : Script Command Report α → Option Command
  | .done _ => none
  | .run command _ => some command

variable {P : Command → Prop} {ok : Past Command Report → Command → Prop}

theorem eval_bind (report : Command → Report) (script : Script Command Report α)
    (f : α → Script Command Report β) :
    (script >>= f).eval report = (f (script.eval report)).eval report := by
  induction script with
  | done value => rfl
  | run command next ih => exact ih (report command)

@[simp] theorem uses_pure (value : α) : (pure value : Script Command Report α).Uses P := trivial

theorem Uses.bind {script : Script Command Report α} {f : α → Script Command Report β}
    (h : script.Uses P) (hNext : ∀ value, (f value).Uses P) : (script >>= f).Uses P := by
  induction script with
  | done value => exact hNext value
  | run command next ih => exact ⟨h.1, fun report => ih report (h.2 report)⟩

theorem Uses.forM {items : List α} {f : α → Script Command Report PUnit}
    (h : ∀ item ∈ items, (f item).Uses P) : (items.forM f).Uses P := by
  induction items with
  | nil => trivial
  | cons item rest ih =>
      apply (h item (by simp)).bind
      intro _
      exact ih fun later hLater => h later (List.mem_cons_of_mem _ hLater)

theorem Obeys.bind {script : Script Command Report α} {f : α → Script Command Report β}
    {past : Past Command Report} {Post : Past Command Report → β → Prop}
    (h : script.Obeys ok past fun later value => (f value).Obeys ok later Post) :
    (script >>= f).Obeys ok past Post := by
  induction script generalizing past with
  | done value => exact h
  | run command next ih => exact ⟨h.1, fun report => ih report (h.2 report)⟩

theorem Obeys.next {script : Script Command Report α} {past : Past Command Report}
    {Post : Past Command Report → α → Prop} {command : Command} (h : script.Obeys ok past Post)
    (hNext : script.next? = some command) : ok past command := by
  cases script with
  | done => cases hNext
  | run =>
      cases hNext
      exact h.1

/-- Commands that may always be run add themselves to what was run. -/
theorem Uses.obeys {script : Script Command Report α} {past : Past Command Report}
    {Post : Past Command Report → α → Prop} (h : script.Uses P)
    (hOk : ∀ past command, P command → ok past command)
    (hPost : ∀ more value, (∀ entry ∈ more, P entry.1) → Post (past ++ more) value) :
    script.Obeys ok past Post := by
  induction script generalizing past with
  | done value =>
      have hEnd := hPost [] value (by simp)
      rwa [List.append_nil] at hEnd
  | run command next ih =>
      refine ⟨hOk past command h.1, fun report => ih report (h.2 report) ?_⟩
      intro more value hMore
      rw [List.append_assoc]
      apply hPost
      intro entry hEntry
      rcases List.mem_cons.mp hEntry with rfl | hLater
      · exact h.1
      · exact hMore entry hLater

/-- A script on its way through a world. -/
structure Session (World Command Report : Type) where
  world : World
  past : Past Command Report
  rest : Script Command Report Unit

inductive Event (Change Report : Type) where
  | change (change : Change)
  /-- The next command runs. -/
  | report (report : Report)
  /-- The script ends, wherever it is. -/
  | stop
  deriving DecidableEq

variable {World Change : Type}

/-- `change` says what may happen to the world, and `possible` what a command may
report about it. -/
def step (change : World → Change → Option World) (possible : World → Command → Report → Bool)
    (s : Session World Command Report) : Event Change Report → Option (Session World Command Report)
  | .change event => (change s.world event).map fun world => { s with world := world }
  | .report report =>
      match s.rest with
      | .done _ => none
      | .run command next =>
          if possible s.world command report then
            some { s with past := s.past ++ [(command, report)], rest := next report }
          else none
  | .stop => some { s with rest := .done () }

variable {change : World → Change → Option World} {possible : World → Command → Report → Bool}
  {s t : Session World Command Report}

theorem step_change {event : Change} (h : step change possible s (.change event) = some t) :
    ∃ world, change s.world event = some world ∧ t = { s with world := world } := by
  obtain ⟨world, hWorld, rfl⟩ := Option.map_eq_some_iff.mp h
  exact ⟨world, hWorld, rfl⟩

theorem step_report {report : Report} (h : step change possible s (.report report) = some t) :
    ∃ command next, s.rest = .run command next ∧ possible s.world command report ∧
      t = { s with past := s.past ++ [(command, report)], rest := next report } := by
  simp only [step] at h
  split at h
  · cases h
  · rename_i command next hRest
    split at h
    · rename_i hPossible
      exact ⟨command, next, hRest, hPossible, (Option.some.inj h).symm⟩
    · cases h

/-- Whatever happens to the world, the script obeys its rules. -/
theorem obeys_step {event : Event Change Report} (h : s.rest.Obeys ok s.past fun _ _ => True)
    (hStep : step change possible s event = some t) : t.rest.Obeys ok t.past fun _ _ => True := by
  cases event with
  | change =>
      obtain ⟨world, -, rfl⟩ := step_change hStep
      exact h
  | report report =>
      obtain ⟨command, next, hRest, -, rfl⟩ := step_report hStep
      rw [hRest] at h
      exact h.2 report
  | stop =>
      cases hStep
      exact trivial

theorem obeys_run {allowed : Session World Command Report → Event Change Report → Prop}
    {events : List (Event Change Report)}
    (run : RunsWhere (step change possible) allowed s events t)
    (h : s.rest.Obeys ok s.past fun _ _ => True) : t.rest.Obeys ok t.past fun _ _ => True :=
  run.invariant h
    fun _ _ _ hInv _ hStep => obeys_step hInv hStep

end Script

end Library
