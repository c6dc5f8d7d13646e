import Mathlib.Algebra.Order.Ring.Rat
import NodeDebugDashboard.Library.Dict
import NodeDebugDashboard.Models

/-! The lifetime counters of app/routers/warnings.py: `_counters`,
`_counter_severity`, and the calls that a pass makes of it. -/
namespace NodeDebugDashboard.Routers

open Library Models

/-- Source, device and counter. -/
abbrev CounterKey := String × String × String

/-- `_counters`: the last value seen per counter, and when it last went up. -/
abbrev Counters := Dict CounterKey (Int × Option ℚ)

/-- The counter went up, or was reset and is already non-zero again. -/
def Moved (prev value : Int) : Prop := value > prev ∨ value < prev ∧ value > 0

instance (prev value : Int) : Decidable (Moved prev value) :=
  inferInstanceAs (Decidable (_ ∨ _))

/-- `last_increase` after the counter reads `value` at `now`. -/
def lastIncrease (entry : Option (Int × Option ℚ)) (value : Int) (now : ℚ) : Option ℚ :=
  match entry with
  | none => none
  | some (prev, last) => if Moved prev value then some now else last

/-- What `_counter_severity` returns, once `last_increase` is known. -/
def severityOf (window : Int) (value : Int) (last : Option ℚ) (severity : String) (now : ℚ) :
    Option String :=
  if value ≤ 0 then none
  else
    match last with
    | some time => if now - time < window * 3600 then some severity else some "info"
    | none => some "info"

/-- `_counter_severity` with `COUNTER_WINDOW_HOURS = window` when the clock
reads `now`. The readings are exact here, where the source subtracts two floats and
rounds their difference. -/
def counterSeverity (window : Int) (now : ℚ) (key : CounterKey) (value : Int)
    (severity : String) (counters : Counters) : Option String × Counters :=
  let last := lastIncrease (counters.get? key) value now
  (severityOf window value last severity now, counters.set key (value, last))

/-- One call of `_counter_severity`, and the warning that is made of its
answer. -/
structure Check where
  key : CounterKey
  value : Int
  severity : String
  message : String
  device : Option String := none

def memoryChecks {F : Type} (mem : MemoryInfo F) : List Check :=
  [{ key := ("memory", "", "ecc_ue")
     value := mem.eccUncorrectableErrors
     severity := "critical"
     message := "ECC uncorrectable errors: " ++ toString mem.eccUncorrectableErrors },
   { key := ("memory", "", "ecc_ce")
     value := mem.eccCorrectableErrors
     severity := "warning"
     message := "ECC correctable errors: " ++ toString mem.eccCorrectableErrors }]

def nicChecks (nic : NICInfo) : List Check :=
  [{ key := ("network", nic.name, "crc")
     value := nic.rxCrcErrors
     severity := "critical"
     message := "CRC errors: " ++ toString nic.rxCrcErrors
     device := some nic.name },
   { key := ("network", nic.name, "carrier")
     value := nic.txCarrierErrors
     severity := "critical"
     message := "Carrier errors: " ++ toString nic.txCarrierErrors
     device := some nic.name }]

/-- The clock during a pass: what it reads in the check of each counter. -/
abbrev Clock := CounterKey → ℚ

/-- The checks of a pass in turn: each with its answer, and the table after
them all. -/
def runChecks (window : Int) (clock : Clock) :
    List Check → Counters → List (Check × Option String) × Counters
  | [], counters => ([], counters)
  | check :: rest, counters =>
      let answer := counterSeverity window (clock check.key) check.key check.value
        check.severity counters
      let later := runChecks window clock rest answer.2
      ((check, answer.1) :: later.1, later.2)

/-- `if sev: warnings.append(...)` -/
def Check.warning (check : Check) : Option String → Option NodeWarning
  | some sev =>
      if sev ≠ "" then some ⟨sev, check.key.1, check.message, check.device⟩ else none
  | none => none

/-- Interfaces that are gone are forgotten. -/
def forget (present : List String) (counters : Counters) : Counters :=
  counters.filter fun key => key.1 ≠ "network" ∨ key.2.1 ∈ present

theorem counterSeverity_get? (window : Int) (now : ℚ) (key other : CounterKey) (value : Int)
    (severity : String) (counters : Counters) :
    (counterSeverity window now key value severity counters).2.get? other =
      if other = key then some (value, lastIncrease (counters.get? key) value now)
      else counters.get? other :=
  Dict.get?_set _ _ _ _

/-- What a check answers when the table has this entry for its counter. -/
def Check.answer (check : Check) (window : Int) (clock : Clock)
    (entry : Option (Int × Option ℚ)) : Option String :=
  severityOf window check.value (lastIncrease entry check.value (clock check.key))
    check.severity (clock check.key)

theorem runChecks_append (window : Int) (clock : Clock) (first later : List Check)
    (counters : Counters) :
    runChecks window clock (first ++ later) counters =
      ((runChecks window clock first counters).1 ++
          (runChecks window clock later (runChecks window clock first counters).2).1,
        (runChecks window clock later (runChecks window clock first counters).2).2) := by
  induction first generalizing counters with
  | nil => rfl
  | cons check rest ih => simp [runChecks, ih]

theorem runChecks_get?_of_notMem {window : Int} {clock : Clock} {key : CounterKey}
    {checks : List Check} (counters : Counters) (h : ∀ check ∈ checks, check.key ≠ key) :
    (runChecks window clock checks counters).2.get? key = counters.get? key := by
  induction checks generalizing counters with
  | nil => rfl
  | cons check rest ih =>
      have hNe : key ≠ check.key := fun hEq => h check (by simp) hEq.symm
      rw [runChecks, ih _ fun other hOther => h other (List.mem_cons_of_mem _ hOther),
        counterSeverity_get?, if_neg hNe]

/-- Checks of different counters do not see each other. -/
theorem runChecks_spec (window : Int) (clock : Clock) {checks : List Check}
    (counters : Counters) (hNodup : (checks.map Check.key).Nodup) :
    (runChecks window clock checks counters).1 =
        checks.map (fun check => (check, check.answer window clock (counters.get? check.key))) ∧
      ∀ check ∈ checks, (runChecks window clock checks counters).2.get? check.key =
        some
          (check.value, lastIncrease (counters.get? check.key) check.value (clock check.key)) := by
  induction checks generalizing counters with
  | nil => simp [runChecks]
  | cons check rest ih =>
      obtain ⟨hFresh, hRest⟩ := List.nodup_cons.mp hNodup
      have hApart : ∀ other ∈ rest, other.key ≠ check.key := by
        intro other hOther hEq
        exact hFresh (hEq ▸ List.mem_map_of_mem hOther)
      obtain ⟨hAnswers, hTable⟩ := ih (counterSeverity window (clock check.key) check.key
        check.value check.severity counters).2 hRest
      constructor
      · simp only [runChecks, hAnswers, List.map_cons]
        refine List.cons_eq_cons.mpr ⟨rfl, List.map_congr_left fun other hOther => ?_⟩
        rw [counterSeverity_get?, if_neg (hApart other hOther)]
      · intro other hOther
        rcases List.mem_cons.mp hOther with rfl | hLater
        · rw [runChecks, runChecks_get?_of_notMem _ hApart, counterSeverity_get?, if_pos rfl]
        · rw [runChecks, hTable other hLater, counterSeverity_get?,
            if_neg (hApart other hLater)]

end NodeDebugDashboard.Routers
