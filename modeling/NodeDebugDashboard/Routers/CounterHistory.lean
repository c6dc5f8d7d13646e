import Mathlib.Tactic.Linarith
import NodeDebugDashboard.Library.History
import NodeDebugDashboard.Routers.Warnings

/-! The counter table over whole runs of passes: what it keeps of a counter is
the summary of the readings since the counter was last forgotten. -/
namespace NodeDebugDashboard.Routers

open Library Library.Python Models

variable {F : Type}

/-- The NIC collector failed, or named each interface once. -/
def Pass.DistinctNames (pass : Pass F) : Prop :=
  ((listOf pass.sections.nics).map NICInfo.name).Nodup

def Pass.Valid (pass : Pass F) : Prop := pass.Completed ∧ pass.DistinctNames

def Pass.checks (pass : Pass F) : List Check := pass.memoryChecks ++ pass.nicChecks

/-- The check that a pass makes of a counter, if it makes one. -/
def Pass.check? (pass : Pass F) (key : CounterKey) : Option Check :=
  pass.checks.find? fun check => check.key = key

/-- What a pass reads from a counter, and when. -/
def Pass.reading (pass : Pass F) (key : CounterKey) : Option (Reading Int ℚ) :=
  (pass.check? key).map fun check => ⟨pass.clock key, check.value⟩

/-- What `_counter_severity` returns for a counter in a pass. -/
def Pass.answer? (pass : Pass F) (counters : Counters) (key : CounterKey) :
    Option (Check × Option String) :=
  ((pass.checked counters).1 ++ (pass.checked counters).2.1).find? fun answer =>
    answer.1.key = key

/-- `_counters` after a run of passes. -/
def runPasses [PyFloat F] (counters : Counters) (passes : List (Pass F)) : Counters :=
  passes.foldl (fun before pass => (getWarnings pass before).2) counters

theorem Pass.checks_nodup (pass : Pass F) (h : pass.DistinctNames) :
    (pass.checks.map Check.key).Nodup := by
  have hMemory : (pass.memoryChecks.map Check.key).Nodup := by
    unfold Pass.memoryChecks
    cases recordOf pass.sections.memory <;> simp [Routers.memoryChecks]
  have hNetwork : ∀ nics : List NICInfo, (nics.map NICInfo.name).Nodup →
      ((nics.flatMap Routers.nicChecks).map Check.key).Nodup := by
    intro nics hNames
    induction nics with
    | nil => simp
    | cons nic rest ih =>
        obtain ⟨hFresh, hRest⟩ := List.nodup_cons.mp hNames
        rw [List.flatMap_cons, List.map_append]
        apply List.Nodup.append (by simp [Routers.nicChecks]) (ih hRest)
        intro key hFirst hLater
        obtain ⟨check, hCheck, rfl⟩ := List.mem_map.mp hLater
        obtain ⟨other, hOther, hCheck⟩ := List.mem_flatMap.mp hCheck
        have hName : nic.name = other.name := by
          rcases (by simpa [Routers.nicChecks] using hCheck) with rfl | rfl <;>
            simpa [Routers.nicChecks, eq_comm] using hFirst
        exact hFresh (List.mem_map.mpr ⟨other, hOther, hName.symm⟩)
  rw [Pass.checks, List.map_append]
  apply hMemory.append (hNetwork _ h)
  intro key hFirst hLater
  obtain ⟨first, hMemoryCheck, rfl⟩ := List.mem_map.mp hFirst
  obtain ⟨later, hNicCheck, hSame⟩ := List.mem_map.mp hLater
  have hSource := pass.nicChecks_key later hNicCheck
  rw [hSame, pass.memoryChecks_key first hMemoryCheck] at hSource
  exact absurd hSource (by decide)

theorem Pass.answer?_eq (pass : Pass F) (h : pass.DistinctNames) (counters : Counters)
    (key : CounterKey) :
    pass.answer? counters key = (pass.check? key).map fun check =>
      (check, check.answer pass.window pass.clock (counters.get? key)) := by
  have hAnswers : (pass.checked counters).1 ++ (pass.checked counters).2.1 =
      (runChecks pass.window pass.clock pass.checks counters).1 := by
    rw [Pass.checks, runChecks_append]
    rfl
  rw [Pass.answer?, hAnswers, (runChecks_spec _ _ counters (pass.checks_nodup h)).1, List.find?_map,
    Pass.check?]
  cases hFound : pass.checks.find? fun check => check.key = key with
  | none => simpa [Function.comp_def] using hFound
  | some check =>
      have hKey : check.key = key := by simpa using List.find?_some hFound
      have hSame : pass.checks.find? ((fun answer : Check × Option String => decide (answer.1.key =
          key)) ∘ fun check => (check, check.answer pass.window pass.clock
          (counters.get? check.key))) = some check := hFound
      rw [hSame]
      simp [hKey]

/-- `_counter_severity` keeps what the history of a counter says. -/
theorem note_moved (entry : Option (Int × Option ℚ)) (reading : Reading Int ℚ) :
    History.note Moved entry reading =
      (reading.value, lastIncrease entry reading.value reading.time) := by
  cases entry <;> rfl

/-- The table after the checks of a pass. -/
theorem Pass.checked_get? (pass : Pass F) (h : pass.DistinctNames) (counters : Counters)
    (key : CounterKey) :
    (pass.checked counters).2.2.get? key =
      match pass.reading key with
      | some reading => some (History.note Moved (counters.get? key) reading)
      | none => counters.get? key := by
  have hTable : (pass.checked counters).2.2 =
      (runChecks pass.window pass.clock pass.checks counters).2 := by
    rw [Pass.checks, runChecks_append]
    rfl
  rw [hTable, Pass.reading, Pass.check?]
  cases hFound : pass.checks.find? fun check => check.key = key with
  | none =>
      refine runChecks_get?_of_notMem counters fun check hCheck => ?_
      simpa using List.find?_eq_none.mp hFound check hCheck
  | some check =>
      have hKey : check.key = key := by simpa using List.find?_some hFound
      have hRead := (runChecks_spec pass.window pass.clock counters (pass.checks_nodup h)).2 check
        (List.mem_of_find?_eq_some hFound)
      rw [hKey] at hRead
      rw [hRead]
      exact congrArg some (note_moved (counters.get? key) ⟨pass.clock key, check.value⟩).symm

theorem nics_mem_failed_iff {pass : Pass F} {failed : List Source}
    (h : gatherSections pass.sections.raised = .ok failed) :
    Source.nics ∈ failed ↔ ∃ error, pass.sections.nics = .error error := by
  rw [mem_failed_iff h]
  cases hNics : pass.sections.nics <;> simp [Sections.raised, raisedBy, hNics]

/-- The NIC collector returned a list without the interface of the key. -/
def Pass.Forgets (pass : Pass F) (key : CounterKey) : Prop :=
  key.1 = "network" ∧ ∃ nics, pass.sections.nics = .ok nics ∧ key.2.1 ∉ nics.map NICInfo.name

theorem Pass.mem_checks {pass : Pass F} {check : Check} (h : check ∈ pass.checks) :
    check.key.1 = "memory" ∨ ∃ nics, pass.sections.nics = .ok nics ∧ ∃ nic ∈ nics,
      check.key = ("network", nic.name, "crc") ∨ check.key = ("network", nic.name, "carrier") := by
  rcases List.mem_append.mp h with hMemory | hNetwork
  · exact .inl (pass.memoryChecks_key check hMemory)
  · right
    obtain ⟨nic, hNic, hCheck⟩ := List.mem_flatMap.mp hNetwork
    cases hNics : pass.sections.nics with
    | error e => simp [hNics, listOf] at hNic
    | ok nics =>
        rw [hNics] at hNic
        refine ⟨nics, rfl, nic, hNic, ?_⟩
        rcases (by simpa [Routers.nicChecks] using hCheck) with rfl | rfl <;> simp

theorem Pass.not_forgets_of_reading {pass : Pass F} {key : CounterKey} {reading : Reading Int ℚ}
    (h : pass.reading key = some reading) : ¬pass.Forgets key := by
  rintro ⟨hNetwork, nics, hNics, hGone⟩
  obtain ⟨check, hFound, _⟩ := Option.map_eq_some_iff.mp h
  have hKey : check.key = key := by simpa using List.find?_some hFound
  rcases Pass.mem_checks (List.mem_of_find?_eq_some hFound) with hMemory | ⟨others, hOthers,
    nic, hNic, hName⟩
  · simp [hKey, hNetwork] at hMemory
  · rw [hNics] at hOthers
    cases hOthers
    refine hGone (List.mem_map.mpr ⟨nic, hNic, ?_⟩)
    rcases hName with hName | hName <;> simp [← hKey, hName]

/-- Only the interfaces that are gone lose the entries of the checks. -/
theorem Pass.countersAfter_get? {pass : Pass F} {failed : List Source}
    (hFailed : gatherSections pass.sections.raised = .ok failed) (counters : Counters)
    (key : CounterKey) :
    (pass.Forgets key → (pass.countersAfter failed counters).get? key = none) ∧
    (¬pass.Forgets key → (pass.countersAfter failed counters).get? key =
      (pass.checked counters).2.2.get? key) := by
  have hNics := nics_mem_failed_iff hFailed
  unfold Pass.countersAfter
  cases hResult : pass.sections.nics with
  | error e =>
      have hMem : Source.nics ∈ failed := hNics.mpr ⟨e, hResult⟩
      have hKeeps : ¬pass.Forgets key := by simp [Pass.Forgets, hResult]
      simp [hMem, hKeeps]
  | ok nics =>
      have hMem : Source.nics ∉ failed := fun h => by simpa [hResult] using hNics.mp h
      have hForgets : pass.Forgets key ↔
          ¬(key.1 ≠ "network" ∨ key.2.1 ∈ nics.map NICInfo.name) := by
        simp [Pass.Forgets, hResult]
      rw [hForgets, if_neg hMem, forget, Dict.get?_filter]
      exact ⟨fun hGone => if_neg fun hKeep => hGone (of_decide_eq_true hKeep),
        fun hKeep => if_pos (decide_eq_true (not_not.mp hKeep))⟩

/-- What a completed pass does to the entry of one counter. -/
theorem Pass.get?_after [PyFloat F] {pass : Pass F} (hValid : pass.Valid) (counters : Counters)
    (key : CounterKey) :
    (∀ reading, pass.reading key = some reading → (getWarnings pass counters).2.get? key =
      some (History.note Moved (counters.get? key) reading)) ∧
    (pass.Forgets key → (getWarnings pass counters).2.get? key = none) ∧
    (pass.reading key = none → ¬pass.Forgets key →
      (getWarnings pass counters).2.get? key = counters.get? key) := by
  obtain ⟨⟨failed, hFailed⟩, hNames⟩ := hValid
  have hCounters : (getWarnings pass counters).2 = pass.countersAfter failed counters := by
    simp [getWarnings, hFailed]
  obtain ⟨hGone, hKept⟩ := pass.countersAfter_get? hFailed counters key
  have hTable := pass.checked_get? hNames counters key
  rw [hCounters]
  refine ⟨fun reading hReading => ?_, hGone, fun hNone hKeeps => ?_⟩
  · rw [hKept (Pass.not_forgets_of_reading hReading), hTable, hReading]
  · rw [hKept hKeeps, hTable, hNone]

section

variable [PyFloat F]

theorem runPasses_append_singleton (counters : Counters) (passes : List (Pass F)) (last : Pass F) :
    runPasses counters (passes ++ [last]) = (getWarnings last (runPasses counters passes)).2 := by
  simp [runPasses]

/-- While a counter is read in every pass, the table keeps the summary of its
readings. -/
theorem runPasses_summary {counters : Counters} {key : CounterKey} {passes : List (Pass F)}
    {readings : List (Reading Int ℚ)} (hValid : ∀ pass ∈ passes, pass.Valid)
    (hAbsent : counters.get? key = none)
    (hReadings : passes.map (fun pass => pass.reading key) = readings.map some) :
    (runPasses counters passes).get? key = History.summary Moved readings := by
  induction passes using List.reverseRecOn generalizing readings with
  | nil =>
      have hEmpty : readings = [] := by simpa using hReadings.symm
      rw [hEmpty]
      exact hAbsent
  | append_singleton passes last ih =>
      rw [List.map_append] at hReadings
      obtain ⟨before, final, hSplit, hBefore, hFinal⟩ := List.map_eq_append_iff.mp hReadings.symm
      obtain ⟨reading, rfl, hReading⟩ : ∃ reading, final = [reading] ∧
          last.reading key = some reading := by
        rw [List.map_singleton, List.map_eq_singleton_iff] at hFinal
        obtain ⟨reading, hFinal, hReading⟩ := hFinal
        exact ⟨reading, hFinal, hReading.symm⟩
      have hOld := ih (fun pass hPass => hValid pass (List.mem_append_left _ hPass)) hBefore.symm
      rw [hSplit, History.summary_append_singleton, runPasses_append_singleton,
        (Pass.get?_after (hValid last (by simp)) _ key).1 reading hReading, hOld]

/-- A counter that is not in the table stays out while no pass reads it. -/
theorem runPasses_absent {counters : Counters} {key : CounterKey} {before between : List (Pass F)}
    (hValid : ∀ pass ∈ between, pass.Valid) (hUnread : ∀ pass ∈ between, pass.reading key = none)
    (hAbsent : (runPasses counters before).get? key = none) :
    (runPasses counters (before ++ between)).get? key = none := by
  induction between using List.reverseRecOn with
  | nil => simpa using hAbsent
  | append_singleton between last ih =>
      have hBefore := ih (fun pass hPass => hValid pass (List.mem_append_left _ hPass))
        (fun pass hPass => hUnread pass (List.mem_append_left _ hPass))
      obtain ⟨_, hGone, hKept⟩ := Pass.get?_after (hValid last (by simp))
        (runPasses counters (before ++ between)) key
      rw [← List.append_assoc, runPasses_append_singleton]
      by_cases hForgets : last.Forgets key
      · exact hGone hForgets
      · rw [hKept (hUnread last (by simp)) hForgets, hBefore]

/-- The counter moved in a reading taken less than the window before `now`. -/
def RecentMove (window : Int) (now : ℚ) (readings : List (Reading Int ℚ)) : Prop :=
  ∃ j prev next, readings[j]? = some prev ∧ readings[j + 1]? = some next ∧
    Moved prev.value next.value ∧ now - next.time < window * 3600

omit [PyFloat F] in
theorem recentMove_iff {window : Int} {now : ℚ} {readings : List (Reading Int ℚ)} :
    RecentMove window now readings ↔
      ∃ time, History.MovedAt Moved readings time ∧ now - time < window * 3600 := by
  constructor
  · rintro ⟨j, prev, next, hPrev, hNext, hMoved, hRecent⟩
    exact ⟨next.time, ⟨j, prev, next, hPrev, hNext, hMoved, rfl⟩, hRecent⟩
  · rintro ⟨_, ⟨j, prev, next, hPrev, hNext, hMoved, rfl⟩, hRecent⟩
    exact ⟨j, prev, next, hPrev, hNext, hMoved, hRecent⟩

/-- In the last of these passes, `_counter_severity` answers from the history of
the counter's readings in them: `None` unless the value is positive, the full
severity when the counter moved within the window, and info otherwise. -/
def AnswersHistory (counters : Counters) (passes : List (Pass F)) (last : Pass F)
    (key : CounterKey) : Prop :=
  ∀ readings final, (passes ++ [last]).map (fun pass => pass.reading key) =
      (readings ++ [final]).map some →
    (readings ++ [final]).Pairwise (fun first second => first.time ≤ second.time) →
    ∃ check severity, last.answer? (runPasses counters passes) key = some (check, severity) ∧
      (severity = none ↔ final.value ≤ 0) ∧
      (0 < final.value → RecentMove last.window final.time (readings ++ [final]) →
        severity = some check.severity) ∧
      (0 < final.value → ¬RecentMove last.window final.time (readings ++ [final]) →
        severity = some "info")

omit [PyFloat F] in
/-- The answer for a summary of the readings before, and the reading itself. -/
theorem severityOf_history {window : Int} {severity : String} {readings : List (Reading Int ℚ)}
    {final : Reading Int ℚ}
    (hTimes : (readings ++ [final]).Pairwise fun first second => first.time ≤ second.time) :
    let answer := severityOf window final.value
      (lastIncrease (History.summary Moved readings) final.value final.time) severity final.time
    (answer = none ↔ final.value ≤ 0) ∧
      (0 < final.value → RecentMove window final.time (readings ++ [final]) →
        answer = some severity) ∧
      (0 < final.value → ¬RecentMove window final.time (readings ++ [final]) →
        answer = some "info") := by
  obtain ⟨last, hLast⟩ : ∃ last,
      lastIncrease (History.summary Moved readings) final.value final.time = last := ⟨_, rfl⟩
  have hSummary : History.summary Moved (readings ++ [final]) = some (final.value, last) := by
    rw [History.summary_append_singleton, note_moved, hLast]
  have hLatest := History.summary_latest Moved hTimes hSummary
  rw [hLast, recentMove_iff]
  cases last with
  | none =>
      refine ⟨?_, fun _ hRecent => ?_, fun hPositive _ => ?_⟩
      · unfold severityOf
        split_ifs with hZero <;> simp [hZero]
      · obtain ⟨time, hMoved, _⟩ := hRecent
        exact absurd hMoved (hLatest time)
      · simp [severityOf, not_le.mpr hPositive]
  | some time =>
      obtain ⟨hMoved, hMax⟩ := hLatest
      refine ⟨?_, fun hPositive hRecent => ?_, fun hPositive hOld => ?_⟩
      · unfold severityOf
        split_ifs with hZero <;> simp [hZero]
        split_ifs <;> simp
      · obtain ⟨other, hOther, hWindow⟩ := hRecent
        have hLater : final.time - time < window * 3600 := by
          have := hMax other hOther
          linarith
        simp [severityOf, not_le.mpr hPositive, hLater]
      · have hPast : ¬final.time - time < window * 3600 := fun h => hOld ⟨time, hMoved, h⟩
        simp [severityOf, not_le.mpr hPositive, hPast]

theorem answersHistory {counters : Counters} {passes : List (Pass F)} {last : Pass F}
    {key : CounterKey} (hValid : ∀ pass ∈ passes ++ [last], pass.Valid)
    (hAbsent : counters.get? key = none) : AnswersHistory counters passes last key := by
  intro readings final hReadings hTimes
  rw [List.map_append, List.map_append] at hReadings
  obtain ⟨hBefore, hFinal⟩ := List.append_inj' hReadings rfl
  have hReading : last.reading key = some final := by simpa using hFinal
  have hSummary := runPasses_summary (fun pass hPass => hValid pass (List.mem_append_left _ hPass))
    hAbsent hBefore
  obtain ⟨check, hCheck, hSame⟩ := Option.map_eq_some_iff.mp hReading
  have hKey : check.key = key := by simpa using List.find?_some hCheck
  have hAnswer := last.answer?_eq (hValid last (by simp)).2 (runPasses counters passes) key
  rw [hCheck, hSummary] at hAnswer
  refine ⟨check, _, hAnswer, ?_⟩
  simp only [Check.answer, hKey]
  subst hSame
  exact severityOf_history hTimes

/-- The key is one of the two counters of the interface. -/
def NicKey (name : String) (key : CounterKey) : Prop :=
  key = ("network", name, "crc") ∨ key = ("network", name, "carrier")

omit [PyFloat F] in
theorem Pass.reading_of_nic {pass : Pass F} {nics : List NICInfo} {nic : NICInfo}
    {key : CounterKey} (hNics : pass.sections.nics = .ok nics) (hNic : nic ∈ nics)
    (hKey : NicKey nic.name key) : ∃ reading, pass.reading key = some reading := by
  have hFound : (pass.check? key).isSome := by
    rw [Pass.check?, List.find?_isSome]
    obtain ⟨check, hCheck, hSame⟩ : ∃ check ∈ Routers.nicChecks nic, check.key = key := by
      rcases hKey with rfl | rfl <;> simp [Routers.nicChecks]
    refine ⟨check, List.mem_append_right _ (List.mem_flatMap.mpr ⟨nic, ?_, hCheck⟩), by simpa⟩
    rw [hNics]
    exact hNic
  obtain ⟨check, hCheck⟩ := Option.isSome_iff_exists.mp hFound
  exact ⟨_, by rw [Pass.reading, hCheck]; rfl⟩

omit [PyFloat F] in
theorem Pass.nic_of_reading {pass : Pass F} {key : CounterKey} {reading : Reading Int ℚ}
    (hNetwork : key.1 = "network") (h : pass.reading key = some reading) :
    ∃ nics, pass.sections.nics = .ok nics ∧ ∃ nic ∈ nics, NicKey nic.name key := by
  obtain ⟨check, hFound, _⟩ := Option.map_eq_some_iff.mp h
  have hKey : check.key = key := by simpa using List.find?_some hFound
  rcases Pass.mem_checks (List.mem_of_find?_eq_some hFound) with hMemory | hNic
  · simp [hKey, hNetwork] at hMemory
  · simpa only [NicKey, hKey] using hNic

/-- From the empty table on, the network entries are CRC and carrier counters. -/
theorem nicKey_of_runPasses {passes : List (Pass F)} (hValid : ∀ pass ∈ passes, pass.Valid)
    {key : CounterKey} (hNetwork : key.1 = "network")
    (h : (runPasses .empty passes).get? key ≠ none) : ∃ name, NicKey name key := by
  induction passes using List.reverseRecOn with
  | nil => simp [runPasses] at h
  | append_singleton passes last ih =>
      rw [runPasses_append_singleton] at h
      obtain ⟨_, hGone, hKept⟩ :=
        Pass.get?_after (hValid last (by simp)) (runPasses .empty passes) key
      cases hReading : last.reading key with
      | some reading =>
          obtain ⟨_, _, nic, _, hName⟩ := Pass.nic_of_reading hNetwork hReading
          exact ⟨nic.name, hName⟩
      | none =>
          rw [hKept hReading fun hForgets => h (hGone hForgets)] at h
          exact ih (fun pass hPass => hValid pass (List.mem_append_left _ hPass)) h

/-- After a pass whose NIC collector returned, the network entries are those of
the interfaces it returned. -/
theorem network_keys {passes : List (Pass F)} {pass : Pass F}
    (hValid : ∀ other ∈ passes ++ [pass], other.Valid) {nics : List NICInfo}
    (hNics : pass.sections.nics = .ok nics) {key : CounterKey} (hNetwork : key.1 = "network") :
    (getWarnings pass (runPasses .empty passes)).2.get? key ≠ none ↔
      ∃ nic ∈ nics, NicKey nic.name key := by
  obtain ⟨hRead, hGone, hKept⟩ :=
    Pass.get?_after (hValid pass (by simp)) (runPasses .empty passes) key
  constructor
  · intro hPresent
    cases hReading : pass.reading key with
    | some reading =>
        obtain ⟨others, hOthers, hNic⟩ := Pass.nic_of_reading hNetwork hReading
        rw [hNics] at hOthers
        cases hOthers
        exact hNic
    | none =>
        have hKeeps : ¬pass.Forgets key := fun hForgets => hPresent (hGone hForgets)
        rw [hKept hReading hKeeps] at hPresent
        obtain ⟨name, hName⟩ := nicKey_of_runPasses
          (fun other hOther => hValid other (List.mem_append_left _ hOther)) hNetwork hPresent
        have hListed : key.2.1 ∈ nics.map NICInfo.name := by
          by_contra hAbsent
          exact hKeeps ⟨hNetwork, nics, hNics, hAbsent⟩
        obtain ⟨nic, hNic, hSame⟩ := List.mem_map.mp hListed
        refine ⟨nic, hNic, ?_⟩
        rcases hName with rfl | rfl <;> simp [NicKey, hSame]
  · rintro ⟨nic, hNic, hName⟩
    obtain ⟨reading, hReading⟩ := Pass.reading_of_nic hNics hNic hName
    simp [hRead reading hReading]

/-- Counter severity over whole runs of completed passes with distinct names:
answers follow the history of a counter that was absent; the table holds the
counters of the present interfaces, and keeps the network entries when the NIC
collector raised and the memory entries always; and an interface that was gone
starts anew when it is back. -/
theorem counterSeverity_over_runs (counters : Counters) (passes : List (Pass F)) (last : Pass F)
    (hValid : ∀ pass ∈ passes ++ [last], pass.Valid) :
    (∀ key, counters.get? key = none → AnswersHistory counters passes last key) ∧
    ((∀ nics, last.sections.nics = .ok nics → ∀ key, key.1 = "network" →
        ((runPasses .empty (passes ++ [last])).get? key ≠ none ↔
          ∃ nic ∈ nics, NicKey nic.name key)) ∧
      (∀ error, last.sections.nics = .error error → ∀ key, key.1 = "network" →
        (runPasses counters (passes ++ [last])).get? key = (runPasses counters passes).get? key) ∧
      (∀ key, key.1 = "memory" → (runPasses counters passes).get? key ≠ none →
        (runPasses counters (passes ++ [last])).get? key ≠ none)) ∧
    (∀ before gone between since nics key, passes = before ++ [gone] ++ between ++ since →
      gone.sections.nics = .ok nics → key.1 = "network" → key.2.1 ∉ nics.map NICInfo.name →
      (∀ pass ∈ between, pass.reading key = none) →
      AnswersHistory (runPasses counters (before ++ [gone] ++ between)) since last key) := by
  refine ⟨fun key hAbsent => answersHistory hValid hAbsent, ⟨?_, ?_, ?_⟩, ?_⟩
  · intro nics hNics key hNetwork
    rw [runPasses_append_singleton]
    exact network_keys hValid hNics hNetwork
  · intro error hError key hNetwork
    rw [runPasses_append_singleton]
    refine (Pass.get?_after (hValid last (by simp)) _ key).2.2 ?_ ?_
    · cases hReading : last.reading key with
      | none => rfl
      | some reading =>
          obtain ⟨nics, hNics, _⟩ := Pass.nic_of_reading hNetwork hReading
          simp [hError] at hNics
    · rintro ⟨_, nics, hNics, _⟩
      simp [hError] at hNics
  · intro key hMemory hPresent
    rw [runPasses_append_singleton]
    obtain ⟨hRead, _, hKept⟩ :=
      Pass.get?_after (hValid last (by simp)) (runPasses counters passes) key
    cases hReading : last.reading key with
    | some reading => simp [hRead reading hReading]
    | none =>
        rw [hKept hReading fun hForgets => by simp [hForgets.1] at hMemory]
        exact hPresent
  · rintro before gone between since nics key rfl hNics hNetwork hAbsent hBetween
    refine answersHistory (fun pass hPass => hValid pass ?_) ?_
    · rw [List.append_assoc]
      exact List.mem_append_right _ hPass
    · refine runPasses_absent ?_ hBetween ?_
      · exact fun pass hPass => hValid pass (by simp [hPass])
      · rw [runPasses_append_singleton]
        exact (Pass.get?_after (hValid gone (by simp)) _ key).2.1 ⟨hNetwork, nics, hNics, hAbsent⟩

/-- A pass in which only the NIC collector has something to say. -/
def nicPass (nics : Outcome (List NICInfo)) (now : ℚ) : Pass Int :=
  { quietPass now with sections := { quiet with nics := nics } }

/-- A counter that goes from 0 to 3 between two passes has its full severity. -/
theorem counterSeverity_moving_counter :
    ∃ check, (nicPass (.ok [{ name := "eth0", rxCrcErrors := 3 }]) 1010).answer?
        (runPasses .empty [nicPass (.ok [{ name := "eth0" }]) 1000]) ("network", "eth0", "crc") =
      some (check, some check.severity) := by
  have hRuns := counterSeverity_over_runs .empty [nicPass (.ok [{ name := "eth0" }]) 1000]
    (nicPass (.ok [{ name := "eth0", rxCrcErrors := 3 }]) 1010)
    (by simp [nicPass, quietPass, quiet, Pass.Valid, Pass.Completed, Pass.DistinctNames, listOf,
      Sections.raised, raisedBy, gatherSections])
  obtain ⟨check, severity, hAnswer, _, hRecent, _⟩ := hRuns.1 ("network", "eth0", "crc") rfl
    [⟨1000, 0⟩] ⟨1010, 3⟩ rfl (by norm_num)
  refine ⟨check, hAnswer.trans ?_⟩
  rw [hRecent (by simp) ⟨0, _, _, rfl, rfl, by decide, by norm_num [nicPass, quietPass]⟩]

end

end NodeDebugDashboard.Routers
