import Mathlib.Data.List.Count
import NodeDebugDashboard.Routers.Warnings

/-! Two passes that agree on one source: what `get_warnings` makes of that
source does not depend on the outcomes of the others. -/
namespace NodeDebugDashboard.Routers

open Library Library.Python Models

variable {F : Type}

/-- The two assignments give the source the same outcome. The certificate
sources interact: for the Kubernetes one, they also agree on whether the Talos
one failed. -/
def Agree (first second : Sections F) : Source → Prop
  | .dmesg => first.dmesg = second.dmesg
  | .smart => first.smart = second.smart
  | .sensors => first.sensors = second.sensors
  | .memory => first.memory = second.memory
  | .nics => first.nics = second.nics
  | .diskUsage => first.diskUsage = second.diskUsage
  | .k8sCerts => first.k8sCerts = second.k8sCerts ∧
      (raisedBy first.talosCerts).isSome = (raisedBy second.talosCerts).isSome
  | .talosCerts => first.talosCerts = second.talosCerts
  | .components => first.components = second.components
  | .k8sNode => first.k8sNode = second.k8sNode

/-- The collector of the source raised. -/
def Sections.Failed (sections : Sections F) (source : Source) : Prop :=
  ∃ error, (source, some error) ∈ sections.raised

/-- The entries of `_counters` that belong to a source. -/
def Source.Owns (source : Source) (key : CounterKey) : Prop :=
  source = .memory ∧ key.1 = "memory" ∨ source = .nics ∧ key.1 = "network"

/-- The warnings that were generated from a source. -/
def generatedFrom (source : Source) (warnings : List (Origin × NodeWarning)) :
    List NodeWarning :=
  (warnings.filter fun tagged => tagged.1 = .evaluated source).map Prod.snd

/-- Checks see nothing of the table but the counters that they check. -/
theorem runChecks_congr (window : Int) (clock : Clock) {P : CounterKey → Prop}
    {checks : List Check} (hKeys : ∀ check ∈ checks, P check.key) {first second : Counters}
    (hAgree : ∀ key, P key → first.get? key = second.get? key) :
    (runChecks window clock checks first).1 = (runChecks window clock checks second).1 ∧
      ∀ key, P key → (runChecks window clock checks first).2.get? key =
        (runChecks window clock checks second).2.get? key := by
  induction checks generalizing first second with
  | nil => exact ⟨rfl, hAgree⟩
  | cons check rest ih =>
      have hHere := hAgree check.key (hKeys check List.mem_cons_self)
      have hNext : ∀ key, P key →
          (counterSeverity window (clock check.key) check.key check.value check.severity
            first).2.get? key =
          (counterSeverity window (clock check.key) check.key check.value check.severity
            second).2.get? key := by
        intro key hKey
        rw [counterSeverity_get?, counterSeverity_get?, hHere, hAgree key hKey]
      obtain ⟨hAnswers, hTable⟩ :=
        ih (fun other hOther => hKeys other (List.mem_cons_of_mem _ hOther))
        hNext
      constructor
      · simp only [runChecks, hAnswers]
        simp [counterSeverity, hHere]
      · exact hTable

/-- The memory checks leave the network entries alone. -/
theorem Pass.memory_get?_network (pass : Pass F) (counters : Counters) {key : CounterKey}
    (hNetwork : key.1 = "network") :
    (runChecks pass.window pass.clock pass.memoryChecks counters).2.get? key =
      counters.get? key := by
  apply runChecks_get?_of_notMem
  rintro check hCheck rfl
  simp [pass.memoryChecks_key check hCheck] at hNetwork

/-- The network checks of two passes with the same interfaces agree when the
tables agree on the network entries, whatever the memory checks did. -/
theorem Pass.network_congr (pass : Pass F) {sections : Sections F}
    (hNics : pass.sections.nics = sections.nics) {first second : Counters}
    (hAgree : ∀ key : CounterKey, key.1 = "network" → first.get? key = second.get? key) :
    (pass.checked first).2.1 = ({ pass with sections := sections }.checked second).2.1 ∧
      ∀ key : CounterKey, key.1 = "network" → (pass.checked first).2.2.get? key =
        ({ pass with sections := sections }.checked second).2.2.get? key := by
  have hChecks : { pass with sections := sections }.nicChecks = pass.nicChecks := by
    simp [Pass.nicChecks, hNics]
  have hBefore : ∀ key : CounterKey, key.1 = "network" →
      (runChecks pass.window pass.clock pass.memoryChecks first).2.get? key =
        (runChecks pass.window pass.clock { pass with sections := sections }.memoryChecks
          second).2.get? key := by
    intro key hNetwork
    rw [pass.memory_get?_network first hNetwork, hAgree key hNetwork]
    exact ({ pass with sections := sections }.memory_get?_network second hNetwork).symm
  have hCongr := runChecks_congr pass.window pass.clock pass.nicChecks_key hBefore
  simp only [Pass.checked, hChecks]
  exact hCongr

theorem talosCerts_mem_failed_iff {sections : Sections F} {failed : List Source}
    (h : gatherSections sections.raised = .ok failed) :
    Source.talosCerts ∈ failed ↔ (raisedBy sections.talosCerts).isSome := by
  rw [mem_failed_iff h]
  cases hTalos : sections.talosCerts <;> simp [Sections.raised, raisedBy, hTalos]

section

variable [PyFloat F]

/-- What a source is evaluated to depends on its own outcome only. -/
theorem Pass.evaluate_congr {pass : Pass F} {sections : Sections F} {source : Source}
    {failed others : List Source} (hFailed : gatherSections pass.sections.raised = .ok failed)
    (hOthers : gatherSections sections.raised = .ok others)
    (hAgree : Agree pass.sections sections source) (counters : Counters) :
    pass.evaluate failed counters source =
      { pass with sections := sections }.evaluate others counters source := by
  cases source with
  | memory =>
      have hMemory : pass.sections.memory = sections.memory := hAgree
      simp [Pass.evaluate, Pass.checked, Pass.memoryChecks, hMemory]
  | nics => rw [Pass.evaluate, Pass.evaluate, (pass.network_congr hAgree fun _ _ => rfl).1]
  | k8sCerts =>
      obtain ⟨hCerts, hTalos⟩ := hAgree
      have hOwner : decide (Source.talosCerts ∉ failed) = decide (Source.talosCerts ∉ others) := by
        rw [decide_eq_decide, talosCerts_mem_failed_iff hFailed, talosCerts_mem_failed_iff hOthers,
          hTalos]
      simp [Pass.evaluate, hCerts, hOwner]
  | dmesg | smart | sensors | diskUsage | talosCerts | components | k8sNode =>
      simp only [Agree] at hAgree
      simp [Pass.evaluate, hAgree]

end

/-- The memory entries after a pass are those after its memory checks. -/
theorem Pass.countersAfter_get?_memory (pass : Pass F) (failed : List Source)
    (counters : Counters) {key : CounterKey} (hMemory : key.1 = "memory") :
    (pass.countersAfter failed counters).get? key =
      (runChecks pass.window pass.clock pass.memoryChecks counters).2.get? key := by
  have hNetwork : (pass.checked counters).2.2.get? key =
      (runChecks pass.window pass.clock pass.memoryChecks counters).2.get? key := by
    apply runChecks_get?_of_notMem
    rintro check hCheck rfl
    simp [pass.nicChecks_key check hCheck] at hMemory
  unfold Pass.countersAfter
  split_ifs
  · exact hNetwork
  · rw [forget, Dict.get?_filter, if_pos (by simp [hMemory]), hNetwork]

/-- The entries that belong to a source depend on its own outcome only. -/
theorem Pass.countersAfter_congr {pass : Pass F} {sections : Sections F} {source : Source}
    {failed others : List Source} (hFailed : gatherSections pass.sections.raised = .ok failed)
    (hOthers : gatherSections sections.raised = .ok others)
    (hAgree : Agree pass.sections sections source) (counters : Counters) {key : CounterKey}
    (hOwns : source.Owns key) :
    (pass.countersAfter failed counters).get? key =
      ({ pass with sections := sections }.countersAfter others counters).get? key := by
  rcases hOwns with ⟨rfl, hMemory⟩ | ⟨rfl, hNetwork⟩
  · rw [Pass.countersAfter_get?_memory _ _ _ hMemory, Pass.countersAfter_get?_memory _ _ _ hMemory]
    have hSame : pass.sections.memory = sections.memory := hAgree
    simp [Pass.memoryChecks, hSame]
  · have hSame : pass.sections.nics = sections.nics := hAgree
    have hTable : (pass.checked counters).2.2.get? key =
        ({ pass with sections := sections }.checked counters).2.2.get? key :=
      (pass.network_congr hSame fun _ _ => rfl).2 key hNetwork
    have hMem : Source.nics ∈ failed ↔ Source.nics ∈ others := by
      rw [mem_failed_iff hFailed, mem_failed_iff hOthers]
      simp [Sections.raised, hSame]
    by_cases hNics : Source.nics ∈ failed
    · simpa [Pass.countersAfter, hNics, hMem.mp hNics] using hTable
    · have hNics' : Source.nics ∉ others := fun h => hNics (hMem.mpr h)
      simp [Pass.countersAfter, hNics, hNics', forget, Dict.get?_filter, hSame, hTable]

/-- The message names the source. -/
theorem missing_injective : Function.Injective missing := by
  intro first second h
  cases first <;> cases second <;> first | rfl | exact absurd h (by decide)

theorem hostNetworkOff_ne_missing (source : Source) : hostNetworkOff ≠ missing source := by
  cases source <;> decide

theorem failed_nodup {sections : Sections F} {failed : List Source}
    (h : gatherSections sections.raised = .ok failed) : failed.Nodup := by
  rw [gatherSections_spec h]
  exact List.Nodup.sublist (List.filter_sublist.map _) (by simp [Sections.raised])

theorem warningsOf_source {answers : List (Check × Option String)} {source : String}
    (h : ∀ answer ∈ answers, answer.1.key.1 = source) :
    ∀ warning ∈ warningsOf answers, warning.source = source := by
  intro warning hWarning
  obtain ⟨⟨check, severity⟩, hMem, hMade⟩ := List.mem_filterMap.mp hWarning
  cases severity with
  | none => simp [Check.warning] at hMade
  | some severity =>
      simp only [Check.warning, Option.ite_none_right_eq_some, Option.some.injEq] at hMade
      rw [← hMade.2]
      exact h _ hMem

theorem runChecks_fst (window : Int) (clock : Clock) (checks : List Check) (counters : Counters) :
    (runChecks window clock checks counters).1.map Prod.fst = checks := by
  induction checks generalizing counters with
  | nil => rfl
  | cons check rest ih => simp [runChecks, ih]

theorem checked_key {window : Int} {clock : Clock} {checks : List Check} {counters : Counters}
    {source : String} (h : ∀ check ∈ checks, check.key.1 = source) :
    ∀ answer ∈ (runChecks window clock checks counters).1, answer.1.key.1 = source := by
  intro answer hAnswer
  apply h
  rw [← runChecks_fst window clock checks counters]
  exact List.mem_map_of_mem hAnswer

section

variable [PyFloat F]

/-- Only the code about the collection itself, and the dmesg collector, speak
for the dashboard. -/
theorem Pass.evaluate_source (pass : Pass F) (failed : List Source) (counters : Counters)
    {source : Source} (hSource : source ≠ .dmesg) :
    ∀ warning ∈ pass.evaluate failed counters source, warning.source ≠ "dashboard" := by
  intro warning hWarning
  cases source with
  | dmesg => exact absurd rfl hSource
  | smart =>
      obtain ⟨smart, _, hMem⟩ := List.mem_flatMap.mp hWarning
      simp [(smartWarnings_mem hMem).1]
  | sensors =>
      obtain ⟨sensor, _, hMem⟩ := List.mem_flatMap.mp hWarning
      unfold sensorWarnings at hMem
      split_ifs at hMem <;> simp_all
  | memory =>
      have hMemory := warningsOf_source (checked_key pass.memoryChecks_key) warning hWarning
      simp [hMemory]
  | nics =>
      have hNetwork := warningsOf_source (checked_key pass.nicChecks_key) warning hWarning
      simp [hNetwork]
  | diskUsage =>
      obtain ⟨usage, _, hMem⟩ := List.mem_flatMap.mp hWarning
      unfold diskWarnings at hMem
      split_ifs at hMem <;> simp_all
  | k8sCerts =>
      obtain ⟨cert, _, hMem⟩ := List.mem_flatMap.mp hWarning
      unfold k8sCertWarnings at hMem
      split_ifs at hMem <;> simp_all
  | talosCerts =>
      obtain ⟨cert, _, hMem⟩ := List.mem_flatMap.mp hWarning
      unfold talosCertWarnings at hMem
      split_ifs at hMem <;> simp_all
  | components =>
      obtain ⟨component, _, hMem⟩ := List.mem_flatMap.mp hWarning
      unfold etcdWarnings at hMem
      cases hEtcd : component.etcdStatus with
      | none => simp [hEtcd] at hMem
      | some etcd =>
          simp only [hEtcd] at hMem
          split_ifs at hMem <;> simp_all
  | k8sNode =>
      unfold Pass.evaluate at hWarning
      cases hNode : recordOf pass.sections.k8sNode with
      | none => simp [hNode] at hWarning
      | some node =>
          obtain ⟨cond, _, hMem⟩ := List.mem_flatMap.mp (by simpa [hNode] using hWarning)
          unfold conditionWarnings at hMem
          split_ifs at hMem <;> simp_all

theorem count_evaluate_eq_zero (pass : Pass F) (failed : List Source) (counters : Counters)
    {source : Source} (hSource : source ≠ .dmesg) (other : Source) :
    (pass.evaluate failed counters source).count (missing other) = 0 :=
  List.count_eq_zero.mpr fun hMem => pass.evaluate_source failed counters hSource _ hMem rfl

/-- How often the result says that a collector failed: once if it did, and as
often as the dmesg collector's own warnings say it. -/
theorem count_missing (pass : Pass F) {failed : List Source} {counters : Counters}
    {warnings : List (Origin × NodeWarning)}
    (hFailed : gatherSections pass.sections.raised = .ok failed)
    (hWarnings : (getWarnings pass counters).1 = .ok warnings) (source : Source) :
    (warnings.map Prod.snd).count (missing source) =
      (if source ∈ failed then 1 else 0) +
        (listOf pass.sections.dmesg).count (missing source) := by
  have hEvaluated : (evaluationOrder.flatMap (pass.evaluate failed counters)).count
      (missing source) = (listOf pass.sections.dmesg).count (missing source) := by
    have hOthers : ∀ other ≠ Source.dmesg,
        (pass.evaluate failed counters other).count (missing source) = 0 :=
      fun other hOther => count_evaluate_eq_zero pass failed counters hOther source
    simp only [evaluationOrder, List.flatMap_cons, List.flatMap_nil, List.count_append,
      List.count_nil]
    simp [hOthers]
    rfl
  have hDashboard : (pass.dashboardWarnings failed).count (missing source) =
      if source ∈ failed then 1 else 0 := by
    have hHost : (if pass.inHostNetwork = true then [] else [hostNetworkOff]).count
        (missing source) = 0 := by
      split_ifs <;> simp [hostNetworkOff_ne_missing]
    rw [Pass.dashboardWarnings, List.count_append, hHost,
      List.count_map_of_injective _ _ missing_injective]
    split_ifs with hMem
    · simpa using List.count_eq_one_of_mem (failed_nodup hFailed) hMem
    · simpa using List.count_eq_zero.mpr hMem
  rw [getWarnings_eq hFailed hWarnings, List.count_append, hEvaluated, hDashboard]

/-- The result says exactly once of a collector that raised that it could not be
collected, and never of one that returned, apart from the warnings that the
dmesg collector itself returned. -/
def ReportsFailures (sections : Sections F) (warnings : List (Origin × NodeWarning)) : Prop :=
  ∀ source,
    (sections.Failed source → (warnings.map Prod.snd).count (missing source) =
      1 + (listOf sections.dmesg).count (missing source)) ∧
    (¬sections.Failed source → (warnings.map Prod.snd).count (missing source) =
      (listOf sections.dmesg).count (missing source))

theorem reportsFailures (pass : Pass F) {failed : List Source} {counters : Counters}
    {warnings : List (Origin × NodeWarning)}
    (hFailed : gatherSections pass.sections.raised = .ok failed)
    (hWarnings : (getWarnings pass counters).1 = .ok warnings) :
    ReportsFailures pass.sections warnings := by
  intro source
  have hMem := mem_failed_iff hFailed source
  rw [count_missing pass hFailed hWarnings]
  constructor
  · intro hRaised
    rw [if_pos (hMem.mpr hRaised)]
  · intro hReturned
    rw [if_neg fun h => hReturned (hMem.mp h), Nat.zero_add]

/-- The tags tell the sources apart. -/
theorem generatedFrom_getWarnings (pass : Pass F) {failed : List Source} {counters : Counters}
    {warnings : List (Origin × NodeWarning)}
    (hFailed : gatherSections pass.sections.raised = .ok failed)
    (hWarnings : (getWarnings pass counters).1 = .ok warnings) (source : Source) :
    generatedFrom source warnings = pass.evaluate failed counters source := by
  simp only [getWarnings, hFailed, Except.ok.injEq] at hWarnings
  have hTagged : ∀ other : Source, ((pass.evaluate failed counters other).map
      (Origin.evaluated other, ·)).filter (fun tagged => decide (tagged.1 = .evaluated source)) =
      if other = source then (pass.evaluate failed counters source).map (Origin.evaluated source, ·)
      else [] := by
    intro other
    split_ifs with hOther <;> simp [List.filter_map, Function.comp_def, hOther]
  rw [generatedFrom, ← hWarnings, List.filter_append, List.filter_flatMap, List.filter_map]
  simp only [hTagged, Function.comp_def]
  cases source <;> simp [evaluationOrder, Function.comp_def]

/-- Two assignments that agree on a source: `get_warnings` raises for neither,
generates the same warnings from the source in the same order, and leaves the
same counters to it; and each run reports the collectors that failed in it. -/
theorem warningSources_independent (pass : Pass F) (sections : Sections F) (counters : Counters)
    (source : Source) (hFirst : pass.sections.OnlyExceptions)
    (hSecond : sections.OnlyExceptions) (hAgree : Agree pass.sections sections source) :
    ∃ first second, (getWarnings pass counters).1 = .ok first ∧
      (getWarnings { pass with sections := sections } counters).1 = .ok second ∧
      generatedFrom source first = generatedFrom source second ∧
      ReportsFailures pass.sections first ∧ ReportsFailures sections second ∧
      ∀ key, source.Owns key → (getWarnings pass counters).2.get? key =
        (getWarnings { pass with sections := sections } counters).2.get? key := by
  obtain ⟨failed, hFailed⟩ := gatherSections_ok hFirst
  obtain ⟨others, hOthers⟩ := gatherSections_ok hSecond
  have hPass : pass.Completed := ⟨failed, hFailed⟩
  obtain ⟨first, hWarnings⟩ := getWarnings_ok_iff.mpr hPass
  have hOther : Pass.Completed { pass with sections := sections } := ⟨others, hOthers⟩
  obtain ⟨second, hWarnings'⟩ := getWarnings_ok_iff.mpr hOther
  refine ⟨first, second, hWarnings, hWarnings', ?_, reportsFailures pass hFailed hWarnings,
    reportsFailures { pass with sections := sections } hOthers hWarnings', ?_⟩
  · rw [generatedFrom_getWarnings pass hFailed hWarnings,
      generatedFrom_getWarnings { pass with sections := sections } hOthers hWarnings']
    exact Pass.evaluate_congr hFailed hOthers hAgree counters
  · intro key hOwns
    have hSame := Pass.countersAfter_congr hFailed hOthers hAgree counters hOwns
    simpa [getWarnings, hFailed, hOthers] using hSame

end

theorem quiet_onlyExceptions : quiet.OnlyExceptions := by
  simp [Sections.OnlyExceptions, Sections.raised, raisedBy, quiet]

/-- One more failing collector makes no difference to the network counters. -/
theorem warningSources_failing_smart :
    ∃ first second, (getWarnings (quietPass 0) .empty).1 = .ok first ∧
      (getWarnings { quietPass 0 with
        sections := { quiet with smart := .error (.exception "boom") } } .empty).1 = .ok second ∧
      generatedFrom .nics first = generatedFrom .nics second ∧
      (second.map Prod.snd).count (missing .smart) = 1 := by
  have hSmart :
      ({ quiet with smart := .error (.exception "boom") } : Sections Int).OnlyExceptions := by
    simp [Sections.OnlyExceptions, Sections.raised, raisedBy, quiet]
  obtain ⟨first, second, hFirst, hSecond, hSame, _, hReports, _⟩ :=
    warningSources_independent (quietPass 0)
      { quiet with smart := .error (.exception "boom") } .empty
      .nics quiet_onlyExceptions hSmart rfl
  refine ⟨first, second, hFirst, hSecond, hSame, (hReports .smart).1 ⟨.exception "boom", ?_⟩⟩
  simp [Sections.raised, raisedBy]

/-- A warning that the dmesg collector returns can say of a collector that did
return that it could not be collected. -/
theorem not_reportsFailures_exactly : ¬∀ (pass : Pass Int) (counters : Counters),
    pass.sections.OnlyExceptions → ∃ warnings, (getWarnings pass counters).1 = .ok warnings ∧
      ∀ source, (pass.sections.Failed source →
          (warnings.map Prod.snd).count (missing source) = 1) ∧
        (¬pass.sections.Failed source → (warnings.map Prod.snd).count (missing source) = 0) := by
  intro hAll
  obtain ⟨warnings, hWarnings, hCount⟩ := hAll
    { quietPass 0 with sections := { quiet with dmesg := .ok [missing .smart] } } .empty
    (by simp [Sections.OnlyExceptions, Sections.raised, raisedBy, quiet])
  have hReturned :
      ¬({ quiet with dmesg := .ok [missing .smart] } : Sections Int).Failed .smart := by
    simp [Sections.Failed, Sections.raised, raisedBy, quiet]
  cases hWarnings
  exact absurd ((hCount .smart).2 hReturned) (by decide)

end NodeDebugDashboard.Routers
