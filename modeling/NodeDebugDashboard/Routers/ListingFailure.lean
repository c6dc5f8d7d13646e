import NodeDebugDashboard.Collectors.Network
import NodeDebugDashboard.Routers.CounterHistory
import NodeDebugDashboard.Routers.Independence

/-! Passes during which the interface directory cannot be listed, and what
later passes still know of the network counters. -/
namespace NodeDebugDashboard.Routers

open Library Library.Python Library.Text Models Collectors

variable {F : Type}

/-- The tables have the same network entries. -/
def AgreeOnNetwork (first second : Counters) : Prop :=
  ∀ key : CounterKey, key.1 = "network" → first.get? key = second.get? key

/-- One more pass keeps the agreement. -/
theorem Pass.agreeOnNetwork [PyFloat F] (pass : Pass F) {first second : Counters}
    (h : AgreeOnNetwork first second) :
    AgreeOnNetwork (getWarnings pass first).2 (getWarnings pass second).2 := by
  intro key hNetwork
  have hChecked : (pass.checked first).2.2.get? key = (pass.checked second).2.2.get? key :=
    (pass.network_congr rfl h).2 key hNetwork
  cases hFailed : gatherSections pass.sections.raised with
  | error error => simpa [getWarnings, hFailed] using h key hNetwork
  | ok failed =>
      simp only [getWarnings, hFailed, Pass.countersAfter]
      split_ifs with hNics
      · exact hChecked
      · rw [forget, forget, Dict.get?_filter, Dict.get?_filter, hChecked]

theorem runPasses_agreeOnNetwork [PyFloat F] (passes : List (Pass F)) {first second : Counters}
    (h : AgreeOnNetwork first second) :
    AgreeOnNetwork (runPasses first passes) (runPasses second passes) := by
  induction passes using List.reverseRecOn with
  | nil => exact h
  | append_singleton passes last ih =>
      rw [runPasses_append_singleton, runPasses_append_singleton]
      exact last.agreeOnNetwork ih

/-- The memory checks answer nothing about a network counter. -/
theorem Pass.answer?_network (pass : Pass F) (counters : Counters) {key : CounterKey}
    (hNetwork : key.1 = "network") :
    pass.answer? counters key = (pass.checked counters).2.1.find? fun answer =>
      answer.1.key = key := by
  have hMemory : (pass.checked counters).1.find? (fun answer => answer.1.key = key) = none := by
    rw [List.find?_eq_none]
    intro answer hAnswer hKey
    have hSource := checked_key pass.memoryChecks_key answer hAnswer
    rw [of_decide_eq_true hKey, hNetwork] at hSource
    exact absurd hSource (by decide)
  rw [Pass.answer?, List.find?_append, hMemory, Option.none_or]

theorem Pass.answer?_congr (pass : Pass F) {first second : Counters}
    (h : AgreeOnNetwork first second) {key : CounterKey} (hNetwork : key.1 = "network") :
    pass.answer? first key = pass.answer? second key := by
  have hAnswers : (pass.checked first).2.1 = (pass.checked second).2.1 :=
    (pass.network_congr rfl h).1
  rw [pass.answer?_network first hNetwork, pass.answer?_network second hNetwork, hAnswers]

/-- The pass leaves the network entries as they are, and every continuation
answers about the network counters as if the pass had not happened. -/
def HistoryKept [PyFloat F] (counters : Counters) (pass : Pass F) : Prop :=
  AgreeOnNetwork (getWarnings pass counters).2 counters ∧
    ∀ (later : List (Pass F)) (last : Pass F) (key : CounterKey), key.1 = "network" →
      last.answer? (runPasses (getWarnings pass counters).2 later) key =
        last.answer? (runPasses counters later) key

theorem historyKept_of_agreeOnNetwork [PyFloat F] {counters : Counters} {pass : Pass F}
    (h : AgreeOnNetwork (getWarnings pass counters).2 counters) : HistoryKept counters pass :=
  ⟨h, fun later last _ hNetwork => last.answer?_congr (runPasses_agreeOnNetwork later h) hNetwork⟩

/-- An interface directory that is not listed looks like one without
interfaces, so all of them are forgotten. -/
theorem Pass.get?_unlisted [PyFloat F] [Unicode] {pass : Pass F} {host : Host F} {error : String}
    (hNics : pass.sections.nics = Network.collectNics host)
    (hUnlisted : host.listdir (host.sys ++ "/class/net/") = .error error)
    (hCompleted : pass.Completed) (counters : Counters) {key : CounterKey}
    (hNetwork : key.1 = "network") : (getWarnings pass counters).2.get? key = none := by
  obtain ⟨failed, hFailed⟩ := hCompleted
  have hEmpty : pass.sections.nics = .ok [] := by
    rw [hNics, Network.collectNics, hUnlisted]
  have hForgets : pass.Forgets key := ⟨hNetwork, [], hEmpty, by simp⟩
  have hGone := (pass.countersAfter_get? hFailed counters key).1 hForgets
  simpa [getWarnings, hFailed] using hGone

/-- Over any reachable table, a pass whose interface directory is not listed
keeps the history exactly when it is cancelled or there is none to lose. -/
theorem historyKept_iff_nothing_to_lose [PyFloat F] [Unicode] (before : List (Pass F))
    (pass : Pass F) (host : Host F) (error : String)
    (hNics : pass.sections.nics = Network.collectNics host)
    (hUnlisted : host.listdir (host.sys ++ "/class/net/") = .error error) :
    HistoryKept (runPasses .empty before) pass ↔ ¬pass.sections.OnlyExceptions ∨
      ∀ key : CounterKey, key.1 = "network" → (runPasses .empty before).get? key = none := by
  rw [← pass.completed_iff]
  constructor
  · rintro ⟨hSame, _⟩
    by_cases hCompleted : pass.Completed
    · right
      intro key hNetwork
      rw [← hSame key hNetwork]
      exact pass.get?_unlisted hNics hUnlisted hCompleted _ hNetwork
    · exact .inl hCompleted
  · intro hEither
    apply historyKept_of_agreeOnNetwork
    intro key hNetwork
    by_cases hCompleted : pass.Completed
    · have hNothing := hEither.resolve_left (not_not.mpr hCompleted) key hNetwork
      rw [pass.get?_unlisted hNics hUnlisted hCompleted _ hNetwork, hNothing]
    · obtain ⟨error, hError⟩ :=
        getWarnings_cancelled (fun h => hCompleted (pass.completed_iff.mpr h))
        (runPasses .empty before)
      rw [hError]

section

attribute [local instance] Unicode.ascii

/-- Before the first interface is seen there is no history to lose. -/
theorem historyKept_first_pass :
    HistoryKept (runPasses .empty ([] : List (Pass Int)))
      (nicPass (Network.collectNics (unreadable : Host Int)) 1000) :=
  (historyKept_iff_nothing_to_lose [] _ unreadable _ rfl rfl).mpr (.inr fun _ _ => rfl)

/-- With `eth0` in the table, one pass that cannot list the interfaces makes
the next increase look like an old event. -/
theorem not_historyKept :
    ¬∀ (before : List (Pass Int)) (pass : Pass Int) (host : Host Int) (error : String),
      pass.sections.nics = Network.collectNics host →
      host.listdir (host.sys ++ "/class/net/") = .error error →
      HistoryKept (runPasses .empty before) pass := by
  intro hAll
  have hKept := hAll [nicPass (.ok [{ name := "eth0", rxCrcErrors := 3 }]) 1000]
    (nicPass (Network.collectNics (unreadable : Host Int)) 1010) unreadable _ rfl rfl
  have hSame := hKept.2 [] (nicPass (.ok [{ name := "eth0", rxCrcErrors := 5 }]) 1020)
    ("network", "eth0", "crc") rfl
  exact absurd (congrArg (Option.map Prod.snd) hSame) (by decide +kernel)

end

end NodeDebugDashboard.Routers
