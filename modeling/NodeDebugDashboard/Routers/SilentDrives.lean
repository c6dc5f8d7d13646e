import NodeDebugDashboard.Collectors.Smart
import NodeDebugDashboard.Routers.Independence

/-! From `smartctl` to the warnings: no drive fails without being seen. -/
namespace NodeDebugDashboard.Routers

open Library Library.Python Library.Text Models Collectors Collectors.Smart

theorem smartWarnings_of_alarming {report : SmartHealth} (h : Alarming report) :
    ∃ warning, warning ∈ smartWarnings report := by
  unfold smartWarnings
  rcases h with hFailed | ⟨error, hError, hText, hAwake⟩ | hIssues
  · exact ⟨⟨"critical", "smart", "SMART health FAILED", some report.device⟩, by simp [hFailed]⟩
  · refine ⟨⟨"warning", "smart", "SMART not readable: " ++ error, some report.device⟩, ?_⟩
    simp [hError, hText, hAwake]
  · obtain ⟨issue, rest, hList⟩ := List.exists_cons_of_ne_nil hIssues
    refine ⟨⟨if issue ∈ criticalSmartIssues then "critical" else "warning", "smart", issue,
      some report.device⟩, ?_⟩
    simp [hList]

section

variable {F : Type} [PyFloat F]

/-- What was generated from a source is returned. -/
theorem mem_of_generatedFrom {source : Source} {warnings : List (Origin × NodeWarning)}
    {warning : NodeWarning} (h : warning ∈ generatedFrom source warnings) :
    warning ∈ warnings.map Prod.snd := by
  obtain ⟨tagged, hTagged, rfl⟩ := List.mem_map.mp h
  exact List.mem_map_of_mem (List.mem_filter.mp hTagged).1

theorem smart_warned {pass : Pass F} {counters : Counters} {reports : List SmartHealth}
    (hSmart : pass.sections.smart = .ok reports) {report : SmartHealth} (hReport : report ∈ reports)
    (hAlarming : Alarming report) {warnings : List (Origin × NodeWarning)}
    (hWarnings : (getWarnings pass counters).1 = .ok warnings) :
    ∃ warning ∈ warnings.map Prod.snd, warning.source = "smart" ∧
      warning.device = some report.device := by
  obtain ⟨warning, hWarning⟩ := smartWarnings_of_alarming hAlarming
  obtain ⟨failed, hFailed⟩ := getWarnings_ok_iff.mp ⟨warnings, hWarnings⟩
  have hGenerated : warning ∈ generatedFrom .smart warnings := by
    rw [generatedFrom_getWarnings pass hFailed hWarnings, Pass.evaluate, hSmart]
    exact List.mem_flatMap.mpr ⟨report, hReport, hWarning⟩
  exact ⟨warning, mem_of_generatedFrom hGenerated, smartWarnings_mem hWarning⟩

variable [Unicode]

/-- `collect_all_smart` reports once on each candidate, in order, and each report
is about a sleeping drive, about one whose output shows nothing wrong, or gives
rise to a warning that names the drive: `get_warnings` returns its list unless a
collector is cancelled. -/
theorem noSilentDrive (host : Host F) (devices : List String) (pass : Pass F) (counters : Counters)
    (hDevices : candidates host = .ok devices)
    (hExist : ∀ device ∈ devices, host.pathExists device = true)
    (hVisible : ∀ device ∈ devices, VisibleOutput host device)
    (hSmart : pass.sections.smart = collectAllSmart host) :
    ∃ reports, collectAllSmart host = .ok reports ∧
      reports.map SmartHealth.device = devices ∧
      (pass.sections.OnlyExceptions → ∃ warnings, (getWarnings pass counters).1 = .ok warnings) ∧
      ∀ report ∈ reports,
        report.standby = true ∨ RanQuietly host report.device ∨
          ∀ warnings, (getWarnings pass counters).1 = .ok warnings →
            ∃ warning ∈ warnings.map Prod.snd, warning.source = "smart" ∧
              warning.device = some report.device := by
  obtain ⟨reports, hReports, hNames, hKinds⟩ :=
    collectAllSmart_surfaces hDevices hExist hVisible
  have hAnswers :
      pass.sections.OnlyExceptions → ∃ warnings, (getWarnings pass counters).1 = .ok warnings :=
    fun hOnly => getWarnings_ok_iff.mpr (pass.completed_iff.mpr hOnly)
  refine ⟨reports, hReports, hNames, hAnswers, fun report hReport => ?_⟩
  rcases hKinds report hReport with hStandby | hQuiet | hAlarming
  · exact .inl hStandby
  · exact .inr (.inl hQuiet)
  · exact .inr (.inr fun warnings hWarnings =>
      smart_warned (hSmart.trans hReports) hReport hAlarming hWarnings)

end

/-- What `lsblk` prints for one drive. -/
def oneDrive : String :=
  "\x7b\"blockdevices\": [\x7b\"name\": \"sda\", \"size\": \"1T\", \"type\": \"disk\"\x7d]\x7d"

/-- A node with one drive, on which `smartctl` hangs. -/
def hangingHost : Host Int :=
  { unreadable with
    pathExists := fun path => path = "/dev/sda"
    run := fun cmd =>
      if cmd = Storage.lsblkCommand then .ok (oneDrive, "", 0)
      else .ok ("", "Command timed out: " ++ " ".intercalate cmd, -1)
    loads := fun text =>
      if text = oneDrive then
        .ok (.obj [("blockdevices", .arr [.obj [("name", .str "sda"), ("size", .str "1T"),
          ("type", .str "disk")]])])
      else .error .decodeError }

section

attribute [local instance] Unicode.ascii

/-- Every other collector has nothing to say. -/
def hangingPass : Pass Int :=
  { quietPass 0 with sections := { quiet with smart := collectAllSmart hangingHost } }

/-- The drive that hangs is reported, and warned about. -/
theorem noSilentDrive_hanging :
    ∃ reports warnings, collectAllSmart hangingHost = .ok reports ∧
      (getWarnings hangingPass .empty).1 = .ok warnings ∧
      reports.map SmartHealth.device = ["/dev/sda"] ∧
      ∀ report ∈ reports, report.standby = true ∨ RanQuietly hangingHost report.device ∨
        ∃ warning ∈ warnings.map Prod.snd, warning.source = "smart" ∧
        warning.device = some report.device := by
  have hVisible : ∀ device ∈ ["/dev/sda"], VisibleOutput hangingHost device := by
    intro device hDevice stdout stderr rc json hRun hLoads
    rw [List.mem_singleton] at hDevice
    subst hDevice
    cases hRun
    cases hLoads
  obtain ⟨reports, hReports, hNames, hAnswers, hSeen⟩ :=
    noSilentDrive hangingHost ["/dev/sda"] hangingPass .empty rfl (by decide) hVisible rfl
  have hOnly : hangingPass.sections.OnlyExceptions := by
    simp [hangingPass, quietPass, quiet, Sections.OnlyExceptions, Sections.raised,
      raisedBy, hReports]
  obtain ⟨warnings, hWarnings⟩ := hAnswers hOnly
  refine ⟨reports, warnings, hReports, hWarnings, hNames, fun report hReport => ?_⟩
  rcases hSeen report hReport with hStandby | hQuiet | hWarned
  · exact .inl hStandby
  · exact .inr (.inl hQuiet)
  · exact .inr (.inr (hWarned warnings hWarnings))

end

end NodeDebugDashboard.Routers
