import NodeDebugDashboard.Collectors.Dmesg
import NodeDebugDashboard.Collectors.Network
import NodeDebugDashboard.Collectors.Smart
import NodeDebugDashboard.Routers.Independence

/-! Sources that cannot be read: the kernel log, the list of disks, and the
interfaces. -/
namespace NodeDebugDashboard.Routers

open Library Library.Python Library.Text Models Collectors

section

variable {F : Type}

/-- Both ways to run `dmesg` end with an error. -/
def LogUnread (host : Host F) : Prop :=
  (∃ stdout stderr code, host.run ["dmesg", "--time-format", "iso"] = .ok (stdout, stderr, code) ∧
    code ≠ 0) ∧
  ∃ stdout stderr code, host.run ["dmesg"] = .ok (stdout, stderr, code) ∧ code ≠ 0

/-- `lsblk` ends with an error or is timed out, or prints no valid JSON. -/
def DisksUnread (host : Host F) : Prop :=
  ∃ stdout stderr code, host.run Storage.lsblkCommand = .ok (stdout, stderr, code) ∧
    (code ≠ 0 ∨ host.loads stdout = .error .decodeError)

/-- The interface directory cannot be listed. -/
def InterfacesUnread (host : Host F) : Prop :=
  ∃ error, host.listdir (host.sys ++ "/class/net/") = .error error

/-- The source could not be read on the host. -/
def Unread (host : Host F) : Source → Prop
  | .dmesg => LogUnread host
  | .smart => DisksUnread host
  | .nics => InterfacesUnread host
  | _ => False

section

variable [PyFloat F] [Unicode]

omit [PyFloat F] in
theorem collectDmesgWarnings_unread {host : Host F} (h : LogUnread host) :
    Dmesg.collectDmesgWarnings host = .ok [] := by
  obtain ⟨⟨_, _, isoCode, hIso, hIsoCode⟩, ⟨_, _, plainCode, hPlain, hPlainCode⟩⟩ := h
  simp [Dmesg.collectDmesgWarnings, hIso, hIsoCode, hPlain, hPlainCode, bind, Except.bind, pure,
    Except.pure]

theorem collectAllSmart_unread {host : Host F} (h : DisksUnread host) :
    Smart.collectAllSmart host = .ok [] := by
  have hDisks : Storage.collectDisks host = .ok [] := by
    obtain ⟨stdout, _, code, hRun, hUnread⟩ := h
    rw [Storage.collectDisks, hRun]
    show (if code ≠ 0 then _ else _) = _
    split_ifs with hCode
    · rfl
    · rw [hUnread.resolve_left hCode]
      rfl
  rw [Smart.collectAllSmart, Smart.candidates, hDisks]
  rfl

theorem collectNics_unread {host : Host F} (h : InterfacesUnread host) :
    Network.collectNics host = .ok [] := by
  obtain ⟨error, hError⟩ := h
  rw [Network.collectNics, hError]

/-- The three collectors of the pass ran on the host. -/
structure Pass.Observes (pass : Pass F) (host : Host F) : Prop where
  dmesg : pass.sections.dmesg = Dmesg.collectDmesgWarnings host
  smart : pass.sections.smart = Smart.collectAllSmart host
  nics : pass.sections.nics = Network.collectNics host

/-- A source that could not be read does not count as failed. -/
theorem Pass.Observes.unread_not_failed {pass : Pass F} {host : Host F} (h : pass.Observes host)
    {failed : List Source} (hFailed : gatherSections pass.sections.raised = .ok failed)
    {source : Source} (hUnread : Unread host source) : source ∉ failed := by
  rw [mem_failed_iff hFailed]
  rintro ⟨error, hError⟩
  cases source with
  | dmesg =>
      have hEmpty := h.dmesg.trans (collectDmesgWarnings_unread hUnread)
      simp [Sections.raised, raisedBy, hEmpty] at hError
  | smart =>
      have hEmpty := h.smart.trans (collectAllSmart_unread hUnread)
      simp [Sections.raised, raisedBy, hEmpty] at hError
  | nics =>
      have hEmpty := h.nics.trans (collectNics_unread hUnread)
      simp [Sections.raised, raisedBy, hEmpty] at hError
  | sensors | memory | diskUsage | k8sCerts | talosCerts | components | k8sNode => exact hUnread

/-- A warning that speaks for the dashboard is about a source that failed, or
about the host's network. -/
theorem Pass.Observes.dashboard {pass : Pass F} {host : Host F} (h : pass.Observes host)
    {counters : Counters} {failed : List Source}
    (hFailed : gatherSections pass.sections.raised = .ok failed)
    {warnings : List (Origin × NodeWarning)}
    (hWarnings : (getWarnings pass counters).1 = .ok warnings) {warning : NodeWarning}
    (hMem : warning ∈ warnings.map Prod.snd) (hSource : warning.source = "dashboard") :
    (∃ source ∈ failed, warning = missing source) ∨ warning = hostNetworkOff := by
  rw [getWarnings_eq hFailed hWarnings] at hMem
  rcases List.mem_append.mp hMem with hDashboard | hEvaluated
  · rcases List.mem_append.mp hDashboard with hMissing | hOff
    · obtain ⟨source, hFound, rfl⟩ := List.mem_map.mp hMissing
      exact .inl ⟨source, hFound, rfl⟩
    · split_ifs at hOff
      · simp at hOff
      · exact .inr (List.mem_singleton.mp hOff)
  · obtain ⟨source, _, hEvaluated⟩ := List.mem_flatMap.mp hEvaluated
    by_cases hDmesg : source = .dmesg
    · subst hDmesg
      rw [Pass.evaluate, h.dmesg] at hEvaluated
      cases hLog : Dmesg.collectDmesgWarnings host with
      | error error => simp [hLog, listOf] at hEvaluated
      | ok found =>
          rw [hLog] at hEvaluated
          have hRule := Dmesg.collectDmesgWarnings_source hLog warning hEvaluated
          rw [hSource] at hRule
          exact absurd hRule Dmesg.rules_source
    · exact absurd hSource (pass.evaluate_source failed counters hDmesg warning hEvaluated)

omit [Unicode] in
/-- Every source that could not be read has a warning that it is missing. -/
def ReportsUnread (host : Host F) (pass : Pass F) (counters : Counters) : Prop :=
  ∀ warnings, (getWarnings pass counters).1 = .ok warnings → ∀ source, Unread host source →
    ∃ warning ∈ warnings.map Prod.snd, warning.source = "dashboard" ∧
      warning.message = (missing source).message

omit [PyFloat F] [Unicode] in
theorem missing_message_injective {first second : Source}
    (h : (missing first).message = (missing second).message) : first = second :=
  missing_injective (by simp only [missing] at h ⊢; rw [h])

omit [PyFloat F] [Unicode] in
theorem missing_message_ne (source : Source) :
    hostNetworkOff.message ≠ (missing source).message := by
  cases source <;> decide

/-- No unread source is reported as missing: the list of a pass that returns
says so only when nothing was unread. -/
theorem reportsUnread_iff (host : Host F) (pass : Pass F) (counters : Counters)
    (h : pass.Observes host) :
    ReportsUnread host pass counters ↔
      (pass.sections.OnlyExceptions → ∀ source, ¬Unread host source) := by
  constructor
  · intro hReports hOnly source hUnread
    obtain ⟨failed, hFailed⟩ := gatherSections_ok hOnly
    obtain ⟨warnings, hWarnings⟩ := getWarnings_ok_iff.mpr (pass.completed_iff.mpr hOnly)
    obtain ⟨warning, hMem, hSource, hMessage⟩ := hReports warnings hWarnings source hUnread
    rcases h.dashboard hFailed hWarnings hMem hSource with ⟨other, hOther, rfl⟩ | rfl
    · rw [missing_message_injective hMessage] at hOther
      exact h.unread_not_failed hFailed hUnread hOther
    · exact missing_message_ne source hMessage
  · intro hRead warnings hWarnings source hUnread
    by_cases hOnly : pass.sections.OnlyExceptions
    · exact absurd hUnread (hRead hOnly source)
    · obtain ⟨error, hError⟩ := getWarnings_cancelled hOnly counters
      simp [hError] at hWarnings

end

end

def newYear2025 : DateTime := ⟨63871286400000000, 0, by decide⟩

/-- A node whose log is empty, and that has no disks and no interfaces, at the start of 2025. -/
def emptyHost : Host Int :=
  { unreadable with
    listdir := fun _ => .ok []
    now := fun _ => newYear2025
    run := fun cmd =>
      if cmd = Storage.lsblkCommand then .ok ("\x7b\"blockdevices\": []\x7d", "", 0)
        else .ok ("", "", 0)
    loads := fun text =>
      if text = "\x7b\"blockdevices\": []\x7d" then .ok (.obj [("blockdevices", .arr [])])
      else .error .decodeError }

section

attribute [local instance] Unicode.ascii

/-- The pass whose three collectors run on the host. -/
def passOn (host : Host Int) : Pass Int :=
  { quietPass 0 with
    sections := { quiet with
      dmesg := Dmesg.collectDmesgWarnings host
      smart := Smart.collectAllSmart host
      nics := Network.collectNics host } }

theorem collect_emptyHost :
    Dmesg.collectDmesgWarnings emptyHost = .ok [] ∧ Smart.collectAllSmart emptyHost = .ok [] ∧
      Network.collectNics emptyHost = .ok [] :=
  ⟨rfl, rfl, rfl⟩

/-- Where everything can be read, nothing has to be said. -/
theorem reportsUnread_empty_host :
    (∃ warnings, (getWarnings (passOn emptyHost) .empty).1 = .ok warnings) ∧
      ReportsUnread emptyHost (passOn emptyHost) .empty := by
  have hOnly : (passOn emptyHost).sections.OnlyExceptions := by
    obtain ⟨hDmesg, hSmart, hNics⟩ := collect_emptyHost
    simp [passOn, quietPass, quiet, Sections.OnlyExceptions, Sections.raised, raisedBy, hDmesg,
      hSmart, hNics]
  refine ⟨getWarnings_ok_iff.mpr ((passOn emptyHost).completed_iff.mpr hOnly), ?_⟩
  apply (reportsUnread_iff emptyHost (passOn emptyHost) .empty ⟨rfl, rfl, rfl⟩).mpr
  intro _ source hUnread
  cases source with
  | dmesg =>
      obtain ⟨⟨_, _, _, hRun, hCode⟩, _⟩ := hUnread
      cases hRun
      exact hCode rfl
  | smart =>
      obtain ⟨_, _, _, hRun, hUnread⟩ := hUnread
      cases hRun
      rcases hUnread with hCode | hLoads
      · exact hCode rfl
      · cases hLoads
  | nics =>
      obtain ⟨_, hError⟩ := hUnread
      cases hError
  | sensors | memory | diskUsage | k8sCerts | talosCerts | components | k8sNode => exact hUnread

/-- Where nothing can be read, nothing is said. -/
theorem not_reportsUnread : ¬∀ (host : Host Int) (pass : Pass Int), pass.Observes host →
    ReportsUnread host pass .empty := by
  intro hAll
  have hLog : LogUnread (unreadable : Host Int) :=
    ⟨⟨_, _, _, rfl, by decide⟩, ⟨_, _, _, rfl, by decide⟩⟩
  obtain ⟨_, hMem, _⟩ := hAll unreadable (passOn unreadable) ⟨rfl, rfl, rfl⟩ [] rfl .dmesg hLog
  simp at hMem

end

end NodeDebugDashboard.Routers
