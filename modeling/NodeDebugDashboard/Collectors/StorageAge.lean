import NodeDebugDashboard.Collectors.StorageTasks
import NodeDebugDashboard.Collectors.TaskRules

/-! How old the commands are that a storage overview was made from: each of the caches
between them and the overview adds its time to live. -/
namespace NodeDebugDashboard.Collectors.StorageTasks

open Library Library.Async Library.Python Library.Text Models Mountinfo Tasks

/-- How long the execution took. -/
def took {V : Type} (result : Stamped V) : ℚ := result.ended - result.began

/-- Commands that finished less than this many seconds before. -/
def Within (limit now : ℚ) (times : List ℚ) : Prop := ∀ finished ∈ times, now < finished + limit

/-- Commands of an execution. -/
def During (began now : ℚ) (times : List ℚ) : Prop :=
  ∀ finished ∈ times, began ≤ finished ∧ finished ≤ now

/-- An execution has taken over the result of another one, right after it or out of its
cache. -/
structure Taken {V : Type} (Stored : ℚ → ℚ → V → Prop) (began now : ℚ)
    (part : Stamped V) : Prop where
  stored : Stored part.began part.ended part.value
  ended_le : part.ended ≤ now
  fresh : began < part.ended + 300

def Disks.Stored (began ended : ℚ) (disks : Disks) : Prop := During began ended [disks.lsblk]

def Usages.Stored (began ended : ℚ) (usages : Usages) : Prop := During began ended usages.df

structure Sweep.Stored (began ended : ℚ) (sweep : Sweep) : Prop where
  smartctl : During began ended sweep.smartctl
  disks : Taken Disks.Stored began ended sweep.disks

structure Overview.Stored (began ended : ℚ) (all : Overview) : Prop where
  overview : all.overview = {
    disks := all.disks.value.disks
    smart := all.smart.value.reports
    usage := all.usage.value.usages }
  disks : Taken Disks.Stored began ended all.disks
  smart : Taken Sweep.Stored began ended all.smart
  usage : Taken Usages.Stored began ended all.usage

/-- Where the commands of a result lie: in the execution that it comes from, or in one
whose result this execution has taken over. -/
def Fn.Stored : (f : Fn) → (began ended : ℚ) → f.Val → Prop
  | .disks => Disks.Stored
  | .smart => Sweep.Stored
  | .usage => Usages.Stored
  | .storage => Overview.Stored

abbrev contract (F : Type) : Contract (signature F) where
  ttl _ _ := 300
  Stored := Fn.Stored
  Rely _ now moment := moment.time = now

theorem During.later {began now later : ℚ} {times : List ℚ} (h : During began now times)
    (hTime : now ≤ later) :
    During began later times :=
  fun finished hMem => ⟨(h finished hMem).1, (h finished hMem).2.trans hTime⟩

theorem During.singleton {began now : ℚ} (h : began ≤ now) : During began now [now] := by
  intro finished hMem
  cases List.mem_singleton.mp hMem
  exact ⟨h, le_rfl⟩

theorem Taken.later {V : Type} {Stored : ℚ → ℚ → V → Prop} {began now later : ℚ} {part : Stamped V}
    (h : Taken Stored began now part) (hTime : now ≤ later) : Taken Stored began later part :=
  { h with ended_le := h.ended_le.trans hTime }

section Programs

variable {F : Type}

theorem taken_of_returned {f : Fn} {began now : ℚ} {result : Stamped f.Val} (hBegan : began ≤ now)
    (h : (contract F).Returned f now result) : Taken f.Stored began now result where
  stored := h.stored
  ended_le := h.ended_le
  fresh := by
    rcases h.kept with hNow | hKept
    · linarith
    · exact hBegan.trans_lt hKept

theorem ensures_call (f : Fn) {began now : ℚ} (hBegan : began ≤ now) :
    (contract F).Ensures (call f) (fun result later => Taken f.Stored began later result) now := by
  intro called result hCalled hResult later hLater
  exact (taken_of_returned (hBegan.trans hCalled) hResult).later hLater

/-- The node answers when it is asked. -/
theorem ensures_ask {r : Kind} {Post : r.Val → ℚ → Prop} {effect : Effect} {now : ℚ}
    {next : Moment F → Program (signature F) r}
    (hNext : ∀ later host, now ≤ later → (contract F).Ensures (next ⟨host, later⟩) Post later) :
    (contract F).Ensures (.ask effect next) Post now := by
  refine ⟨trivial, fun later moment hLater hTime => ?_⟩
  obtain ⟨host, time⟩ := moment
  cases hTime
  exact hNext time host hLater

theorem ensures_readMounts {r : Kind} {Post : r.Val → ℚ → Prop} {path : String} {now : ℚ}
    {next : List Mount → Program (signature F) r}
    (hNext : ∀ later mounts, now ≤ later → (contract F).Ensures (next mounts) Post later) :
    (contract F).Ensures (readMounts path next) Post now := by
  refine ensures_ask fun later host hLater => ?_
  split
  · next mounts _ => exact hNext later mounts hLater
  · trivial

theorem ensures_df {r : Kind} {Post : r.Val → ℚ → Prop} {root : String} {mounts : List Mount}
    {began now : ℚ} {next : Usages → Program (signature F) r} (hBegan : began ≤ now)
    (hNext : ∀ later usages, now ≤ later → During began later usages.df →
      (contract F).Ensures (next usages) Post later) :
    (contract F).Ensures (df root mounts next) Post now := by
  unfold df
  split_ifs
  · exact hNext now _ le_rfl (by simp [During])
  · refine ensures_ask fun later host hLater => ?_
    split
    · exact hNext later _ hLater (.singleton (hBegan.trans hLater))
    · trivial

theorem ensures_collectDiskUsage (hostProc : String) (began : ℚ) :
    (contract F).Ensures (collectDiskUsage hostProc)
      (fun usages ended => Usages.Stored began ended usages) began := by
  refine ensures_readMounts fun first mounts hFirst =>
    ensures_df hFirst fun second seen hSecond hSeen => ?_
  split_ifs
  · exact fun ended hEnded => hSeen.later hEnded
  · refine ensures_readMounts fun third mounts hThird => ?_
    refine ensures_df
      (hFirst.trans (hSecond.trans hThird)) fun fourth own hFourth hOwn ended hEnded => ?_
    intro finished hMem
    rcases List.mem_append.mp hMem with hMem | hMem
    · exact hSeen.later (hThird.trans (hFourth.trans hEnded)) finished hMem
    · exact hOwn.later hEnded finished hMem

theorem ensures_collectStorage (began : ℚ) :
    (contract F).Ensures (collectStorage (F := F))
      (fun all ended => Overview.Stored began ended all) began := by
  refine ⟨fun i result later => Taken (parts i).Stored began later result,
    fun i => ensures_call (parts i) le_rfl, ?_⟩
  intro later results hLater _ hResults ended hEnded
  exact ⟨rfl, (hResults 0).later hEnded, (hResults 1).later hEnded, (hResults 2).later hEnded⟩

variable [PyFloat F]

theorem ensures_collectDisks (began : ℚ) :
    (contract F).Ensures (collectDisks (F := F))
      (fun disks ended => Disks.Stored began ended disks) began := by
  refine ensures_ask fun later host hLater => ?_
  split
  · exact fun ended hEnded => (During.singleton hLater).later hEnded
  · trivial

variable [Unicode]

omit [PyFloat F] [Unicode] in
theorem ensures_unasked (outcome : Outcome (Option SmartHealth)) (began now : ℚ) :
    (contract F).Ensures (.done (S := signature F) (r := Kind.report) ⟨outcome, none⟩)
      (fun report later => During began later report.smartctl.toList) now :=
  fun later _ => by simp [During]

theorem ensures_smartOf (devPath : String) (began : ℚ) :
    (contract F).Ensures (smartOf (F := F) devPath)
      (fun report now => During began now report.smartctl.toList) began := by
  refine ensures_ask fun first host hFirst => ?_
  split_ifs
  · refine ensures_ask fun second host hSecond => ?_
    split
    · exact ensures_unasked _ began second
    · exact ensures_unasked _ began second
    · refine ensures_ask fun third host hThird ended hEnded => ?_
      exact (During.singleton (hFirst.trans (hSecond.trans hThird))).later hEnded
  · exact ensures_unasked _ began first

theorem ensures_collectAllSmart (began : ℚ) :
    (contract F).Ensures (collectAllSmart (F := F))
      (fun sweep ended => Sweep.Stored began ended sweep) began := by
  intro called disks hCalled hDisks
  have hTaken : Taken Disks.Stored began called disks := taken_of_returned hCalled hDisks
  refine ensures_ask fun asked host hAsked => ?_
  split
  · trivial
  · next devices _ =>
    refine ⟨fun _ report now => During began now report.smartctl.toList, fun i => ?_, ?_⟩
    · exact (ensures_smartOf _ began).later (hCalled.trans hAsked)
    · intro joined reports hJoined _ hReports ended hEnded
      refine ⟨fun finished hMem => ?_, hTaken.later (hAsked.trans (hJoined.trans hEnded))⟩
      obtain ⟨i, _, hFinished⟩ := List.mem_filterMap.mp hMem
      exact (hReports i).later hEnded finished (by simp [hFinished])

theorem meets (hostProc : String) :
    Meets (system F hostProc) (contract F) (fun _ => True) where
  ttl _ _ := rfl
  body f began := by
    cases f with
    | disks => exact ensures_collectDisks began
    | smart => exact ensures_collectAllSmart began
    | usage => exact ensures_collectDiskUsage hostProc began
    | storage => exact ensures_collectStorage began
  entry f now := (ensures_call f le_rfl).mono fun _ _ _ _ => trivial
  handle _ _ _ _ _ _ := ⟨rfl, trivial⟩

end Programs

theorem During.within {began ended now limit : ℚ} {times : List ℚ} (h : During began ended times)
    (hLate : now < began + limit) : Within limit now times := by
  intro finished hMem
  have hBegan := (h finished hMem).1
  linarith

theorem Taken.began_lt {V : Type} {Stored : ℚ → ℚ → V → Prop} {began now : ℚ} {part : Stamped V}
    (h : Taken Stored began now part) : began < part.began + (300 + took part) := by
  have hFresh := h.fresh
  unfold took
  linarith

section Runs

variable {F : Type} [PyFloat F] [Unicode]

/-- In every run: the commands behind an overview finished less than two times to live,
or three for the disks that SMART was asked about, before it is returned, and what the
executions took on top of it. -/
theorem storageAge (hostProc : String) {clock : ℚ} {actions : List (Tasks.Action (Host F) Fn)}
    {s : Tasks.State (signature F) Unit} {result : Stamped Overview} {now : ℚ}
    (h : Runs (Tasks.step (system F hostProc)) (.initial clock ()) actions s)
    (hReturned : ⟨.storage, result, now⟩ ∈ s.shared.returned) :
    let all := result.value
    all.overview = {
      disks := all.disks.value.disks
      smart := all.smart.value.reports
      usage := all.usage.value.usages } ∧
    Within (600 + took result + took all.disks) now [all.disks.value.lsblk] ∧
    Within (600 + took result + took all.smart) now all.smart.value.smartctl ∧
    Within (900 + took result + took all.smart + took all.smart.value.disks) now
      [all.smart.value.disks.value.lsblk] ∧
    Within (600 + took result + took all.usage) now all.usage.value.df := by
  intro all
  have inv := invariant_of_joins (meets hostProc) (fun _ _ _ => trivial) trivial h
  obtain ⟨hStored, _, _, hKept⟩ := inv.sound.returned _ hReturned
  obtain ⟨hOverview, hDisks, hSmart, hUsage⟩ : Overview.Stored result.began result.ended all :=
    hStored
  have hNow : now < result.began + (300 + took result) := by
    have hEnded : now < result.ended + 300 := by
      rcases hKept with hSame | hBefore
      · exact hSame ▸ by linarith
      · exact hBefore
    unfold took
    linarith
  have hDisksBegan := hDisks.began_lt
  have hSmartBegan := hSmart.began_lt
  have hSweptBegan := hSmart.stored.disks.began_lt
  have hUsageBegan := hUsage.began_lt
  refine ⟨hOverview, hDisks.stored.within ?_, hSmart.stored.smartctl.within ?_,
    hSmart.stored.disks.stored.within ?_, hUsage.stored.within ?_⟩
  · linarith
  · linarith
  · linarith
  · linarith

end Runs

section

attribute [local instance] Unicode.ascii

/-- A node of which `lsblk` shows one disk. -/
def oneDisk : Host Int :=
  { unreadable with
    run := fun _ => .ok ("", "", 0)
    loads := fun _ =>
      .ok (.obj [("blockdevices", .arr [.obj [("name", .str "sda"), ("type", .str "disk")]])]) }

/-- One execution of `collect_disks`, 299 seconds later one of `collect_storage`, and 299
seconds later a call that hits. The disk is gone by then. -/
def unpluggedRun : List (Tasks.Action (Host Int) Fn) :=
  [.begin .disks, .act 0 [] (.arrive 0 0 0), .act 0 [] (.ask oneDisk 0), .act 0 [] (.leave 0),
    .begin .storage, .act 1 [] (.arrive 299 299 299), .act 1 [] .spawn,
    .act 1 [0] (.arrive 299 299 299),
    .act 1 [1] (.arrive 299 299 299), .act 1 [1] (.arrive 299 299 299),
    .act 1 [1] (.ask unreadable 299), .act 1 [1] .spawn, .act 1 [1, 0] (.ask unreadable 299),
    .act 1 [1] .join, .act 1 [1] (.leave 299), .act 1 [2] (.arrive 299 299 299),
    .act 1 [2] (.ask unreadable 299), .act 1 [2] (.ask unreadable 299), .act 1 [2] (.leave 299),
    .act 1 [] .join, .act 1 [] (.leave 299), .begin .storage, .act 2 [] (.arrive 598 598 598)]

/-- The times at which overviews were returned, with those of `lsblk` and what it showed. -/
def overviews (s : Tasks.State (signature Int) Unit) : List (ℚ × ℚ × List String) :=
  s.shared.returned.filterMap fun
    | ⟨.storage, result, now⟩ =>
        some (now, result.value.disks.value.lsblk, result.value.overview.disks.map DiskInfo.name)
    | _ => none

theorem execute_unpluggedRun :
    (execute (Tasks.step (system Int "/host-proc")) (.initial 0 ()) unpluggedRun).map overviews =
      some [(299, 0, ["sda"]), (598, 0, ["sda"])] := by
  decide +kernel

/-- The second overview tells of an `lsblk` that is 598 seconds old. -/
theorem returned_unplugged : ∃ (s : Tasks.State (signature Int) Unit) (result : Stamped Overview),
    Runs (Tasks.step (system Int "/host-proc")) (.initial 0 ()) unpluggedRun s ∧
      (⟨.storage, result, 598⟩ : Tasks.Return (signature Int)) ∈ s.shared.returned ∧
        result.value.disks.value.lsblk = 0 := by
  obtain ⟨s, hExecute, hOverviews⟩ := Option.map_eq_some_iff.mp execute_unpluggedRun
  have hSecond : (598, 0, ["sda"]) ∈ overviews s := by simp [hOverviews]
  obtain ⟨⟨f, result, now⟩, hReturned, hResult⟩ := List.mem_filterMap.mp hSecond
  cases f with
  | storage =>
      simp only [Option.some.injEq, Prod.mk.injEq] at hResult
      obtain ⟨rfl, hLsblk, _⟩ := hResult
      exact ⟨s, result, runs_of_execute hExecute, hReturned, hLsblk⟩
  | _ => cases hResult

theorem storageAge_unplugged : ∃ (s : Tasks.State (signature Int) Unit) (result : Stamped Overview),
    Runs (Tasks.step (system Int "/host-proc")) (.initial 0 ()) unpluggedRun s ∧
      (⟨.storage, result, 598⟩ : Tasks.Return (signature Int)) ∈ s.shared.returned ∧
        Within (600 + took result + took result.value.disks) 598
          [result.value.disks.value.lsblk] := by
  obtain ⟨s, result, hRun, hReturned, _⟩ := returned_unplugged
  exact ⟨s, result, hRun, hReturned, (storageAge "/host-proc" hRun hReturned).2.1⟩

theorem not_storageAge :
    ¬∀ (actions : List (Tasks.Action (Host Int) Fn)) (s : Tasks.State (signature Int) Unit)
    (result : Stamped Overview) (now : ℚ),
    Runs (Tasks.step (system Int "/host-proc")) (.initial 0 ()) actions s →
      (⟨.storage, result, now⟩ : Tasks.Return (signature Int)) ∈ s.shared.returned →
        Within 300 now (result.value.disks.value.lsblk ::
          (result.value.smart.value.smartctl ++ result.value.usage.value.df)) := by
  intro h
  obtain ⟨s, result, hRun, hReturned, hLsblk⟩ := returned_unplugged
  have hYoung := h unpluggedRun s result 598 hRun hReturned _ List.mem_cons_self
  rw [hLsblk] at hYoung
  norm_num at hYoung

end

end NodeDebugDashboard.Collectors.StorageTasks
