import Mathlib.Data.List.Sort
import NodeDebugDashboard.Models

/-! Which of the scanned processes `_collect_processes_sync` of
app/collectors/processes.py returns, and in which order. The percentages are numbers of a
linear order: none is NaN. -/
namespace NodeDebugDashboard.Collectors.ProcessSelection

open Models

variable {F : Type} [LinearOrder F]

/-- `_TOP_BY_MEM` -/
def topByMem : Nat := 200

/-- `_TOP_BY_CPU` -/
def topByCpu : Nat := 50

/-- `sorted(processes, key=key, reverse=True)`, which is stable. -/
def sortedDescending (key : ProcessInfo F → F) (processes : List (ProcessInfo F)) :
    List (ProcessInfo F) :=
  processes.insertionSort fun first second => key second ≤ key first

def byCpu (processes : List (ProcessInfo F)) : List (ProcessInfo F) :=
  sortedDescending ProcessInfo.cpuPercent processes

/-- The processes with the most memory. -/
def heaviest (processes : List (ProcessInfo F)) : List (ProcessInfo F) :=
  (sortedDescending ProcessInfo.memPercent processes).take topByMem

/-- The processes that `top_processes` is extended with. -/
def busiest (processes : List (ProcessInfo F)) : List (ProcessInfo F) :=
  ((byCpu processes).take topByCpu).filter fun p => p.pid ∉ (heaviest processes).map ProcessInfo.pid

/-- The end of `_collect_processes_sync`. -/
def overview (processes : List (ProcessInfo F)) : ProcessesOverview F where
  totalCount := processes.length
  processes := heaviest processes ++ busiest processes

theorem mem_sortedDescending {key : ProcessInfo F → F} {processes : List (ProcessInfo F)}
    {p : ProcessInfo F} : p ∈ sortedDescending key processes ↔ p ∈ processes :=
  (List.perm_insertionSort _ _).mem_iff

theorem sortedDescending_pairwise (key : ProcessInfo F → F) (processes : List (ProcessInfo F)) :
    (sortedDescending key processes).Pairwise fun first second => key second ≤ key first := by
  have : Std.Total fun first second : ProcessInfo F => key second ≤ key first :=
    ⟨fun first second => le_total (key second) (key first)⟩
  have : IsTrans (ProcessInfo F) fun first second => key second ≤ key first :=
    ⟨fun _ _ _ hFirst hSecond => hSecond.trans hFirst⟩
  exact List.pairwise_insertionSort _ _

theorem pids_nodup {key : ProcessInfo F → F} {processes : List (ProcessInfo F)}
    (h : (processes.map ProcessInfo.pid).Nodup) :
    ((sortedDescending key processes).map ProcessInfo.pid).Nodup :=
  ((List.perm_insertionSort _ _).map ProcessInfo.pid).nodup_iff.mpr h

/-- A process that is not among the heaviest comes after them. -/
theorem memPercent_le {processes : List (ProcessInfo F)} {p q : ProcessInfo F}
    (hMem : p ∈ processes) (hLight : p ∉ heaviest processes) (hHeavy : q ∈ heaviest processes) :
    p.memPercent ≤ q.memPercent := by
  have hSorted := sortedDescending_pairwise ProcessInfo.memPercent processes
  have hAll : p ∈ sortedDescending ProcessInfo.memPercent processes := mem_sortedDescending.mpr hMem
  rw [← List.take_append_drop topByMem
    (sortedDescending ProcessInfo.memPercent processes)] at hSorted hAll
  have hLater := (List.mem_append.mp hAll).resolve_left hLight
  exact (List.pairwise_append.mp hSorted).2.2 q hHeavy p hLater

/-- If a process is left out, there are as many heavier ones as are taken. -/
theorem length_heaviest {processes : List (ProcessInfo F)} {p : ProcessInfo F}
    (hMem : p ∈ processes) (hLight : p ∉ heaviest processes) :
    (heaviest processes).length = topByMem := by
  have hAll : p ∈ sortedDescending ProcessInfo.memPercent processes := mem_sortedDescending.mpr hMem
  rw [heaviest, List.length_take, min_eq_left]
  by_contra hShort
  rw [heaviest, List.take_of_length_le (by omega)] at hLight
  exact hLight hAll

theorem mem_of_mem_heaviest {processes : List (ProcessInfo F)} {p : ProcessInfo F}
    (h : p ∈ heaviest processes) : p ∈ processes :=
  mem_sortedDescending.mp (List.mem_of_mem_take h)

theorem mem_busiest {processes : List (ProcessInfo F)} {p : ProcessInfo F} : p ∈ busiest processes ↔
    p ∈ (byCpu processes).take topByCpu ∧ p.pid ∉ (heaviest processes).map ProcessInfo.pid := by
  rw [busiest, List.mem_filter, decide_eq_true_eq]

/-- The processes with the most memory and the busiest ones are all there, each once. -/
theorem processSelection {processes : List (ProcessInfo F)}
    (hPids : (processes.map ProcessInfo.pid).Nodup) :
    ((overview processes).processes.map ProcessInfo.pid).Nodup ∧
      (overview processes).processes.length ≤ 250 ∧
      (∀ p ∈ processes, p ∉ (overview processes).processes →
        200 ≤ ((overview processes).processes.filter fun q => p.memPercent ≤ q.memPercent).length) ∧
      (∀ p ∈ (sortedDescending ProcessInfo.cpuPercent processes).take 50, p ∈
        (overview processes).processes) ∧
      (overview processes).totalCount = processes.length := by
  refine ⟨?_, ?_, fun p hMem hOut => ?_, fun p hBusy => ?_, rfl⟩
  · have hHeavy : ((heaviest processes).map ProcessInfo.pid).Nodup :=
      (pids_nodup hPids).sublist ((List.take_sublist _ _).map _)
    have hBusy : ((busiest processes).map ProcessInfo.pid).Nodup :=
      (pids_nodup hPids).sublist ((List.filter_sublist.trans (List.take_sublist _ _)).map _)
    rw [overview, List.map_append]
    refine hHeavy.append hBusy fun pid hFirst hSecond => ?_
    obtain ⟨p, hMem, rfl⟩ := List.mem_map.mp hSecond
    exact (mem_busiest.mp hMem).2 hFirst
  · have hHeavy : (heaviest processes).length ≤ 200 := List.length_take_le _ _
    have hBusy : (busiest processes).length ≤ 50 :=
      (List.length_filter_le _ _).trans (List.length_take_le _ _)
    rw [overview, List.length_append]
    omega
  · have hLight : p ∉ heaviest processes := fun hHeavy => hOut (List.mem_append_left _ hHeavy)
    have hAll :
        (heaviest processes).filter (fun q => p.memPercent ≤ q.memPercent) = heaviest processes :=
      List.filter_eq_self.mpr fun q hHeavy => by simpa using memPercent_le hMem hLight hHeavy
    have hLength : (heaviest processes).length = 200 := length_heaviest hMem hLight
    rw [overview, List.filter_append, List.length_append, hAll, hLength]
    exact Nat.le_add_right _ _
  · by_cases hKept : p.pid ∈ (heaviest processes).map ProcessInfo.pid
    · obtain ⟨q, hHeavy, hPid⟩ := List.mem_map.mp hKept
      have hMem : p ∈ processes := mem_sortedDescending.mp (List.mem_of_mem_take hBusy)
      rw [List.inj_on_of_nodup_map hPids (mem_of_mem_heaviest hHeavy) hMem hPid] at hHeavy
      exact List.mem_append_left _ hHeavy
    · exact List.mem_append_right _ (mem_busiest.mpr ⟨hBusy, hKept⟩)

/-- Two processes, the first busier, that are among the busiest but not among the heaviest
are in the order of their memory. -/
def MemFollowsCpu (processes : List (ProcessInfo F)) : Prop :=
  ((sortedDescending ProcessInfo.cpuPercent processes).take 50).Pairwise fun first second =>
    first.pid ∉ (heaviest processes).map ProcessInfo.pid →
      second.pid ∉ (heaviest processes).map ProcessInfo.pid → second.memPercent ≤ first.memPercent

instance (processes : List (ProcessInfo F)) : Decidable (MemFollowsCpu processes) :=
  inferInstanceAs (Decidable (List.Pairwise _ _))

theorem busiest_pairwise_iff (processes : List (ProcessInfo F)) :
    (busiest processes).Pairwise (fun first second => second.memPercent ≤ first.memPercent) ↔
      MemFollowsCpu processes := by
  simp only [busiest, List.pairwise_filter, decide_eq_true_eq]
  rfl

/-- The list is in the order of memory exactly when its second part is. -/
theorem processOrder_iff (processes : List (ProcessInfo F)) :
    (overview processes).processes.Pairwise (fun first second =>
      second.memPercent ≤ first.memPercent) ↔
      MemFollowsCpu processes := by
  rw [overview, List.pairwise_append, busiest_pairwise_iff]
  constructor
  · exact fun h => h.2.1
  · intro h
    refine ⟨(sortedDescending_pairwise _ _).sublist (List.take_sublist _ _), h,
      fun p hHeavy q hBusy => ?_⟩
    obtain ⟨hFirst, hPid⟩ := mem_busiest.mp hBusy
    have hMem : q ∈ processes := mem_sortedDescending.mp (List.mem_of_mem_take hFirst)
    exact memPercent_le hMem (fun hHeavy => hPid (List.mem_map_of_mem hHeavy)) hHeavy

/-- Two hundred large processes, a small one, and one in between that is less busy. -/
def busySmall : List (ProcessInfo Int) :=
  (List.range 200).map (fun pid => { pid := (pid : Int), cpuPercent := 0, memPercent := 10 }) ++
    [{ pid := 200, cpuPercent := 90, memPercent := 1 },
     { pid := 201, cpuPercent := 80, memPercent := 2 }]

theorem nodup_busySmall : (busySmall.map ProcessInfo.pid).Nodup := by
  have hPids : busySmall.map ProcessInfo.pid = (List.range 202).map Int.ofNat := by decide +kernel
  rw [hPids]
  exact List.nodup_range.map fun _ _ => Int.ofNat.inj

theorem not_processOrder_busySmall : (busySmall.map ProcessInfo.pid).Nodup ∧
    ¬(overview busySmall).processes.Pairwise fun first second =>
      second.memPercent ≤ first.memPercent := by
  refine ⟨nodup_busySmall, fun hOrder => ?_⟩
  have hBusy : (busiest busySmall).map ProcessInfo.memPercent = [1, 2] := by decide +kernel
  have hMemory : ((busiest busySmall).map ProcessInfo.memPercent).Pairwise
      fun first second => second ≤ first :=
    List.pairwise_map.mpr (List.pairwise_append.mp hOrder).2.1
  rw [hBusy] at hMemory
  exact absurd hMemory (by decide)

theorem processSelection_busySmall : ((overview busySmall).processes.map ProcessInfo.pid).Nodup ∧
    (overview busySmall).processes.length ≤ 250 ∧
    (∀ p ∈ busySmall, p ∉ (overview busySmall).processes →
      200 ≤ ((overview busySmall).processes.filter fun q => p.memPercent ≤ q.memPercent).length) ∧
    (∀ p ∈ (sortedDescending ProcessInfo.cpuPercent busySmall).take 50, p ∈
      (overview busySmall).processes) ∧
    (overview busySmall).totalCount = busySmall.length :=
  processSelection nodup_busySmall

end NodeDebugDashboard.Collectors.ProcessSelection
