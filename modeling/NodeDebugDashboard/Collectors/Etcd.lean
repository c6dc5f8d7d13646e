import Mathlib.Data.Rat.Floor
import NodeDebugDashboard.Collectors.Smart
import NodeDebugDashboard.Library.Decimals

/-! `_parse_etcd_status` of app/collectors/kubernetes.py, in exact arithmetic. -/
namespace NodeDebugDashboard.Collectors.Etcd

open Library Library.Python Library.Text Models Smart

/-- What the status says beside the fields that the warnings read. -/
structure Status extends EtcdStatus ℚ where
  healthy : Bool := false
  dbSizeMb : ℚ
  quotaAssumed : Bool := false
  version : String := ""
  leaderId : String := ""
  memberId : String := ""
  isLeader : Bool := false
  raftIndex : Int := 0
  raftTerm : Int := 0
  raftAppliedIndex : Int := 0

/-- `int(value)`; `none` when it raises `TypeError` or `ValueError`. -/
def toInt? : Json ℚ → Option Int
  | .bool value => some (if value then 1 else 0)
  | .int value => some value
  | .float value => some (if 0 ≤ value then ⌊value⌋ else ⌈value⌉)
  | .str text => int? text.toList
  | _ => none

/-- `_first_int` of a dictionary. -/
def firstInt (fields : Fields ℚ) : List String → Int
  | [] => 0
  | key :: keys =>
      match (Json.field? key fields).bind toInt? with
      | some value => value
      | none => firstInt fields keys

/-- `_first_int` of any value. A string or a list has no integer under a key. -/
def firstIntOf (value : Json ℚ) (keys : List String) : Outcome Int :=
  match value with
  | .obj fields => .ok (firstInt fields keys)
  | .str _ => .ok 0
  | .arr _ => .ok 0
  | other => .error (.exception ("argument of type '" ++ other.typeName ++ "' is not iterable"))

/-- `ETCD_DEFAULT_QUOTA` -/
def etcdDefaultQuota : Int := 2 * 1024 ^ 3

section

variable (data : Fields ℚ)

def dbSize : Int := firstInt data ["dbSize", "db_size"]

def dbInUse : Int := firstInt data ["dbSizeInUse", "db_size_in_use"]

/-- The quota in the response. -/
def dbSizeQuota : Int := firstInt data ["dbSizeQuota", "db_size_quota"]

def quota : Int := if dbSizeQuota data = 0 then etcdDefaultQuota else dbSizeQuota data

def reclaimable : Int := max (dbSize data - dbInUse data) 0

def quotaPct : ℚ := if quota data = 0 then 0 else roundTo 1 ((dbSize data : ℚ) / quota data * 100)

def defragSeverity : String :=
  if 80 ≤ quotaPct data then "critical"
  else if 50 ≤ quotaPct data ∧ dbInUse data < reclaimable data then "warning"
  else "ok"

end

def mb : ℚ := 1048576

/-- `str(value or "")` -/
def idText (value : Int) : String := if value = 0 then "" else toString value

/-- `_parse_etcd_status`, with `str(value)` of a JSON value. -/
def parseEtcdStatus (str : Json ℚ → String) (data : Fields ℚ) : Outcome Status := do
  let header := (Json.field? "header" data).getD (.obj [])
  let memberId := idText (← firstIntOf header ["member_id", "memberId"])
  let leaderId := idText (firstInt data ["leader"])
  let raftTerm := firstInt data ["raftTerm", "raft_term"]
  let headerTerm ← firstIntOf header ["raft_term", "raftTerm"]
  return {
    healthy := true
    dbSizeMb := roundTo 1 (dbSize data / mb)
    dbSizeInUseMb := roundTo 1 (dbInUse data / mb)
    dbSizeQuotaMb := roundTo 1 (quota data / mb)
    quotaAssumed := dbSizeQuota data = 0
    quotaUsedPercent := quotaPct data
    defragReclaimableMb := roundTo 1 (reclaimable data / mb)
    defragSeverity := defragSeverity data
    version := str ((Json.field? "version" data).getD (.str ""))
    memberId := memberId
    leaderId := leaderId
    isLeader := memberId ≠ "" ∧ memberId = leaderId
    raftIndex := firstInt data ["raftIndex", "raft_index"]
    raftTerm := if raftTerm = 0 then headerTerm else raftTerm
    raftAppliedIndex := firstInt data ["raftAppliedIndex", "raft_applied_index"] }

/-- The severities, from the least severe on. -/
def severities : List String := ["ok", "warning", "critical"]

variable {str : Json ℚ → String} {data later : Fields ℚ} {status next : Status}

theorem parseEtcdStatus_eq_ok (h : parseEtcdStatus str data = .ok status) :
    status.defragSeverity = defragSeverity data ∧
      status.defragReclaimableMb = roundTo 1 (reclaimable data / mb) := by
  obtain ⟨memberId, _, hRest⟩ := bind_eq_ok.mp h
  obtain ⟨headerTerm, _, hStatus⟩ := bind_eq_ok.mp hRest
  cases hStatus
  exact ⟨rfl, rfl⟩

theorem quota_pos (h : 0 ≤ dbSizeQuota data) : 0 < quota data := by
  rw [quota]
  split_ifs with hZero
  · decide
  · omega

/-- More of the same quota is no smaller percentage. -/
theorem quotaPct_mono (hQuota : 0 ≤ dbSizeQuota data) (hSame : dbSizeQuota later = dbSizeQuota data)
    (hLe : dbSize data ≤ dbSize later) : quotaPct data ≤ quotaPct later := by
  have hPos := quota_pos hQuota
  have hEq : quota later = quota data := by rw [quota, quota, hSame]
  rw [quotaPct, quotaPct, hEq, if_neg hPos.ne', if_neg hPos.ne']
  have hSize : (dbSize data : ℚ) ≤ dbSize later := Int.cast_le.mpr hLe
  have hQuota : (0 : ℚ) < quota data := Int.cast_pos.mpr hPos
  exact roundTo_mono 1 (by gcongr)

theorem reclaimable_mono (hUse : dbInUse later = dbInUse data) (hLe : dbSize data ≤ dbSize later) :
    reclaimable data ≤ reclaimable later := by
  rw [reclaimable, reclaimable, hUse]
  omega

/-- Rounding lifts the percentage to 80 from 79.95 on. -/
theorem critical_iff (hQuota : 0 ≤ dbSizeQuota data) :
    defragSeverity data = "critical" ↔ 7995 / 10000 * (quota data : ℚ) ≤ dbSize data := by
  have hPos := quota_pos hQuota
  have hReal : (0 : ℚ) < quota data := Int.cast_pos.mpr hPos
  have hCritical : defragSeverity data = "critical" ↔ 80 ≤ quotaPct data := by
    rw [defragSeverity]
    split_ifs with hFull hHalf <;> simp [hFull]
  have hTenths : (80 : ℚ) = ((800 : ℤ) : ℚ) / 10 ^ 1 := by norm_num
  rw [hCritical, quotaPct, if_neg hPos.ne', hTenths, le_roundTo_iff, le_halfEven_iff]
  have hScaled :
      (dbSize data : ℚ) / quota data * 100 * 10 ^ 1 = dbSize data * 1000 / quota data := by ring
  rw [hScaled, lt_div_iff₀ hReal, eq_div_iff hReal.ne']
  push_cast
  constructor
  · rintro (hLess | ⟨hEq, _⟩) <;> linarith
  · intro hLe
    rcases hLe.lt_or_eq with hLess | hEq
    · exact Or.inl (by linarith)
    · exact Or.inr ⟨by linarith, by decide⟩

theorem severity_mem (data : Fields ℚ) : defragSeverity data ∈ severities := by
  rw [defragSeverity]
  split_ifs <;> decide

theorem severity_mono (hPct : quotaPct data ≤ quotaPct later) (hUse : dbInUse later = dbInUse data)
    (hFree : reclaimable data ≤ reclaimable later) :
    severities.idxOf (defragSeverity data) ≤ severities.idxOf (defragSeverity later) := by
  have hTop : severities.idxOf "critical" = 2 := by decide
  have hMiddle : severities.idxOf "warning" = 1 := by decide
  have hBottom : severities.idxOf "ok" = 0 := by decide
  by_cases hFull : 80 ≤ quotaPct data
  · rw [defragSeverity, if_pos hFull, defragSeverity, if_pos (hFull.trans hPct)]
  · by_cases hHalf : 50 ≤ quotaPct data ∧ dbInUse data < reclaimable data
    · rw [defragSeverity, if_neg hFull, if_pos hHalf, hMiddle, defragSeverity]
      split_ifs with hLaterFull hLaterHalf
      · rw [hTop]
        decide
      · exact hMiddle.ge
      · exact absurd ⟨hHalf.1.trans hPct, by omega⟩ hLaterHalf
    · rw [defragSeverity, if_neg hFull, if_neg hHalf, hBottom]
      exact Nat.zero_le _

/-- A larger database is never less severe, and critical from 79.95% of the quota on. -/
theorem etcdSeverity (h : parseEtcdStatus str data = .ok status)
    (hNext : parseEtcdStatus str later = .ok next) (hQuota : 0 ≤ dbSizeQuota data)
    (hSame : dbSizeQuota later = dbSizeQuota data) (hUse : dbInUse later = dbInUse data)
    (hLe : dbSize data ≤ dbSize later) :
    status.defragSeverity ∈ severities ∧ next.defragSeverity ∈ severities ∧
      severities.idxOf status.defragSeverity ≤ severities.idxOf next.defragSeverity ∧
      (4 / 5 * (quota data : ℚ) ≤ dbSize data → status.defragSeverity = "critical") ∧
      (status.defragSeverity = "critical" → 7995 / 10000 * (quota data : ℚ) ≤ dbSize data) ∧
      0 ≤ reclaimable data ∧ 0 ≤ status.defragReclaimableMb := by
  obtain ⟨hSeverity, hMb⟩ := parseEtcdStatus_eq_ok h
  obtain ⟨hNextSeverity, _⟩ := parseEtcdStatus_eq_ok hNext
  have hReal : (0 : ℚ) < quota data := Int.cast_pos.mpr (quota_pos hQuota)
  have hFree : 0 ≤ reclaimable data := le_max_right _ _
  rw [hSeverity, hNextSeverity, hMb]
  refine ⟨severity_mem data, severity_mem later, ?_, fun hFull =>
    ?_, (critical_iff hQuota).mp, hFree, ?_⟩
  · exact severity_mono (quotaPct_mono hQuota hSame hLe) hUse (reclaimable_mono hUse hLe)
  · exact (critical_iff hQuota).mpr (by linarith)
  · have hCast : (0 : ℚ) ≤ reclaimable data := Int.cast_nonneg hFree
    have hMbPos : (0 : ℚ) ≤ mb := by norm_num [mb]
    exact roundTo_nonneg (div_nonneg hCast hMbPos)

/-- A response of an etcd without a quota of its own. -/
def response (size : Int) : Fields ℚ := [("dbSize", .int size), ("dbSizeInUse", .int 1000)]

/-- A database of 1.8 GB is critical, and a larger one is not less so. -/
theorem etcdSeverity_response : ∃ status next,
    parseEtcdStatus (fun _ => "") (response 1800000000) = .ok status ∧
      parseEtcdStatus (fun _ => "") (response 1900000000) = .ok next ∧
      status.defragSeverity = "critical" ∧
      severities.idxOf "critical" ≤ severities.idxOf next.defragSeverity := by
  obtain ⟨status, hStatus⟩ :
      ∃ status, parseEtcdStatus (fun _ => "") (response 1800000000) = .ok status := ⟨_, rfl⟩
  obtain ⟨next, hNext⟩ : ∃ next, parseEtcdStatus (fun _ => "") (response 1900000000) = .ok next :=
    ⟨_, rfl⟩
  obtain ⟨_, _, hSevere, hFull, _⟩ :=
    etcdSeverity hStatus hNext (by decide) (by decide) (by decide) (by decide)
  have hSize : dbSize (response 1800000000) = 1800000000 := by decide
  have hQuota : quota (response 1800000000) = 2147483648 := by decide
  have hCritical : status.defragSeverity = "critical" := hFull (by
    rw [hSize, hQuota]
    norm_num)
  exact ⟨status, next, hStatus, hNext, hCritical, hCritical ▸ hSevere⟩

end NodeDebugDashboard.Collectors.Etcd
