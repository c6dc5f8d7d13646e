import Mathlib.Tactic.SplitIfs
import NodeDebugDashboard.Library.Shell

/-! scripts/ndiag-memtest: the size that `quick`, `stress` and `full` test, and when they
refuse it. -/
namespace NodeDebugDashboard.Scripts.Memtest

open Library.Shell

/-- A number that the kernel writes to a file. -/
abbrev Counter := { n : Nat // n < 2 ^ 63 }

/-- What is read of `memory.max`, `memory.current` and the like: a number, or anything
else, such as `max` or nothing at all. -/
inductive Reading where
  | number (bytes : Counter)
  | other

/-- The limit and the usage of a cgroup. -/
structure Usage where
  limit : Reading
  current : Reading

/-- The files that the script reads. -/
structure Readings where
  /-- `MemAvailable` in kB, of `$HOST_PROC/meminfo` and of `/proc/meminfo`. -/
  hostMeminfo : Option Counter
  meminfo : Option Counter
  /-- The cgroup at `$CGROUP_DIR`, the script's own one below it, and the one of
  version 1, where these have a readable limit. -/
  rootCgroup : Option Usage
  ownCgroup : Option Usage
  v1Cgroup : Option Usage

/-- `printf "%.0f", $2/1024` -/
def roundMb (kb : Nat) : Nat :=
  if kb % 1024 > 512 ∨ (kb % 1024 = 512 ∧ kb / 1024 % 2 = 1) then kb / 1024 + 1 else kb / 1024

/-- `_get_free_mb` -/
def getFreeMb (readings : Readings) : Nat :=
  match readings.hostMeminfo, readings.meminfo with
  | some kb, _ => roundMb kb
  | none, some kb => roundMb kb
  | none, none => 256

/-- `_get_cgroup_headroom_mb`; `none` when it prints nothing. -/
def getCgroupHeadroomMb (readings : Readings) : Option Int :=
  match readings.rootCgroup <|> readings.ownCgroup <|> readings.v1Cgroup with
  | none => none
  | some usage =>
      match usage.limit with
      | .other => none
      | .number limit =>
          if 19 ≤ limit.val.repr.length then none
          else
            let current : Nat :=
              match usage.current with
              | .number current => current
              | .other => 0
            let mb := arith ((arith (limit - current)).tdiv 1048576)
            some (if mb < 0 then 0 else mb)

/-- `_get_safe_mb` -/
def getSafeMb (readings : Readings) : Nat :=
  let free : Int := getFreeMb readings
  let safe := arith (free - 1024)
  let capped :=
    match getCgroupHeadroomMb readings with
    | some headroom => if arith (headroom - 128) < safe then arith (headroom - 128) else safe
    | none => safe
  if capped < 0 then 0 else capped.toNat

/-- `_check_size`: whether it lets the size through. -/
def checkSize (size safe : String) : Bool :=
  if !isNumber size || (test (· == ·) size "0" && test (fun a b => a > b) safe "0") then false
  else !(test (fun a b => a > b) size safe || test (· == ·) safe "0")

/-- The options, the terminal, and what comes of the tool when it runs. -/
structure Session where
  raw : Bool
  yes : Bool
  /-- The standard input is a terminal. -/
  terminal : Bool
  /-- What `read` reads from it. -/
  answer : String
  toolStatus : Nat
  /-- The lines with `FAILURE` in the output of `memtester`. -/
  failures : Nat

/-- `[[ "$answer" =~ ^[Yy]([Ee][Ss])?$ ]]` -/
def accepts (answer : String) : Bool :=
  match answer.toList with
  | [y] => y = 'Y' || y = 'y'
  | [y, e, s] => (y = 'Y' || y = 'y') && (e = 'E' || e = 'e') && (s = 'S' || s = 's')
  | _ => false

/-- `_confirm`: whether it returns. -/
def confirm (session : Session) : Bool :=
  session.yes || (session.terminal && accepts session.answer)

/-- A subcommand that tests memory, with its arguments. -/
inductive Test where
  | quick (size : Option String)
  | stress (size duration : Option String)
  | full

/-- The tool that is launched; the size goes on its command line with an `M`. -/
inductive Launch where
  | memtester (size : String)
  | stressNg (size duration : String)
  deriving DecidableEq

def Launch.size : Launch → String
  | memtester size => size
  | stressNg size _ => size

/-- A run of the script: the tool it launched, and its exit status. -/
structure Run where
  launched : Option Launch
  status : Nat
  deriving DecidableEq

def refused : Run := ⟨none, 1⟩

/-- The status of `_memtester_report`. -/
def memtesterReport (session : Session) : Nat :=
  if session.failures > 0 ∨ session.toolStatus ≠ 0 then 1 else 0

/-- `cmd_quick` -/
def cmdQuick (session : Session) (readings : Readings) (argument : Option String) : Run :=
  let size := orDefault argument "256"
  if checkSize size (getSafeMb readings).repr then
    ⟨some (.memtester size), if session.raw then 0 else memtesterReport session⟩
  else refused

/-- The size of `cmd_stress`. -/
def stressSize (argument : Option String) (safe : String) : String :=
  let size := orDefault argument ""
  if size = "" then if test (fun a b => a < b) safe "1024" then safe else "1024" else size

/-- `cmd_stress` -/
def cmdStress (session : Session) (readings : Readings) (argument duration : Option String) : Run :=
  let safe := (getSafeMb readings).repr
  let size := stressSize argument safe
  if checkSize size safe && confirm session then
    ⟨some (.stressNg size (orDefault duration "60")),
      if session.raw ∨ session.toolStatus = 0 then 0 else 1⟩
  else refused

/-- `cmd_full` -/
def cmdFull (session : Session) (readings : Readings) : Run :=
  let testMb := (getSafeMb readings).repr
  if test (fun a b => a < b) testMb "64" then refused
  else if confirm session then
    ⟨some (.memtester testMb), if session.raw then 0 else memtesterReport session⟩
  else refused

def run (session : Session) (readings : Readings) : Test → Run
  | .quick size => cmdQuick session readings size
  | .stress size duration => cmdStress session readings size duration
  | .full => cmdFull session readings

/-- The headroom of the pod in MB, where a limit is known: a number of less than 19 digits. -/
def headroom (readings : Readings) : Option Nat :=
  match readings.rootCgroup <|> readings.ownCgroup <|> readings.v1Cgroup with
  | some ⟨.number limit, .number current⟩ =>
      if limit.val < 10 ^ 18 then some ((limit - current) / 1048576) else none
  | some ⟨.number limit, .other⟩ => if limit.val < 10 ^ 18 then some (limit / 1048576) else none
  | _ => none

/-- The largest size that fits into the host and into the pod. -/
def safeMb (readings : Readings) : Int :=
  match headroom readings with
  | some headroom => max 0 (min (getFreeMb readings - 1024 : Int) (headroom - 128))
  | none => max 0 (getFreeMb readings - 1024)

/-- A launch is within the cap, and a run without one fails. -/
def Capped (readings : Readings) (run : Run) : Prop :=
  match run.launched with
  | some launch =>
      isNumber launch.size ∧ 1 ≤ value launch.size ∧ (value launch.size : Int) ≤ safeMb readings
  | none => run.status ≠ 0

/-- A size that does not fit into 64 bits. -/
def Oversized (size : Option String) : Prop :=
  ∃ word, size = some word ∧ isNumber word ∧ 2 ^ 63 ≤ value word

/-- The sizes that both comparisons of `checkSize` give up on. -/
def Slips (session : Session) (readings : Readings) : Test → Prop
  | .quick size => Oversized size ∧ 0 < safeMb readings
  | .stress size _ => Oversized size ∧ 0 < safeMb readings ∧ confirm session
  | .full => False

theorem roundMb_le (kb : Nat) : roundMb kb ≤ kb := by
  unfold roundMb
  split_ifs <;> omega

theorem getFreeMb_lt (readings : Readings) : getFreeMb readings < 2 ^ 63 := by
  unfold getFreeMb
  split
  case h_1 _ _ kb _ => exact Nat.lt_of_le_of_lt (roundMb_le _) kb.property
  case h_2 _ _ kb _ _ => exact Nat.lt_of_le_of_lt (roundMb_le _) kb.property
  case h_3 => decide

/-- No numbers of the kernel take the arithmetic out of 64 bits. -/
theorem arith_headroom (limit current : Nat) (hLimit : limit < 2 ^ 63)
    (hCurrent : current < 2 ^ 63) :
    (let mb := arith ((arith ((limit : Int) - current)).tdiv 1048576)
      if mb < 0 then 0 else mb) = ((limit - current) / 1048576 : Nat) := by
  have hInner : arith ((limit : Int) - current) = limit - current :=
    arith_of_fits (by omega) (by omega)
  simp only [hInner]
  rcases Nat.lt_or_ge limit current with hLess | hEnough
  · have hNegative :
        ((limit : Int) - current).tdiv 1048576 = -(((current - limit) / 1048576 : Nat) : Int) := by
      rw [show (limit : Int) - current = -((current - limit : Nat) : Int) by omega, Int.neg_tdiv]
      rfl
    rw [hNegative, arith_of_fits (by omega) (by omega)]
    split_ifs <;> omega
  · have hPositive :
        ((limit : Int) - current).tdiv 1048576 = ((limit - current) / 1048576 : Nat) := by
      rw [show (limit : Int) - current = ((limit - current : Nat) : Int) by omega]
      rfl
    rw [hPositive, arith_of_fits (by omega) (by omega)]
    split_ifs <;> omega

/-- A limit of 19 digits counts as none. -/
theorem length_repr_iff (limit : Nat) : 19 ≤ limit.repr.length ↔ ¬ limit < 10 ^ 18 := by
  rw [← Nat.length_repr_le_iff (by decide)]
  omega

theorem getCgroupHeadroomMb_eq (readings : Readings) :
    getCgroupHeadroomMb readings = (headroom readings).map Nat.cast := by
  unfold getCgroupHeadroomMb headroom
  generalize (readings.rootCgroup <|> readings.ownCgroup <|> readings.v1Cgroup) = cgroup
  match cgroup with
  | none => rfl
  | some ⟨.other, _⟩ => rfl
  | some ⟨.number limit, .number current⟩ =>
      by_cases hKnown : limit.val < 10 ^ 18
      · simp only [length_repr_iff, hKnown, not_true, if_false, if_true]
        exact congrArg some (arith_headroom limit current limit.property current.property)
      · simp only [length_repr_iff, hKnown, not_false_iff, if_true, if_false, Option.map_none]
  | some ⟨.number limit, .other⟩ =>
      by_cases hKnown : limit.val < 10 ^ 18
      · simp only [length_repr_iff, hKnown, not_true, if_false, if_true]
        exact congrArg some (arith_headroom limit 0 limit.property (by decide))
      · simp only [length_repr_iff, hKnown, not_false_iff, if_true, if_false, Option.map_none]

theorem headroom_lt {readings : Readings} {mb : Nat} (h : headroom readings = some mb) :
    mb < 2 ^ 63 := by
  unfold headroom at h
  split at h
  case h_1 limit current _ =>
      have hLimit := limit.property
      split_ifs at h
      cases h
      omega
  case h_2 limit _ =>
      have hLimit := limit.property
      split_ifs at h
      cases h
      omega
  case h_3 => cases h

/-- The end of `_get_safe_mb`. -/
theorem clamp_eq (x : Int) : ((if x < 0 then 0 else x.toNat : Nat) : Int) = max 0 x := by
  split_ifs <;> omega

theorem cap_eq (headroom free : Int) :
    (if headroom < free then headroom else free) = min free headroom := by
  split_ifs <;> omega

theorem getSafeMb_eq (readings : Readings) : (getSafeMb readings : Int) = safeMb readings := by
  have hFree := getFreeMb_lt readings
  have hSafe : arith ((getFreeMb readings : Int) - 1024) = getFreeMb readings - 1024 := by
    apply arith_of_fits <;> omega
  unfold getSafeMb safeMb
  rw [getCgroupHeadroomMb_eq]
  cases hHeadroom : headroom readings with
  | none =>
      simp only [Option.map_none, hSafe]
      exact clamp_eq _
  | some mb =>
      have hMb := headroom_lt hHeadroom
      have hLess : arith ((mb : Int) - 128) = mb - 128 := by apply arith_of_fits <;> omega
      simp only [Option.map_some, hSafe, hLess, cap_eq]
      exact clamp_eq _

theorem getSafeMb_lt (readings : Readings) : getSafeMb readings < 2 ^ 63 := by
  have hFree : (getFreeMb readings : Int) - 1024 < 2 ^ 63 := by
    have hLess := getFreeMb_lt readings
    omega
  have hCap : safeMb readings < 2 ^ 63 := by
    unfold safeMb
    split
    case h_1 headroom _ =>
      generalize (getFreeMb readings : Int) - 1024 = free at hFree ⊢
      generalize (headroom : Int) - 128 = pod
      omega
    case h_2 =>
      generalize (getFreeMb readings : Int) - 1024 = free at hFree ⊢
      omega
  have hEq := getSafeMb_eq readings
  omega

/-- What gets through: a size within the cap, or one that the comparisons cannot read. -/
theorem checkSize_iff (size : String) {safe : Nat} (hSafe : safe < 2 ^ 63) :
    checkSize size safe.repr ↔
      isNumber size ∧ 0 < safe ∧ (1 ≤ value size ∧ value size ≤ safe ∨ 2 ^ 63 ≤ value size) := by
  have hZero : value "0" = 0 := by decide +kernel
  have hPositive : test (fun a b => decide (a > b)) safe.repr "0" = decide (safe > 0) := by
    rw [test_of_lt (by simpa using hSafe) (by omega), value_repr, hZero]
  have hEmpty : test (fun a b => a == b) safe.repr "0" = (safe == 0) := by
    rw [test_of_lt (by simpa using hSafe) (by omega), value_repr, hZero]
  unfold checkSize
  rw [hPositive, hEmpty]
  cases isNumber size with
  | false => simp
  | true =>
      rcases Nat.lt_or_ge (value size) (2 ^ 63) with hFits | hLarge
      · rw [test_of_lt hFits (by omega), test_of_lt hFits (by simpa using hSafe), value_repr, hZero]
        simp
        omega
      · rw [test_of_le hLarge, test_of_le hLarge]
        simp only [hLarge, Bool.not_true, Bool.false_and, Bool.or_self,
          Bool.false_eq_true, if_false,
          Bool.false_or, Bool.not_eq_true', beq_eq_false_iff_ne, or_true, and_true, true_and]
        exact Nat.pos_iff_ne_zero.symm

theorem capped_refused (readings : Readings) : Capped readings refused := Nat.one_ne_zero

/-- A size that gets through stays within the cap exactly when 64 bits hold it. -/
theorem capped_checked (readings : Readings) (size : String) (confirmed : Bool) (launch : Launch)
    (status : Nat) (hSize : launch.size = size) :
    Capped readings (if checkSize size (getSafeMb readings).repr && confirmed then
      ⟨some launch, status⟩
      else refused) ↔
      ¬ ((isNumber size ∧ 2 ^ 63 ≤ value size) ∧ 0 < safeMb readings ∧ confirmed) := by
  have hLess := getSafeMb_lt readings
  have hIff := checkSize_iff size hLess
  rw [← getSafeMb_eq]
  cases hCheck : checkSize size (getSafeMb readings).repr && confirmed with
  | false =>
      simp only [Bool.false_eq_true, if_false, capped_refused, true_iff]
      rintro ⟨⟨hNumber, hLarge⟩, hPositive, hConfirmed⟩
      have hThrough := hIff.mpr ⟨hNumber, by omega, .inr hLarge⟩
      simp [hThrough, hConfirmed] at hCheck
  | true =>
      obtain ⟨hThrough, hConfirmed⟩ := (Bool.and_eq_true _ _).mp hCheck
      obtain ⟨hNumber, hPositive, hValue⟩ := hIff.mp hThrough
      simp only [if_true, Capped, hSize, hNumber, hConfirmed, ← getSafeMb_eq, true_and, and_true]
      constructor
      · rintro ⟨hSome, hWithin⟩ ⟨hLarge, -⟩
        omega
      · intro hFits
        omega

theorem oversized_orDefault (argument : Option String) {fallback : String}
    (hFallback : value fallback < 2 ^ 63) :
    isNumber (orDefault argument fallback) ∧ 2 ^ 63 ≤ value (orDefault argument fallback) ↔
      Oversized argument := by
  have hEmpty : isNumber "" = false := by decide +kernel
  cases argument with
  | none =>
      simp only [orDefault, Oversized, reduceCtorEq, false_and, exists_false, iff_false]
      omega
  | some word =>
      by_cases hWord : word = ""
      · subst hWord
        simp only [orDefault, Oversized, Option.some.injEq, if_true, exists_eq_left', hEmpty,
          Bool.false_eq_true, false_and, iff_false]
        omega
      · simp [orDefault, Oversized, hWord]

/-- The default of `stress` fits into 64 bits. -/
theorem oversized_stressSize (argument : Option String) {safe : Nat} (hSafe : safe < 2 ^ 63) :
    isNumber (stressSize argument safe.repr) ∧ 2 ^ 63 ≤ value (stressSize argument safe.repr) ↔
      Oversized argument := by
  have hEmpty : value "" < 2 ^ 63 := by decide +kernel
  have hDefault : value "1024" < 2 ^ 63 := by decide +kernel
  rw [← oversized_orDefault argument hEmpty]
  unfold stressSize
  by_cases hSize : orDefault argument "" = ""
  · have hShrunk :
        value (if test (fun a b => a < b) safe.repr "1024" then safe.repr else "1024") <
          2 ^ 63 := by
      split_ifs
      · simpa using hSafe
      · exact hDefault
    simp only [hSize, if_true]
    omega
  · simp only [hSize, if_false]

/-- A run keeps to the cap unless its size is a number of more than 64 bits and nothing
else stops it. -/
theorem memtestCap (session : Session) (readings : Readings) (test : Test) :
    Capped readings (run session readings test) ↔ ¬ Slips session readings test := by
  cases test with
  | quick size =>
      have hCapped :=
        capped_checked readings (orDefault size "256") true (.memtester (orDefault size "256"))
        (if session.raw then 0 else memtesterReport session) rfl
      rw [oversized_orDefault size (by decide +kernel)] at hCapped
      simpa [run, cmdQuick, Slips] using hCapped
  | stress size duration =>
      have hCapped :=
        capped_checked readings (stressSize size (getSafeMb readings).repr) (confirm session)
        (.stressNg (stressSize size (getSafeMb readings).repr) (orDefault duration "60"))
        (if session.raw ∨ session.toolStatus = 0 then 0 else 1) rfl
      rw [oversized_stressSize size (getSafeMb_lt readings)] at hCapped
      exact hCapped
  | full =>
      have hLess := getSafeMb_lt readings
      have hEq := getSafeMb_eq readings
      have hFloor : Library.Shell.test (fun a b => decide (a < b)) (getSafeMb readings).repr "64" =
          decide (getSafeMb readings < 64) := by
        rw [test_of_lt (by simpa using hLess) (by decide +kernel), value_repr]
        rfl
      simp only [run, cmdFull, Slips, not_false_iff, iff_true, hFloor, decide_eq_true_eq]
      by_cases hSmall : getSafeMb readings < 64
      · rw [if_pos hSmall]
        exact capped_refused readings
      · rw [if_neg hSmall]
        cases confirm session with
        | true =>
            simp only [if_true, Capped, Launch.size, isNumber_repr, value_repr, ← hEq, true_and]
            omega
        | false => exact capped_refused readings

/-- A host with 4 GB available and no limit on the pod. -/
def fourGb : Readings := ⟨some ⟨4194304, by decide⟩, none, none, none, none⟩

/-- A size of 2^63 MB. -/
def hugeSize : Test := .quick (some "9223372036854775808")

theorem not_capped_huge :
    ¬ ∀ session readings test, Capped readings (run session readings test) := by
  intro h
  have hRun : (run ⟨false, false, false, "", 0, 0⟩ fourGb hugeSize).launched =
      some (.memtester "9223372036854775808") := by decide +kernel
  have hAbove : ¬ (value "9223372036854775808" : Int) ≤ safeMb fourGb := by decide +kernel
  have hCapped := h ⟨false, false, false, "", 0, 0⟩ fourGb hugeSize
  generalize run ⟨false, false, false, "", 0, 0⟩ fourGb hugeSize = huge at hRun hCapped
  unfold Capped at hCapped
  rw [hRun] at hCapped
  exact hAbove hCapped.2.2

end NodeDebugDashboard.Scripts.Memtest
