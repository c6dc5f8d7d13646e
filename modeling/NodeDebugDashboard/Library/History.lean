import Mathlib.Data.List.Induction
import Mathlib.Order.Lattice

/-! Readings of a value over time, and the two facts a monitor keeps of them:
the last value, and when it last moved. -/
namespace Library

structure Reading (V T : Type*) where
  time : T
  value : V

namespace History

variable {V T : Type*} (moved : V → V → Prop) [DecidableRel moved]

/-- The entry kept after one more reading. The first reading is no move. -/
def note (entry : Option (V × Option T)) (reading : Reading V T) : V × Option T :=
  (reading.value,
    match entry with
    | none => none
    | some (prev, last) => if moved prev reading.value then some reading.time else last)

/-- The entry kept of all readings so far, oldest first. -/
def summary (readings : List (Reading V T)) : Option (V × Option T) :=
  readings.foldl (fun entry reading => some (note moved entry reading)) none

/-- Some reading taken at `time` differs by a move from the reading before it. -/
def MovedAt (readings : List (Reading V T)) (time : T) : Prop :=
  ∃ j prev next, readings[j]? = some prev ∧ readings[j + 1]? = some next ∧
    moved prev.value next.value ∧ next.time = time

theorem summary_append_singleton (readings : List (Reading V T)) (last : Reading V T) :
    summary moved (readings ++ [last]) = some (note moved (summary moved readings) last) := by
  simp [summary]

theorem summary_value (readings : List (Reading V T)) :
    (summary moved readings).map Prod.fst = readings.getLast?.map Reading.value := by
  cases readings using List.reverseRecOn with
  | nil => rfl
  | append_singleton readings last => simp [summary_append_singleton, note]

omit [DecidableRel moved] in
theorem movedAt_append_singleton (readings : List (Reading V T)) (last : Reading V T) (time : T) :
    MovedAt moved (readings ++ [last]) time ↔ MovedAt moved readings time ∨
      ∃ prev, readings.getLast? = some prev ∧ moved prev.value last.value ∧ last.time = time := by
  constructor
  · rintro ⟨j, prev, next, hPrev, hNext, hMoved, hTime⟩
    rcases Nat.lt_or_ge (j + 1) readings.length with hInside | hEnd
    · rw [List.getElem?_append_left (by omega)] at hPrev
      rw [List.getElem?_append_left hInside] at hNext
      exact .inl ⟨j, prev, next, hPrev, hNext, hMoved, hTime⟩
    · have hLength : j + 1 < (readings ++ [last]).length :=
        (List.getElem?_eq_some_iff.mp hNext).1
      have hPlace : j + 1 = readings.length := by
        simp only [List.length_append, List.length_singleton] at hLength
        omega
      rw [List.getElem?_append_left (by omega)] at hPrev
      rw [hPlace, List.getElem?_concat_length] at hNext
      cases hNext
      refine .inr ⟨prev, ?_, hMoved, hTime⟩
      rw [List.getLast?_eq_getElem?, ← hPrev]
      congr 1
      omega
  · rintro (⟨j, prev, next, hPrev, hNext, hMoved, hTime⟩ | ⟨prev, hPrev, hMoved, hTime⟩)
    · refine ⟨j, prev, next, ?_, ?_, hMoved, hTime⟩
      · rw [List.getElem?_append_left (List.getElem?_eq_some_iff.mp hPrev).1, hPrev]
      · rw [List.getElem?_append_left (List.getElem?_eq_some_iff.mp hNext).1, hNext]
    · rw [List.getLast?_eq_getElem?] at hPrev
      have hLength := (List.getElem?_eq_some_iff.mp hPrev).1
      refine ⟨readings.length - 1, prev, last, ?_, ?_, hMoved, hTime⟩
      · rw [List.getElem?_append_left hLength, hPrev]
      · rw [Nat.sub_add_cancel (by omega), List.getElem?_concat_length]

/-- What the kept time read: when it is there, the value moved then and not
later; when it is not, the value never moved. -/
def Latest [LE T] (readings : List (Reading V T)) : Option T → Prop
  | some last => MovedAt moved readings last ∧ ∀ time, MovedAt moved readings time → time ≤ last
  | none => ∀ time, ¬MovedAt moved readings time

/-- As long as time does not run backwards, the entry keeps the latest move. -/
theorem summary_latest [LinearOrder T] {readings : List (Reading V T)}
    (hTimes : readings.Pairwise (fun first second => first.time ≤ second.time)) {value : V}
    {last : Option T} (h : summary moved readings = some (value, last)) :
    Latest moved readings last := by
  induction readings using List.reverseRecOn generalizing value last with
  | nil => simp [summary] at h
  | append_singleton readings final ih =>
      obtain ⟨hBefore, _, hFinal⟩ := List.pairwise_append.mp hTimes
      have hOld : ∀ time, MovedAt moved readings time → time ≤ final.time := by
        rintro time ⟨j, prev, next, _, hNext, _, rfl⟩
        exact hFinal next (List.mem_of_getElem? hNext) final (by simp)
      rw [summary_append_singleton] at h
      cases hKept : summary moved readings with
      | none =>
          have hEmpty : readings.getLast? = none := by
            have hValue := summary_value moved readings
            rw [hKept] at hValue
            exact Option.map_eq_none_iff.mp hValue.symm
          have hLast : none = last := by simpa [note, hKept] using congrArg (Option.map Prod.snd) h
          subst hLast
          intro time hMoved
          rw [movedAt_append_singleton, hEmpty] at hMoved
          simp only [reduceCtorEq, false_and, exists_false, or_false] at hMoved
          obtain ⟨j, prev, _, hPrev, _⟩ := hMoved
          simp [List.getLast?_eq_none_iff.mp hEmpty] at hPrev
      | some kept =>
          obtain ⟨prev, before⟩ := kept
          obtain ⟨reading, hLast, hPrev⟩ : ∃ reading, readings.getLast? = some reading ∧
              reading.value = prev := by
            have hValue := summary_value moved readings
            rw [hKept] at hValue
            exact Option.map_eq_some_iff.mp hValue.symm
          have hLatest := ih hBefore hKept
          have hSplit : ∀ time, MovedAt moved (readings ++ [final]) time ↔
              MovedAt moved readings time ∨ moved prev final.value ∧ final.time = time := by
            intro time
            rw [movedAt_append_singleton, hLast]
            simp [hPrev]
          have hNote : (if moved prev final.value then some final.time else before) = last := by
            simpa [note, hKept] using congrArg (Option.map Prod.snd) h
          by_cases hMoved : moved prev final.value
          · rw [if_pos hMoved] at hNote
            subst hNote
            refine ⟨(hSplit _).mpr (.inr ⟨hMoved, rfl⟩), fun time hTime => ?_⟩
            rcases (hSplit time).mp hTime with hEarlier | ⟨_, rfl⟩
            · exact hOld time hEarlier
            · exact le_refl _
          · rw [if_neg hMoved] at hNote
            subst hNote
            have hSame : ∀ time, MovedAt moved (readings ++ [final]) time ↔
                MovedAt moved readings time := by
              intro time
              rw [hSplit]
              simp [hMoved]
            cases before with
            | none => exact fun time hTime => hLatest time ((hSame time).mp hTime)
            | some time =>
                exact ⟨(hSame time).mpr hLatest.1, fun other hOther =>
                  hLatest.2 other ((hSame other).mp hOther)⟩

/-- What is read off the last of some events that it can be read off. -/
def latest {E A : Type*} (read : E → Option A) (events : List E) : Option A :=
  (events.filterMap read).getLast?

theorem latest_append_singleton {E A : Type*} (read : E → Option A) (events : List E) (event : E) :
    latest read (events ++ [event]) = (read event).or (latest read events) := by
  cases h : read event with
  | none => simp [latest, h]
  | some value => simp [latest, h]

end History
end Library
