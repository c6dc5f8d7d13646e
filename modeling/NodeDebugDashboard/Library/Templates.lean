import Mathlib.Data.List.Infix

/-! String functions of Go templates, and where a word can lie in a concatenation. -/
namespace Library.Templates

section Words

variable {α : Type*}

/-- A word in a concatenation that is not in the left part is in the right part, or
lies across the border. -/
theorem infix_append_cases {word xs ys : List α} (h : word <:+: xs ++ ys) (hLeft : ¬ word <:+: xs) :
    word <:+: ys ∨ ∃ front back, front ≠ [] ∧ back ≠ [] ∧ word = front ++ back ∧ back <+: ys := by
  obtain ⟨before, after, hWhole⟩ := h
  rw [List.append_assoc] at hWhole
  rcases List.append_eq_append_iff.mp hWhole with ⟨gap, rfl, hRest⟩ | ⟨gap, rfl, rfl⟩
  · rcases List.append_eq_append_iff.mp hRest with ⟨rest, rfl, -⟩ | ⟨back, rfl, hBack⟩
    · exact absurd ⟨before, rest, by simp⟩ hLeft
    · rcases eq_or_ne gap [] with rfl | hGap
      · exact .inl ⟨[], after, by simpa using hBack.symm⟩
      · rcases eq_or_ne back [] with rfl | hNonempty
        · exact absurd ⟨before, [], by simp⟩ hLeft
        · exact .inr ⟨gap, back, hGap, hNonempty, rfl, ⟨after, hBack.symm⟩⟩
  · exact .inl ⟨gap, after, by simp⟩

variable [DecidableEq α]

/-- Without the suffix, if it is one. -/
def dropSuffix (suffix text : List α) : List α :=
  if suffix <:+ text then text.take (text.length - suffix.length) else text

theorem dropSuffix_append {suffix right : List α} (left : List α)
    (hLength : suffix.length ≤ right.length) :
    dropSuffix suffix (left ++ right) = left ++ dropSuffix suffix right := by
  have hSame : suffix <:+ left ++ right ↔ suffix <:+ right := by
    constructor
    · intro h
      exact List.suffix_of_suffix_length_le h (List.suffix_append _ _) hLength
    · exact List.suffix_append_of_suffix
  unfold dropSuffix
  by_cases hSuffix : suffix <:+ right
  · rw [if_pos hSuffix, if_pos (hSame.mpr hSuffix), List.take_append,
      List.take_of_length_le (by simp; omega)]
    congr 2
    simp
    omega
  · rw [if_neg hSuffix, if_neg (mt hSame.mp hSuffix)]

theorem dropSuffix_of_getLast?_ne {text : List α} {c : α} (h : text.getLast? ≠ some c) :
    dropSuffix [c] text = text := by
  unfold dropSuffix
  rw [if_neg]
  rintro ⟨front, rfl⟩
  simp at h

end Words

/-- `trunc n`, on text whose characters are single bytes. -/
def trunc (n : Nat) (text : String) : String := String.ofList (text.toList.take n)

/-- `trimSuffix` -/
def trimSuffix (suffix text : String) : String :=
  String.ofList (dropSuffix suffix.toList text.toList)

/-- `contains` -/
def contains (word text : String) : Bool := word.toList <:+: text.toList

/-- `default` on strings. -/
def defaultTo (fallback text : String) : String := if text = "" then fallback else text

@[simp] theorem toList_trunc (n : Nat) (text : String) :
    (trunc n text).toList = text.toList.take n :=
  String.toList_ofList

@[simp] theorem toList_trimSuffix (suffix text : String) :
    (trimSuffix suffix text).toList = dropSuffix suffix.toList text.toList := String.toList_ofList

end Library.Templates
