import Mathlib.Data.List.TakeWhile

/-! Trimming a list at both ends. -/
namespace Library

variable {α : Type*}

/-- Without the blanks at both ends. -/
def stripBy (blank : α → Bool) (text : List α) : List α :=
  ((text.dropWhile blank).reverse.dropWhile blank).reverse

variable {blank : α → Bool}

theorem dropWhile_append_of_forall {left right : List α} (h : ∀ c ∈ left, blank c) :
    (left ++ right).dropWhile blank = right.dropWhile blank := by
  rw [List.dropWhile_append, List.dropWhile_eq_nil_iff.mpr h]
  rfl

theorem dropWhile_append_of_word {word right : List α} (hWord : ∀ c ∈ word, blank c = false)
    (hNonempty : word ≠ []) : (word ++ right).dropWhile blank = word ++ right := by
  obtain ⟨first, rest, rfl⟩ := List.exists_cons_of_ne_nil hNonempty
  rw [List.cons_append]
  exact List.dropWhile_cons_of_neg (by simp [hWord first])

/-- What follows the blanks does not start with one of them. -/
theorem dropWhile_dropWhile {some : α → Bool} (h : ∀ c, some c → blank c) (text : List α) :
    (text.dropWhile blank).dropWhile some = text.dropWhile blank := by
  induction text with
  | nil => rfl
  | cons c rest ih =>
      by_cases hBlank : blank c
      · rw [List.dropWhile_cons_of_pos hBlank]
        exact ih
      · rw [List.dropWhile_cons_of_neg hBlank]
        exact List.dropWhile_cons_of_neg (mt (h c) hBlank)

/-- A word between blanks. -/
theorem stripBy_append {left word right : List α} (hLeft : ∀ c ∈ left, blank c)
    (hWord : ∀ c ∈ word, blank c = false) (hRight : ∀ c ∈ right, blank c) :
    stripBy blank (left ++ word ++ right) = word := by
  rw [stripBy, List.append_assoc, dropWhile_append_of_forall hLeft]
  rcases eq_or_ne word [] with rfl | hNonempty
  · rw [List.nil_append, List.dropWhile_eq_nil_iff.mpr hRight]
    rfl
  · have hBack : ∀ c ∈ right.reverse, blank c := fun c hMem => hRight c (List.mem_reverse.mp hMem)
    have hReversed : ∀ c ∈ word.reverse, blank c = false :=
      fun c hMem => hWord c (List.mem_reverse.mp hMem)
    have hEnd : word.reverse.dropWhile blank = word.reverse := by
      simpa using @dropWhile_append_of_word α blank word.reverse [] hReversed
        (by simpa using hNonempty)
    rw [dropWhile_append_of_word hWord hNonempty, List.reverse_append,
      dropWhile_append_of_forall hBack, hEnd, List.reverse_reverse]

/-- What is trimmed off is blank. -/
theorem exists_stripBy (blank : α → Bool) (text : List α) :
    ∃ left right, text = left ++ stripBy blank text ++ right ∧
      (∀ c ∈ left, blank c) ∧ ∀ c ∈ right, blank c := by
  have hBlank : ∀ text : List α, ∀ c ∈ text.takeWhile blank, blank c :=
    fun _ _ hMem => List.mem_takeWhile_imp hMem
  refine ⟨text.takeWhile blank, ((text.dropWhile blank).reverse.takeWhile blank).reverse,
    ?_, hBlank _, ?_⟩
  · have hBack := List.takeWhile_append_dropWhile (p := blank) (l := (text.dropWhile blank).reverse)
    have hReversed := congrArg List.reverse hBack
    rw [List.reverse_append, List.reverse_reverse] at hReversed
    rw [List.append_assoc, stripBy, hReversed, List.takeWhile_append_dropWhile]
  · intro c hMem
    exact hBlank _ c (List.mem_reverse.mp hMem)

theorem stripBy_eq_nil_iff (text : List α) : stripBy blank text = [] ↔ ∀ c ∈ text, blank c := by
  constructor
  · intro hNil
    obtain ⟨left, right, hText, hLeft, hRight⟩ := exists_stripBy blank text
    rw [hText, hNil]
    intro c hMem
    rcases List.mem_append.mp hMem with hFront | hBack
    · exact hLeft c (by simpa using hFront)
    · exact hRight c hBack
  · intro hAll
    simpa using @stripBy_append α blank text [] [] hAll nofun nofun

/-- Trimming does not see a change that keeps the blanks. -/
theorem stripBy_map {change : α → α} (h : ∀ c, blank (change c) = blank c) (text : List α) :
    stripBy blank (text.map change) = (stripBy blank text).map change := by
  have hSame : blank ∘ change = blank := funext h
  simp only [stripBy, List.dropWhile_map, hSame, ← List.map_reverse]

end Library
