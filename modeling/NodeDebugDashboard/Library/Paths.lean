import Mathlib.Data.List.TakeWhile

/-! Canonical paths, as `os.path.realpath` returns them, and what lies below one. -/
namespace Library.Paths

/-- An absolute path by its parts. -/
structure RealPath where
  parts : List String
  canonical : ∀ part ∈ parts, part ∉ ["", ".", ".."] ∧ '/' ∉ part.toList
  deriving DecidableEq

/-- The parts, each behind a slash. -/
def joined (parts : List String) : List Char := parts.flatMap fun part => '/' :: part.toList

def RealPath.text (path : RealPath) : String :=
  if path.parts = [] then "/" else String.ofList (joined path.parts)

/-- `os.path.dirname` -/
def dirname (path : List Char) : List Char :=
  let head := (path.reverse.dropWhile (· ≠ '/')).reverse
  if head.all (· = '/') then head else (head.reverse.dropWhile (· = '/')).reverse

/-- A path strictly below another one. -/
def RealPath.Below (root path : RealPath) : Prop :=
  ∃ part rest, path.parts = root.parts ++ part :: rest

/-- Up to the next slash both texts are the same part. -/
theorem part_eq {first second : List Char} {rest later : List Char} (hFirst : '/' ∉ first)
    (hSecond : '/' ∉ second) (hLater : later = [] ∨ ∃ more, later = '/' :: more)
    (h : first ++ '/' :: rest <+: second ++ later) : first = second ∧ '/' :: rest <+: later := by
  induction first generalizing second with
  | nil =>
      cases second with
      | nil => exact ⟨rfl, h⟩
      | cons c second =>
          obtain ⟨rfl, -⟩ := List.cons_prefix_cons.mp h
          exact absurd List.mem_cons_self hSecond
  | cons c first ih =>
      cases second with
      | nil =>
          rcases hLater with rfl | ⟨more, rfl⟩
          · exact absurd (List.prefix_nil.mp h) (List.cons_ne_nil _ _)
          · obtain ⟨rfl, -⟩ := List.cons_prefix_cons.mp h
            exact absurd List.mem_cons_self hFirst
      | cons d second =>
          obtain ⟨rfl, hRest⟩ := List.cons_prefix_cons.mp h
          obtain ⟨rfl, hAfter⟩ := ih (fun hMem => hFirst (List.mem_cons_of_mem _ hMem))
            (fun hMem => hSecond (List.mem_cons_of_mem _ hMem)) hRest
          exact ⟨rfl, hAfter⟩

theorem joined_start (parts : List String) :
    joined parts = [] ∨ ∃ more, joined parts = '/' :: more := by
  cases parts with
  | nil => exact .inl rfl
  | cons part rest => exact .inr ⟨part.toList ++ joined rest, rfl⟩

/-- A text that goes on behind all the parts and a slash has these parts and one more. -/
theorem exists_of_joined_start {parts others : List String}
    (hParts : ∀ part ∈ parts, '/' ∉ part.toList) (hOthers : ∀ part ∈ others, '/' ∉ part.toList)
    (h : joined parts ++ ['/'] <+: joined others) :
    ∃ part rest, others = parts ++ part :: rest := by
  induction parts generalizing others with
  | nil =>
      cases others with
      | nil => exact absurd (List.prefix_nil.mp h) (List.cons_ne_nil _ _)
      | cons other others => exact ⟨other, others, rfl⟩
  | cons part parts ih =>
      cases others with
      | nil => exact absurd (List.prefix_nil.mp h) (List.cons_ne_nil _ _)
      | cons other others =>
          obtain ⟨-, hText⟩ := List.cons_prefix_cons.mp h
          have hNext : ∃ rest, joined parts ++ ['/'] = '/' :: rest := by
            rcases joined_start parts with hNil | ⟨more, hMore⟩
            · exact ⟨[], by rw [hNil]; rfl⟩
            · exact ⟨more ++ ['/'], by rw [hMore]; rfl⟩
          obtain ⟨rest, hRest⟩ := hNext
          change (part.toList ++ joined parts) ++ ['/'] <+: other.toList ++ joined others at hText
          rw [List.append_assoc, hRest] at hText
          obtain ⟨hSame, hLater⟩ := part_eq (hParts part List.mem_cons_self)
            (hOthers other List.mem_cons_self) (joined_start others) hText
          rw [← hRest] at hLater
          obtain ⟨next, later, rfl⟩ := ih (fun p hMem => hParts p (List.mem_cons_of_mem _ hMem))
            (fun p hMem => hOthers p (List.mem_cons_of_mem _ hMem)) hLater
          exact ⟨next, later, by rw [String.toList_inj.mp hSame]; rfl⟩

theorem RealPath.toList_text (path : RealPath) :
    path.text.toList = if path.parts = [] then ['/'] else joined path.parts := by
  unfold RealPath.text
  split
  · rfl
  · exact String.toList_ofList

/-- A path whose text starts with another one and a slash lies below it. -/
theorem RealPath.below_of_start {root path : RealPath}
    (h : (root.text ++ "/").toList <+: path.text.toList) : root.Below path := by
  have hSlash : "/".toList = ['/'] := rfl
  rw [String.toList_append, hSlash, root.toList_text, path.toList_text] at h
  split at h
  case isTrue =>
    -- No text has two slashes behind the root directory.
    split at h
    case isTrue => exact absurd h (by decide)
    case isFalse hParts =>
      obtain ⟨first, others, hFirst⟩ := List.exists_cons_of_ne_nil hParts
      have hPlain := path.canonical first (by simp [hFirst])
      rw [hFirst] at h
      obtain ⟨-, hText⟩ := List.cons_prefix_cons.mp h
      change ['/'] <+: first.toList ++ joined others at hText
      cases hChars : first.toList with
      | nil => exact absurd (String.toList_eq_nil_iff.mp hChars) fun hEmpty =>
            hPlain.1 (by simp [hEmpty])
      | cons c chars =>
          rw [hChars] at hText hPlain
          obtain ⟨rfl, -⟩ := List.cons_prefix_cons.mp hText
          exact absurd List.mem_cons_self hPlain.2
  case isFalse hRoot =>
    split at h
    case isTrue =>
      obtain ⟨first, others, hFirst⟩ := List.exists_cons_of_ne_nil hRoot
      have hLength := h.length_le
      simp [hFirst, joined] at hLength
    case isFalse =>
      exact exists_of_joined_start (fun part hMem => (root.canonical part hMem).2)
        (fun part hMem => (path.canonical part hMem).2) h

end Library.Paths
