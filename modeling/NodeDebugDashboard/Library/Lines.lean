import Mathlib.Data.List.TakeWhile

/-! The output of a process as a stream of lines, and how far a reader has come. -/
namespace Library.Lines

def newline : UInt8 := 10

/-- The lines of the output, each with its end. The last one may lack it. -/
def lines : List UInt8 → List (List UInt8)
  | [] => []
  | b :: rest =>
      if b = newline then [b] :: lines rest
      else
        match lines rest with
        | [] => [[b]]
        | first :: others => (b :: first) :: others

def Complete (line : List UInt8) : Prop := ∃ text, line = text ++ [newline] ∧ newline ∉ text

theorem lines_complete_append {line : List UInt8} (h : Complete line) (rest : List UInt8) :
    lines (line ++ rest) = line :: lines rest := by
  obtain ⟨text, rfl, hText⟩ := h
  induction text with
  | nil => simp [lines]
  | cons b text ih =>
      have hHead : b ≠ newline := fun hSame => hText (hSame ▸ List.mem_cons_self)
      have hTail := ih fun hMem => hText (List.mem_cons_of_mem _ hMem)
      rw [List.cons_append, List.cons_append, lines, if_neg hHead, hTail]

theorem lines_flatten_append {taken : List (List UInt8)} (h : ∀ line ∈ taken, Complete line)
    (rest : List UInt8) :
    lines (taken.flatten ++ rest) = taken ++ lines rest := by
  induction taken with
  | nil => rfl
  | cons line taken ih =>
      rw [List.flatten_cons, List.append_assoc, lines_complete_append (h line List.mem_cons_self),
        ih fun later hLater => h later (List.mem_cons_of_mem _ hLater), List.cons_append]

theorem lines_eq_singleton {line : List UInt8} (h : newline ∉ line) (hNe : line ≠ []) :
    lines line = [line] := by
  induction line with
  | nil => exact absurd rfl hNe
  | cons b rest ih =>
      have hHead : b ≠ newline := fun hSame => h (hSame ▸ List.mem_cons_self)
      rw [lines, if_neg hHead]
      cases rest with
      | nil => rfl
      | cons c rest => rw [ih (fun hMem => h (List.mem_cons_of_mem _ hMem)) (List.cons_ne_nil _ _)]

/-- What was written, what of it was not read yet, and whether that is all. -/
structure Stream where
  written : List UInt8 := []
  unread : List UInt8 := []
  closed : Bool := false

namespace Stream

def write (stream : Stream) (bytes : List UInt8) : Stream :=
  { stream with written := stream.written ++ bytes, unread := stream.unread ++ bytes }

def close (stream : Stream) : Stream := { stream with closed := true }

/-- The next line, which is empty at the end of the output; `none` while it has to be
waited for. -/
def readline (stream : Stream) : Option (List UInt8 × Stream) :=
  if newline ∈ stream.unread then
    some (stream.unread.takeWhile (· ≠ newline) ++ [newline],
      { stream with unread := (stream.unread.dropWhile (· ≠ newline)).drop 1 })
  else if stream.closed then some (stream.unread, { stream with unread := [] })
  else none

/-- These lines were read. -/
structure Read (stream : Stream) (taken : List (List UInt8)) : Prop where
  text : stream.written = taken.flatten ++ stream.unread
  lines : lines stream.written = taken ++ lines stream.unread
  complete : stream.closed = false → ∀ line ∈ taken, Complete line

variable {stream : Stream} {taken : List (List UInt8)}

theorem Read.new : ({} : Stream).Read [] := ⟨rfl, rfl, fun _ _ hMem => by cases hMem⟩

theorem Read.write (h : stream.Read taken) (hOpen : stream.closed = false) (bytes : List UInt8) :
    (stream.write bytes).Read taken where
  text := by rw [Stream.write, h.text, List.append_assoc]
  lines := by
    rw [Stream.write, h.text, List.append_assoc]
    exact lines_flatten_append (h.complete hOpen) _
  complete := h.complete

theorem Read.close (h : stream.Read taken) : stream.close.Read taken :=
  ⟨h.text, h.lines, fun hOpen => by cases hOpen⟩

theorem takeWhile_append_dropWhile_newline {unread : List UInt8} (h : newline ∈ unread) :
    unread = unread.takeWhile (· ≠ newline) ++ [newline] ++
    (unread.dropWhile (· ≠ newline)).drop 1 := by
  induction unread with
  | nil => cases h
  | cons b rest ih =>
      by_cases hHead : b = newline
      · simp [hHead]
      · have hRest := ih ((List.mem_cons.mp h).resolve_left (Ne.symm hHead))
        simpa [hHead] using hRest

/-- A line that is read is the next one. -/
theorem Read.readline {line : List UInt8} {next : Stream} (h : stream.Read taken)
    (hRead : stream.readline = some (line, next)) (hNe : line ≠ []) :
    next.Read (taken ++ [line]) := by
  unfold Stream.readline at hRead
  split at hRead
  case isTrue hMem =>
    obtain ⟨rfl, rfl⟩ := Prod.mk.inj (Option.some.inj hRead)
    have hUnread := takeWhile_append_dropWhile_newline hMem
    have hComplete : Complete (stream.unread.takeWhile (· ≠ newline) ++ [newline]) := by
      refine ⟨_, rfl, fun hIn => ?_⟩
      simpa using List.mem_takeWhile_imp hIn
    constructor
    · change stream.written = _
      rw [h.text, List.flatten_append, List.flatten_singleton, List.append_assoc, ← hUnread]
    · change Lines.lines stream.written = _
      rw [h.lines, List.append_assoc]
      congr 1
      exact (congrArg Lines.lines hUnread).trans (lines_complete_append hComplete _)
    · intro hOpen later hLater
      rcases List.mem_append.mp hLater with hOld | hNew
      · exact h.complete hOpen later hOld
      · rwa [List.mem_singleton.mp hNew]
  case isFalse hPartial =>
    split at hRead
    case isTrue hClosed =>
      obtain ⟨rfl, rfl⟩ := Prod.mk.inj (Option.some.inj hRead)
      refine ⟨?_, ?_, fun hOpen => ?_⟩
      · simpa using h.text
      · change Lines.lines stream.written = _
        rw [h.lines, lines_eq_singleton hPartial hNe]
        simp [Lines.lines]
      · rw [show stream.closed = false from hOpen] at hClosed
        cases hClosed
    case isFalse => cases hRead

/-- Nothing that was read is lost, repeated or out of order. -/
theorem Read.taken_lines (h : stream.Read taken) : taken <+: Lines.lines stream.written :=
  ⟨_, h.lines.symm⟩

end Stream
end Library.Lines
