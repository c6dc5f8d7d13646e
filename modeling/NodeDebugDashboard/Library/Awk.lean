import Mathlib.Data.List.Basic
import Mathlib.Data.Rat.Defs

/-! What `awk` does with its input and its variables: records and fields, the escapes in the
value of a `-v`, and the comparison of two texts. A character stands for a byte. -/
namespace Library.Awk

/-- What implementations do in their own way. -/
structure Interpreter where
  /-- The value of a text that looks like a number. -/
  number? : List Char → Option ℚ
  number_chars : ∀ text value, number? text = some value → text ≠ [] ∧ ':' ∉ text ∧ '\\' ∉ text
  /-- Whether an escape that the language does not know, and that begins with these
  characters, goes on with the next one, such as the digits after an `x`. -/
  takes : List Char → Char → Bool
  /-- What a backslash and the characters of such an escape stand for. -/
  other : List Char → List Char
  other_length : ∀ escape, (other escape).length ≤ escape.length + 1

def isBlank (c : Char) : Bool := c = ' ' || c = '\t'

/-- The records of a text: its lines. -/
def records (text : List Char) : List (List Char) :=
  let pieces := text.splitOn '\n'
  if pieces.getLast? = some [] then pieces.dropLast else pieces

/-- `$1`, `$2` and so on. -/
def fields (record : List Char) : List (List Char) := (record.splitOnP isBlank).filter (· ≠ [])

/-- `$n` -/
def field (fields : List (List Char)) (n : Nat) : List Char := fields.getD (n - 1) []

def isOctal (c : Char) : Bool := '0' ≤ c && c ≤ '7'

def digit (c : Char) : Nat := c.toNat - '0'.toNat

/-- The characters with an escape of their own. -/
def escapes : List (Char × Char) :=
  [('"', '"'), ('/', '/'), ('\\', '\\'), ('a', '\x07'), ('b', '\x08'), ('f', '\x0c'),
    ('n', '\n'), ('r', '\r'), ('t', '\t'), ('v', '\x0b')]

/-- What has been read of an escape. -/
inductive Pending where
  | none
  | backslash
  /-- So many octal digits, and their value. -/
  | octal (digits value : Nat)
  /-- These characters of an escape that the language does not know. -/
  | other (escape : List Char)

variable (awk : Interpreter)

/-- The next state, and the characters that are settled. -/
def Pending.step : Pending → Char → Pending × List Char
  | none, c => if c = '\\' then (backslash, []) else (none, [c])
  | backslash, c =>
      if isOctal c then (octal 1 (digit c), [])
      else
        match escapes.find? fun entry => entry.1 = c with
        | some entry => (none, [entry.2])
        | Option.none => (other [c], [])
  | octal digits value, c =>
      if digits < 3 ∧ isOctal c = true then (octal (digits + 1) (8 * value + digit c), [])
      else if c = '\\' then (backslash, [Char.ofNat (value % 256)])
      else (none, [Char.ofNat (value % 256), c])
  | other escape, c =>
      if awk.takes escape c then (other (escape ++ [c]), [])
      else if c = '\\' then (backslash, awk.other escape)
      else (none, awk.other escape ++ [c])

def Pending.finish : Pending → List Char
  | none => []
  | backslash => ['\\']
  | octal _ value => [Char.ofNat (value % 256)]
  | other escape => awk.other escape

def valueFrom (pending : Pending) : List Char → List Char
  | [] => pending.finish awk
  | c :: rest => (pending.step awk c).2 ++ valueFrom (pending.step awk c).1 rest

/-- The value of a variable that `-v` sets to the text. -/
def value (text : List Char) : List Char := valueFrom awk .none text

/-- `left == right`: as numbers, if both look like one. -/
def equal (left right : List Char) : Bool :=
  match awk.number? left, awk.number? right with
  | some first, some second => first = second
  | _, _ => left = right

/-- How many characters an escape can still become. -/
def Pending.size : Pending → Nat
  | none => 0
  | other escape => escape.length + 1
  | _ => 1

variable {awk}

theorem Pending.length_step (pending : Pending) (c : Char) :
    (pending.step awk c).2.length + (pending.step awk c).1.size ≤ pending.size + 1 := by
  cases pending with
  | none =>
      simp only [step]
      split_ifs <;> simp [size]
  | backslash =>
      simp only [step]
      split_ifs
      · simp [size]
      · split <;> simp [size]
  | octal digits value =>
      simp only [step]
      split_ifs <;> simp [size]
  | other escape =>
      have hLength := awk.other_length escape
      simp only [step]
      split_ifs
      · simp [size]
      · simpa [size] using hLength
      · simpa [size] using hLength

theorem length_valueFrom_le (pending : Pending) (text : List Char) :
    (valueFrom awk pending text).length ≤ text.length + pending.size := by
  induction text generalizing pending with
  | nil =>
      cases pending with
      | other escape =>
          simpa [valueFrom, Pending.finish, Pending.size] using awk.other_length escape
      | _ => simp [valueFrom, Pending.finish, Pending.size]
  | cons c rest ih =>
      have hStep : (pending.step awk c).2.length + (pending.step awk c).1.size ≤ pending.size + 1 :=
        pending.length_step c
      have hRest := ih (pending.step awk c).1
      rw [valueFrom, List.length_append, List.length_cons]
      omega

/-- Escapes make a value shorter. -/
theorem length_value_le (text : List Char) : (value awk text).length ≤ text.length :=
  length_valueFrom_le .none text

theorem value_of_plain {text : List Char} (h : '\\' ∉ text) : value awk text = text := by
  induction text with
  | nil => rfl
  | cons c rest ih =>
      rw [List.mem_cons, not_or] at h
      have hRest : valueFrom awk .none rest = rest := ih h.2
      rw [value, valueFrom, Pending.step, if_neg (Ne.symm h.1), hRest, List.singleton_append]

theorem equal_refl (text : List Char) : equal awk text text = true := by
  rw [equal]
  cases awk.number? text <;> simp

theorem equal_comm (left right : List Char) : equal awk left right = equal awk right left := by
  rw [equal, equal]
  cases awk.number? left <;> cases awk.number? right <;> simp [eq_comm]

/-- A text with a character that no number has is compared as a text. -/
theorem equal_of_not_number {left : List Char} (h : left = [] ∨ ':' ∈ left ∨ '\\' ∈ left)
    (right : List Char) :
    equal awk left right = decide (left = right) := by
  have hNone : awk.number? left = none := by
    cases hNumber : awk.number? left with
    | none => rfl
    | some value =>
        obtain ⟨hSome, hColon, hBackslash⟩ := awk.number_chars left value hNumber
        rcases h with hNil | hMem | hMem
        · exact absurd hNil hSome
        · exact absurd hMem hColon
        · exact absurd hMem hBackslash
  rw [equal, hNone]

theorem splitOnP_of_not_blank {piece : List Char} (h : ∀ c ∈ piece, isBlank c = false) :
    piece.splitOnP isBlank = [piece] :=
  List.splitOnP_eq_singleton h

/-- The fields of a line are what stands between its blanks. -/
theorem fields_intercalate {pieces : List (List Char)}
    (h : ∀ piece ∈ pieces, ∀ c ∈ piece, isBlank c = false) :
    fields ([' '].intercalate pieces) = pieces.filter (· ≠ []) := by
  have hSplit : pieces ≠ [] → ([' '].intercalate pieces).splitOnP isBlank = pieces := by
    induction pieces with
    | nil => exact fun hSome => absurd rfl hSome
    | cons piece rest ih =>
        intro _
        rw [List.forall_mem_cons] at h
        cases rest with
        | nil => rw [List.intercalate_singleton, splitOnP_of_not_blank h.1]
        | cons next rest =>
            rw [List.intercalate_cons_cons, List.append_assoc, List.singleton_append,
              List.splitOnP_append_cons _ _ (by decide), splitOnP_of_not_blank h.1,
              ih h.2 (by simp), List.singleton_append]
  by_cases hSome : pieces = []
  · rw [hSome]
    rfl
  · rw [fields, hSplit hSome]

theorem notMem_intercalate {c : Char} (hSpace : c ≠ ' ') {pieces : List (List Char)}
    (h : ∀ piece ∈ pieces, c ∉ piece) :
    c ∉ [' '].intercalate pieces := by
  induction pieces with
  | nil => exact List.not_mem_nil
  | cons piece rest ih =>
      rw [List.forall_mem_cons] at h
      cases rest with
      | nil => simpa using h.1
      | cons next rest =>
          rw [List.intercalate_cons_cons, List.append_assoc, List.mem_append, List.mem_append,
            List.mem_singleton]
          rintro (hPiece | hEq | hRest)
          · exact h.1 hPiece
          · exact hSpace hEq
          · exact ih h.2 hRest

/-- The records of lines that all end. -/
theorem records_lines {lines : List (List Char)} (h : ∀ line ∈ lines, '\n' ∉ line) :
    records (lines.flatMap (· ++ ['\n'])) = lines := by
  have hSplit : (lines.flatMap (· ++ ['\n'])).splitOn '\n' = lines ++ [[]] := by
    induction lines with
    | nil => rfl
    | cons line rest ih =>
        rw [List.forall_mem_cons] at h
        rw [List.flatMap_cons, List.append_assoc, List.singleton_append,
          List.splitOn_append_cons_self, List.splitOn_eq_singleton h.1, ih h.2]
        rfl
  rw [records, hSplit]
  simp

end Library.Awk
