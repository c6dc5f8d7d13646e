import Mathlib.Data.List.Basic
import NodeDebugDashboard.Library.Bytes

/-! Base64 as Python's `base64` module reads and writes it. The reader skips
characters outside the alphabet. -/
namespace Library.Text

def base64Alphabet : List Char :=
  "ABCDEFGHIJKLMNOPQRSTUVWXYZabcdefghijklmnopqrstuvwxyz0123456789+/".toList

/-- The six bits that a character stands for. -/
def sextet (c : Char) : Option Nat := base64Alphabet.idxOf? c

def base64Char (n : Nat) : Char := base64Alphabet.getD n '='

/-- `binascii.a2b_base64`, with the position in the group of four, the bits
left over, and the padding characters seen since the last data character.
Padding that completes a group ends the data. -/
def decodeGroups : Nat → Nat → Nat → List Char → Option Bytes
  | position, _, _, [] => if position = 0 then some [] else none
  | position, left, pads, c :: rest =>
      if c = '=' then
        if 2 ≤ position then
          if 4 ≤ position + (pads + 1) then some [] else decodeGroups position left (pads + 1) rest
        else decodeGroups position left pads rest
      else
        match sextet c with
        | none => decodeGroups position left pads rest
        | some bits =>
            match position with
            | 0 => decodeGroups 1 bits 0 rest
            | 1 => (decodeGroups 2 (bits % 16) 0 rest).map (UInt8.ofNat (left * 4 + bits / 16) :: ·)
            | 2 => (decodeGroups 3 (bits % 4) 0 rest).map (UInt8.ofNat (left * 16 + bits / 4) :: ·)
            | _ => (decodeGroups 0 0 0 rest).map (UInt8.ofNat (left * 64 + bits) :: ·)

/-- `base64.b64decode(text)`; `none` when it raises `ValueError`. -/
def b64decode (text : List Char) : Option Bytes :=
  if text.all fun c => c.toNat < 128 then decodeGroups 0 0 0 text else none

/-- `base64.b64encode(data)` -/
def b64encode : Bytes → List Char
  | a :: b :: c :: rest =>
      base64Char (a.toNat / 4) :: base64Char (a.toNat % 4 * 16 + b.toNat / 16) ::
        base64Char (b.toNat % 16 * 4 + c.toNat / 64) :: base64Char (c.toNat % 64) :: b64encode rest
  | [a, b] =>
      [base64Char (a.toNat / 4), base64Char (a.toNat % 4 * 16 + b.toNat / 16),
        base64Char (b.toNat % 16 * 4), '=']
  | [a] => [base64Char (a.toNat / 4), base64Char (a.toNat % 4 * 16), '=', '=']
  | [] => []

/-- What holds of every character of the alphabet. -/
theorem base64Char_spec : ∀ n < 64, sextet (base64Char n) = some n ∧ base64Char n ≠ '=' ∧
    (base64Char n).toNat < 128 ∧ isSpace (base64Char n) = false := by
  decide +kernel

section

variable {n : Nat} (h : n < 64) (left pads : Nat) (rest : List Char)

include h

theorem decodeGroups_first :
    decodeGroups 0 left pads (base64Char n :: rest) = decodeGroups 1 n 0 rest := by
  obtain ⟨hSextet, hPad, _, _⟩ := base64Char_spec n h
  simp [decodeGroups, hPad, hSextet]

theorem decodeGroups_second {b : UInt8} (hByte : left * 4 + n / 16 = b.toNat) :
    decodeGroups 1 left pads (base64Char n :: rest) =
      (decodeGroups 2 (n % 16) 0 rest).map (b :: ·) := by
  obtain ⟨hSextet, hPad, _, _⟩ := base64Char_spec n h
  simp [decodeGroups, hPad, hSextet, hByte]

theorem decodeGroups_third {b : UInt8} (hByte : left * 16 + n / 4 = b.toNat) :
    decodeGroups 2 left pads (base64Char n :: rest) =
      (decodeGroups 3 (n % 4) 0 rest).map (b :: ·) := by
  obtain ⟨hSextet, hPad, _, _⟩ := base64Char_spec n h
  simp [decodeGroups, hPad, hSextet, hByte]

theorem decodeGroups_fourth {b : UInt8} (hByte : left * 64 + n = b.toNat) :
    decodeGroups 3 left pads (base64Char n :: rest) =
      (decodeGroups 0 0 0 rest).map (b :: ·) := by
  obtain ⟨hSextet, hPad, _, _⟩ := base64Char_spec n h
  simp [decodeGroups, hPad, hSextet, hByte]

end

theorem decodeGroups_onePad (left : Nat) : decodeGroups 3 left 0 ['='] = some [] := rfl

theorem decodeGroups_twoPads (left : Nat) : decodeGroups 2 left 0 ['=', '='] = some [] := rfl

/-- What is written reads back. -/
theorem decodeGroups_b64encode (data : Bytes) :
    decodeGroups 0 0 0 (b64encode data) = some data := by
  induction data using b64encode.induct with
  | case1 a b c rest ih =>
      have ha := a.toNat_lt
      have hb := b.toNat_lt
      have hc := c.toNat_lt
      rw [b64encode, decodeGroups_first (by omega),
        decodeGroups_second (by omega) _ _ _ (b := a) (by omega),
        decodeGroups_third (by omega) _ _ _ (b := b) (by omega),
        decodeGroups_fourth (by omega) _ _ _ (b := c) (by omega), ih]
      rfl
  | case2 a b =>
      have ha := a.toNat_lt
      have hb := b.toNat_lt
      rw [b64encode, decodeGroups_first (by omega),
        decodeGroups_second (by omega) _ _ _ (b := a) (by omega),
        decodeGroups_third (by omega) _ _ _ (b := b) (by omega), decodeGroups_onePad]
      rfl
  | case3 a =>
      have ha := a.toNat_lt
      rw [b64encode, decodeGroups_first (by omega),
        decodeGroups_second (by omega) _ _ _ (b := a) (by omega), decodeGroups_twoPads]
      rfl
  | case4 => rfl

/-- Characters that a payload is made of. -/
theorem b64encode_plain (data : Bytes) :
    ∀ c ∈ b64encode data, c.toNat < 128 ∧ isSpace c = false := by
  have hChar : ∀ n < 64, (base64Char n).toNat < 128 ∧ isSpace (base64Char n) = false :=
    fun n hn => (base64Char_spec n hn).2.2
  have hPad : ('=' : Char).toNat < 128 ∧ isSpace '=' = false := by decide
  induction data using b64encode.induct with
  | case1 a b c rest ih =>
      have ha := a.toNat_lt
      have hb := b.toNat_lt
      have hc := c.toNat_lt
      rw [b64encode]
      simp only [List.forall_mem_cons]
      exact ⟨hChar _ (by omega), hChar _ (by omega), hChar _ (by omega), hChar _ (by omega), ih⟩
  | case2 a b =>
      have ha := a.toNat_lt
      have hb := b.toNat_lt
      rw [b64encode]
      simp only [List.forall_mem_cons]
      exact ⟨hChar _ (by omega), hChar _ (by omega), hChar _ (by omega), hPad, by simp⟩
  | case3 a =>
      have ha := a.toNat_lt
      rw [b64encode]
      simp only [List.forall_mem_cons]
      exact ⟨hChar _ (by omega), hChar _ (by omega), hPad, hPad, by simp⟩
  | case4 => simp [b64encode]

theorem b64decode_b64encode (data : Bytes) : b64decode (b64encode data) = some data := by
  have hAscii : (b64encode data).all (fun c => c.toNat < 128) = true := by
    simp only [List.all_eq_true, decide_eq_true_eq]
    exact fun c hc => (b64encode_plain data c hc).1
  rw [b64decode, if_pos hAscii, decodeGroups_b64encode]

theorem b64encode_ne_nil {data : Bytes} (h : data ≠ []) : b64encode data ≠ [] := by
  intro hNil
  have hDecoded := decodeGroups_b64encode data
  rw [hNil] at hDecoded
  exact h (Option.some.inj hDecoded).symm

end Library.Text
