import NodeDebugDashboard.Library.Text

/-! Text as bytes: UTF-8 and Latin-1. -/
namespace Library.Text

abbrev Bytes := List UInt8

/-- `text.encode("utf-8")` -/
def encodeUtf8 (text : List Char) : Bytes := text.flatMap String.utf8EncodeChar

/-- `data.decode("utf-8")`; `none` when it raises `UnicodeDecodeError`. -/
def decodeUtf8 (data : Bytes) : Option (List Char) :=
  data.toByteArray.utf8Decode?.map Array.toList

theorem toByteArray_encodeUtf8 (text : List Char) :
    (encodeUtf8 text).toByteArray = text.utf8Encode := rfl

/-- The decoder accepts what the encoder writes, and nothing else. -/
theorem decodeUtf8_eq_some_iff {data : Bytes} {text : List Char} :
    decodeUtf8 data = some text ↔ data = encodeUtf8 text := by
  constructor
  · intro h
    obtain ⟨chars, hChars, hText⟩ := Option.map_eq_some_iff.mp h
    have hSome : data.toByteArray.utf8Decode?.isSome := by simp [hChars]
    have hBytes := ByteArray.utf8Encode_get_utf8Decode? (b := data.toByteArray) (h := hSome)
    simp only [hChars, Option.get_some, hText, ← toByteArray_encodeUtf8] at hBytes
    exact (List.toByteArray_inj.mp hBytes).symm
  · rintro rfl
    rw [decodeUtf8, toByteArray_encodeUtf8, List.utf8Decode?_utf8Encode]
    rfl

theorem encodeUtf8_injective : Function.Injective encodeUtf8 := by
  intro first second h
  have hFirst := decodeUtf8_eq_some_iff.mpr h
  rw [decodeUtf8_eq_some_iff.mpr rfl] at hFirst
  exact Option.some.inj hFirst

theorem encodeUtf8_append (first second : List Char) :
    encodeUtf8 (first ++ second) = encodeUtf8 first ++ encodeUtf8 second :=
  List.flatMap_append

/-- `data.decode("latin-1")` -/
def decodeLatin1 (data : Bytes) : List Char := data.map fun b => Char.ofNat b.toNat

/-- `text.encode("latin-1")`; `none` when it raises `UnicodeEncodeError`. -/
def encodeLatin1 (text : List Char) : Option Bytes :=
  if text.all fun c => c.toNat < 256 then some (text.map fun c => UInt8.ofNat c.toNat) else none

theorem toNat_ofNat_byte (b : UInt8) : (Char.ofNat b.toNat).toNat = b.toNat := by
  have hValid : b.toNat.isValidChar := .inl (lt_trans b.toNat_lt (by norm_num))
  rw [Char.toNat, Char.ofNat, dif_pos hValid]
  rfl

theorem toNat_of_mem_decodeLatin1 {data : Bytes} {c : Char} (h : c ∈ decodeLatin1 data) :
    c.toNat < 256 := by
  obtain ⟨b, _, rfl⟩ := List.mem_map.mp h
  rw [toNat_ofNat_byte]
  exact b.toNat_lt

theorem encodeLatin1_decodeLatin1 (data : Bytes) :
    encodeLatin1 (decodeLatin1 data) = some data := by
  have hAll : (decodeLatin1 data).all (fun c => c.toNat < 256) = true := by
    simp only [List.all_eq_true, decide_eq_true_eq]
    exact fun c => toNat_of_mem_decodeLatin1
  rw [encodeLatin1, if_pos hAll, decodeLatin1, List.map_map]
  simp [Function.comp_def, toNat_ofNat_byte]

theorem decodeLatin1_injective : Function.Injective decodeLatin1 := by
  intro first second h
  have hFirst := encodeLatin1_decodeLatin1 first
  rw [h, encodeLatin1_decodeLatin1] at hFirst
  exact Option.some.inj hFirst.symm

/-- Text whose characters are all in Latin-1 is the decoding of some bytes. -/
theorem exists_decodeLatin1 {text : List Char} (h : ∀ c ∈ text, c.toNat < 256) :
    ∃ data, text = decodeLatin1 data := by
  refine ⟨text.map fun c => UInt8.ofNat c.toNat, ?_⟩
  rw [decodeLatin1, List.map_map]
  have hEach : ∀ c ∈ text, Char.ofNat (UInt8.ofNat c.toNat).toNat = c := by
    intro c hc
    have hByte : (UInt8.ofNat c.toNat).toNat = c.toNat := by
      simp [Nat.mod_eq_of_lt (h c hc)]
    rw [hByte, Char.ofNat_toNat]
  exact (List.map_id'' (fun _ => rfl) text).symm.trans
    (List.map_congr_left fun c hc => (hEach c hc).symm)

/-- `c.lower()` of a character in Latin-1. -/
def lowerLatin1 (c : Char) : Char :=
  let n := c.toNat
  if (0x41 ≤ n ∧ n ≤ 0x5a) ∨ (0xc0 ≤ n ∧ n ≤ 0xde ∧ n ≠ 0xd7) then Char.ofNat (n + 0x20) else c

/-- `b.lower()` of a byte. -/
def lowerByte (b : UInt8) : UInt8 := if 0x41 ≤ b ∧ b ≤ 0x5a then b + 0x20 else b

theorem toNat_ofNat_of_lt {n : Nat} (h : n < 0xd800) : (Char.ofNat n).toNat = n := by
  have hValid : n.isValidChar := .inl h
  rw [Char.ofNat, dif_pos hValid]
  rfl

theorem toNat_toLower (c : Char) : c.toLower.toNat =
    if 0x41 ≤ c.toNat ∧ c.toNat ≤ 0x5a then c.toNat + 0x20 else c.toNat := by
  have hVal : c.val.toNat = c.toNat := rfl
  have hRange : (c.val ≥ 'A'.val ∧ c.val ≤ 'Z'.val) ↔ 0x41 ≤ c.toNat ∧ c.toNat ≤ 0x5a := by
    rw [← hVal]
    exact Iff.rfl
  unfold Char.toLower
  split_ifs with hUpper hLetter hLetter
  · show (c.val + ('a'.val - 'A'.val)).toNat = _
    have hStep : ('a'.val - 'A'.val).toNat = 0x20 := by decide
    rw [UInt32.toNat_add, hStep, hVal]
    omega
  · exact absurd (hRange.mp hUpper) hLetter
  · exact absurd (hRange.mpr hLetter) hUpper
  · rfl

/-- Only ASCII letters become ASCII letters. -/
theorem lowerLatin1_eq_iff {c letter : Char} (h : letter.toNat < 128) :
    lowerLatin1 c = letter ↔ c.toLower = letter := by
  rw [← Char.toNat_inj, ← Char.toNat_inj, toNat_toLower]
  simp only [lowerLatin1]
  split_ifs with hChanged hUpper hUpper
  · rw [toNat_ofNat_of_lt (by omega)]
  · rw [toNat_ofNat_of_lt (by omega)]
    omega
  · omega
  · rfl

/-- The data from a beginning on, up to the beginning with one more byte. -/
theorem mem_prefixRange (first key : Bytes) (bound : UInt8) :
    ¬key < first ∧ key < first ++ [bound] ↔
    key = first ∨ ∃ b rest, key = first ++ b :: rest ∧ b < bound := by
  induction first generalizing key with
  | nil =>
      cases key with
      | nil => simp
      | cons b rest => simp [List.cons_lt_cons_iff]
  | cons a first ih =>
      cases key with
      | nil => simp
      | cons b rest =>
          rcases Nat.lt_trichotomy b.toNat a.toNat with hLess | hEq | hMore
          · have hBelow : b < a := UInt8.lt_iff_toNat_lt.mpr hLess
            have hNe : b ≠ a := fun hEq => by simp [hEq] at hLess
            simp [List.cons_lt_cons_iff, hBelow, hNe]
          · obtain rfl := UInt8.toNat_inj.mp hEq
            simpa [List.cons_lt_cons_iff] using ih rest
          · have hAbove : ¬b < a := fun hBelow => by
              have hLess := UInt8.lt_iff_toNat_lt.mp hBelow
              omega
            have hNe : b ≠ a := fun hEq => by simp [hEq] at hMore
            simp [List.cons_lt_cons_iff, hAbove, hNe]

end Library.Text
