import NodeDebugDashboard.Collectors.Mountinfo

/-! What the kernel writes to /proc/<pid>/mountinfo, and what `parse_mountinfo` of
app/collectors/storage.py makes of it. The kernel escapes four characters; the parser's
splitters know many more kinds of whitespace. -/
namespace NodeDebugDashboard.Collectors.Mountinfo

open Library Library.Python Library.Text

/-- The kernel writes space, tab, newline and backslash as three octal digits. -/
def mangleChar (c : Char) : List Char :=
  if c = ' ' then ['\\', '0', '4', '0']
  else if c = '\t' then ['\\', '0', '1', '1']
  else if c = '\n' then ['\\', '0', '1', '2']
  else if c = '\\' then ['\\', '1', '3', '4']
  else [c]

def mangle (field : List Char) : List Char := field.flatMap mangleChar

/-- The digits that stand after a backslash. -/
def mangleCodes : List (List Char) :=
  [['0', '4', '0'], ['0', '1', '1'], ['0', '1', '2'], ['1', '3', '4']]

/-- A field that is one word as the kernel writes it, and not the separator. -/
structure KernelField where
  text : List Char
  isWord : IsWord (mangle text)
  ne_dash : text ≠ ['-']

/-- A filesystem that is mounted read-write. The mount point, the type and the source are
arbitrary. -/
structure MountRecord where
  id : KernelField
  parent : KernelField
  dev : KernelField
  root : KernelField
  mount : List Char
  options : KernelField
  optional : List KernelField
  fsType : List Char
  source : List Char
  superOptions : List Char
  mount_ne : mount ≠ []
  source_ne : source ≠ []
  readWrite : "ro".toList ∉ (mangle options.text).splitOn ','
  listed : fsType ∉ dfSkipTypes
  not_overlay : fsType ≠ "overlay".toList
  oneLine : OneLine (mangle superOptions)

/-- The fields up to the root directory. -/
def MountRecord.front (record : MountRecord) : List (List Char) :=
  [mangle record.id.text, mangle record.parent.text, mangle record.dev.text,
   mangle record.root.text]

/-- The options and the optional fields. -/
def MountRecord.back (record : MountRecord) : List (List Char) :=
  mangle record.options.text :: record.optional.map fun field => mangle field.text

/-- What stands behind the separator. -/
def MountRecord.tail (record : MountRecord) : List Char :=
  spaced [mangle record.fsType, mangle record.source] ++ mangle record.superOptions

def MountRecord.line (record : MountRecord) : List Char :=
  spaced (record.front ++ mangle record.mount :: record.back) ++ '-' :: ' ' :: record.tail

/-- /proc/<pid>/mountinfo -/
def mountinfo (records : List MountRecord) : List Char := unlines (records.map MountRecord.line)

/-- All whitespace in the text is of the kinds that the kernel escapes. -/
def KnownBlanks (text : List Char) : Prop :=
  ∀ c ∈ text, isSpace c = true → c = ' ' ∨ c = '\t' ∨ c = '\n'

instance (text : List Char) : Decidable (KnownBlanks text) :=
  inferInstanceAs (Decidable (∀ c ∈ text, _))

@[simp] theorem mangle_nil : mangle [] = [] := rfl

@[simp] theorem mangle_cons (c : Char) (rest : List Char) :
    mangle (c :: rest) = mangleChar c ++ mangle rest :=
  List.flatMap_cons

/-- A character that is not escaped, or one of the four. -/
theorem mangleChar_cases (c : Char) :
    mangleChar c = [c] ∧ c ≠ ' ' ∧ c ≠ '\t' ∧ c ≠ '\n' ∧ c ≠ '\\' ∨
      ∃ x y z, mangleChar c = ['\\', x, y, z] ∧ [x, y, z] ∈ mangleCodes ∧
        isOctal x = true ∧ isOctal y = true ∧ isOctal z = true ∧ octal x y z = c := by
  unfold mangleChar
  split_ifs with hSpace hTab hNewline hBackslash
  · exact .inr ⟨'0', '4', '0', rfl, by decide, by decide, by decide, by decide, by
      rw [hSpace]; decide⟩
  · exact .inr ⟨'0', '1', '1', rfl, by decide, by decide, by decide, by decide, by
      rw [hTab]; decide⟩
  · exact .inr ⟨'0', '1', '2', rfl, by decide, by decide, by decide, by decide, by
      rw [hNewline]; decide⟩
  · exact .inr ⟨'1', '3', '4', rfl, by decide, by decide, by decide, by decide, by
      rw [hBackslash]; decide⟩
  · exact .inl ⟨rfl, hSpace, hTab, hNewline, hBackslash⟩

theorem unescapeMountinfo_cons {c : Char} (h : c ≠ '\\') (rest : List Char) :
    unescapeMountinfo (c :: rest) = c :: unescapeMountinfo rest := by
  rw [unescapeMountinfo]
  rintro _ _ _ _ hBackslash
  exact absurd hBackslash h

/-- The escapes are undone. -/
theorem unescape_mangle (field : List Char) : unescapeMountinfo (mangle field) = field := by
  induction field with
  | nil => rfl
  | cons c rest ih =>
      rw [mangle_cons]
      rcases mangleChar_cases c with ⟨hChar, _, _, _, hBackslash⟩ | ⟨x, y, z, hChar, _, hx,
        hy, hz, hValue⟩
      · rw [hChar, List.singleton_append, unescapeMountinfo_cons hBackslash, ih]
      · rw [hChar]
        simp [unescapeMountinfo, hx, hy, hz, hValue, ih]

theorem unescape_of_plain {text : List Char} (h : '\\' ∉ text) : unescapeMountinfo text = text := by
  induction text with
  | nil => rfl
  | cons c rest ih =>
      rw [List.mem_cons, not_or] at h
      rw [unescapeMountinfo_cons (Ne.symm h.1), ih h.2]

/-- A text without escapes was written as it is. -/
theorem eq_of_mangle_eq {field text : List Char} (hPlain : '\\' ∉ text) (h : mangle field = text) :
    field = text := by
  rw [← unescape_mangle field, h, unescape_of_plain hPlain]

theorem length_le_mangle (field : List Char) : field.length ≤ (mangle field).length := by
  induction field with
  | nil => exact Nat.le_refl _
  | cons c rest ih =>
      rw [mangle_cons, List.length_append, List.length_cons]
      rcases mangleChar_cases c with ⟨hChar, _⟩ | ⟨x, y, z, hChar, _⟩ <;> simp [hChar] <;> omega

/-- Escapes make a text longer. -/
theorem plain_of_mangle_eq_self {field : List Char} (h : mangle field = field) : '\\' ∉ field := by
  induction field with
  | nil => simp
  | cons c rest ih =>
      rw [mangle_cons] at h
      rcases mangleChar_cases c with ⟨hChar, _, _, _, hBackslash⟩ | ⟨x, y, z, hChar, _⟩
      · rw [hChar, List.singleton_append, List.cons_inj_right] at h
        simp [Ne.symm hBackslash, ih h]
      · have hLength := congrArg List.length h
        have hRest := length_le_mangle rest
        simp [hChar] at hLength
        omega

theorem mangle_of_word {field : List Char} (hWord : IsWord field) (hPlain : '\\' ∉ field) :
    mangle field = field := by
  have hChars : ∀ c ∈ field, mangleChar c = [c] := by
    intro c hMem
    have hSpace := hWord.2 c hMem
    unfold mangleChar
    split_ifs with hBlank hTab hNewline hBackslash
    · exact absurd hSpace (by rw [hBlank]; decide)
    · exact absurd hSpace (by rw [hTab]; decide)
    · exact absurd hSpace (by rw [hNewline]; decide)
    · exact absurd hMem (by rwa [hBackslash])
    · rfl
  calc field.flatMap mangleChar = field.flatMap fun c => [c] := List.flatMap_congr hChars
    _ = field := List.flatMap_singleton' field

/-- A field with no whitespace but the four kinds is a word as the kernel writes it. -/
theorem isWord_mangle {field : List Char} (hSome : field ≠ []) (hBlanks : KnownBlanks field) :
    IsWord (mangle field) := by
  have hCodes : ∀ code ∈ mangleCodes, ∀ d ∈ code, isSpace d = false := by decide
  constructor
  · intro hNil
    have hLength := length_le_mangle field
    rw [hNil, List.length_nil, Nat.le_zero, List.length_eq_zero_iff] at hLength
    exact hSome hLength
  · intro d hMem
    obtain ⟨c, hField, hChar⟩ := List.mem_flatMap.mp hMem
    rcases mangleChar_cases c with ⟨hPlain, hSpace, hTab, hNewline, _⟩ | ⟨x, y, z,
      hEscape, hCode, _⟩
    · rw [hPlain, List.mem_singleton] at hChar
      subst hChar
      by_contra hBlank
      rcases hBlanks d hField (by simpa using hBlank) with rfl | rfl | rfl
      · exact hSpace rfl
      · exact hTab rfl
      · exact hNewline rfl
    · rw [hEscape, List.mem_cons] at hChar
      rcases hChar with rfl | hDigit
      · decide
      · exact hCodes _ hCode d hDigit

/-- Every backslash in the text starts one of the kernel's escapes. -/
def Escaped (text : List Char) : Prop :=
  ∀ rest, '\\' :: rest <:+ text → ∃ code ∈ mangleCodes, code <+: rest

theorem Escaped.append {first second : List Char} (hFirst : Escaped first)
    (hSecond : Escaped second) :
    Escaped (first ++ second) := by
  induction first with
  | nil => exact hSecond
  | cons c first ih =>
      intro rest hSuffix
      rw [List.cons_append, List.suffix_cons_iff] at hSuffix
      rcases hSuffix with hHere | hLater
      · obtain ⟨rfl, rfl⟩ := List.cons_eq_cons.mp hHere
        obtain ⟨code, hCode, hStart⟩ := hFirst first List.suffix_rfl
        exact ⟨code, hCode, hStart.trans (List.prefix_append _ _)⟩
      · exact ih (fun rest hRest => hFirst rest (hRest.trans (List.suffix_cons _ _))) rest hLater

theorem escaped_of_plain {text : List Char} (h : '\\' ∉ text) : Escaped text :=
  fun _ hSuffix => absurd (hSuffix.subset List.mem_cons_self) h

theorem Escaped.flatMap {α : Type} {items : List α} {text : α → List Char}
    (h : ∀ item ∈ items, Escaped (text item)) :
    Escaped (items.flatMap text) := by
  induction items with
  | nil => exact escaped_of_plain (by simp)
  | cons item items ih =>
      rw [List.forall_mem_cons] at h
      exact h.1.append (ih h.2)

theorem escaped_mangle (field : List Char) : Escaped (mangle field) := by
  refine Escaped.flatMap fun c _ => ?_
  rcases mangleChar_cases c with ⟨hPlain, _, _, _, hBackslash⟩ | ⟨x, y, z, hEscape, hCode,
    hx, hy, hz, _⟩
  · exact escaped_of_plain (by simpa [hPlain] using Ne.symm hBackslash)
  · have hDigits : ∀ d, isOctal d = true → '\\' ≠ d := by
      rintro _ hOctal rfl
      exact absurd hOctal (by decide)
    have hRest : '\\' ∉ [x, y, z] := by simp [hDigits x hx, hDigits y hy, hDigits z hz]
    intro rest hSuffix
    rw [hEscape, List.suffix_cons_iff] at hSuffix
    rcases hSuffix with hHere | hLater
    · obtain ⟨_, rfl⟩ := List.cons_eq_cons.mp hHere
      exact ⟨[x, y, z], hCode, List.prefix_rfl⟩
    · exact absurd (hLater.subset List.mem_cons_self) hRest

theorem Escaped.spaced {fields : List (List Char)} (h : ∀ field ∈ fields, Escaped field) :
    Escaped (spaced fields) :=
  Escaped.flatMap fun field hMem => (h field hMem).append (escaped_of_plain (by decide))

/-- All that the kernel writes is escaped. -/
theorem escaped_mountinfo (records : List MountRecord) : Escaped (mountinfo records) := by
  refine Escaped.flatMap fun line hLine => ?_
  obtain ⟨record, _, rfl⟩ := List.mem_map.mp hLine
  have hFields : ∀ field ∈ record.front ++ mangle record.mount :: record.back, Escaped field := by
    intro field hField
    simp only [MountRecord.front, MountRecord.back, List.mem_append, List.mem_cons,
      List.not_mem_nil, or_false, List.mem_map] at hField
    rcases hField with (rfl | rfl | rfl | rfl) | rfl | rfl | ⟨_, _, rfl⟩ <;> exact escaped_mangle _
  have hTail : ∀ field ∈ [mangle record.fsType, mangle record.source], Escaped field := by
    simp [escaped_mangle]
  have hSeparator : Escaped ['-', ' '] := escaped_of_plain (by decide)
  exact ((Escaped.spaced hFields).append
    (hSeparator.append ((Escaped.spaced hTail).append (escaped_mangle _)))).append
      (escaped_of_plain (by decide))

/-- The same for a piece of such a text, whose last escape may be cut. -/
def EscapedInside (text : List Char) : Prop :=
  ∀ x y z rest, '\\' :: x :: y :: z :: rest <:+ text → [x, y, z] ∈ mangleCodes

theorem Escaped.inside {text piece : List Char} (h : Escaped text) (hPiece : piece <:+: text) :
    EscapedInside piece := by
  obtain ⟨before, after, rfl⟩ := hPiece
  rintro x y z rest ⟨front, rfl⟩
  obtain ⟨code, hCode, hStart⟩ := h (x :: y :: z :: rest ++ after) ⟨before ++ front, by simp⟩
  have hLength : ∀ code ∈ mangleCodes, code.length = 3 := by decide
  have hEq := List.prefix_iff_eq_take.mp hStart
  rw [hLength code hCode] at hEq
  have hTake : code = [x, y, z] := by simpa using hEq
  rwa [← hTake]

theorem EscapedInside.tail {c : Char} {text : List Char} (h : EscapedInside (c :: text)) :
    EscapedInside text :=
  fun x y z rest hSuffix => h x y z rest (hSuffix.trans (List.suffix_cons _ _))

theorem octal_blank {x y z : Char} (hCode : [x, y, z] ∈ mangleCodes)
    (hSpace : isSpace (octal x y z) = true) :
    octal x y z = ' ' ∨ octal x y z = '\t' ∨ octal x y z = '\n' := by
  simp only [mangleCodes, List.mem_cons, List.cons.injEq, and_true, List.not_mem_nil,
    or_false] at hCode
  rcases hCode with ⟨rfl, rfl, rfl⟩ | ⟨rfl, rfl, rfl⟩ | ⟨rfl, rfl, rfl⟩ | ⟨rfl, rfl, rfl⟩
  · exact .inl (by decide)
  · exact .inr (.inl (by decide))
  · exact .inr (.inr (by decide))
  · exact absurd hSpace (by decide)

/-- Undoing the escapes of a word brings back no other whitespace. -/
theorem knownBlanks_unescape {word : List Char} (hInk : ∀ c ∈ word, isSpace c = false)
    (hEscaped : EscapedInside word) :
    KnownBlanks (unescapeMountinfo word) := by
  have hInner : ∀ c later, (∀ d ∈ c :: later, isSpace d = false) → ∀ d ∈ later, isSpace d = false :=
    fun c later hAll d hMem => hAll d (List.mem_cons_of_mem c hMem)
  fun_induction unescapeMountinfo word with
  | case1 x y z rest hOctal ih =>
      have hCode := hEscaped x y z rest List.suffix_rfl
      have hRest := ih (fun d hd => hInk d (by simp [hd])) hEscaped.tail.tail.tail.tail
      rintro c hMem hSpace
      rcases List.mem_cons.mp hMem with rfl | hLater
      · exact octal_blank hCode hSpace
      · exact hRest c hLater hSpace
  | case2 x y z rest hOctal ih =>
      have hRest := ih (hInner _ _ hInk) hEscaped.tail
      rintro c hMem hSpace
      rcases List.mem_cons.mp hMem with rfl | hLater
      · exact absurd hSpace (by decide)
      · exact hRest c hLater hSpace
  | case3 c rest hOther ih =>
      have hRest := ih (hInner _ _ hInk) hEscaped.tail
      rintro d hMem hSpace
      rcases List.mem_cons.mp hMem with rfl | hLater
      · simp [hInk d List.mem_cons_self] at hSpace
      · exact hRest d hLater hSpace
  | case4 => nofun

/-- The entry was read off one of the lines. -/
def ReadFrom (text : List Char) (entry : Mount) : Prop :=
  ∃ line ∈ splitLines text, ∃ parsed, mountLine line = some parsed ∧ parsed.entry = entry

theorem keepShortest_get? {byDev : Dict (List Char) Mount} {dev other : List Char}
    {entry stored : Mount} (h : (keepShortest byDev dev entry).get? other = some stored) :
    stored = entry ∨ byDev.get? other = some stored := by
  unfold keepShortest at h
  split at h
  · rw [Dict.get?_set] at h
    split_ifs at h
    · exact .inl (Option.some.inj h).symm
    · exact .inr h
  · split_ifs at h
    · rw [Dict.get?_set] at h
      split_ifs at h
      · exact .inl (Option.some.inj h).symm
      · exact .inr h
    · exact .inr h

theorem MountTable.add_get? {table next : MountTable} {line : MountLine}
    (h : table.add line = .ok next) {dev : List Char} {stored : Mount}
    (hStored : next.byDev.get? dev = some stored) :
    stored = line.entry ∨ table.byDev.get? dev = some stored := by
  unfold MountTable.add at h
  by_cases hSkip : line.entry.fsType ∈ dfSkipTypes
  · rw [if_pos hSkip] at h
    cases h
    exact .inr hStored
  · rw [if_neg hSkip] at h
    cases hOptions : line.options with
    | none =>
        rw [hOptions] at h
        cases h
    | some options =>
        rw [hOptions] at h
        dsimp only at h
        split_ifs at h <;> cases h
        · exact .inr hStored
        · exact .inr hStored
        · exact keepShortest_get? hStored
        · exact keepShortest_get? hStored

/-- What is returned was read off the lines. -/
theorem readFrom_of_parseMountinfo {text : List Char} {result : List Mount}
    (h : parseMountinfo text = .ok result) :
    ∀ entry ∈ result, ReadFrom text entry := by
  obtain ⟨table, hTable, hResult⟩ := bind_eq_ok.mp h
  cases hResult
  have hAll : ∀ dev stored, table.byDev.get? dev = some stored → ReadFrom text stored := by
    refine foldlM_preserves (P := fun table : MountTable =>
      ∀ dev stored, table.byDev.get? dev = some stored →
      ReadFrom text stored) (fun table line hLine next hOld hNext =>
        ?_) (fun dev stored hEmpty => ?_) hTable
    · intro dev stored hStored
      unfold MountTable.addLine at hNext
      cases hParsed : mountLine line with
      | none =>
          rw [hParsed] at hNext
          cases hNext
          exact hOld dev stored hStored
      | some parsed =>
          rw [hParsed] at hNext
          rcases MountTable.add_get? hNext hStored with rfl | hBefore
          · exact ⟨line, hLine, parsed, hParsed, rfl⟩
          · exact hOld dev stored hBefore
    · cases hEmpty
  intro entry hEntry
  obtain ⟨⟨dev, stored⟩, hMem, rfl⟩ := List.mem_map.mp hEntry
  exact hAll dev stored ((table.byDev.get?_eq_some_iff dev stored).mpr hMem)

/-- What is read off escaped lines has whitespace of the four kinds only. -/
theorem ReadFrom.knownBlanks {text : List Char} {entry : Mount} (h : ReadFrom text entry)
    (hText : Escaped text) :
    KnownBlanks entry.mount ∧ KnownBlanks entry.source ∧ IsWord entry.fsType := by
  obtain ⟨line, hLine, parsed, hParsed, rfl⟩ := h
  obtain ⟨id, parent, dev, root, mount, more, fsType, source, rest, hFields, rfl⟩ :=
    mountLine_eq_some_iff.mp hParsed
  obtain ⟨⟨before, after⟩, hParts, hWords⟩ := Option.map_eq_some_iff.mp hFields
  obtain ⟨hBefore, hAfter⟩ := Prod.mk.inj hWords
  have hLineText := partition_eq_some hParts
  have hInside := infix_of_mem_splitLines hLine
  have hFront : before <:+: line := ⟨[], " - ".toList ++ after, by rw [hLineText]; simp⟩
  have hBack : after <:+: line := ⟨before ++ " - ".toList, [], by rw [hLineText]; simp⟩
  have hMount : mount ∈ words before := by simp [hBefore]
  have hSource : source ∈ words after := by simp [hAfter]
  have hType : fsType ∈ words after := by simp [hAfter]
  obtain ⟨hMountWord, hMountIn⟩ := mem_words hMount
  obtain ⟨hSourceWord, hSourceIn⟩ := mem_words hSource
  exact ⟨knownBlanks_unescape hMountWord.2 (hText.inside ((hMountIn.trans hFront).trans hInside)),
    knownBlanks_unescape hSourceWord.2 (hText.inside ((hSourceIn.trans hBack).trans hInside)),
    (mem_words hType).1⟩

/-- The mount point and the source have whitespace of the four kinds only, and the type has
none: the fields of the line are words. -/
structure MountRecord.Legible (record : MountRecord) : Prop where
  mount : KnownBlanks record.mount
  source : KnownBlanks record.source
  fsType : IsWord (mangle record.fsType)

theorem KernelField.mangle_ne_dash (field : KernelField) : mangle field.text ≠ ['-'] := by
  intro hDash
  exact field.ne_dash (eq_of_mangle_eq (by decide) hDash)

theorem oneLine_spaced {fields : List (List Char)} (h : ∀ field ∈ fields, IsWord field) :
    OneLine (spaced fields) := by
  intro c hMem
  obtain ⟨field, hField, hChar⟩ := List.mem_flatMap.mp hMem
  rcases List.mem_append.mp hChar with hInside | hBlank
  · exact (h field hField).oneLine c hInside
  · rw [List.mem_singleton] at hBlank
    rw [hBlank]
    decide

variable {record : MountRecord}

theorem MountRecord.isWord_front : ∀ field ∈ record.front, IsWord field := by
  simp [MountRecord.front, KernelField.isWord]

theorem MountRecord.front_ne_dash : ∀ field ∈ record.front, field ≠ ['-'] := by
  simp [MountRecord.front, KernelField.mangle_ne_dash]

theorem MountRecord.isWord_back : ∀ field ∈ record.back, IsWord field := by
  simp [MountRecord.back, KernelField.isWord]

theorem MountRecord.back_ne_dash : ∀ field ∈ record.back, field ≠ ['-'] := by
  simp [MountRecord.back, KernelField.mangle_ne_dash]

theorem MountRecord.Legible.isWord_fields (h : record.Legible) :
    ∀ field ∈ record.front ++ mangle record.mount :: record.back, IsWord field := by
  intro field hMem
  rcases List.mem_append.mp hMem with hFront | hRest
  · exact MountRecord.isWord_front field hFront
  · rcases List.mem_cons.mp hRest with rfl | hBack
    · exact isWord_mangle record.mount_ne h.mount
    · exact MountRecord.isWord_back field hBack

theorem MountRecord.Legible.isWord_tail (h : record.Legible) :
    ∀ field ∈ [mangle record.fsType, mangle record.source], IsWord field := by
  simpa using ⟨h.fsType, isWord_mangle record.source_ne h.source⟩

theorem MountRecord.Legible.oneLine (h : record.Legible) : OneLine record.line := by
  have hSeparator : OneLine ['-', ' '] := by decide
  exact oneLine_append (oneLine_spaced h.isWord_fields)
    (oneLine_append hSeparator (oneLine_append (oneLine_spaced h.isWord_tail) record.oneLine))

theorem MountRecord.Legible.words_tail (h : record.Legible) : words record.tail =
    mangle record.fsType :: mangle record.source :: words (mangle record.superOptions) := by
  rw [MountRecord.tail, words_spaced h.isWord_tail]
  rfl

/-- The fields of a line whose mount point is not the separator. -/
theorem MountRecord.Legible.fieldsOf_line (h : record.Legible) (hDash : record.mount ≠ ['-']) :
    fieldsOf record.line = some (record.front ++ mangle record.mount :: record.back,
      mangle record.fsType :: mangle record.source :: words (mangle record.superOptions)) := by
  have hFields : ∀ field ∈ record.front ++ mangle record.mount :: record.back, field ≠ ['-'] := by
    intro field hMem
    rcases List.mem_append.mp hMem with hFront | hRest
    · exact MountRecord.front_ne_dash field hFront
    · rcases List.mem_cons.mp hRest with rfl | hBack
      · exact fun hMount => hDash (eq_of_mangle_eq (by decide) hMount)
      · exact MountRecord.back_ne_dash field hBack
  obtain ⟨before, hBefore, hWords⟩ := partition_spaced h.isWord_fields hFields (by simp) record.tail
  have hParts : partition " - ".toList record.line = some (before, record.tail) := hBefore
  rw [fieldsOf, hParts, Option.map_some, hWords, h.words_tail]

/-- A dash for a mount point is taken for the separator. -/
theorem MountRecord.fieldsOf_line_dash (hDash : record.mount = ['-']) :
    ∃ tail, fieldsOf record.line = some (record.front, tail) := by
  obtain ⟨before, hBefore, hWords⟩ := partition_spaced record.isWord_front record.front_ne_dash
    (by simp [MountRecord.front]) (spaced record.back ++ '-' :: ' ' :: record.tail)
  have hLine :
      record.line = spaced record.front ++
      '-' :: ' ' :: (spaced record.back ++ '-' :: ' ' :: record.tail) := by
    rw [MountRecord.line, hDash]
    simp [spaced, mangleChar]
  exact ⟨_, by
    rw [fieldsOf, hLine]; exact congrArg _ hBefore |>.trans (by rw [Option.map_some, hWords])⟩

/-- What the parser reads off the line. -/
def MountRecord.read (record : MountRecord) : MountLine where
  dev := mangle record.dev.text
  options := some (mangle record.options.text)
  entry := { source := record.source, fsType := mangle record.fsType, mount := record.mount }

theorem MountRecord.Legible.mountLine_line (h : record.Legible) (hDash : record.mount ≠ ['-']) :
    mountLine record.line = some record.read := by
  rw [mountLine, h.fieldsOf_line hDash]
  simp [MountRecord.front, MountRecord.back, MountRecord.read, unescape_mangle]

theorem MountRecord.Legible.wellFormed_line (h : record.Legible) :
    wellFormed record.line = decide (record.mount ≠ ['-']) := by
  by_cases hDash : record.mount = ['-']
  · obtain ⟨tail, hTail⟩ := MountRecord.fieldsOf_line_dash hDash
    simp [wellFormed, hTail, hDash, MountRecord.front]
  · simp [wellFormed, h.fieldsOf_line hDash, hDash, MountRecord.front, MountRecord.back]

theorem MountRecord.Legible.cutShort_line (h : record.Legible) : cutShort record.line = false := by
  by_cases hDash : record.mount = ['-']
  · obtain ⟨tail, hTail⟩ := MountRecord.fieldsOf_line_dash hDash
    simp [cutShort, hTail, MountRecord.front]
  · exact cutShort_of_wellFormed (by rw [h.wellFormed_line, decide_eq_true hDash])

theorem MountRecord.counts_read : record.read.counts = true := by
  have hType : mangle record.fsType ∉ dfSkipTypes := by
    intro hSkip
    have hPlain : ∀ fsType ∈ dfSkipTypes, '\\' ∉ fsType := by decide +kernel
    rw [← eq_of_mangle_eq (hPlain _ hSkip) rfl] at hSkip
    exact record.listed hSkip
  simp only [MountLine.counts, MountLine.readOnly, MountRecord.read, record.readWrite, hType]
  decide

theorem MountRecord.isOverlay_read : record.read.isOverlay = false := by
  rw [MountLine.isOverlay, decide_eq_false_iff_not]
  exact fun hOverlay => record.not_overlay (eq_of_mangle_eq (by decide) hOverlay)

/-- Lines that count and are no overlays are all eligible. -/
theorem eligibleAfter_eq_self {lines : List MountLine}
    (h : ∀ line ∈ lines, line.counts = true ∧ line.isOverlay = false) (before : List MountLine) :
    eligibleAfter before lines = lines := by
  induction lines generalizing before with
  | nil => rfl
  | cons line lines ih =>
      rw [List.forall_mem_cons] at h
      simp [eligibleAfter, MountLine.eligible, h.1.1, h.1.2, ih h.2]

theorem eraseDups_of_nodup {α : Type} [BEq α] [LawfulBEq α] {items : List α} (h : items.Nodup) :
    items.eraseDups = items := by
  induction items with
  | nil => rfl
  | cons a items ih =>
      rw [List.nodup_cons] at h
      have hKept : items.filter (fun b => !b == a) = items :=
        List.filter_eq_self.mpr fun b hMem => by simpa using fun hSame : b = a => h.1 (hSame ▸ hMem)
      rw [List.eraseDups_cons, hKept, ih h.2]

/-- Lines of distinct devices are listed one by one. -/
theorem listing_of_nodup {lines : List MountLine} (h : (lines.map MountLine.dev).Nodup) :
    listing lines = lines.map MountLine.entry := by
  have hShortest : lines.filterMap (shortestOf lines ∘ MountLine.dev) = lines.filterMap some := by
    refine List.filterMap_congr fun line hMem => ?_
    cases hBest : shortestOf lines line.dev with
    | none => exact absurd (List.mem_map_of_mem hMem) (shortestOf_eq_none_iff.mp hBest)
    | some best =>
        obtain ⟨hBestMem, hDev⟩ := List.mem_filter.mp (List.argmin_mem hBest)
        have hSame := List.inj_on_of_nodup_map h hBestMem hMem (by simpa using hDev)
        simp [hBest, hSame]
  rw [listing, eraseDups_of_nodup h, List.filterMap_map, hShortest, List.filterMap_some]

/-- The parser on lines that are all legible: those with a dash for a mount point are lost. -/
theorem parseMountinfo_mountinfo {records : List MountRecord}
    (hDevs : (records.map fun record => record.dev.text).Nodup)
    (hLegible : ∀ record ∈ records, record.Legible) : parseMountinfo (mountinfo records) =
      .ok ((records.filter fun record => record.mount ≠ ['-']).map fun record =>
        record.read.entry) := by
  have hLines : ∀ line ∈ records.map MountRecord.line, OneLine line := by
    intro line hLine
    obtain ⟨record, hRecord, rfl⟩ := List.mem_map.mp hLine
    exact (hLegible record hRecord).oneLine
  have hKept : ∀ record ∈ records.filter fun record => record.mount ≠ ['-'],
      record.Legible ∧ record.mount ≠ ['-'] := by
    intro record hMem
    rw [List.mem_filter, decide_eq_true_eq] at hMem
    exact ⟨hLegible record hMem.1, hMem.2⟩
  have hFiltered : (records.map MountRecord.line).filter wellFormed =
      (records.filter fun record => record.mount ≠ ['-']).map MountRecord.line := by
    rw [List.filter_map]
    exact congrArg _ (List.filter_congr fun record hMem => (hLegible record hMem).wellFormed_line)
  have hGood : splitLines (unlines ((records.map MountRecord.line).filter wellFormed)) =
      (records.filter fun record => record.mount ≠ ['-']).map MountRecord.line := by
    rw [splitLines_unlines fun line hMem => hLines line (List.mem_filter.mp hMem).1, hFiltered]
  have hSame : parseMountinfo (mountinfo records) =
      parseMountinfo (unlines ((records.map MountRecord.line).filter wellFormed)) := by
    rw [parseMountinfo, parseMountinfo, mountinfo, splitLines_unlines hLines, hGood, ← hFiltered]
    rw [foldlM_filter fun table line hMem hFormed => ?_]
    obtain ⟨record, hRecord, rfl⟩ := List.mem_map.mp hMem
    exact MountTable.addLine_of_not_wellFormed hFormed (hLegible record hRecord).cutShort_line table
  have hFormed : ∀ line ∈ splitLines (unlines ((records.map MountRecord.line).filter wellFormed)),
      wellFormed line = true := by
    intro line hMem
    rw [hGood, ← hFiltered] at hMem
    exact (List.mem_filter.mp hMem).2
  have hRead :
      ((records.filter fun record => record.mount ≠ ['-']).map MountRecord.line).filterMap
        mountLine =
      (records.filter fun record => record.mount ≠ ['-']).map MountRecord.read := by
    rw [List.filterMap_map, ← List.filterMap_eq_map]
    exact List.filterMap_congr fun record hMem =>
      (hKept record hMem).1.mountLine_line (hKept record hMem).2
  have hEligible :
      ∀ line ∈ (records.filter fun record => record.mount ≠ ['-']).map MountRecord.read,
      line.counts = true ∧ line.isOverlay = false := by
    intro line hMem
    obtain ⟨record, _, rfl⟩ := List.mem_map.mp hMem
    exact ⟨MountRecord.counts_read, MountRecord.isOverlay_read⟩
  have hDistinct :
      (((records.filter fun record => record.mount ≠ ['-']).map MountRecord.read).map
        MountLine.dev).Nodup := by
    have hTexts := hDevs.sublist
      (List.filter_sublist.map _ :
        ((records.filter fun record => record.mount ≠ ['-']).map fun record =>
          record.dev.text).Sublist _)
    have hMangled := hTexts.map (f := mangle) fun first second hMangle => by
      rw [← unescape_mangle first, hMangle, unescape_mangle]
    simpa [MountRecord.read, Function.comp_def] using hMangled
  rw [hSame, parseMountinfo_eq hFormed, hGood, hRead, eligibleAfter_eq_self hEligible,
    listing_of_nodup hDistinct, List.map_map]
  rfl

/-- The tuple that the record is to come back as. -/
def MountRecord.entry (record : MountRecord) : Mount where
  source := record.source
  fsType := record.fsType
  mount := record.mount

/-- If everything comes back, then nothing was cut at the wrong blank. -/
theorem legible_of_roundTrip {records : List MountRecord}
    (h : parseMountinfo (mountinfo records) = .ok (records.map MountRecord.entry)) :
    ∀ record ∈ records, record.Legible := by
  intro record hRecord
  have hRead := readFrom_of_parseMountinfo h record.entry (List.mem_map_of_mem hRecord)
  obtain ⟨hMount, hSource, hType⟩ := hRead.knownBlanks (escaped_mountinfo records)
  exact ⟨hMount, hSource, isWord_mangle hType.1 fun c hMem hSpace => by
    simp [hType.2 c hMem] at hSpace⟩

/-- Every record comes back exactly when all whitespace in mount points and sources is of
the kinds that the kernel escapes, no mount point is a dash, and no type needs escapes. -/
theorem mountinfoRoundTrip_iff {records : List MountRecord}
    (hDevs : (records.map fun record => record.dev.text).Nodup) :
    parseMountinfo (mountinfo records) =
        .ok (records.map MountRecord.entry) ↔
      ∀ record ∈ records, KnownBlanks record.mount ∧ KnownBlanks record.source ∧
        record.mount ≠ ['-'] ∧ IsWord record.fsType ∧ '\\' ∉ record.fsType := by
  constructor
  · intro h record hRecord
    have hLegible := legible_of_roundTrip h
    rw [parseMountinfo_mountinfo hDevs hLegible, Except.ok.injEq] at h
    have hAll : records.filter (fun record => record.mount ≠ ['-']) = records := by
      have hLength := congrArg List.length h
      rw [List.length_map, List.length_map] at hLength
      exact List.length_filter_eq_length_iff.mp hLength |> List.filter_eq_self.mpr
    rw [hAll, List.map_inj_left] at h
    have hType : mangle record.fsType = record.fsType := congrArg Mount.fsType (h record hRecord)
    refine ⟨(hLegible record hRecord).mount, (hLegible record hRecord).source, ?_,
      hType ▸ (hLegible record hRecord).fsType, plain_of_mangle_eq_self hType⟩
    simpa using List.filter_eq_self.mp hAll record hRecord
  · intro h
    have hLegible : ∀ record ∈ records, record.Legible := by
      intro record hRecord
      obtain ⟨hMount, hSource, _, hWord, hPlain⟩ := h record hRecord
      exact ⟨hMount, hSource, by rwa [mangle_of_word hWord hPlain]⟩
    have hAll : records.filter (fun record => record.mount ≠ ['-']) = records :=
      List.filter_eq_self.mpr fun record hRecord => by simpa using (h record hRecord).2.2.1
    rw [parseMountinfo_mountinfo hDevs hLegible, hAll]
    refine congrArg _ (List.map_congr_left fun record hRecord => ?_)
    obtain ⟨_, _, _, hWord, hPlain⟩ := h record hRecord
    rw [MountRecord.read, mangle_of_word hWord hPlain]
    rfl

def kernelField (text : String) (hWord : IsWord (mangle text.toList))
    (hDash : text.toList ≠ ['-']) : KernelField :=
  ⟨text.toList, hWord, hDash⟩

/-- A disk at some mount point. -/
def diskAt (mount : List Char) (hMount : mount ≠ []) : MountRecord where
  id := kernelField "22" (by decide) (by decide)
  parent := kernelField "20" (by decide) (by decide)
  dev := kernelField "8:1" (by decide) (by decide)
  root := kernelField "/" (by decide) (by decide)
  mount := mount
  options := kernelField "rw,relatime" (by decide) (by decide)
  optional := []
  fsType := "xfs".toList
  source := "/dev/sda1".toList
  superOptions := "rw".toList
  mount_ne := hMount
  source_ne := by decide
  readWrite := by decide
  listed := by decide
  not_overlay := by decide
  oneLine := by decide

theorem mountinfoRoundTrip_iff_space :
    parseMountinfo (mountinfo [diskAt "/my data".toList (by decide)]) =
      .ok [{ source := "/dev/sda1".toList, fsType := "xfs".toList, mount := "/my data".toList }] :=
  (@mountinfoRoundTrip_iff [diskAt "/my data".toList (by decide)] (by decide)).mpr (by decide)

/-- A no-break space is no blank to the kernel. -/
theorem not_mountinfoRoundTrip_noBreak :
    parseMountinfo (mountinfo [diskAt "/my\u00a0data".toList (by decide)]) ≠
      .ok [{ source := "/dev/sda1".toList, fsType := "xfs".toList,
             mount := "/my\u00a0data".toList }] := by
  decide +kernel

end NodeDebugDashboard.Collectors.Mountinfo
