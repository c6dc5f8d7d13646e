import NodeDebugDashboard.Collectors.Host
import NodeDebugDashboard.Library.Fields
import NodeDebugDashboard.Library.Matcher
import NodeDebugDashboard.Models

/-! app/collectors/efi.py: the boot entries that `efibootmgr -v` prints, read by a pattern
with groups. -/
namespace NodeDebugDashboard.Collectors.Efi

open Library Library.Python Library.Text Models

variable {F : Type}

/-- `[0-9A-Fa-f]` -/
def isHex (c : Char) : Bool := ('0' ≤ c ∧ c ≤ '9') ∨ ('A' ≤ c ∧ c ≤ 'F') ∨ ('a' ≤ c ∧ c ≤ 'f')

/-- `.` -/
def isDot (c : Char) : Bool := c ≠ '\n'

/-- `^Boot[0-9A-Fa-f]{4}` -/
def bootLine : Matcher (List Char) := do
  Matcher.literal "Boot".toList
  Matcher.exactly isHex 4

/-- The groups of `^Boot([0-9A-Fa-f]{4})(\*?)\s+(.*?)(\t.*)?$`. -/
structure Groups where
  number : List Char
  mark : Option Char
  label : List Char
  path : Option (List Char)

/-- `\t.*` -/
def tabGroup : Matcher (List Char) := do
  let tab ← Matcher.one (· = '\t')
  let rest ← Matcher.many isDot
  return tab :: rest

def bootEntry : Matcher Groups := do
  Matcher.literal "Boot".toList
  let number ← Matcher.exactly isHex 4
  let mark ← Matcher.optional (Matcher.one (· = '*'))
  let _ ← Matcher.some isSpace
  let label ← Matcher.fewest isDot
  let path ← Matcher.optional tabGroup
  Matcher.atEnd
  return { number, mark, label, path }

def Groups.entry (m : Groups) : EFIBootEntry where
  number := String.ofList m.number
  label := String.ofList (strip m.label)
  active := m.mark = some '*'
  path := String.ofList ((m.path.map strip).getD [])

/-- One turn of the loop over the lines. -/
def readLine (info : EFIInfo) (line : String) : EFIInfo :=
  let line := stripped line
  if startsWith "BootCurrent:" line then
    { info with bootCurrent := some (after "BootCurrent:" line) }
  else if startsWith "BootOrder:" line then
    { info with
      bootOrder :=
        ((after "BootOrder:" line).toList.splitOn ',').map fun x => String.ofList (strip x) }
  else if startsWith "Timeout:" line then { info with timeout := some (after "Timeout:" line) }
  else if (bootLine.capture line.toList).isSome then
    match bootEntry.capture line.toList with
    | some m => { info with entries := info.entries ++ [m.entry] }
    | none => info
  else info

/-- `collect_efi` when nothing is cached. -/
def collectEfi (host : Host F) : Outcome EFIInfo := do
  let (stdout, _, rc) ← host.run ["efibootmgr", "-v"]
  if rc = 0 then return (lines stdout).foldl readLine {}
  else do
    -- Try without -v
    let (stdout, _, rc) ← host.run ["efibootmgr"]
    if rc = 0 then return (lines stdout).foldl readLine {} else return {}

/-- The number of a boot entry. -/
structure BootNumber where
  text : List Char
  length_eq : text.length = 4
  hex : ∀ c ∈ text, isHex c = true

/-- A boot entry of the firmware. The description may be empty. -/
structure BootEntry where
  number : BootNumber
  active : Bool
  label : List Char
  path : List Char
  label_char : ∀ c ∈ label, c ≠ '\t' ∧ c ≠ '\n'
  label_strip : strip label = label
  path_ne : path ≠ []
  path_char : ∀ c ∈ path, c ≠ '\n'
  path_strip : strip path = path

/-- What is printed in front of the entries. -/
structure Header where
  bootNext : Option BootNumber
  bootCurrent : Option BootNumber
  timeout : Option Nat
  bootOrder : List BootNumber

def BootEntry.line (entry : BootEntry) : List Char :=
  "Boot".toList ++ (entry.number.text ++ (if entry.active then '*' else ' ') :: ' ' ::
    (entry.label ++ '\t' :: entry.path))

def secondsText (n : Nat) : List Char := Nat.toDigits 10 n ++ " seconds".toList

def orderText (numbers : List BootNumber) : List Char :=
  [','].intercalate (numbers.map BootNumber.text)

def Header.lines (header : Header) : List (List Char) :=
  (header.bootNext.map fun number => "BootNext:".toList ++ ' ' :: number.text).toList ++
    (header.bootCurrent.map fun number => "BootCurrent:".toList ++ ' ' :: number.text).toList ++
    (header.timeout.map fun n => "Timeout:".toList ++ ' ' :: secondsText n).toList ++
    (if header.bootOrder = [] then []
      else ["BootOrder:".toList ++ ' ' :: orderText header.bootOrder])

/-- What `efibootmgr -v` prints. -/
def efibootmgr (header : Header) (entries : List BootEntry) : List Char :=
  unlines (header.lines ++ entries.map BootEntry.line)

def BootEntry.shown (entry : BootEntry) : EFIBootEntry where
  number := String.ofList entry.number.text
  label := String.ofList entry.label
  active := entry.active
  path := String.ofList entry.path

/-- What the lines in front of the entries say. -/
def Header.info (header : Header) : EFIInfo where
  bootCurrent := header.bootCurrent.map fun number => String.ofList number.text
  bootOrder := header.bootOrder.map fun number => String.ofList number.text
  timeout := header.timeout.map fun n => String.ofList (secondsText n)

/-- The entry has a description, and it stands on one line. -/
def BootEntry.Readable (entry : BootEntry) : Prop :=
  entry.label ≠ [] ∧ OneLine entry.label ∧ OneLine entry.path

instance (entry : BootEntry) : Decidable entry.Readable := inferInstanceAs (Decidable (_ ∧ _ ∧ _))

theorem isDot_of_isLineEnd {c : Char} (h : isLineEnd c = false) : isDot c = true := by
  have hNewline : c ≠ '\n' := by
    rintro rfl
    exact absurd h (by decide)
  simpa [isDot] using hNewline

theorem mem_tabGroup {text run rest : List Char} : (run, rest) ∈ tabGroup text ↔
    text = run ++ rest ∧ ∃ later, run = '\t' :: later ∧ ∀ c ∈ later, isDot c = true := by
  simp only [tabGroup, Matcher.mem_bind, Matcher.mem_one, Matcher.mem_many, Matcher.mem_pure,
    decide_eq_true_eq]
  constructor
  · rintro ⟨_, _, ⟨rfl, rfl⟩, later, _, ⟨rfl, hLater⟩, rfl, rfl⟩
    exact ⟨rfl, later, rfl, hLater⟩
  · rintro ⟨rfl, later, rfl, hLater⟩
    exact ⟨'\t', later ++ rest, ⟨rfl, rfl⟩, later, rest, ⟨rfl, hLater⟩, rfl, rfl⟩

/-- What stands in a text that the pattern matches. -/
theorem mem_bootEntry {text rest : List Char} {m : Groups} (h : (m, rest) ∈ bootEntry text) :
    ∃ gap, text = "Boot".toList ++
      (m.number ++ (m.mark.toList ++ (gap ++ (m.label ++ (m.path.getD [] ++ rest))))) ∧
      (m.number.length = 4 ∧ ∀ c ∈ m.number, isHex c = true) ∧ (m.mark = some '*' ∨ m.mark = none) ∧
      gap ≠ [] ∧ ∀ c ∈ gap, isSpace c = true := by
  simp only [bootEntry, Matcher.mem_bind, Matcher.mem_literal, Matcher.mem_exactly,
    Matcher.mem_some, Matcher.mem_atEnd, Matcher.mem_pure] at h
  obtain ⟨_, _, rfl, number, _, ⟨rfl, hNumber⟩, mark, _, hMark, gap, _, ⟨rfl, hGap⟩, label, _,
    hLabel, path, _, hPath, _, _, ⟨rfl, _⟩, rfl, rfl⟩ := h
  obtain ⟨rfl, hStar⟩ := Matcher.mem_optional_one hMark
  obtain ⟨rfl, _⟩ := Matcher.mem_fewest hLabel
  obtain rfl := Matcher.mem_optional_run (fun run hRun => (mem_tabGroup.mp hRun).1) hPath
  refine ⟨gap, rfl, hNumber, ?_, hGap⟩
  cases mark with
  | some c => exact .inl (by rw [of_decide_eq_true (hStar c rfl)])
  | none => exact .inr rfl

/-- The end of the pattern, `(\t.*)?$`, behind the label. -/
theorem leads_tail {text : List Char} (h : ∀ c ∈ text, isDot c = true)
    (hTab : ∀ c, text.head? = some c → c = '\t') (groups : Option (List Char) → Groups) :
    (do
      let path ← Matcher.optional tabGroup
      Matcher.atEnd
      return groups path :
        Matcher Groups).Leads text (groups (if text = [] then none else some text)) [] := by
  cases text with
  | nil =>
      have hNone := Matcher.leads_optional_none (show tabGroup [] = [] from rfl)
      exact hNone.bind (Matcher.leads_atEnd.bind (Matcher.leads_pure _ _))
  | cons c later =>
      obtain rfl := hTab c rfl
      have hLater : (Matcher.many isDot).Leads (later ++ []) later [] :=
        Matcher.leads_many (fun d hMem => h d (List.mem_cons_of_mem _ hMem)) (by simp)
      rw [List.append_nil] at hLater
      have hGroup : tabGroup.Leads ('\t' :: later) ('\t' :: later) [] :=
        (Matcher.leads_one (by decide)).bind (hLater.bind (Matcher.leads_pure _ _))
      exact hGroup.optional.bind (Matcher.leads_atEnd.bind (Matcher.leads_pure _ _))

/-- Inside the label the pattern cannot end. -/
theorem tail_eq_nil {c : Char} (hTab : c ≠ '\t') (hDot : isDot c = true) (rest : List Char)
    (groups : Option (List Char) → Groups) :
    (do
      let path ← Matcher.optional tabGroup
      Matcher.atEnd
      return groups path : Matcher Groups) (c :: rest) = [] := by
  rw [List.eq_nil_iff_forall_not_mem]
  rintro ⟨m, _⟩ hMem
  simp only [Matcher.mem_bind, Matcher.mem_optional, mem_tabGroup, Matcher.mem_atEnd] at hMem
  obtain ⟨_, _, ⟨_, _, hText, _, rfl, _⟩ | ⟨_, rfl⟩, _, _, ⟨_, hEnd⟩, _⟩ := hMem
  · exact hTab (List.cons_eq_cons.mp hText).1
  · rcases hEnd with hNil | hNewline
    · cases hNil
    · obtain ⟨rfl, _⟩ := List.cons_eq_cons.mp hNewline
      exact absurd hDot (by decide)

/-- What the pattern captures when all blanks behind the mark belong to the gap. -/
theorem bootEntry_line {number gap body : List Char} {mark : Option Char}
    (hLength : number.length = 4) (hHex : ∀ c ∈ number, isHex c = true)
    (hMark : mark = some '*' ∨ mark = none) (hGap : gap ≠ []) (hBlank : ∀ c ∈ gap, isSpace c = true)
    (hHead : ∀ c, body.head? = some c → isSpace c = false) (hBody : ∀ c ∈ body, isDot c = true) :
    (bootEntry.capture ("Boot".toList ++ (number ++ (mark.toList ++ (gap ++ body))))).map
      Groups.entry =
      some {
        number := String.ofList number
        label := String.ofList (strip (body.takeWhile (· ≠ '\t')))
        active := mark = some '*'
        path := String.ofList (strip (body.dropWhile (· ≠ '\t'))) } := by
  obtain ⟨hParts, hLabel, hRest⟩ := span_spec (· ≠ '\t') body
  generalize body.takeWhile (· ≠ '\t') = label at *
  generalize body.dropWhile (· ≠ '\t') = path at *
  subst hParts
  have hNumber := hLength ▸ Matcher.leads_exactly hHex (mark.toList ++ (gap ++ (label ++ path)))
  have hOptional :
      (Matcher.optional (Matcher.one (· = '*'))).Leads
        (mark.toList ++ (gap ++ (label ++ path))) mark
      (gap ++ (label ++ path)) := by
    refine Matcher.leads_optional_one (fun c hSome => ?_) fun _ c hFirst => ?_
    · rcases hMark with rfl | rfl <;> cases hSome
      rfl
    · obtain ⟨d, later, rfl⟩ := List.exists_cons_of_ne_nil hGap
      obtain rfl := Option.some.inj hFirst
      by_contra hStar
      obtain rfl := of_decide_eq_true (Bool.not_eq_false _ ▸ hStar)
      exact absurd (hBlank '*' List.mem_cons_self) (by decide)
  have hCapture :
      bootEntry.Leads ("Boot".toList ++ (number ++ (mark.toList ++ (gap ++ (label ++ path)))))
      { number, mark, label, path := if path = [] then none else some path } [] := by
    refine (Matcher.leads_literal _ _).bind (hNumber.bind (hOptional.bind
      ((Matcher.leads_some hGap hBlank hHead).bind (Matcher.leads_fewest ?_ ?_ ?_))))
    · exact fun c hMem => hBody c (List.mem_append_left _ hMem)
    · intro first later hSplit hLater
      obtain ⟨c, more, rfl⟩ := List.exists_cons_of_ne_nil hLater
      have hMem : c ∈ label := by simp [← hSplit]
      exact tail_eq_nil (by simpa using hLabel c hMem) (hBody c (List.mem_append_left _ hMem)) _ _
    · exact leads_tail (fun c hMem => hBody c (List.mem_append_right _ hMem))
        (fun c hFirst => by simpa using hRest c hFirst) _
  rw [hCapture.capture]
  by_cases hPath : path = [] <;> simp [Groups.entry, hPath]
  rfl

/-- Whatever the pattern captures of a stripped line, there is a label, and it stands on the
line. -/
theorem bootEntry_sound {line : List Char} {entry : EFIBootEntry} (hLine : OneLine line)
    (hStrip : strip line = line) (h : (bootEntry.capture line).map Groups.entry = some entry) :
    entry.label.toList ≠ [] ∧ OneLine entry.label.toList ∧ OneLine entry.path.toList := by
  obtain ⟨m, hCapture, _⟩ := Option.map_eq_some_iff.mp h
  obtain ⟨later, hMem⟩ := Matcher.exists_mem_of_capture hCapture
  obtain ⟨gap, hText, ⟨hLength, hHex⟩, hMark, hGap, hBlank⟩ := mem_bootEntry hMem
  -- Blanks that a label could begin with belong to the gap in the way that is tried first.
  obtain ⟨hParts, hSpaces, hHead⟩ :=
    span_spec isSpace (gap ++ (m.label ++ (m.path.getD [] ++ later)))
  rw [hParts] at hText
  generalize (gap ++ (m.label ++ (m.path.getD [] ++ later))).takeWhile isSpace = spaces at *
  generalize (gap ++ (m.label ++ (m.path.getD [] ++ later))).dropWhile isSpace = body at *
  have hSome : spaces ≠ [] := by
    rintro rfl
    obtain ⟨c, more, rfl⟩ := List.exists_cons_of_ne_nil hGap
    have hSpace := hHead c (by rw [← List.nil_append body, ← hParts]; rfl)
    simp [hBlank c List.mem_cons_self] at hSpace
  obtain ⟨c, hFirstChar⟩ : ∃ c, body.head? = some c := by
    cases body with
    | cons c rest => exact ⟨c, rfl⟩
    | nil =>
        have hLast : line.getLast? = some (spaces.getLast hSome) := by
          rw [hText, List.append_nil]
          simp only [List.getLast?_append, List.getLast?_eq_some_getLast hSome]
          rfl
        have hKept := getLast?_strip (hStrip.symm ▸ hLast)
        simp [hSpaces _ (List.getLast_mem hSome)] at hKept
  have hBodyLine : OneLine body := fun d hMem => hLine d (by simp [hText, hMem])
  have hDots : ∀ d ∈ body, isDot d = true := fun d hMem => isDot_of_isLineEnd (hBodyLine d hMem)
  rw [hText, bootEntry_line hLength hHex hMark hSome hSpaces hHead hDots, Option.some.injEq] at h
  subst h
  simp only [String.toList_ofList]
  have hOf :
      ∀ piece : List Char, piece <:+: body → OneLine (strip piece) := fun piece hPiece d hMem =>
    hBodyLine d (((strip_isInfix piece).trans hPiece).subset hMem)
  refine ⟨strip_ne_nil ⟨c, ?_, hHead c hFirstChar⟩, hOf _ (List.takeWhile_prefix _).isInfix,
    hOf _ (List.dropWhile_suffix _).isInfix⟩
  obtain ⟨rest, rfl⟩ := List.head?_eq_some_iff.mp hFirstChar
  have hTab : c ≠ '\t' := by
    rintro rfl
    exact absurd (hHead '\t' rfl) (by decide)
  simp [hTab]

/-- The entry that a line adds, if any. -/
def found (line : List Char) : Option EFIBootEntry :=
  (bootEntry.capture (strip line)).map Groups.entry

/-- A line with an entry is one with a number, and none of the others. -/
theorem capture_start {text : List Char} {m : Groups} (h : bootEntry.capture text = some m) :
    (bootLine.capture text).isSome ∧ ¬"BootCurrent:".toList <+: text ∧
      ¬"BootOrder:".toList <+: text ∧ ¬"Timeout:".toList <+: text := by
  obtain ⟨later, hMem⟩ := Matcher.exists_mem_of_capture h
  obtain ⟨gap, rfl, ⟨hLength, hHex⟩, _, _⟩ := mem_bootEntry hMem
  generalize m.mark.toList ++ (gap ++ (m.label ++ (m.path.getD [] ++ later))) = rest
  have hNumber : bootLine.Leads ("Boot".toList ++ (m.number ++ rest)) m.number rest :=
    (Matcher.leads_literal _ _).bind (hLength ▸ Matcher.leads_exactly hHex rest)
  refine ⟨by rw [hNumber.capture]; rfl, ?_⟩
  obtain ⟨first, second, third, fourth, hDigits⟩ := List.length_eq_four.mp hLength
  rw [hDigits] at hHex ⊢
  refine ⟨?_, ?_, ?_⟩ <;> rintro ⟨_, hSame⟩ <;> simp at hSame
  · exact absurd (hHex second (by simp)) (hSame.2.1 ▸ by decide)
  · exact absurd (hHex first (by simp)) (hSame.1 ▸ by decide)

theorem readLine_of_found {line : List Char} {entry : EFIBootEntry} (h : found line = some entry)
    (info : EFIInfo) :
    readLine info (String.ofList line) = { info with entries := info.entries ++ [entry] } := by
  obtain ⟨m, hCapture, rfl⟩ := Option.map_eq_some_iff.mp h
  obtain ⟨hNumber, hCurrent, hOrder, hTimeout⟩ := capture_start hCapture
  unfold readLine stripped startsWith
  simp only [String.toList_ofList, List.isPrefixOf_iff_prefix]
  rw [if_neg hCurrent, if_neg hOrder, if_neg hTimeout, if_pos hNumber, hCapture]

theorem readLine_entries (info : EFIInfo) (line : List Char) :
    (readLine info (String.ofList line)).entries = info.entries ++ (found line).toList := by
  cases hFound : found line with
  | some entry => rw [readLine_of_found hFound, Option.toList_some]
  | none =>
      have hCapture := Option.map_eq_none_iff.mp hFound
      unfold readLine stripped
      simp only [String.toList_ofList, hCapture]
      split_ifs <;> simp

theorem foldl_entries (info : EFIInfo) (lines : List (List Char)) :
    ((lines.map String.ofList).foldl readLine info).entries = info.entries ++
    lines.filterMap found := by
  induction lines generalizing info with
  | nil => simp
  | cons line rest ih =>
      rw [List.map_cons, List.foldl_cons, ih, readLine_entries, List.append_assoc]
      cases hFound : found line <;> simp [hFound]

theorem strip_strip (text : List Char) : strip (strip text) = strip text :=
  strip_eq_self_of_ends (fun _ => head?_strip) fun _ => getLast?_strip

theorem strip_cons {c : Char} (h : isSpace c = true) (text : List Char) :
    strip (c :: text) = strip text := by
  rw [strip, List.dropWhile_cons_of_pos h, ← strip]

/-- A text with something to read on it and no blanks at its ends. -/
def Trimmed (text : List Char) : Prop := text ≠ [] ∧ strip text = text

theorem Trimmed.head? {text : List Char} (h : Trimmed text) :
    ∃ c, text.head? = some c ∧ isSpace c = false := by
  obtain ⟨c, rest, rfl⟩ := List.exists_cons_of_ne_nil h.1
  exact ⟨c, rfl, head?_strip (by rw [h.2]; rfl)⟩

theorem Trimmed.getLast? {text : List Char} (h : Trimmed text) :
    ∃ c, text.getLast? = some c ∧ isSpace c = false := by
  have hLast := List.getLast?_eq_some_getLast h.1
  exact ⟨_, hLast, getLast?_strip ((congrArg List.getLast? h.2).trans hLast)⟩

/-- Nothing is stripped off a line between two such texts. -/
theorem Trimmed.append {first last : List Char} (hFirst : Trimmed first) (hLast : Trimmed last)
    (middle : List Char) : Trimmed (first ++ (middle ++ last)) := by
  obtain ⟨c, hHead, hStart⟩ := hFirst.head?
  obtain ⟨d, hEnd, hStop⟩ := hLast.getLast?
  refine ⟨by simp [hFirst.1], strip_eq_self_of_ends (fun e hMem => ?_) fun e hMem => ?_⟩
  · rw [List.head?_append, hHead] at hMem
    cases hMem
    exact hStart
  · rw [← List.append_assoc, List.getLast?_append, hEnd] at hMem
    cases hMem
    exact hStop

theorem trimmed_of_isWord {word : List Char} (h : IsWord word) : Trimmed word :=
  ⟨h.1, strip_eq_self h.2⟩

theorem isSpace_of_isHex {c : Char} (h : isHex c = true) : isSpace c = false := by
  have hRange : 48 ≤ c.toNat ∧ c.toNat ≤ 102 := by
    have hVal : c.val.toNat = c.toNat := rfl
    simp only [isHex, Char.le_def, UInt32.le_iff_toNat_le, decide_eq_true_eq, hVal] at h
    simp at h
    omega
  simp [isSpace]
  omega

theorem BootNumber.isWord (number : BootNumber) : IsWord number.text := by
  refine ⟨?_, fun c hMem => isSpace_of_isHex (number.hex c hMem)⟩
  intro hNil
  have hLength := number.length_eq
  simp [hNil] at hLength

theorem after_name (name : String) {value : List Char} (h : strip value = value) :
    after name (String.ofList (name.toList ++ ' ' :: value)) = String.ofList value := by
  rw [after, stripped, String.toList_ofList, String.toList_ofList, ← String.length_toList,
    List.drop_left, strip_cons (by decide), h]

theorem stripped_named (name : String) {value : List Char} (hName : IsWord name.toList)
    (hValue : Trimmed value) :
    stripped (String.ofList (name.toList ++ ' ' :: value)) =
      String.ofList (name.toList ++ ' ' :: value) := by
  have hLine := ((trimmed_of_isWord hName).append hValue [' ']).2
  rw [List.singleton_append] at hLine
  rw [stripped, String.toList_ofList, hLine]

/-- A line that says something else. -/
theorem readLine_bootNext (info : EFIInfo) (number : BootNumber) :
    readLine info (String.ofList ("BootNext:".toList ++ ' ' :: number.text)) = info := by
  have hLine :
      bootLine.capture (String.ofList ("BootNext:".toList ++ ' ' :: number.text)).toList =
        none := by
    rw [String.toList_ofList]
    rfl
  rw [readLine, stripped_named _ (by decide) (trimmed_of_isWord number.isWord), hLine,
    if_neg (by simp [startsWith]),
    if_neg (by simp [startsWith]), if_neg (by simp [startsWith]), if_neg (by simp)]

theorem readLine_bootCurrent (info : EFIInfo) (number : BootNumber) :
    readLine info (String.ofList ("BootCurrent:".toList ++ ' ' :: number.text)) =
      { info with bootCurrent := some (String.ofList number.text) } := by
  have hValue := trimmed_of_isWord number.isWord
  rw [readLine, stripped_named _ (by decide) hValue, if_pos (by simp [startsWith]),
    after_name _ hValue.2]

theorem trimmed_secondsText (n : Nat) : Trimmed (secondsText n) :=
  (trimmed_of_isWord ⟨Nat.toDigits_ne_nil, toDigits_not_isSpace n⟩).append
    (trimmed_of_isWord (by decide)) [' ']

theorem readLine_timeout (info : EFIInfo) (n : Nat) :
    readLine info (String.ofList ("Timeout:".toList ++ ' ' :: secondsText n)) =
      { info with timeout := some (String.ofList (secondsText n)) } := by
  have hValue := trimmed_secondsText n
  rw [readLine, stripped_named _ (by decide) hValue, if_neg (by simp [startsWith]),
    if_neg (by simp [startsWith]), if_pos (by simp [startsWith]), after_name _ hValue.2]

theorem isWord_orderText {numbers : List BootNumber} (hNe : numbers ≠ []) :
    IsWord (orderText numbers) := by
  unfold orderText
  induction numbers with
  | nil => exact absurd rfl hNe
  | cons number others ih =>
      cases others with
      | nil => simpa using number.isWord
      | cons next others =>
          obtain ⟨_, hOthers⟩ := ih (List.cons_ne_nil _ _)
          rw [List.map_cons] at hOthers
          rw [List.map_cons, List.map_cons, List.intercalate_cons_cons]
          refine ⟨by simp, fun c hMem => ?_⟩
          rcases List.mem_append.mp hMem with hFront | hBack
          · rcases List.mem_append.mp hFront with hNumber | hComma
            · exact number.isWord.2 c hNumber
            · rw [List.mem_singleton.mp hComma]
              decide
          · exact hOthers c hBack

theorem splitOn_orderText {numbers : List BootNumber} (hNe : numbers ≠ []) :
    (orderText numbers).splitOn ',' = numbers.map BootNumber.text := by
  refine List.splitOn_intercalate ',' (fun text hMem hComma => ?_) (by simpa using hNe)
  obtain ⟨number, _, rfl⟩ := List.mem_map.mp hMem
  exact absurd (number.hex ',' hComma) (by decide)

theorem readLine_bootOrder (info : EFIInfo) {numbers : List BootNumber} (hNe : numbers ≠ []) :
    readLine info (String.ofList ("BootOrder:".toList ++ ' ' :: orderText numbers)) =
      { info with bootOrder := numbers.map fun number => String.ofList number.text } := by
  have hValue := trimmed_of_isWord (isWord_orderText hNe)
  rw [readLine, stripped_named _ (by decide) hValue, if_neg (by simp [startsWith]),
    if_pos (by simp [startsWith]),
    after_name _ hValue.2, String.toList_ofList, splitOn_orderText hNe, List.map_map]
  simp only [Function.comp_def, strip_eq_self (BootNumber.isWord _).2]

theorem foldl_optional {α : Type} {line : α → List Char} {turn : EFIInfo → α → EFIInfo}
    (h : ∀ info value, readLine info (String.ofList (line value)) = turn info value)
    (value : Option α) (info : EFIInfo) :
    ((value.map line).toList.map String.ofList).foldl readLine info =
      value.elim info (turn info) := by
  cases value with
  | none => rfl
  | some value =>
      rw [Option.map_some, Option.toList_some, List.map_singleton, List.foldl_cons, h]; rfl

/-- The lines in front of the entries are read back. -/
theorem foldl_header (header : Header) :
    (header.lines.map String.ofList).foldl readLine {} = header.info := by
  obtain ⟨bootNext, bootCurrent, timeout, bootOrder⟩ := header
  unfold Header.lines
  simp only [List.map_append, List.foldl_append]
  rw [foldl_optional readLine_bootNext, foldl_optional readLine_bootCurrent,
    foldl_optional readLine_timeout]
  by_cases hOrder : bootOrder = []
  · rw [if_pos hOrder, hOrder]
    cases bootNext <;> cases bootCurrent <;> cases timeout <;> rfl
  · rw [if_neg hOrder, List.map_singleton, List.foldl_cons, readLine_bootOrder _ hOrder,
      List.foldl_nil]
    cases bootNext <;> cases bootCurrent <;> cases timeout <;> rfl

/-- The blank in place of the mark belongs to the gap. -/
theorem exists_mark (entry : BootEntry) : ∃ mark gap,
    entry.line = "Boot".toList ++
      (entry.number.text ++ (mark.toList ++ (gap ++ (entry.label ++ '\t' :: entry.path)))) ∧
      (mark = some '*' ∨ mark = none) ∧ decide (mark = some '*') = entry.active ∧
      gap ≠ [] ∧ ∀ c ∈ gap, isSpace c = true := by
  unfold BootEntry.line
  cases entry.active with
  | true => exact ⟨some '*', [' '], rfl, .inl rfl, rfl, by decide, by decide⟩
  | false => exact ⟨none, [' ', ' '], rfl, .inr rfl, rfl, by decide, by decide⟩

theorem BootEntry.strip_line (entry : BootEntry) : strip entry.line = entry.line := by
  have hName : Trimmed "Boot".toList := trimmed_of_isWord (by decide)
  have hPath : Trimmed entry.path := ⟨entry.path_ne, entry.path_strip⟩
  have hLine := hName.append hPath
    (entry.number.text ++ (if entry.active then '*' else ' ') :: ' ' :: (entry.label ++ ['\t']))
  simpa [BootEntry.line] using hLine.2

theorem BootEntry.isDot_body (entry : BootEntry) :
    ∀ c ∈ entry.label ++ '\t' :: entry.path, isDot c = true := by
  intro c hMem
  rcases List.mem_append.mp hMem with hLabel | hRest
  · simpa [isDot] using (entry.label_char c hLabel).2
  · rcases List.mem_cons.mp hRest with rfl | hPath
    · decide
    · simpa [isDot] using entry.path_char c hPath

/-- An entry with a description is cut at the tab. -/
theorem found_line {entry : BootEntry} (hLabel : entry.label ≠ []) :
    found entry.line = some entry.shown := by
  obtain ⟨c, hHead, hSpace⟩ := Trimmed.head? ⟨hLabel, entry.label_strip⟩
  have hSpan : (entry.label ++ '\t' :: entry.path).takeWhile (· ≠ '\t') = entry.label ∧
      (entry.label ++ '\t' :: entry.path).dropWhile (· ≠ '\t') = '\t' :: entry.path := by
    refine span_eq_iff.mpr ⟨rfl, fun d hMem => by simpa using (entry.label_char d hMem).1, ?_⟩
    rintro d hMem
    cases hMem
    decide
  have hStart : ∀ d, (entry.label ++ '\t' :: entry.path).head? = some d → isSpace d = false := by
    intro d hFirst
    rw [List.head?_append, hHead] at hFirst
    cases hFirst
    exact hSpace
  obtain ⟨mark, gap, hLine, hMark, hActive, hGap, hBlank⟩ := exists_mark entry
  rw [found, entry.strip_line, hLine, bootEntry_line entry.number.length_eq entry.number.hex hMark
    hGap hBlank hStart
    entry.isDot_body, hSpan.1, hSpan.2, entry.label_strip, strip_cons (by decide),
    entry.path_strip, hActive]
  rfl

theorem foldl_printed {printed : List BootEntry} (h : ∀ entry ∈ printed, entry.label ≠ [])
    (info : EFIInfo) :
    ((printed.map BootEntry.line).map String.ofList).foldl readLine info =
      { info with entries := info.entries ++ printed.map BootEntry.shown } := by
  induction printed generalizing info with
  | nil => simp
  | cons entry rest ih =>
      obtain ⟨hEntry, hRest⟩ := List.forall_mem_cons.mp h
      rw [List.map_cons, List.map_cons, List.foldl_cons, readLine_of_found (found_line hEntry),
        ih hRest]
      simp

theorem BootEntry.oneLine {entry : BootEntry} (hLabel : OneLine entry.label)
    (hPath : OneLine entry.path) :
    OneLine entry.line := by
  have hMark : OneLine [if entry.active then '*' else ' ', ' '] := by cases entry.active <;> decide
  have hBody : OneLine (entry.label ++ (['\t'] ++ entry.path)) :=
    oneLine_append hLabel (oneLine_append (by decide) hPath)
  exact oneLine_append (by decide)
    (oneLine_append entry.number.isWord.oneLine (oneLine_append hMark hBody))

theorem oneLine_header (header : Header) : ∀ line ∈ header.lines, OneLine line := by
  have hField :
      ∀ name value : List Char, OneLine name → OneLine value → OneLine (name ++ ' ' :: value) :=
    fun name value hName hValue =>
      oneLine_append hName (oneLine_append (by decide : OneLine [' ']) hValue)
  have hSeconds : ∀ n, OneLine (secondsText n) := fun n =>
    oneLine_append (IsWord.oneLine ⟨Nat.toDigits_ne_nil, toDigits_not_isSpace n⟩) (by decide)
  intro line hMem
  simp only [Header.lines, List.mem_append, Option.mem_toList, Option.map_eq_some_iff] at hMem
  rcases hMem with ((⟨number, _, rfl⟩ | ⟨number, _, rfl⟩) | ⟨n, _, rfl⟩) | hOrder
  · exact hField _ _ (by decide) number.isWord.oneLine
  · exact hField _ _ (by decide) number.isWord.oneLine
  · exact hField _ _ (by decide) (hSeconds n)
  · split_ifs at hOrder with hNil
    · cases hOrder
    · rw [List.mem_singleton.mp hOrder]
      exact hField _ _ (by decide) (isWord_orderText hNil).oneLine

theorem collectEfi_eq {host : Host F} {stdout stderr : String}
    (hRun : host.run ["efibootmgr", "-v"] = .ok (stdout, stderr, 0)) :
    collectEfi host = .ok ((lines stdout).foldl readLine {}) := by
  rw [collectEfi, hRun]
  rfl

/-- Readable entries are read back, and so are the lines in front of them. -/
theorem collectEfi_printed {host : Host F} {header : Header} {printed : List BootEntry}
    {stderr : String}
    (hRun : host.run ["efibootmgr", "-v"] =
      .ok (String.ofList (efibootmgr header printed), stderr, 0))
    (h : ∀ entry ∈ printed, entry.Readable) :
    collectEfi host = .ok { header.info with entries := printed.map BootEntry.shown } := by
  have hLines : ∀ line ∈ header.lines ++ printed.map BootEntry.line, OneLine line := by
    intro line hMem
    rcases List.mem_append.mp hMem with hFirst | hEntry
    · exact oneLine_header header line hFirst
    · obtain ⟨entry, hIn, rfl⟩ := List.mem_map.mp hEntry
      exact BootEntry.oneLine (h entry hIn).2.1 (h entry hIn).2.2
  rw [collectEfi_eq hRun, lines, String.toList_ofList, efibootmgr, splitLines_unlines hLines,
    List.map_append,
    List.foldl_append, foldl_header, foldl_printed fun entry hMem => (h entry hMem).1]
  rfl

/-- An entry that comes back was readable. -/
theorem readable_of_entries {host : Host F} {header : Header} {printed : List BootEntry}
    {stderr : String}
    (hRun : host.run ["efibootmgr", "-v"] =
      .ok (String.ofList (efibootmgr header printed), stderr, 0))
    (h : (collectEfi host).map EFIInfo.entries = .ok (printed.map BootEntry.shown)) :
    ∀ entry ∈ printed, entry.Readable := by
  intro entry hMem
  rw [collectEfi_eq hRun, lines, String.toList_ofList] at h
  have hFound := (foldl_entries {} _).symm.trans (Except.ok.inj h)
  rw [show (({} : EFIInfo).entries) = [] from rfl, List.nil_append] at hFound
  have hShown : entry.shown ∈ (splitLines (efibootmgr header printed)).filterMap found := by
    rw [hFound]
    exact List.mem_map_of_mem hMem
  obtain ⟨line, hLine, hCapture⟩ := List.mem_filterMap.mp hShown
  have hOneLine : OneLine (strip line) := fun c hChar =>
    oneLine_of_mem_splitLines hLine c ((strip_isInfix line).subset hChar)
  have hSound := bootEntry_sound hOneLine (strip_strip line) hCapture
  simp only [BootEntry.shown, String.toList_ofList] at hSound
  exact hSound

/-- The entries come back, in order, if every one has a description and no line ends within it. -/
theorem collectEfi_entries_iff {host : Host F} {header : Header} {printed : List BootEntry}
    {stderr : String}
    (hRun : host.run ["efibootmgr", "-v"] =
      .ok (String.ofList (efibootmgr header printed), stderr, 0)) :
    (collectEfi host).map EFIInfo.entries = .ok (printed.map BootEntry.shown) ↔
      ∀ entry ∈ printed, entry.Readable := by
  constructor
  · exact readable_of_entries hRun
  · intro h
    rw [collectEfi_printed hRun h]
    rfl

/-- A node on which this is printed. -/
def printing (header : Header) (printed : List BootEntry) : Host Int :=
  { unreadable with run := fun _ => .ok (String.ofList (efibootmgr header printed), "", 0) }

theorem run_printing (header : Header) (printed : List BootEntry) :
    (printing header printed).run ["efibootmgr", "-v"] =
      .ok (String.ofList (efibootmgr header printed), "", 0) := rfl

def plainHeader : Header where
  bootNext := none
  bootCurrent := some ⟨"0001".toList, rfl, by decide⟩
  timeout := some 1
  bootOrder := [⟨"0001".toList, rfl, by decide⟩, ⟨"000A".toList, rfl, by decide⟩]

def ubuntu : BootEntry where
  number := ⟨"0001".toList, rfl, by decide⟩
  active := true
  label := "ubuntu 24.04".toList
  path := "HD(1,GPT,5f1c)/File(\\EFI)".toList
  label_char := by decide
  label_strip := by decide
  path_ne := by decide
  path_char := by decide
  path_strip := by decide

theorem collectEfi_entries_ubuntu :
    (collectEfi (printing plainHeader [ubuntu])).map EFIInfo.entries = .ok [ubuntu.shown] :=
  (collectEfi_entries_iff (run_printing plainHeader [ubuntu])).mpr (by decide)

/-- No description. -/
def unnamed : BootEntry :=
  { ubuntu with label := [], label_char := by decide, label_strip := by decide }

/-- A description with a vertical tab. -/
def broken : BootEntry :=
  { ubuntu with
    label := "ubuntu\x0b24.04".toList, label_char := by decide, label_strip := by decide }

/-- The path is taken for the description, and a line is cut within one. -/
theorem collectEfi_entries_lost :
    (collectEfi (printing plainHeader [unnamed])).map EFIInfo.entries ≠ .ok [unnamed.shown] ∧
      (collectEfi (printing plainHeader [broken])).map EFIInfo.entries ≠ .ok [broken.shown] := by
  constructor
  · intro hEntries
    have hReadable :=
      readable_of_entries (run_printing plainHeader [unnamed]) hEntries unnamed List.mem_cons_self
    exact absurd hReadable (by decide)
  · intro hEntries
    have hReadable := readable_of_entries (run_printing plainHeader [broken]) hEntries broken
      List.mem_cons_self
    exact absurd hReadable (by decide)

end NodeDebugDashboard.Collectors.Efi
