import NodeDebugDashboard.Collectors.MountinfoRoundTrip
import NodeDebugDashboard.Library.Awk
import NodeDebugDashboard.Scripts.Fsck

/-! `_host_mount` of scripts/ndiag-fsck against what the kernel writes to mountinfo: which
mounts of a device it finds. -/
namespace NodeDebugDashboard.Scripts.HostMount

open Library Library.Awk Library.Text Collectors.Mountinfo
open Fsck (Command Report hostMount)

/-- The values of `mm`, `d1` and `d2`. -/
structure Variables where
  mm : List Char
  d1 : List Char
  d2 : List Char

/-- `src`: the second field behind the first dash from the seventh field on. -/
def src (fields : List (List Char)) : List Char :=
  match (fields.drop 6).dropWhile (· ≠ ['-']) with
  | _ :: _ :: source :: _ => source
  | _ => []

/-- `(mm!="" && $3==mm) || src==d1 || src==d2` -/
def selects (awk : Interpreter) (v : Variables) (fields : List (List Char)) : Bool :=
  (v.mm ≠ [] && equal awk (field fields 3) v.mm) || equal awk (src fields) v.d1 ||
  equal awk (src fields) v.d2

/-- What `hostMountAwk` prints of a file, without the line end. -/
def awkOutput (awk : Interpreter) (v : Variables) (text : List Char) : List Char :=
  match ((records text).map fields).find? (selects awk v) with
  | some fields => field fields 5
  | none => []

/-- A field that the kernel writes as it is. -/
def IsField (text : List Char) : Prop := text ≠ [] ∧ ∀ c ∈ text, c ≠ ' ' ∧ c ≠ '\t' ∧ c ≠ '\n'

/-- A line of mountinfo. The root, the mount point and the source are escaped in it. -/
structure Line where
  id : Nat
  parent : Nat
  majmin : Nat × Nat
  root : List Char
  mountPoint : List Char
  options : List Char
  optional : List (List Char)
  fsType : List Char
  source : List Char
  superOptions : List Char
  root_ne : root ≠ []
  mountPoint_ne : mountPoint ≠ []
  isField_options : IsField options
  isField_optional : ∀ text ∈ optional, IsField text ∧ text ≠ ['-']
  isField_fsType : IsField fsType
  isField_superOptions : IsField superOptions

def majminText (majmin : Nat × Nat) : List Char :=
  Nat.toDigits 10 majmin.1 ++ ':' :: Nat.toDigits 10 majmin.2

/-- The fields in front of the dash. -/
def Line.front (line : Line) : List (List Char) :=
  [Nat.toDigits 10 line.id, Nat.toDigits 10 line.parent, majminText line.majmin, mangle line.root,
    mangle line.mountPoint, line.options] ++ line.optional

def Line.pieces (line : Line) : List (List Char) :=
  line.front ++ [['-'], line.fsType, mangle line.source, line.superOptions]

def Line.text (line : Line) : List Char := [' '].intercalate line.pieces

/-- /proc/1/mountinfo -/
def mountinfoText (lines : List Line) : List Char := (lines.map Line.text).flatMap (· ++ ['\n'])

/-- What the script asks the node about. -/
structure Node where
  lines : List Line
  /-- `lsblk` knows the device number. -/
  majmin : Option (Nat × Nat)
  /-- `readlink -f` has resolved the path. -/
  resolved : Option (List Char)

/-- `real` -/
def Node.real (node : Node) (dev : List Char) : List Char :=
  match node.resolved with
  | some path => Shell.substitution path
  | none => dev

def Node.majminText (node : Node) : List Char := (node.majmin.map HostMount.majminText).getD []

/-- The value of an argument `name=value`. -/
def assigned (argument : Option String) : List Char :=
  (((argument.getD "").toList.dropWhile (· ≠ '=')).drop 1)

/-- What the programs of `_host_mount` report. -/
def Node.report (node : Node) (awk : Interpreter) : Command → Report
  | .program argv =>
      if argv.head? = some "lsblk" then { status := 0, output := String.ofList node.majminText }
      else if argv.head? = some "readlink" then
        match node.resolved with
        | some path => { status := 0, output := String.ofList (Shell.substitution path) }
        | none => { status := 1, output := "" }
      else if argv.head? = some "awk" then
        let v : Variables := {
          mm := value awk (assigned argv[2]?)
          d1 := value awk (assigned argv[4]?)
          d2 := value awk (assigned argv[6]?) }
        { status := 0, output := String.ofList (awkOutput awk v (mountinfoText node.lines)) }
      else { status := 127, output := "" }
  | .isReadable _ => { status := 0, output := "" }
  | _ => { status := 1, output := "" }

/-- What `_host_mount` prints for a device. -/
def Node.printed (node : Node) (awk : Interpreter) (dev : List Char) : List Char :=
  ((hostMount "/host-proc" (String.ofList dev)).eval (node.report awk)).toList

/-- The values that `awk` gives to the variables. -/
def Node.variables (node : Node) (awk : Interpreter) (dev : List Char) : Variables where
  mm := node.majminText
  d1 := value awk dev
  d2 := value awk (node.real dev)

/-- The line names the device. -/
def Node.Names (node : Node) (dev : List Char) (line : Line) : Prop :=
  line.source = dev ∨ node.resolved = some line.source

/-- A line that has the number of the device, or names it, leads to a mount point. -/
def Node.Finds (node : Node) (awk : Interpreter) (dev : List Char) : Prop :=
  (∃ line ∈ node.lines, node.majmin = some line.majmin ∨ node.Names dev line) →
  node.printed awk dev ≠ []

/-- The kernel writes the path as it is. -/
def Plain (path : List Char) : Prop :=
  path ≠ [] ∧ ∀ c ∈ path, c ≠ ' ' ∧ c ≠ '\t' ∧ c ≠ '\n' ∧ c ≠ '\\'

/-- The source as `awk` sees it. The field of an empty one is missing. -/
def Line.shown (line : Line) : List Char :=
  if line.source = [] then line.superOptions else mangle line.source

/-- `awk` takes another source for the device. -/
def Node.Mistakes (node : Node) (awk : Interpreter) (dev : List Char) (line : Line) : Prop :=
  line.source ≠ dev ∧ equal awk line.shown (value awk dev) = true ∨
    node.resolved ≠ some line.source ∧ equal awk line.shown (value awk (node.real dev)) = true

theorem mangle_unblank (text : List Char) : ∀ c ∈ mangle text, c ≠ ' ' ∧ c ≠ '\t' ∧ c ≠ '\n' := by
  have hCodes : ∀ code ∈ mangleCodes, ∀ c ∈ code, c ≠ ' ' ∧ c ≠ '\t' ∧ c ≠ '\n' := by decide
  intro c hMem
  obtain ⟨original, _, hChar⟩ := List.mem_flatMap.mp hMem
  rcases mangleChar_cases original with ⟨hSame, hSpace, hTab, hNewline, _⟩ | ⟨x, y, z,
    hCode, hKnown, _⟩
  · rw [hSame, List.mem_singleton] at hChar
    rw [hChar]
    exact ⟨hSpace, hTab, hNewline⟩
  · rw [hCode] at hChar
    rcases List.mem_cons.mp hChar with rfl | hDigit
    · decide
    · exact hCodes _ hKnown c hDigit

theorem toDigits_isField (n : Nat) : IsField (Nat.toDigits 10 n) := by
  refine ⟨Nat.toDigits_ne_nil, fun c hMem => ?_⟩
  have hDigit : c.isDigit = true := Nat.isDigit_of_mem_toDigits (by decide) (by decide) hMem
  refine ⟨?_, ?_, ?_⟩ <;> rintro rfl <;> exact absurd hDigit (by decide)

theorem majminText_isField (majmin : Nat × Nat) : IsField (majminText majmin) := by
  refine ⟨by simp [majminText], fun c hMem => ?_⟩
  rcases List.mem_append.mp hMem with hMajor | hRest
  · exact (toDigits_isField majmin.1).2 c hMajor
  · rcases List.mem_cons.mp hRest with rfl | hMinor
    · decide
    · exact (toDigits_isField majmin.2).2 c hMinor

theorem mangle_isField {text : List Char} (h : text ≠ []) : IsField (mangle text) := by
  refine ⟨fun hNil => h ?_, mangle_unblank text⟩
  have hLength := length_le_mangle text
  rw [hNil, List.length_nil, Nat.le_zero] at hLength
  exact List.length_eq_zero_iff.mp hLength

theorem Line.isField_front (line : Line) : ∀ piece ∈ line.front, IsField piece := by
  intro piece hMem
  rcases List.mem_append.mp hMem with hMem | hMem
  · simp only [List.mem_cons, List.not_mem_nil, or_false] at hMem
    rcases hMem with rfl | rfl | rfl | rfl | rfl | rfl
    · exact toDigits_isField line.id
    · exact toDigits_isField line.parent
    · exact majminText_isField line.majmin
    · exact mangle_isField line.root_ne
    · exact mangle_isField line.mountPoint_ne
    · exact line.isField_options
  · exact (line.isField_optional piece hMem).1

theorem Line.pieces_unblank (line : Line) :
    ∀ piece ∈ line.pieces, ∀ c ∈ piece, c ≠ ' ' ∧ c ≠ '\t' ∧ c ≠ '\n' := by
  intro piece hMem
  rcases List.mem_append.mp hMem with hFront | hBack
  · exact (line.isField_front piece hFront).2
  · simp only [List.mem_cons, List.not_mem_nil, or_false] at hBack
    rcases hBack with rfl | rfl | rfl | rfl
    · decide
    · exact line.isField_fsType.2
    · exact mangle_unblank line.source
    · exact line.isField_superOptions.2

/-- The fields of a line, without the one of an empty source. -/
theorem Line.fields_text (line : Line) :
    ∃ rest, fields line.text = line.front ++ ['-'] :: line.fsType :: line.shown :: rest := by
  have hBlank : ∀ piece ∈ line.pieces, ∀ c ∈ piece, isBlank c = false := by
    intro piece hMem c hIn
    obtain ⟨hSpace, hTab, _⟩ := line.pieces_unblank piece hMem c hIn
    simp [isBlank, hSpace, hTab]
  have hFront : line.front.filter (· ≠ []) = line.front :=
    List.filter_eq_self.mpr fun piece hMem => by simpa using (line.isField_front piece hMem).1
  rw [Line.text, fields_intercalate hBlank, Line.pieces, List.filter_append, hFront, Line.shown]
  by_cases hSource : line.source = []
  · refine ⟨[], ?_⟩
    simp [hSource, line.isField_fsType.1, line.isField_superOptions.1]
  · refine ⟨[line.superOptions], ?_⟩
    simp [hSource, line.isField_fsType.1, line.isField_superOptions.1, (mangle_isField hSource).1]

theorem Line.field_text (line : Line) : field (fields line.text) 3 = majminText line.majmin ∧
    field (fields line.text) 5 = mangle line.mountPoint ∧ src (fields line.text) = line.shown := by
  obtain ⟨rest, hFields⟩ := line.fields_text
  rw [hFields]
  refine ⟨rfl, rfl, ?_⟩
  have hDrop : (line.front ++ ['-'] :: line.fsType :: line.shown :: rest).drop 6 =
      line.optional ++ ['-'] :: line.fsType :: line.shown :: rest := rfl
  have hOptional : ∀ text ∈ line.optional, decide (text ≠ ['-']) = true := fun text hMem =>
    decide_eq_true (line.isField_optional text hMem).2
  rw [src, hDrop, List.dropWhile_append_of_pos hOptional]
  rfl

theorem Line.not_mem_text (line : Line) : '\n' ∉ line.text :=
  notMem_intercalate (by decide) fun piece hPiece hMem =>
    (line.pieces_unblank piece hPiece '\n' hMem).2.2 rfl

theorem majminText_injective : Function.Injective majminText := by
  intro first second hText
  have hColon : ∀ n, ':' ∉ Nat.toDigits 10 n := fun n hMem =>
    absurd (Nat.isDigit_of_mem_toDigits (by decide) (by decide) hMem) (by decide)
  have hDigits : ∀ m n, Nat.toDigits 10 m = Nat.toDigits 10 n → m = n := by
    intro m n hSame
    have hValue := congrArg (Nat.ofDigitChars 10 · 0) hSame
    simpa only [Nat.ofDigitChars_ten_toDigits] using hValue
  obtain ⟨hMajor, _, hMinor⟩ := (List.append_cons_inj_of_notMem (hColon _) (hColon _)).mp hText
  exact Prod.ext (hDigits _ _ hMajor) (hDigits _ _ hMinor)

theorem find?_isSome_iff {awk : Interpreter} {v : Variables} {lines : List Line} :
    awkOutput awk v (mountinfoText lines) ≠ [] ↔
    ∃ line ∈ lines, selects awk v (fields line.text) = true := by
  have hRecords : records (mountinfoText lines) = lines.map Line.text :=
    records_lines (List.forall_mem_map.mpr fun line _ => line.not_mem_text)
  rw [awkOutput, hRecords, List.map_map, List.find?_map]
  cases hFound : lines.find? (selects awk v ∘ fields ∘ Line.text) with
  | none =>
      have hNone := List.find?_eq_none.mp hFound
      refine iff_of_false (by simp) ?_
      rintro ⟨line, hMem, hSelects⟩
      exact hNone line hMem hSelects
  | some line =>
      have hSelects : (selects awk v ∘ fields ∘ Line.text) line = true := List.find?_some hFound
      refine iff_of_true ?_ ⟨line, List.mem_of_find?_eq_some hFound, hSelects⟩
      simpa [line.field_text.2.1] using (mangle_isField line.mountPoint_ne).1

section

variable {awk : Interpreter} {node : Node} {dev : List Char} {line : Line}

/-- What the program compares of a line. -/
theorem selects_iff : selects awk (node.variables awk dev) (fields line.text) = true ↔
    node.majmin = some line.majmin ∨ equal awk line.shown (value awk dev) = true ∨
      equal awk line.shown (value awk (node.real dev)) = true := by
  obtain ⟨hMajmin, _, hSrc⟩ := line.field_text
  have hNumber :
      (decide (node.majminText ≠ []) && equal awk (majminText line.majmin) node.majminText) = true ↔
      node.majmin = some line.majmin := by
    rw [equal_of_not_number (Or.inr (Or.inl (by simp [majminText]))), Bool.and_eq_true,
      decide_eq_true_eq, decide_eq_true_eq, Node.majminText]
    cases node.majmin with
    | none => simp
    | some majmin =>
        simp only [Option.map_some, Option.getD_some, majminText_injective.eq_iff, Option.some_inj]
        exact ⟨fun h => h.2.symm, fun h => ⟨(majminText_isField majmin).1, h.symm⟩⟩
  simp only [selects, hMajmin, hSrc, Node.variables, Bool.or_eq_true, or_assoc]
  exact or_congr_left hNumber

theorem assigned_append {start : String} {name : List Char} (hStart : start.toList = name ++ ['='])
    (hName : ∀ c ∈ name, decide (c ≠ '=') = true) (text : String) :
    assigned (some (start ++ text)) = text.toList := by
  rw [assigned, Option.getD_some, String.toList_append, hStart, List.append_assoc,
    List.dropWhile_append_of_pos hName]
  rfl

theorem report_readlink :
    (if (node.report awk (.program ["readlink", "-f", String.ofList dev])).status = 0 then
    (node.report awk (.program ["readlink", "-f", String.ofList dev])).output
      else String.ofList dev) =
      String.ofList (node.real dev) := by
  have hReport : node.report awk (.program ["readlink", "-f", String.ofList dev]) =
      match node.resolved with
      | some path => { status := 0, output := String.ofList (Shell.substitution path) }
      | none => { status := 1, output := "" } := rfl
  rw [hReport, Node.real]
  cases node.resolved <;> rfl

theorem report_awk (mm d1 d2 : String) (program file : String) :
    (node.report awk (.program ["awk", "-v", "mm=" ++ mm, "-v", "d1=" ++ d1, "-v", "d2=" ++ d2,
      program, file])).output =
      String.ofList (awkOutput awk
        { mm := value awk mm.toList, d1 := value awk d1.toList, d2 := value awk d2.toList }
        (mountinfoText node.lines)) := by
  have hMm := assigned_append (show "mm=".toList = ['m', 'm'] ++ ['='] by decide) (by decide) mm
  have hFirst := assigned_append (show "d1=".toList = ['d', '1'] ++ ['='] by decide) (by decide) d1
  have hSecond := assigned_append (show "d2=".toList = ['d', '2'] ++ ['='] by decide) (by decide) d2
  rw [← hMm, ← hFirst, ← hSecond]
  rfl

/-- What `_host_mount` asks, one program after the other. -/
theorem eval_hostMount (report : Command → Report) (hostProc dev : String)
    (hReadable : (report (.isReadable (hostProc ++ "/1/mountinfo"))).status = 0) :
    (hostMount hostProc dev).eval report = (report (.program ["awk",
      "-v", "mm=" ++ (report (.program ["lsblk", "-dno", "MAJ:MIN", dev])).output,
      "-v", "d1=" ++ dev,
      "-v", "d2=" ++ (if (report (.program ["readlink", "-f", dev])).status = 0 then
        (report (.program ["readlink", "-f", dev])).output else dev),
      Fsck.hostMountAwk, hostProc ++ "/1/mountinfo"])).output := by
  have hIf : (Fsck.succeeds (.isReadable (hostProc ++ "/1/mountinfo"))).eval report = true :=
    decide_eq_true hReadable
  rw [hostMount, Script.eval_bind, Script.eval_bind, Script.eval_bind, hIf]
  rfl

theorem printed_eq (awk : Interpreter) (node : Node) (dev : List Char) :
    node.printed awk dev = awkOutput awk (node.variables awk dev) (mountinfoText node.lines) := by
  have hPlain : '\\' ∉ node.majminText := by
    have hDigits : ∀ n, '\\' ∉ Nat.toDigits 10 n := fun n hMem =>
      absurd (Nat.isDigit_of_mem_toDigits (by decide) (by decide) hMem) (by decide)
    rw [Node.majminText]
    cases node.majmin with
    | none => exact List.not_mem_nil
    | some majmin => simp [majminText, hDigits]
  have hLsblk :
      (node.report awk (.program ["lsblk", "-dno", "MAJ:MIN", String.ofList dev])).output =
      String.ofList node.majminText := rfl
  rw [Node.printed, eval_hostMount _ _ _ rfl, hLsblk, report_readlink, report_awk,
    String.toList_ofList,
    String.toList_ofList, String.toList_ofList, String.toList_ofList, value_of_plain hPlain]
  rfl

theorem printed_ne_iff :
    node.printed awk dev ≠ [] ↔ ∃ line ∈ node.lines, node.majmin = some line.majmin ∨
    equal awk line.shown (value awk dev) = true ∨
    equal awk line.shown (value awk (node.real dev)) = true := by
  rw [printed_eq, find?_isSome_iff]
  exact exists_congr fun line => and_congr_right fun _ => selects_iff

theorem mangle_of_plain {path : List Char} (h : Plain path) : mangle path = path := by
  have hChar : ∀ c ∈ path, mangleChar c = [c] := by
    intro c hMem
    obtain ⟨hSpace, hTab, hNewline, hBackslash⟩ := h.2 c hMem
    simp [mangleChar, hSpace, hTab, hNewline, hBackslash]
  rw [mangle, List.flatMap_congr hChar, List.flatMap_singleton']

theorem length_lt_mangle {path : List Char} (hSome : path ≠ []) (h : ¬Plain path) :
    '\\' ∈ mangle path ∧ path.length < (mangle path).length := by
  obtain ⟨c, hMem, hSpecial⟩ : ∃ c ∈ path, ¬(c ≠ ' ' ∧ c ≠ '\t' ∧ c ≠ '\n' ∧ c ≠ '\\') := by
    by_contra hNone
    push Not at hNone
    exact h ⟨hSome, fun c hMem => by simpa using hNone c hMem⟩
  obtain ⟨before, after, rfl⟩ := List.append_of_mem hMem
  rcases mangleChar_cases c with ⟨_, hSpace, hTab, hNewline, hBackslash⟩ | ⟨x, y, z, hChar, _⟩
  · exact absurd ⟨hSpace, hTab, hNewline, hBackslash⟩ hSpecial
  · have hBefore := length_le_mangle before
    have hAfter := length_le_mangle after
    simp only [mangle, List.flatMap_append, List.flatMap_cons, hChar, List.length_append,
      List.length_cons, List.length_nil] at hBefore hAfter ⊢
    exact ⟨by simp, by omega⟩

/-- A source that is not written as it is differs from the value of its path. -/
theorem equal_shown_of_not_plain {path : List Char} (h : ¬Plain line.source)
    (hLength : path.length ≤ line.source.length) :
    equal awk line.shown (value awk path) = false := by
  have hValue : (value awk path).length ≤ line.source.length := (length_value_le path).trans hLength
  rw [Line.shown]
  split_ifs with hNil
  · rw [hNil, List.length_nil, Nat.le_zero] at hValue
    rw [List.length_eq_zero_iff.mp hValue, equal_comm, equal_of_not_number (Or.inl rfl)]
    exact decide_eq_false line.isField_superOptions.1.symm
  · obtain ⟨hBackslash, hLonger⟩ := length_lt_mangle hNil h
    rw [equal_of_not_number (Or.inr (Or.inr hBackslash))]
    refine decide_eq_false fun hSame => ?_
    rw [hSame] at hLonger
    omega

theorem real_of_resolved {path : List Char} (h : node.resolved = some path) :
    node.real dev = Shell.substitution path := by
  rw [Node.real, h]

theorem length_substitution_le (path : List Char) :
    (Shell.substitution path).length ≤ path.length := by
  rw [Shell.substitution, List.length_reverse]
  exact (List.length_dropWhile_le _ _).trans_eq List.length_reverse

theorem substitution_of_plain {path : List Char} (h : Plain path) :
    Shell.substitution path = path := by
  have hLast : ∀ c ∈ path.reverse.head?, decide (c = '\n') = false := by
    intro c hHead
    exact decide_eq_false (h.2 c (List.mem_reverse.mp (List.mem_of_mem_head? hHead))).2.2.1
  rw [Shell.substitution, dropWhile_eq_self hLast, List.reverse_reverse]

/-- A source that is written as it is leads to its mount point. -/
theorem selects_of_plain (hNames : node.Names dev line) (hPlain : Plain line.source) :
    equal awk line.shown (value awk dev) = true ∨
    equal awk line.shown (value awk (node.real dev)) = true := by
  have hBackslash : '\\' ∉ line.source := fun hMem => (hPlain.2 '\\' hMem).2.2.2 rfl
  have hShown : line.shown = line.source := by
    rw [Line.shown, if_neg hPlain.1, mangle_of_plain hPlain]
  rw [hShown]
  rcases hNames with rfl | hResolved
  · left
    rw [value_of_plain hBackslash]
    exact equal_refl _
  · right
    rw [real_of_resolved hResolved, substitution_of_plain hPlain, value_of_plain hBackslash]
    exact equal_refl _

/-- A source that is not is only found by mistake. -/
theorem mistakes_of_selects (hNames : node.Names dev line → ¬Plain line.source)
    (h : equal awk line.shown (value awk dev) = true ∨
      equal awk line.shown (value awk (node.real dev)) = true) :
    node.Mistakes awk dev line := by
  by_cases hDev : line.source = dev
  · have hFirst : equal awk line.shown (value awk dev) = false :=
      equal_shown_of_not_plain (hNames (Or.inl hDev)) (by rw [hDev])
    have hSecond := h.resolve_left (by simp [hFirst])
    refine Or.inr ⟨fun hResolved => ?_, hSecond⟩
    rw [real_of_resolved hResolved,
      equal_shown_of_not_plain (hNames (Or.inl hDev)) (length_substitution_le _)] at hSecond
    cases hSecond
  · rcases h with hFirst | hSecond
    · exact Or.inl ⟨hDev, hFirst⟩
    · refine Or.inr ⟨fun hResolved => ?_, hSecond⟩
      rw [real_of_resolved hResolved,
        equal_shown_of_not_plain (hNames (Or.inr hResolved)) (length_substitution_le _)] at hSecond
      cases hSecond

/-- A mount is found exactly when a line has the number of the device, or names it by a path that
the kernel writes as it is, or no line names it, or `awk` takes another source for it. -/
theorem hostMountFinds_iff (awk : Interpreter) (node : Node) (dev : List Char) :
    node.Finds awk dev ↔
    (∃ line ∈ node.lines, node.majmin = some line.majmin) ∨
      (∃ line ∈ node.lines, node.Names dev line ∧ Plain line.source) ∨
      (∀ line ∈ node.lines, ¬node.Names dev line) ∨
      ∃ line ∈ node.lines, node.Mistakes awk dev line := by
  rw [Node.Finds, printed_ne_iff]
  constructor
  · intro hFinds
    by_contra hNone
    simp only [not_or, not_exists, not_and] at hNone
    obtain ⟨hNumber, hPlain, hNamed, hMistaken⟩ := hNone
    obtain ⟨line, hLine, hNames⟩ : ∃ line ∈ node.lines, node.Names dev line := by
      by_contra hNobody
      exact hNamed fun line hMem hNames => hNobody ⟨line, hMem, hNames⟩
    obtain ⟨found, hFound, hSelected⟩ := hFinds ⟨line, hLine, Or.inr hNames⟩
    exact hMistaken found hFound
      (mistakes_of_selects (hPlain found hFound) (hSelected.resolve_left (hNumber found hFound)))
  · rintro (⟨line, hMem, hNumber⟩ | ⟨line, hMem, hNames, hPlain⟩ | hNobody | ⟨line, hMem, hMistake⟩)
      hAny
    · exact ⟨line, hMem, Or.inl hNumber⟩
    · exact ⟨line, hMem, Or.inr (selects_of_plain hNames hPlain)⟩
    · obtain ⟨line, hMem, hNumber | hNames⟩ := hAny
      · exact ⟨line, hMem, Or.inl hNumber⟩
      · exact absurd hNames (hNobody line hMem)
    · exact ⟨line, hMem, Or.inr (hMistake.imp And.right And.right)⟩

end

/-- An `awk` that drops a backslash it does not know, where no text looks like a number. -/
def plainAwk : Interpreter where
  number? _ := none
  number_chars _ _ h := by cases h
  takes _ _ := false
  other escape := escape
  other_length _ := by simp

/-- A device with a space in its name. -/
def spacedDev : List Char := "/dev/my disk".toList

/-- A mount of btrfs, which has a number of its own. -/
def btrfsLine : Line where
  id := 81
  parent := 22
  majmin := (0, 55)
  root := ['/']
  mountPoint := "/var/lib/data".toList
  options := ['r', 'w']
  optional := []
  fsType := "btrfs".toList
  source := spacedDev
  superOptions := ['r', 'w']
  root_ne := by decide
  mountPoint_ne := by decide
  isField_options := by simp [IsField]
  isField_optional := by simp
  isField_fsType := ⟨by decide, by decide⟩
  isField_superOptions := by simp [IsField]

def btrfsNode : Node where
  lines := [btrfsLine]
  majmin := some (8, 17)
  resolved := some spacedDev

/-- The mount of the device is not found. -/
theorem not_finds_spacedDev : ¬btrfsNode.Finds plainAwk spacedDev := by
  intro hFinds
  obtain ⟨line, hMem, hSelected⟩ :=
    printed_ne_iff.mp (hFinds ⟨btrfsLine, List.mem_singleton_self _, Or.inr (Or.inl rfl)⟩)
  rw [List.mem_singleton.mp hMem] at hSelected
  have hReal : btrfsNode.real spacedDev = spacedDev := by decide
  have hDiffers : equal plainAwk btrfsLine.shown (value plainAwk spacedDev) = false := by decide
  rw [hReal, hDiffers] at hSelected
  simp [btrfsNode, btrfsLine] at hSelected

end NodeDebugDashboard.Scripts.HostMount
