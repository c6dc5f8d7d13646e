import NodeDebugDashboard.Library.Dict
import NodeDebugDashboard.Library.Fields
import NodeDebugDashboard.Library.Python

/-! `parse_mountinfo` of app/collectors/storage.py. -/
namespace NodeDebugDashboard.Collectors.Mountinfo

open Library Library.Python Library.Text

/-- `_DF_SKIP_TYPES` -/
def dfSkipTypes : List (List Char) :=
  ["tmpfs", "devtmpfs", "ramfs", "squashfs", "iso9660", "udf", "erofs", "proc", "sysfs", "cgroup",
    "cgroup2", "devpts", "mqueue", "debugfs", "tracefs", "securityfs", "pstore", "bpf", "configfs",
    "fusectl", "hugetlbfs", "nsfs", "autofs", "rpc_pipefs", "binfmt_misc", "efivarfs",
    "selinuxfs"].map String.toList

def isOctal (c : Char) : Bool := '0'.toNat ≤ c.toNat && c.toNat ≤ '7'.toNat

def octal (a b c : Char) : Char :=
  Char.ofNat (64 * (a.toNat - '0'.toNat) + 8 * (b.toNat - '0'.toNat) + (c.toNat - '0'.toNat))

/-- `_unescape_mountinfo` -/
def unescapeMountinfo : List Char → List Char
  | '\\' :: a :: b :: c :: rest =>
      if isOctal a && isOctal b && isOctal c then octal a b c :: unescapeMountinfo rest
      else '\\' :: unescapeMountinfo (a :: b :: c :: rest)
  | c :: rest => c :: unescapeMountinfo rest
  | [] => []

/-- The tuple `(source, fs_type, mount)`. -/
structure Mount where
  source : List Char
  fsType : List Char
  mount : List Char
  deriving DecidableEq

/-- What the loop reads of a line: `fields[5]` only if there is one. -/
structure MountLine where
  dev : List Char
  options : Option (List Char)
  entry : Mount
  deriving DecidableEq

/-- The words in front of the separator and behind it. -/
def fieldsOf (line : List Char) : Option (List (List Char) × List (List Char)) :=
  (partition " - ".toList line).map fun parts => (words parts.1, words parts.2)

/-- What passes the guard of the loop. -/
def mountLine (line : List Char) : Option MountLine :=
  match fieldsOf line with
  | some (_ :: _ :: dev :: _ :: mount :: more, fsType :: source :: _) =>
      some {
        dev := dev
        options := more.head?
        entry := {
          source := unescapeMountinfo source, fsType := fsType, mount := unescapeMountinfo mount } }
  | _ => none

/-- `by_dev` and `overlay_seen` -/
structure MountTable where
  byDev : Dict (List Char) Mount := .empty
  overlaySeen : Bool := false

/-- Keep the shortest mount point. -/
def keepShortest (byDev : Dict (List Char) Mount) (dev : List Char) (entry : Mount) :
    Dict (List Char) Mount :=
  match byDev.get? dev with
  | none => byDev.set dev entry
  | some prev => if entry.mount.length < prev.mount.length then byDev.set dev entry else byDev

def MountTable.add (table : MountTable) (line : MountLine) : Outcome MountTable :=
  if line.entry.fsType ∈ dfSkipTypes then .ok table
  else
    match line.options with
    | none => .error (.exception "list index out of range")
    | some options =>
        if "ro".toList ∈ options.splitOn ',' then .ok table
        else if line.entry.fsType = "overlay".toList then
          if table.overlaySeen ∨ line.entry.mount ≠ ['/'] then .ok table
          else .ok { byDev := keepShortest table.byDev line.dev line.entry, overlaySeen := true }
        else .ok { table with byDev := keepShortest table.byDev line.dev line.entry }

/-- One turn of the loop. -/
def MountTable.addLine (table : MountTable) (line : List Char) : Outcome MountTable :=
  match mountLine line with
  | none => .ok table
  | some line => table.add line

/-- `parse_mountinfo` -/
def parseMountinfo (text : List Char) : Outcome (List Mount) := do
  let table ← (splitLines text).foldlM MountTable.addLine {}
  return table.byDev.entries.map Prod.snd

/-- Six fields in front of the separator and two behind it. -/
def wellFormed (line : List Char) : Bool :=
  match fieldsOf line with
  | some (fields, tail) => 6 ≤ fields.length && 2 ≤ tail.length
  | none => false

/-- Five fields in front of the separator, of a type that is not skipped. -/
def cutShort (line : List Char) : Bool :=
  match fieldsOf line with
  | some ([_, _, _, _, _], fsType :: _ :: _) => fsType ∉ dfSkipTypes
  | _ => false

theorem MountTable.add_isOk_iff (table : MountTable) (line : MountLine) :
    (∃ next, table.add line = .ok next) ↔
    line.entry.fsType ∈ dfSkipTypes ∨ line.options ≠ none := by
  unfold MountTable.add
  by_cases hSkip : line.entry.fsType ∈ dfSkipTypes
  · simp [hSkip]
  · cases hOptions : line.options with
    | none => simp [hSkip]
    | some options =>
        simp only [hSkip, if_false, false_or, ne_eq, reduceCtorEq, not_false_eq_true, iff_true]
        split_ifs <;> exact ⟨_, rfl⟩

/-- What the guard lets through: five fields, or more. -/
theorem mountLine_eq_some_iff {line : List Char} {parsed : MountLine} :
    mountLine line = some parsed ↔
    ∃ id parent dev root mount more fsType source rest,
      fieldsOf line =
        some (id :: parent :: dev :: root :: mount :: more, fsType :: source :: rest) ∧
      parsed = {
        dev := dev
        options := more.head?
        entry := {
          source := unescapeMountinfo source, fsType := fsType,
          mount := unescapeMountinfo mount } } := by
  unfold mountLine
  split
  · rename_i id parent dev root mount more fsType source rest hFields
    rw [Option.some.injEq, eq_comm]
    constructor
    · exact fun h => ⟨id, parent, dev, root, mount, more, fsType, source, rest, hFields, h⟩
    · rintro ⟨_, _, _, _, _, _, _, _, _, hSame, rfl⟩
      rw [hSame] at hFields
      cases hFields
      rfl
  · rename_i hNone
    constructor
    · nofun
    · rintro ⟨_, _, _, _, _, _, _, _, _, hFields, _⟩
      exact absurd hFields (hNone _ _ _ _ _ _ _ _ _)

theorem cutShort_iff {line : List Char} : cutShort line = true ↔
    ∃ parsed, mountLine line = some parsed ∧ parsed.entry.fsType ∉ dfSkipTypes ∧
    parsed.options = none := by
  constructor
  · intro h
    unfold cutShort at h
    split at h
    · rename_i id parent dev root mount fsType source rest hFields
      refine ⟨_, mountLine_eq_some_iff.mpr ⟨id, parent, dev, root, mount, [], fsType, source, rest,
        hFields, rfl⟩, ?_, rfl⟩
      simpa using h
    · cases h
  · rintro ⟨parsed, hParsed, hType, hOptions⟩
    obtain ⟨id, parent, dev, root, mount, more, fsType, source, rest, hFields, rfl⟩ :=
      mountLine_eq_some_iff.mp hParsed
    rw [List.head?_eq_none_iff] at hOptions
    simp only [cutShort, hFields, hOptions]
    simpa using hType

/-- A turn raises on the lines that are cut short, and on no other. -/
theorem MountTable.addLine_isOk_iff (table : MountTable) (line : List Char) :
    (∃ next, table.addLine line = .ok next) ↔ cutShort line = false := by
  rw [← Bool.not_eq_true, cutShort_iff]
  unfold MountTable.addLine
  cases hLine : mountLine line with
  | none => simp
  | some parsed =>
      simp only [MountTable.add_isOk_iff, Option.some.injEq, exists_eq_left', not_and_or, not_not]

/-- The lines that are neither well formed nor cut short are passed over. -/
theorem MountTable.addLine_of_not_wellFormed {line : List Char} (hFormed : wellFormed line = false)
    (hShort : cutShort line = false) (table : MountTable) : table.addLine line = .ok table := by
  unfold MountTable.addLine
  cases hLine : mountLine line with
  | none => rfl
  | some parsed =>
      obtain ⟨id, parent, dev, root, mount, more, fsType, source, rest, hFields, rfl⟩ :=
        mountLine_eq_some_iff.mp hLine
      cases more with
      | nil =>
          have hSkip : fsType ∈ dfSkipTypes := by simpa [cutShort, hFields] using hShort
          simp [MountTable.add, hSkip]
      | cons options more => simp [wellFormed, hFields] at hFormed

theorem cutShort_of_wellFormed {line : List Char} (h : wellFormed line = true) :
    cutShort line = false := by
  unfold cutShort
  split
  · rename_i hFields
    simp [wellFormed, hFields] at h
  · rfl

theorem mountLine_of_wellFormed {line : List Char} (h : wellFormed line = true) :
    ∃ parsed, mountLine line = some parsed ∧ parsed.options ≠ none := by
  unfold wellFormed at h
  split at h
  · rename_i fields tail hFields
    simp only [Bool.and_eq_true, decide_eq_true_eq] at h
    match fields, tail, h with
    | id :: parent :: dev :: root :: mount :: options :: more, fsType :: source :: rest, _ =>
        exact ⟨_, mountLine_eq_some_iff.mpr ⟨_, _, _, _, _, _, _, _, _, hFields, rfl⟩, by simp⟩
  · cases h

theorem parseMountinfo_isOk_iff (text : List Char) :
    (∃ result, parseMountinfo text = .ok result) ↔
    ∀ line ∈ splitLines text, cutShort line = false := by
  rw [← foldlM_isOk_iff MountTable.addLine_isOk_iff {}]
  unfold parseMountinfo
  simp only [bind_eq_ok]
  constructor
  · rintro ⟨_, table, hTable, _⟩
    exact ⟨table, hTable⟩
  · rintro ⟨table, hTable⟩
    exact ⟨_, table, hTable, rfl⟩

/-- The parser returns, and garbled lines do not change what it returns, exactly when no
line is cut short. -/
theorem mountinfoRobust (text : List Char) (lines : List (List Char))
    (hLines : ∀ line ∈ lines, OneLine line) :
    ((∃ result, parseMountinfo text = .ok result) ↔
      ∀ line ∈ splitLines text, cutShort line = false) ∧
    (parseMountinfo (unlines lines) = parseMountinfo (unlines (lines.filter wellFormed)) ↔
      ∀ line ∈ lines, cutShort line = false) := by
  refine ⟨parseMountinfo_isOk_iff text, ?_⟩
  have hKept : splitLines (unlines (lines.filter wellFormed)) = lines.filter wellFormed :=
    splitLines_unlines fun line hMem => hLines line (List.mem_filter.mp hMem).1
  constructor
  · intro hSame
    have hOk :=
        (parseMountinfo_isOk_iff (unlines (lines.filter wellFormed))).mpr fun line hMem => by
      rw [hKept] at hMem
      exact cutShort_of_wellFormed (List.mem_filter.mp hMem).2
    rw [← hSame, parseMountinfo_isOk_iff, splitLines_unlines hLines] at hOk
    exact hOk
  · intro hShort
    unfold parseMountinfo
    rw [hKept, splitLines_unlines hLines, foldlM_filter fun table line hMem hFormed =>
      MountTable.addLine_of_not_wellFormed hFormed (hShort line hMem) table]

/-- A mount and two lines that are none. -/
def garbled : List (List Char) :=
  ["36 35 98:0 / /mnt rw - ext4 /dev/sda1".toList, "37 35 - ext4".toList, "no mount".toList]

theorem mountinfoRobust_garbled : (∃ result, parseMountinfo (unlines garbled) = .ok result) ∧
    parseMountinfo (unlines garbled) = parseMountinfo (unlines (garbled.filter wellFormed)) := by
  have hLines : ∀ line ∈ garbled, OneLine line := by decide +kernel
  obtain ⟨hReturns, hSame⟩ := mountinfoRobust (unlines garbled) garbled hLines
  have hWhole : ∀ line ∈ garbled, cutShort line = false := by decide +kernel
  refine ⟨hReturns.mpr ?_, hSame.mpr hWhole⟩
  rwa [splitLines_unlines hLines]

/-- A line that ends after the mount point. -/
def truncated : List Char := "1 1 8:1 / /mnt - ext4 /dev/sda1".toList

theorem not_mountinfoRobust_truncated : ¬∃ result, parseMountinfo truncated = .ok result := by
  have hRaised : parseMountinfo truncated = .error (.exception "list index out of range") := by
    decide +kernel
  rintro ⟨result, hResult⟩
  rw [hRaised] at hResult
  cases hResult

def MountLine.readOnly (line : MountLine) : Bool :=
  match line.options with
  | some options => "ro".toList ∈ options.splitOn ','
  | none => false

/-- Neither read-only nor of a type that is skipped. -/
def MountLine.counts (line : MountLine) : Bool := !line.readOnly && line.entry.fsType ∉ dfSkipTypes

def MountLine.isOverlay (line : MountLine) : Bool := line.entry.fsType = "overlay".toList

/-- A read-write overlay at the root. -/
def MountLine.rootOverlay (line : MountLine) : Bool :=
  !line.readOnly && line.isOverlay && line.entry.mount = ['/']

/-- The line counts, and if it is an overlay then it is the first at the root. -/
def MountLine.eligible (before : List MountLine) (line : MountLine) : Bool :=
  line.counts &&
  (!line.isOverlay || (line.entry.mount = ['/'] && !before.any MountLine.rootOverlay))

/-- The eligible ones among `lines`, which come after `before`. -/
def eligibleAfter (before : List MountLine) : List MountLine → List MountLine
  | [] => []
  | line :: lines =>
      if line.eligible before then line :: eligibleAfter (before ++ [line]) lines
      else eligibleAfter (before ++ [line]) lines

/-- The first of the lines of a device that have the shortest mount point. -/
def shortestOf (lines : List MountLine) (dev : List Char) : Option MountLine :=
  (lines.filter fun line => line.dev = dev).argmin fun line => line.entry.mount.length

/-- One entry for each device, in the order in which they first appear. -/
def listing (lines : List MountLine) : List Mount :=
  ((lines.map MountLine.dev).eraseDups.filterMap (shortestOf lines)).map MountLine.entry

theorem eligibleAfter_append (before first second : List MountLine) :
    eligibleAfter before (first ++ second) = eligibleAfter before first ++
    eligibleAfter (before ++ first) second := by
  induction first generalizing before with
  | nil => simp [eligibleAfter]
  | cons line first ih =>
      simp only [List.cons_append, eligibleAfter, ih, List.append_assoc, List.nil_append]
      split_ifs <;> rfl

/-- What the table holds after some lines. -/
structure MountTable.Holds (table : MountTable) (done : List MountLine) : Prop where
  devs : table.byDev.entries.map Prod.fst = ((eligibleAfter [] done).map MountLine.dev).eraseDups
  entries :
      ∀ dev, table.byDev.get? dev = (shortestOf (eligibleAfter [] done) dev).map MountLine.entry
  overlay : table.overlaySeen = done.any MountLine.rootOverlay

theorem shortestOf_append (lines : List MountLine) (line : MountLine) (dev : List Char) :
    shortestOf (lines ++ [line]) dev =
      if dev = line.dev then
        match shortestOf lines dev with
        | none => some line
        | some best =>
            if line.entry.mount.length < best.entry.mount.length then some line else some best
      else shortestOf lines dev := by
  unfold shortestOf
  rw [List.filter_append]
  split_ifs with hDev
  · rw [List.filter_cons_of_pos (by simp [hDev]), List.filter_nil, List.argmin_concat]
    cases (lines.filter fun line => line.dev = dev).argmin fun line =>
      line.entry.mount.length <;> rfl
  · rw [List.filter_cons_of_neg (by simpa using Ne.symm hDev), List.filter_nil, List.append_nil]

theorem shortestOf_eq_none_iff {lines : List MountLine} {dev : List Char} :
    shortestOf lines dev = none ↔ dev ∉ lines.map MountLine.dev := by
  simp [shortestOf, List.argmin_eq_none, List.filter_eq_nil_iff]

theorem eraseDups_append_singleton {α : Type} [BEq α] [LawfulBEq α] (items : List α) (a : α) :
    (items ++ [a]).eraseDups = if a ∈ items then items.eraseDups else items.eraseDups ++ [a] := by
  rw [List.eraseDups_append, List.removeAll]
  split_ifs with hMem
  · simp [hMem]
  · simp [hMem, List.eraseDups_cons]

/-- One more line of the listing: its device is new, or its mount point is shorter, or it
changes nothing. -/
theorem keepShortest_spec {byDev : Dict (List Char) Mount} {lines : List MountLine}
    (hDevs : byDev.entries.map Prod.fst = (lines.map MountLine.dev).eraseDups)
    (hEntries : ∀ dev, byDev.get? dev = (shortestOf lines dev).map MountLine.entry)
    (line : MountLine) :
    (keepShortest byDev line.dev line.entry).entries.map Prod.fst =
        ((lines ++ [line]).map MountLine.dev).eraseDups ∧
      ∀ dev, (keepShortest byDev line.dev line.entry).get? dev =
        (shortestOf (lines ++ [line]) dev).map MountLine.entry := by
  have hSet : (byDev.set line.dev line.entry).entries.map Prod.fst =
      ((lines ++ [line]).map MountLine.dev).eraseDups := by
    rw [Dict.set, Dict.keys_assign, hDevs, List.map_append, List.map_singleton,
      eraseDups_append_singleton]
    simp only [List.mem_eraseDups]
  simp only [shortestOf_append]
  unfold keepShortest
  rw [hEntries line.dev]
  cases hBest : shortestOf lines line.dev with
  | none =>
      refine ⟨hSet, fun dev => ?_⟩
      simp only [Option.map_none, Dict.get?_set]
      split_ifs with hDev
      · rw [hDev, hBest]
        rfl
      · exact hEntries dev
  | some best =>
      simp only [Option.map_some]
      have hKnown : line.dev ∈ lines.map MountLine.dev := by
        by_contra hNew
        rw [shortestOf_eq_none_iff.mpr hNew] at hBest
        cases hBest
      split_ifs with hShorter
      · refine ⟨hSet, fun dev => ?_⟩
        rw [Dict.get?_set]
        split_ifs with hDev
        · rw [hDev, hBest]
          simp [hShorter]
        · exact hEntries dev
      · constructor
        · rw [hDevs, List.map_append, List.map_singleton, eraseDups_append_singleton, if_pos hKnown]
        · intro dev
          split_ifs with hDev
          · rw [hDev, hEntries, hBest]
            simp [hShorter]
          · exact hEntries dev

/-- A line that is not eligible leaves the table as it is, but for the flag. -/
theorem MountTable.Holds.skip {table : MountTable} {done : List MountLine} (h : table.Holds done)
    {line : MountLine} (hSkip : line.eligible done = false)
    (hFlag : line.rootOverlay = true → table.overlaySeen = true) :
    table.Holds (done ++ [line]) := by
  have hSame : eligibleAfter [] (done ++ [line]) = eligibleAfter [] done := by
    simp [eligibleAfter_append, eligibleAfter, hSkip]
  refine ⟨hSame ▸ h.devs, hSame ▸ h.entries, ?_⟩
  cases hRoot : line.rootOverlay with
  | true => simp [hFlag hRoot, hRoot]
  | false => simp [h.overlay, hRoot]

theorem MountTable.Holds.keep {table : MountTable} {done : List MountLine} (h : table.Holds done)
    (line : MountLine) (hKeep : line.eligible done = true) :
    MountTable.Holds {
      byDev := keepShortest table.byDev line.dev line.entry
      overlaySeen := table.overlaySeen || line.rootOverlay } (done ++ [line]) := by
  have hNext : eligibleAfter [] (done ++ [line]) = eligibleAfter [] done ++ [line] := by
    simp [eligibleAfter_append, eligibleAfter, hKeep]
  obtain ⟨hDevs, hEntries⟩ := keepShortest_spec h.devs h.entries line
  exact ⟨by rw [hDevs, hNext], fun dev => by rw [hEntries, hNext], by simp [h.overlay]⟩

/-- One turn on a line with all its fields. -/
theorem MountTable.Holds.add {table : MountTable} {done : List MountLine} (h : table.Holds done)
    {line : MountLine} (hOptions : line.options ≠ none) :
    ∃ next, table.add line = .ok next ∧ next.Holds (done ++ [line]) := by
  obtain ⟨options, hOptions⟩ := Option.ne_none_iff_exists'.mp hOptions
  have hReadOnly : line.readOnly = decide ("ro".toList ∈ options.splitOn ',') := by
    rw [MountLine.readOnly, hOptions]
  unfold MountTable.add
  rw [hOptions]
  dsimp only
  split_ifs with hSkip hRo hOverlay hSeen
  · have hType : line.isOverlay = false := by
      rw [MountLine.isOverlay, decide_eq_false_iff_not]
      rintro hOverlay
      rw [hOverlay] at hSkip
      exact absurd hSkip (by decide)
    exact ⟨table, rfl, h.skip (by simp [MountLine.eligible, MountLine.counts, hSkip])
      (by simp [MountLine.rootOverlay, hType])⟩
  · rw [decide_eq_true hRo] at hReadOnly
    exact ⟨table, rfl, h.skip (by simp [MountLine.eligible, MountLine.counts, hReadOnly])
      (by simp [MountLine.rootOverlay, hReadOnly])⟩
  · have hLater : line.entry.mount = ['/'] → table.overlaySeen = true :=
      fun hRoot => by simpa [hRoot] using hSeen
    have hType : line.isOverlay = true := decide_eq_true hOverlay
    refine ⟨table, rfl, h.skip ?_ (by simpa [MountLine.rootOverlay] using fun _ _ => hLater)⟩
    by_cases hRoot : line.entry.mount = ['/']
    · simp [MountLine.eligible, hType, hRoot, ← h.overlay, hLater hRoot]
    · simp [MountLine.eligible, hType, hRoot]
  · rw [decide_eq_false hRo] at hReadOnly
    simp only [not_or, Bool.not_eq_true, not_not] at hSeen
    have hType : line.isOverlay = true := decide_eq_true hOverlay
    have hRoot : line.rootOverlay = true := by
      simp [MountLine.rootOverlay, hReadOnly, hType, hSeen.2]
    have hKept := h.keep line (by
      simp [MountLine.eligible, MountLine.counts, hReadOnly, hSkip, hSeen.2, ← h.overlay, hSeen.1])
    exact ⟨_, rfl, by simpa [hRoot] using hKept⟩
  · rw [decide_eq_false hRo] at hReadOnly
    have hType : line.isOverlay = false := decide_eq_false hOverlay
    have hRoot : line.rootOverlay = false := by simp [MountLine.rootOverlay, hType]
    have hKept :=
      h.keep line (by simp [MountLine.eligible, MountLine.counts, hType, hReadOnly, hSkip])
    exact ⟨_, rfl, by simpa [hRoot] using hKept⟩

theorem MountTable.Holds.lines {lines : List (List Char)}
    (hLines : ∀ line ∈ lines, wellFormed line = true) {table : MountTable} {done : List MountLine}
    (h : table.Holds done) :
    ∃ next, lines.foldlM MountTable.addLine table = .ok next ∧
    next.Holds (done ++ lines.filterMap mountLine) := by
  induction lines generalizing table done with
  | nil => exact ⟨table, rfl, by simpa using h⟩
  | cons line lines ih =>
      rw [List.forall_mem_cons] at hLines
      obtain ⟨parsed, hParsed, hOptions⟩ := mountLine_of_wellFormed hLines.1
      obtain ⟨middle, hMiddle, hHolds⟩ := h.add hOptions
      obtain ⟨next, hNext, hAll⟩ := ih hLines.2 hHolds
      refine ⟨next, ?_, by simpa [List.filterMap_cons_some hParsed] using hAll⟩
      rw [List.foldlM_cons, MountTable.addLine, hParsed]
      exact bind_eq_ok.mpr ⟨middle, hMiddle, hNext⟩

/-- The parser on lines that have all their fields. -/
theorem parseMountinfo_eq {text : List Char}
    (hLines : ∀ line ∈ splitLines text, wellFormed line = true) :
    parseMountinfo text =
      .ok (listing (eligibleAfter [] ((splitLines text).filterMap mountLine))) := by
  have hEmpty : MountTable.Holds {} [] := ⟨rfl, fun _ => rfl, rfl⟩
  obtain ⟨table, hTable, hHolds⟩ := hEmpty.lines hLines
  have hEntries : table.byDev.get? = fun dev =>
      (shortestOf (eligibleAfter [] ((splitLines text).filterMap mountLine)) dev).map
        MountLine.entry :=
    funext hHolds.entries
  rw [parseMountinfo, hTable]
  change Except.ok (table.byDev.entries.map Prod.snd) = _
  rw [Dict.values_eq, hHolds.devs, hEntries, listing, List.map_filterMap]
  rfl

/-- Lines that do not count neither are eligible nor make others ineligible. -/
theorem eligibleAfter_filter (before lines : List MountLine) :
    eligibleAfter (before.filter MountLine.counts) (lines.filter MountLine.counts) =
      eligibleAfter before lines := by
  have hCounts : ∀ line : MountLine, line.rootOverlay = true → line.counts = true := by
    intro line hRoot
    simp only [MountLine.rootOverlay, MountLine.isOverlay, Bool.and_eq_true,
      decide_eq_true_eq] at hRoot
    simp only [MountLine.counts, hRoot.1.1, hRoot.1.2, Bool.true_and]
    decide
  have hBefore : ∀ before : List MountLine,
      (before.filter MountLine.counts).any MountLine.rootOverlay =
        before.any MountLine.rootOverlay := by
    intro before
    rw [List.any_filter]
    refine congrArg before.any (funext fun line => ?_)
    cases hRoot : line.rootOverlay with
    | true => simp [hCounts line hRoot]
    | false => simp
  induction lines generalizing before with
  | nil => rfl
  | cons line lines ih =>
      have hNext := ih (before ++ [line])
      rw [List.filter_append] at hNext
      cases hLine : line.counts with
      | true =>
          rw [List.filter_cons_of_pos hLine] at hNext ⊢
          rw [List.filter_nil] at hNext
          simp only [eligibleAfter, MountLine.eligible, hBefore, hNext]
          rfl
      | false =>
          have hOut : line.eligible before = false := by simp [MountLine.eligible, hLine]
          rw [List.filter_cons_of_neg (by simp [hLine])] at hNext ⊢
          rw [List.filter_nil, List.append_nil] at hNext
          rw [hNext, eligibleAfter, hOut]
          rfl

/-- Whether the line counts. -/
def lineCounts (line : List Char) : Bool := (mountLine line).any MountLine.counts

/-- One entry for each device among the eligible lines, in their order; lines that do not
count have no say in it. -/
theorem mountinfoListing {text : List Char}
    (hLines : ∀ line ∈ splitLines text, wellFormed line = true) :
    parseMountinfo text = .ok (listing (eligibleAfter [] ((splitLines text).filterMap mountLine))) ∧
      ∀ other, splitLines other = (splitLines text).filter lineCounts →
        parseMountinfo other = parseMountinfo text := by
  refine ⟨parseMountinfo_eq hLines, fun other hOther => ?_⟩
  have hFormed : ∀ line ∈ splitLines other, wellFormed line = true := by
    intro line hMem
    rw [hOther] at hMem
    exact hLines line (List.mem_filter.mp hMem).1
  have hParsed : ((splitLines text).filter lineCounts).filterMap mountLine =
      ((splitLines text).filterMap mountLine).filter MountLine.counts := by
    rw [List.filter_filterMap, List.filterMap_filter]
    refine List.filterMap_congr fun line _ => ?_
    cases hLine : mountLine line with
    | none => simp [lineCounts, hLine]
    | some parsed => simp [lineCounts, hLine, Option.filter]
  rw [parseMountinfo_eq hFormed, parseMountinfo_eq hLines, hOther, hParsed]
  exact congrArg _ (congrArg _ (eligibleAfter_filter [] _))

/-- A filesystem that is mounted twice, and one that is mounted read-only. -/
def boundTwice : List Char :=
  unlines
    (["23 22 8:1 /etc /etc/cni rw - xfs /dev/sda1 rw", "22 20 8:1 / /var rw - xfs /dev/sda1 rw",
    "24 20 8:2 / /m ro - ext4 /dev/sda2 ro"].map String.toList)

theorem mountinfoListing_boundTwice :
    parseMountinfo boundTwice =
        .ok [{ source := "/dev/sda1".toList, fsType := "xfs".toList, mount := "/var".toList }] ∧
      ∀ other, splitLines other = (splitLines boundTwice).filter lineCounts →
        parseMountinfo other = parseMountinfo boundTwice := by
  have hLines : ∀ line ∈ splitLines boundTwice, wellFormed line = true := by decide +kernel
  exact ⟨(mountinfoListing hLines).1.trans (by decide +kernel), (mountinfoListing hLines).2⟩

end NodeDebugDashboard.Collectors.Mountinfo
