import NodeDebugDashboard.Collectors.Host
import NodeDebugDashboard.Collectors.Mountinfo
import NodeDebugDashboard.Models

/-! `_df` of app/collectors/storage.py: the lines that `df` prints, matched back to the
mounts by their paths. -/
namespace NodeDebugDashboard.Collectors.Df

open Library Library.Python Library.Text Models Mountinfo

variable {F : Type}

/-- `by_path` -/
def byPath (root : List Char) (mounts : List Mount) : Dict (List Char) Mount :=
  mounts.foldl (fun table m => table.set (root ++ m.mount) m) .empty

def dfCommand (table : Dict (List Char) Mount) : List String :=
  ["df", "-h", "--output=file,size,used,avail,pcent", "--"] ++
    table.entries.map fun entry => String.ofList entry.1

/-- `pct_num` -/
def percent (pct : List Char) : Outcome Int :=
  if isDigit (pct.filter (· ≠ '%')) then parseInt (String.ofList (pct.filter (· ≠ '%'))) else .ok 0

def severity (pctNum : Int) : String :=
  if pctNum ≥ 95 then "critical" else if pctNum ≥ 85 then "warning" else "ok"

/-- What one line adds to `usages`. -/
def usage (table : Dict (List Char) Mount) (line : List Char) : Outcome (Option DiskUsage) :=
  match rsplit 4 (strip line) with
  | [path, size, used, avail, pct] =>
      match table.get? path with
      | none => .ok none
      | some m =>
          if size = ['0'] then .ok none
          else (percent pct).map fun pctNum => some {
            filesystem := String.ofList m.source
            mount := String.ofList m.mount
            fsType := String.ofList m.fsType
            size := String.ofList size
            used := String.ofList used
            available := String.ofList avail
            usedPercent := pctNum
            severity := severity pctNum }
  | _ => .ok none

/-- `_df`, with `prefix` named `root`. -/
def df (host : Host F) (root : List Char) (mounts : List Mount) : Outcome (List DiskUsage) :=
  if mounts = [] then .ok []
  else do
    let table := byPath root mounts
    let (stdout, _, _) ← host.run (dfCommand table)
    (splitLines stdout.toList).foldlM
      (fun usages line => (usage table line).map fun row => usages ++ row.toList) []

/-- The four columns behind the path. -/
structure Cells where
  size : Column
  used : Column
  avail : Column
  pct : Column

def Cells.text (cells : Cells) : List Char :=
  [cells.size, cells.used, cells.avail, cells.pct].flatMap Column.text

/-- A line that `df` prints about a mount. -/
structure Printed where
  mount : Mount
  cells : Cells

def Printed.path (root : List Char) (printed : Printed) : List Char := root ++ printed.mount.mount

def Printed.kept (printed : Printed) : Bool := printed.cells.size.word ≠ ['0']

def dfOutput (root : List Char) (header : Cells) (printed : List Printed) : List Char :=
  unlines (("File".toList ++ header.text) :: printed.map fun row => row.path root ++ row.cells.text)

/-- The path is on one line and has no blanks at its ends. -/
def Clean (path : List Char) : Prop := OneLine path ∧ strip path = path

/-- `int` takes the percentage if `isdigit` does. -/
def Converts (pct : List Char) : Prop :=
  isDigit (pct.filter (· ≠ '%')) = true → (int? (pct.filter (· ≠ '%'))).isSome = true

/-- The line reads as one about a mount, of a size other than 0. -/
def ReadsAsRow (root : List Char) (mounts : List Mount) (line : List Char) : Prop :=
  ∃ m ∈ mounts, ∃ size used avail pct,
    rsplit 4 (strip line) = [root ++ m.mount, size, used, avail, pct] ∧ size ≠ ['0']

theorem converts_iff {pct : List Char} : Converts pct ↔ ∃ pctNum, percent pct = .ok pctNum := by
  unfold Converts percent parseInt
  rw [String.toList_ofList]
  generalize pct.filter (· ≠ '%') = digits
  split_ifs with hDigit
  · cases int? digits <;> simp [hDigit]
  · simp [hDigit]

/-- With distinct mount points the table finds each mount under its path. -/
theorem byPath_get?_iff {root : List Char} {mounts : List Mount}
    (hMounts : (mounts.map Mount.mount).Nodup) {path : List Char} {m : Mount} :
    (byPath root mounts).get? path = some m ↔ m ∈ mounts ∧ path = root ++ m.mount := by
  unfold byPath
  induction mounts using List.reverseRecOn with
  | nil => simp
  | append_singleton mounts last ih =>
      rw [List.map_append, List.nodup_append] at hMounts
      obtain ⟨hFirst, _, hNew⟩ := hMounts
      have hOther : ∀ other ∈ mounts, other.mount ≠ last.mount := fun other hMem =>
        hNew other.mount (List.mem_map_of_mem hMem) last.mount (by simp)
      rw [List.foldl_append, List.foldl_cons, List.foldl_nil, Dict.get?_set]
      split_ifs with hPath
      · constructor
        · rintro hSame
          cases hSame
          exact ⟨by simp, hPath⟩
        · rintro ⟨hMem, hOwn⟩
          rcases List.mem_append.mp hMem with hBefore | hLast
          · have hSame := List.append_cancel_left (hOwn.symm.trans hPath)
            exact absurd hSame (hOther m hBefore)
          · rw [List.mem_singleton.mp hLast]
      · rw [ih hFirst]
        constructor
        · rintro ⟨hMem, hOwn⟩
          exact ⟨List.mem_append_left _ hMem, hOwn⟩
        · rintro ⟨hMem, hOwn⟩
          refine ⟨(List.mem_append.mp hMem).resolve_right fun hLast => hPath ?_, hOwn⟩
          rw [hOwn, List.mem_singleton.mp hLast]

/-- What a line adds, if anything. -/
def rowOf (table : Dict (List Char) Mount) (line : List Char) : Option DiskUsage :=
  match usage table line with
  | .ok row => row
  | .error _ => none

theorem foldl_append_toList {α β : Type} (f : α → Option β) (results : List β) (items : List α) :
    items.foldl (fun results item => results ++ (f item).toList) results = results ++
    items.filterMap f := by
  induction items generalizing results with
  | nil => simp
  | cons item items ih =>
      rw [List.foldl_cons, ih]
      cases hItem : f item <;> simp [hItem]

/-- The loop returns if every line can be read, and then it has the rows of all lines. -/
theorem df_eq_ok_iff {host : Host F} {root : List Char} {mounts : List Mount}
    {stdout stderr : String} {rc : Int} (hSome : mounts ≠ [])
    (hRun : host.run (dfCommand (byPath root mounts)) = .ok (stdout, stderr, rc))
    {usages : List DiskUsage} : df host root mounts = .ok usages ↔
      (∀ line ∈ splitLines stdout.toList, ∃ row, usage (byPath root mounts) line = .ok row) ∧
        usages = (splitLines stdout.toList).filterMap (rowOf (byPath root mounts)) := by
  have hDf : df host root mounts = (splitLines stdout.toList).foldlM
      (fun usages line => (usage (byPath root mounts) line).map fun row => usages ++
        row.toList) [] := by
    simp only [df, hSome, if_false, hRun]
    rfl
  have hTurn : ∀ (usages : List DiskUsage) (line : List Char),
      (∃ next, (usage (byPath root mounts) line).map (fun row => usages ++ row.toList) = .ok next) ↔
        ∃ row, usage (byPath root mounts) line = .ok row := by
    intro usages line
    cases usage (byPath root mounts) line <;> simp [Except.map]
  have hAll := foldlM_isOk_iff hTurn [] (splitLines stdout.toList)
  have hRows :
      (∀ line ∈ splitLines stdout.toList, ∃ row, usage (byPath root mounts) line = .ok row) →
      df host root mounts =
        .ok ((splitLines stdout.toList).filterMap (rowOf (byPath root mounts))) := by
    intro hLines
    have hTurns : ∀ usages, ∀ line ∈ splitLines stdout.toList,
        (usage (byPath root mounts) line).map (fun row => usages ++ row.toList) =
          .ok (usages ++ (rowOf (byPath root mounts) line).toList) := by
      intro usages line hMem
      obtain ⟨row, hRow⟩ := hLines line hMem
      simp [rowOf, hRow, Except.map]
    rw [hDf, foldlM_eq_ok hTurns, foldl_append_toList, List.nil_append]
  constructor
  · intro hOk
    have hLines := hAll.mp ⟨usages, hDf.symm.trans hOk⟩
    rw [hRows hLines, Except.ok.injEq] at hOk
    exact ⟨hLines, hOk.symm⟩
  · rintro ⟨hLines, rfl⟩
    exact hRows hLines

/-- What a line that adds a row looks like. -/
theorem usage_eq_some {table : Dict (List Char) Mount} {line : List Char} {row : DiskUsage}
    (h : usage table line = .ok (some row)) : ∃ path size used avail pct m,
      rsplit 4 (strip line) = [path, size, used, avail, pct] ∧ table.get? path = some m ∧
        size ≠ ['0'] ∧ row.filesystem = String.ofList m.source ∧
        row.fsType = String.ofList m.fsType ∧
          row.mount = String.ofList m.mount := by
  unfold usage at h
  split at h
  · rename_i path size used avail pct hPieces
    cases hFound : table.get? path with
    | none => simp [hFound] at h
    | some m =>
        simp only [hFound] at h
        split_ifs at h with hSize
        · cases h
        · cases hPct : percent pct with
          | error error => simp [hPct, Except.map] at h
          | ok pctNum =>
              rw [hPct] at h
              cases h
              exact ⟨path, size, used, avail, pct, m, hPieces, hFound, hSize, rfl, rfl, rfl⟩
  · cases h

/-- A line adds nothing and raises nothing exactly when it does not read as a row. -/
theorem usage_eq_none_iff {root : List Char} {mounts : List Mount}
    (hMounts : (mounts.map Mount.mount).Nodup) {line : List Char} :
    usage (byPath root mounts) line = .ok none ↔ ¬ReadsAsRow root mounts line := by
  unfold usage
  split
  · rename_i path size used avail pct hPieces
    cases hFound : (byPath root mounts).get? path with
    | none =>
        refine iff_of_true rfl ?_
        rintro ⟨m, hMem, _, _, _, _, hSame, _⟩
        have hPath : path = root ++ m.mount := by
          rw [hPieces] at hSame
          exact (List.cons_eq_cons.mp hSame).1
        rw [(byPath_get?_iff hMounts).mpr ⟨hMem, hPath⟩] at hFound
        cases hFound
    | some m =>
        obtain ⟨hMem, hPath⟩ := (byPath_get?_iff hMounts).mp hFound
        dsimp only
        split_ifs with hSize
        · refine iff_of_true rfl ?_
          rintro ⟨_, _, other, _, _, _, hSame, hOther⟩
          rw [hPieces] at hSame
          simp only [List.cons.injEq] at hSame
          exact hOther (hSame.2.1 ▸ hSize)
        · refine iff_of_false ?_
            (not_not.mpr ⟨m, hMem, size, used, avail, pct, hPath ▸ hPieces, hSize⟩)
          cases percent pct <;> simp [Except.map]
  · rename_i hOther
    refine iff_of_true rfl ?_
    rintro ⟨_, _, _, _, _, _, hSame, _⟩
    exact hOther _ _ _ _ _ hSame

/-- The lines that are read for one that was printed: a path may be cut into several. -/
def chunk (root : List Char) (printed : Printed) : List (List Char) :=
  endedLines (printed.path root) ++ [openLine (printed.path root) ++ printed.cells.text]

theorem Cells.oneLine (cells : Cells) : OneLine cells.text := by
  intro c hMem
  obtain ⟨column, _, hChar⟩ := List.mem_flatMap.mp hMem
  exact column.oneLine c hChar

theorem Cells.text_ne_nil (cells : Cells) : cells.text ≠ [] := by
  simp [Cells.text, Column.text, cells.size.gap_ne]

theorem Cells.rsplit_text (cells : Cells) (front : List Char) :
    rsplit 4 (strip (front ++ cells.text)) =
    rsplit 0 (strip front) ++
    [cells.size.word, cells.used.word, cells.avail.word, cells.pct.word] :=
  rsplit_strip front cells.size [cells.used, cells.avail, cells.pct]

theorem splitLines_dfOutput (root : List Char) (header : Cells) (printed : List Printed) :
    splitLines (dfOutput root header printed) = ("File".toList ++ header.text) ::
      printed.flatMap (chunk root) := by
  have hHeader : OneLine "File".toList := by decide
  have hRows :
      ∀ printed : List Printed,
      splitLines (unlines (printed.map fun row => row.path root ++ row.cells.text)) =
      printed.flatMap (chunk root) := by
    intro printed
    induction printed with
    | nil => rfl
    | cons row rows ih =>
        have hFirst := splitLines_append (row.path root) row.cells.oneLine row.cells.text_ne_nil
          (unlines (rows.map fun row => row.path root ++ row.cells.text))
        rw [ih] at hFirst
        simpa [unlines, chunk] using hFirst
  have hFirst := splitLines_append "File".toList header.oneLine header.text_ne_nil
    (unlines (printed.map fun row => row.path root ++ row.cells.text))
  rw [hRows, (endedLines_of_oneLine hHeader).1, (endedLines_of_oneLine hHeader).2] at hFirst
  simpa [dfOutput, unlines] using hFirst

section

variable {root : List Char} {mounts : List Mount} (hMounts : (mounts.map Mount.mount).Nodup)
  (hAbsolute : ∀ m ∈ mounts, m.mount.head? = some '/')

include hAbsolute in
theorem path_ne_header {m : Mount} (hMem : m ∈ mounts) : root ++ m.mount ≠ "File".toList := by
  intro hSame
  have hSlash : '/' ∈ root ++ m.mount :=
    List.mem_append_right _ (List.mem_of_mem_head? (hAbsolute m hMem))
  rw [hSame] at hSlash
  exact absurd hSlash (by decide)

include hMounts hAbsolute in
theorem usage_header (header : Cells) :
    usage (byPath root mounts) ("File".toList ++ header.text) = .ok none := by
  rw [usage_eq_none_iff hMounts]
  rintro ⟨m, hMem, size, used, avail, pct, hPieces, _⟩
  have hFile : rsplit 0 (strip "File".toList) = ["File".toList] := by decide
  rw [header.rsplit_text, hFile] at hPieces
  exact path_ne_header hAbsolute hMem (List.cons_eq_cons.mp hPieces).1.symm

include hMounts in
/-- A line with a size of 0 adds nothing, whatever stands in front of it. -/
theorem usage_of_not_kept {printed : Printed} (hZero : printed.kept = false) (front : List Char) :
    usage (byPath root mounts) (front ++ printed.cells.text) = .ok none := by
  have hSize : printed.cells.size.word = ['0'] := by simpa [Printed.kept] using hZero
  rw [usage_eq_none_iff hMounts]
  rintro ⟨m, _, size, used, avail, pct, hPieces, hOther⟩
  rw [Cells.rsplit_text, rsplit] at hPieces
  split_ifs at hPieces with hNil
  · simp at hPieces
  · simp only [List.cons_append, List.nil_append, List.cons.injEq] at hPieces
    exact hOther (hPieces.2.1 ▸ hSize)

theorem chunk_of_clean {printed : Printed} (hClean : Clean (printed.path root)) :
    chunk root printed = [printed.path root ++ printed.cells.text] := by
  rw [chunk, (endedLines_of_oneLine hClean.1).1, (endedLines_of_oneLine hClean.1).2,
    List.nil_append]

/-- What a clean line adds. -/
def Printed.usage (printed : Printed) (pctNum : Int) : DiskUsage where
  filesystem := String.ofList printed.mount.source
  mount := String.ofList printed.mount.mount
  fsType := String.ofList printed.mount.fsType
  size := String.ofList printed.cells.size.word
  used := String.ofList printed.cells.used.word
  available := String.ofList printed.cells.avail.word
  usedPercent := pctNum
  severity := severity pctNum

include hMounts hAbsolute in
theorem usage_of_clean {printed : Printed} (hMem : printed.mount ∈ mounts)
    (hClean : Clean (printed.path root)) (hKept : printed.kept = true) :
      usage (byPath root mounts) (printed.path root ++ printed.cells.text) =
      (percent printed.cells.pct.word).map fun pctNum => some (printed.usage pctNum) := by
  have hSome : printed.path root ≠ [] := by
    have hSlash := List.mem_of_mem_head? (hAbsolute _ hMem)
    exact List.ne_nil_of_mem (List.mem_append_right root hSlash)
  have hPath : rsplit 0 (strip (printed.path root)) = [printed.path root] := by
    have hBack : rstrip (printed.path root) = printed.path root := by
      conv_lhs => rw [← hClean.2]
      exact (rstrip_rstrip _).trans hClean.2
    rw [hClean.2, rsplit, hBack, if_neg hSome]
  have hFound : (byPath root mounts).get? (printed.path root) = some printed.mount :=
    (byPath_get?_iff hMounts).mpr ⟨hMem, rfl⟩
  have hSize : printed.cells.size.word ≠ ['0'] := by simpa [Printed.kept] using hKept
  simp only [usage, Cells.rsplit_text, hPath, List.cons_append, List.nil_append, hFound,
    hSize, if_false]
  rfl

include hMounts in
/-- A row comes from a clean path of a mount. -/
theorem clean_of_rowOf {line : List Char} {row : DiskUsage} (hLine : OneLine line)
    (h : rowOf (byPath root mounts) line = some row) :
    ∃ m ∈ mounts, Clean (root ++ m.mount) ∧ row.mount = String.ofList m.mount := by
  unfold rowOf at h
  cases hUsage : usage (byPath root mounts) line with
  | error error => simp [hUsage] at h
  | ok found =>
      rw [hUsage] at h
      subst h
      obtain ⟨path, size, used, avail, pct, m, hPieces, hFound, _, _, _, hMount⟩ :=
        usage_eq_some hUsage
      obtain ⟨hMem, rfl⟩ := (byPath_get?_iff hMounts).mp hFound
      obtain ⟨hInfix, hStrip⟩ := strip_of_rsplit hPieces rfl
      exact ⟨m, hMem, ⟨fun c hChar => hLine c (hInfix.subset hChar), hStrip⟩, hMount⟩

end

theorem length_filter_le_flatMap {α β : Type} {items : List α} {results : α → List β}
    {keep : α → Bool} (hKept : ∀ item ∈ items, keep item = true → (results item).length = 1) :
    (items.filter keep).length ≤ (items.flatMap results).length := by
  induction items with
  | nil => simp
  | cons item items ih =>
      rw [List.forall_mem_cons] at hKept
      have hRest := ih hKept.2
      rw [List.flatMap_cons, List.length_append]
      cases hItem : keep item with
      | true =>
          have hOne := hKept.1 hItem
          rw [List.filter_cons_of_pos hItem, List.length_cons]
          omega
      | false =>
          rw [List.filter_cons_of_neg (by simp [hItem])]
          omega

/-- If some items give one result each and all together give no more, then the others give
none. -/
theorem eq_nil_of_length_flatMap {α β : Type} {items : List α} {results : α → List β}
    {keep : α → Bool} (hKept : ∀ item ∈ items, keep item = true → (results item).length = 1)
    (hLength : (items.flatMap results).length ≤ (items.filter keep).length) :
    ∀ item ∈ items, keep item = false → results item = [] := by
  induction items with
  | nil => simp
  | cons item items ih =>
      rw [List.forall_mem_cons] at hKept ⊢
      have hRest := length_filter_le_flatMap hKept.2
      rw [List.flatMap_cons, List.length_append] at hLength
      cases hItem : keep item with
      | true =>
          have hOne := hKept.1 hItem
          rw [List.filter_cons_of_pos hItem, List.length_cons] at hLength
          exact ⟨nofun, ih hKept.2 (by omega)⟩
      | false =>
          rw [List.filter_cons_of_neg (by simp [hItem])] at hLength
          have hNone : (results item).length = 0 := by omega
          exact ⟨fun _ => List.length_eq_zero_iff.mp hNone, ih hKept.2 (by omega)⟩

theorem flatMap_ite {α β : Type} (items : List α) (keep : α → Bool) (f : α → β) :
    items.flatMap (fun item => if keep item then [f item] else []) = (items.filter keep).map f := by
  induction items with
  | nil => rfl
  | cons item items ih => cases hItem : keep item <;> simp [hItem, ih]

/-- The source, the type and the mount point of a row. -/
def attribution (row : DiskUsage) : String × String × String :=
  (row.filesystem, row.fsType, row.mount)

def Printed.attribution (printed : Printed) : String × String × String :=
  (String.ofList printed.mount.source, String.ofList printed.mount.fsType,
   String.ofList printed.mount.mount)

/-- The rows that a printed line adds. -/
def rowsOf (root : List Char) (mounts : List Mount) (printed : Printed) : List DiskUsage :=
  (chunk root printed).filterMap (rowOf (byPath root mounts))

section

variable {root : List Char} {mounts : List Mount} (hMounts : (mounts.map Mount.mount).Nodup)
  (hAbsolute : ∀ m ∈ mounts, m.mount.head? = some '/')

include hMounts hAbsolute

/-- The rows of all lines, given that each can be read. -/
theorem df_dfOutput_iff {host : Host F} {header : Cells} {printed : List Printed}
    {stderr : String} {rc : Int} (hSome : mounts ≠ [])
    (hRun : host.run (dfCommand (byPath root mounts)) =
      .ok (String.ofList (dfOutput root header printed), stderr, rc)) {usages : List DiskUsage} :
    df host root mounts = .ok usages ↔
      (∀ row ∈ printed, ∀ line ∈ chunk root row, ∃ found, usage (byPath root mounts) line =
        .ok found) ∧ usages = printed.flatMap (rowsOf root mounts) := by
  have hHeader : usage (byPath root mounts) ("File".toList ++ header.text) = .ok none :=
    usage_header hMounts hAbsolute header
  have hNone : rowOf (byPath root mounts) ("File".toList ++ header.text) = none := by
    rw [rowOf, hHeader]
  rw [df_eq_ok_iff hSome hRun, String.toList_ofList, splitLines_dfOutput,
    List.filterMap_cons_none hNone, List.forall_mem_cons, List.filterMap_flatMap]
  constructor
  · rintro ⟨⟨_, hLines⟩, hUsages⟩
    exact ⟨fun row hRow line hLine =>
      hLines line (List.mem_flatMap.mpr ⟨row, hRow, hLine⟩), hUsages⟩
  · rintro ⟨hLines, hUsages⟩
    refine ⟨⟨⟨none, hHeader⟩, fun line hLine => ?_⟩, hUsages⟩
    obtain ⟨row, hRow, hIn⟩ := List.mem_flatMap.mp hLine
    exact hLines row hRow line hIn

/-- A clean line with a size adds its own row, if its percentage converts. -/
theorem rowsOf_of_clean {row : Printed} (hMem : row.mount ∈ mounts) (hClean : Clean (row.path root))
    (hKept : row.kept = true) {pctNum : Int} (hPct : percent row.cells.pct.word = .ok pctNum) :
    rowsOf root mounts row = [row.usage pctNum] := by
  have hUsage := usage_of_clean hMounts hAbsolute hMem hClean hKept
  rw [hPct] at hUsage
  have hRow :
      rowOf (byPath root mounts) (row.path root ++ row.cells.text) = some (row.usage pctNum) := by
    rw [rowOf, hUsage]
    rfl
  rw [rowsOf, chunk_of_clean hClean, List.filterMap_cons_some hRow, List.filterMap_nil]

theorem converts_of_clean {row : Printed} (hMem : row.mount ∈ mounts)
    (hClean : Clean (row.path root)) (hKept : row.kept = true)
    (hLines : ∀ line ∈ chunk root row, ∃ found, usage (byPath root mounts) line = .ok found) :
    Converts row.cells.pct.word := by
  rw [chunk_of_clean hClean] at hLines
  obtain ⟨found, hFound⟩ := hLines _ List.mem_cons_self
  rw [usage_of_clean hMounts hAbsolute hMem hClean hKept] at hFound
  rw [converts_iff]
  cases hPct : percent row.cells.pct.word with
  | ok pctNum => exact ⟨pctNum, rfl⟩
  | error error =>
      rw [hPct] at hFound
      cases hFound

/-- What a printed line must be like, to add its own row and nothing else. -/
def Fits (root : List Char) (mounts : List Mount) (row : Printed) : Prop :=
  (row.kept = true → Clean (row.path root) ∧ Converts row.cells.pct.word) ∧
    (row.kept = false → ∀ line ∈ endedLines (row.path root), ¬ReadsAsRow root mounts line)

theorem rows_of_fits {row : Printed} (hMem : row.mount ∈ mounts) (hFits : Fits root mounts row) :
    (∀ line ∈ chunk root row, ∃ found, usage (byPath root mounts) line = .ok found) ∧
      (rowsOf root mounts row).map attribution = if row.kept then [row.attribution] else [] := by
  cases hKept : row.kept with
  | true =>
      obtain ⟨hClean, hConverts⟩ := hFits.1 hKept
      obtain ⟨pctNum, hPct⟩ := converts_iff.mp hConverts
      rw [rowsOf_of_clean hMounts hAbsolute hMem hClean hKept hPct, chunk_of_clean hClean]
      refine ⟨fun line hLine => ?_, rfl⟩
      rw [List.mem_singleton.mp hLine, usage_of_clean hMounts hAbsolute hMem hClean hKept, hPct]
      exact ⟨_, rfl⟩
  | false =>
      have hNone : ∀ line ∈ chunk root row, usage (byPath root mounts) line = .ok none := by
        intro line hLine
        rcases List.mem_append.mp hLine with hEnded | hLast
        · exact (usage_eq_none_iff hMounts).mpr (hFits.2 hKept line hEnded)
        · rw [List.mem_singleton.mp hLast]
          exact usage_of_not_kept hMounts hKept _
      have hEmpty : rowsOf root mounts row = [] :=
        List.filterMap_eq_nil_iff.mpr fun line hLine => by rw [rowOf, hNone line hLine]
      exact ⟨fun line hLine => ⟨none, hNone line hLine⟩, by rw [hEmpty]; rfl⟩

end

/-- Each line that was printed gives its own row exactly when the paths of those with a size
are clean and their percentages convert, and no line that ends within the path of another
reads as a row. -/
theorem dfAttribution_iff {host : Host F} {root : List Char} {mounts : List Mount} {header : Cells}
    {printed : List Printed} {stderr : String} {rc : Int} (hMounts : (mounts.map Mount.mount).Nodup)
    (hAbsolute : ∀ m ∈ mounts, m.mount.head? = some '/')
    (hPrinted : ∀ row ∈ printed, row.mount ∈ mounts)
    (hRun : host.run (dfCommand (byPath root mounts)) =
      .ok (String.ofList (dfOutput root header printed), stderr, rc)) :
    (∃ usages, df host root mounts = .ok usages ∧
        usages.map attribution = (printed.filter Printed.kept).map Printed.attribution) ↔
      ∀ row ∈ printed,
        (row.kept = true → Clean (row.path root) ∧ Converts row.cells.pct.word) ∧
          (row.kept = false →
            ∀ line ∈ endedLines (row.path root), ¬ReadsAsRow root mounts line) := by
  by_cases hSome : mounts = []
  · have hNone : printed = [] := List.eq_nil_iff_forall_not_mem.mpr fun row hMem => by
      simpa [hSome] using hPrinted row hMem
    simp [hNone, df, hSome]
  · simp only [df_dfOutput_iff hMounts hAbsolute hSome hRun]
    constructor
    · rintro ⟨_, ⟨hLines, rfl⟩, hSame⟩
      have hClean : ∀ row ∈ printed, row.kept = true → Clean (row.path root) := by
        intro row hRow hKept
        have hOwn : row.attribution ∈ (printed.flatMap (rowsOf root mounts)).map attribution := by
          rw [hSame]
          exact List.mem_map_of_mem (List.mem_filter.mpr ⟨hRow, hKept⟩)
        obtain ⟨found, hFound, hAttribution⟩ := List.mem_map.mp hOwn
        obtain ⟨other, hOther, hIn⟩ := List.mem_flatMap.mp hFound
        obtain ⟨line, hLine, hRead⟩ := List.mem_filterMap.mp hIn
        have hOne : OneLine line := by
          refine @oneLine_of_mem_splitLines (dfOutput root header printed) line ?_
          rw [splitLines_dfOutput]
          exact List.mem_cons_of_mem _ (List.mem_flatMap.mpr ⟨other, hOther, hLine⟩)
        obtain ⟨m, hMem, hPath, hMount⟩ := clean_of_rowOf hMounts hOne hRead
        have hPoint : String.ofList m.mount = String.ofList row.mount.mount :=
          hMount.symm.trans (congrArg (fun triple => triple.2.2) hAttribution)
        rw [String.ofList_inj.mp hPoint] at hPath
        exact hPath
      have hConverts :
          ∀ row ∈ printed, row.kept = true → Converts row.cells.pct.word := fun row hRow hKept =>
        converts_of_clean hMounts hAbsolute (hPrinted row hRow) (hClean row hRow hKept) hKept
          (hLines row hRow)
      have hOne : ∀ row ∈ printed, row.kept = true → (rowsOf root mounts row).length = 1 := by
        intro row hRow hKept
        obtain ⟨pctNum, hPct⟩ := converts_iff.mp (hConverts row hRow hKept)
        rw [rowsOf_of_clean hMounts hAbsolute (hPrinted row hRow)
          (hClean row hRow hKept) hKept hPct]
        rfl
      have hLength := congrArg List.length hSame
      rw [List.length_map, List.length_map] at hLength
      have hOthers := eq_nil_of_length_flatMap hOne hLength.le
      refine fun row hRow =>
        ⟨fun hKept => ⟨hClean row hRow hKept, hConverts row hRow hKept⟩, fun hZero line hLine => ?_⟩
      have hIn : line ∈ chunk root row := List.mem_append_left _ hLine
      obtain ⟨found, hFound⟩ := hLines row hRow line hIn
      have hNothing := List.filterMap_eq_nil_iff.mp (hOthers row hRow hZero) line hIn
      rw [rowOf, hFound] at hNothing
      change found = none at hNothing
      rw [← usage_eq_none_iff hMounts, hFound, hNothing]
    · intro hRows
      have hAll :=
        fun row hRow => rows_of_fits hMounts hAbsolute (hPrinted row hRow) (hRows row hRow)
      refine ⟨_, ⟨fun row hRow => (hAll row hRow).1, rfl⟩, ?_⟩
      have hParts := List.flatMap_congr fun row hRow => (hAll row hRow).2
      rw [List.map_flatMap, hParts, flatMap_ite]

def column (word : String) (hWord : IsWord word.toList) : Column :=
  ⟨[' '], word.toList, by simp, by simp, hWord⟩

def header : Cells :=
  ⟨column "Size" (by decide), column "Used" (by decide), column "Avail" (by decide),
   column "Use%" (by decide)⟩

/-- A mount that is half full. -/
def halfFull (mount : String) : Printed where
  mount := { source := "/dev/sda1".toList, fsType := "xfs".toList, mount := mount.toList }
  cells :=
    ⟨column "10G" (by decide), column "5G" (by decide), column "5G" (by decide),
     column "50%" (by decide)⟩

/-- A node where `df` prints a line for each of the mounts. -/
def nodeWith (printed : List Printed) : Host Int :=
  { unreadable with run := fun _ => .ok (String.ofList (dfOutput [] header printed), "", 0) }

theorem dfAttribution_iff_space :
    ∃ usages, df (nodeWith [halfFull "/my data"]) [] [(halfFull "/my data").mount] =
    .ok usages ∧ usages.map attribution = [("/dev/sda1", "xfs", "/my data")] := by
  have hRun :
    (nodeWith [halfFull "/my data"]).run (dfCommand (byPath [] [(halfFull "/my data").mount])) =
    .ok (String.ofList (dfOutput [] header [halfFull "/my data"]), "", 0) := rfl
  refine (dfAttribution_iff (by decide) (by decide) (by decide) hRun).mpr fun row hRow => ?_
  obtain rfl := List.mem_singleton.mp hRow
  have hClean : Clean ((halfFull "/my data").path []) := ⟨by decide, by decide⟩
  exact ⟨fun _ => ⟨hClean, fun _ => by decide⟩, fun hZero => absurd hZero (by decide)⟩

/-- Two mount points that differ in a blank at the end. -/
theorem not_dfAttribution_blank : ¬∃ usages,
    df (nodeWith [halfFull "/a ", halfFull "/a"]) []
      [(halfFull "/a ").mount, (halfFull "/a").mount] = .ok usages ∧
      usages.map attribution = [("/dev/sda1", "xfs", "/a "), ("/dev/sda1", "xfs", "/a")] := by
  have hRows :
      (df (nodeWith [halfFull "/a ", halfFull "/a"]) []
        [(halfFull "/a ").mount, (halfFull "/a").mount]).map
      (List.map attribution) = .ok [("/dev/sda1", "xfs", "/a"), ("/dev/sda1", "xfs", "/a")] := by
    decide +kernel
  rintro ⟨usages, hUsages, hSame⟩
  rw [hUsages] at hRows
  exact absurd (hSame.symm.trans (Except.ok.inj hRows)) (by decide)

end NodeDebugDashboard.Collectors.Df
