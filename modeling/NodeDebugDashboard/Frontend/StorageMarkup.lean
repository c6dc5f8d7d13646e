import Mathlib.Data.List.Forall2
import NodeDebugDashboard.Frontend.Escaping

/-! Which strings of a payload can change the markup of the storage section.
Every payload is compared with its shape, in which each string is blotted out. -/
namespace NodeDebugDashboard.Frontend.Storage

open Library.Html Models

variable (numbers : Numbers)

theorem esc_unquoted (s : String) : '"' ∉ (esc s).toList := fun h => esc_free s _ h (by decide)

theorem alike_esc (first second : String) : Alike 0 (esc first) (esc second) :=
  .text (esc_plain first) (esc_plain second)

theorem alike_kvRow {key valClass first second : String} (hKey : '<' ∉ key.toList)
    (hClass : '"' ∉ valClass.toList) (h : Alike 0 first second) :
    Alike 0 (kvRow key valClass first) (kvRow key valClass second) := by
  have hStart : Complete "<span class=\"kv-key\">" := run_literal rfl
  have hOpen : Alike 0 ("</span><span class=\"" ++ valClass ++ "\">")
      ("</span><span class=\"" ++ valClass ++ "\">") := .quoted hClass hClass rfl rfl
  have hEnd : Complete "</span>" := run_literal rfl
  exact ((((Alike.refl hStart).append (.text hKey hKey)).append hOpen).append h).append (.refl hEnd)

theorem alike_subSection (id title : String) {more : Nat} {first second : String}
    (h : Alike more first second) :
    Alike more (subSection id title first) (subSection id title second) := by
  have hContent : Complete "</summary><div class=\"section-content\">" := run_literal rfl
  have hEnd : Complete "</div></details>" := run_literal rfl
  have hOpen : Alike 0 ("<details data-id=\"" ++ esc id ++ "\" class=\"sub-section\"><summary>")
      ("<details data-id=\"" ++ esc id ++ "\" class=\"sub-section\"><summary>") :=
    .quoted (esc_unquoted id) (esc_unquoted id) rfl rfl
  exact .between ((hOpen.append (alike_esc title title)).append (.refl hContent)) h (.refl hEnd)

/-- Two cells with the same markup. -/
def CellAlike (first second : Cell) : Prop :=
  Alike 0 (cellHtml numbers first) (cellHtml numbers second)

@[simp] theorem cellAlike_text (first second : String) :
    CellAlike numbers (.text first) (.text second) := alike_esc first second

@[simp] theorem cellAlike_number (n m : Int) : CellAlike numbers (.number n) (.number m) :=
  alike_esc _ _

theorem alike_table (headers : List String) {first second : List (List Cell)}
    (h : List.Forall₂ (List.Forall₂ (CellAlike numbers)) first second) :
    Alike 0 (table numbers headers first) (table numbers headers second) := by
  have hHeader : Complete "<th>" ∧ Complete "</th>" := ⟨run_literal rfl, run_literal rfl⟩
  have hCell : Complete "<td>" ∧ Complete "</td>" := ⟨run_literal rfl, run_literal rfl⟩
  have hRow : Complete "<tr>" ∧ Complete "</tr>" := ⟨run_literal rfl, run_literal rfl⟩
  have hStart : Complete "<table><thead><tr>" := run_literal rfl
  have hBody : Complete "</tr></thead><tbody>" := run_literal rfl
  have hEnd : Complete "</tbody></table>" := run_literal rfl
  have hHeaders : Alike 0 (.join (headers.map fun h => "<th>" ++ esc h ++ "</th>"))
      (.join (headers.map fun h => "<th>" ++ esc h ++ "</th>")) := by
    apply Alike.joinAll
    rw [List.forall₂_same]
    intro cell hMem
    obtain ⟨header, _, rfl⟩ := List.mem_map.mp hMem
    exact .between (.refl hHeader.1) (alike_esc header header) (.refl hHeader.2)
  have hRows : Alike 0
      (.join (first.map fun row =>
        "<tr>" ++ .join (row.map fun cell => "<td>" ++ cellHtml numbers cell ++ "</td>") ++
          "</tr>"))
      (.join (second.map fun row =>
        "<tr>" ++ .join (row.map fun cell => "<td>" ++ cellHtml numbers cell ++ "</td>") ++
          "</tr>")) := by
    apply Alike.joinAll
    rw [List.forall₂_map_left_iff, List.forall₂_map_right_iff]
    refine h.imp fun row other hCells => ?_
    have hAll : Alike 0
        (.join (row.map fun cell => "<td>" ++ cellHtml numbers cell ++ "</td>"))
        (.join (other.map fun cell => "<td>" ++ cellHtml numbers cell ++ "</td>")) := by
      apply Alike.joinAll
      rw [List.forall₂_map_left_iff, List.forall₂_map_right_iff]
      exact hCells.imp fun cell twin hAlike => .between (.refl hCell.1) hAlike (.refl hCell.2)
    exact .between (.refl hRow.1) hAll (.refl hRow.2)
  have hHead := ((Alike.refl hStart).append hHeaders).append (.refl hBody)
  exact hHead.between hRows (.refl hEnd)

/-- What the shape of a payload keeps of a string: whether it is empty. -/
def blot (text : String) : String := if text = "" then "" else "x"

def blotPartition (p : Partition) : Partition where
  name := blot p.name
  size := blot p.size
  type := blot p.type
  mountpoint := p.mountpoint.map blot
  fstype := p.fstype.map blot

def blotDisk (d : DiskInfo) : DiskInfo where
  name := blot d.name
  model := d.model.map blot
  serial := d.serial.map blot
  size := blot d.size
  type := blot d.type
  transport := d.transport.map blot
  rotational := d.rotational
  partitions := d.partitions.map blotPartition

def blotAttribute (a : SmartAttribute) : SmartAttribute :=
  { a with name := blot a.name, rawValue := blot a.rawValue }

def blotReport (s : SmartHealth) : SmartHealth :=
  { s with
    device := blot s.device
    model := s.model.map blot
    serial := s.serial.map blot
    smartIssues := s.smartIssues.map blot
    error := s.error.map blot
    attributes := s.attributes.map blotAttribute }

def blotUsage (u : DiskUsage) : DiskUsage :=
  { u with
    filesystem := blot u.filesystem
    mount := blot u.mount
    fsType := blot u.fsType
    size := blot u.size
    used := blot u.used
    available := blot u.available }

/-- The payload with every string but the severities blotted out. Two payloads
have the same shape when these are equal. -/
def shape (storage : StorageOverview) : StorageOverview where
  disks := storage.disks.map blotDisk
  smart := storage.smart.map blotReport
  usage := storage.usage.map blotUsage

/-- A table whose rows are made from items looks the same for changed items,
as long as no cell of markup changes with them. -/
theorem alike_rows {A : Type} (headers : List String) (items : List A) (row : A → List Cell)
    (change : A → A)
    (h : ∀ item, List.Forall₂ (CellAlike numbers) (row item) (row (change item))) :
    Alike 0 (table numbers headers (items.map row))
      (table numbers headers ((items.map change).map row)) := by
  apply alike_table
  rw [List.map_map, List.forall₂_map_left_iff, List.forall₂_map_right_iff, List.forall₂_same]
  exact fun item _ => h item

theorem alike_partitionsHtml (disk : DiskInfo) :
    Alike 0 (partitionsHtml numbers disk) (partitionsHtml numbers (blotDisk disk)) := by
  cases hEmpty : disk.partitions.isEmpty with
  | true => simpa [partitionsHtml, blotDisk, hEmpty] using Alike.empty
  | false =>
      have hStart : Complete
          "<div style=\"margin:6px 0 2px;color:var(--text-dim)\">Partitions of " := run_literal rfl
      have hEnd : Complete ":</div>" := run_literal rfl
      have hTable := alike_rows numbers ["Name", "Size", "Type", "FS", "Mount"] disk.partitions
        partitionRow blotPartition fun p => by simp [partitionRow]
      have hTitle := (Alike.refl hStart).between (alike_esc disk.name (blot disk.name)) (.refl hEnd)
      simpa [partitionsHtml, blotDisk, hEmpty] using hTitle.append hTable

theorem alike_disksHtml (disks : List DiskInfo) :
    Alike 0 (disksHtml numbers disks) (disksHtml numbers (disks.map blotDisk)) := by
  have hTable := alike_rows numbers
    ["Name", "Model", "Serial", "Size", "Transport", "Rotational"] disks diskRow blotDisk
    fun d => by simp [diskRow]
  have hPartitions : Alike 0 (.join (disks.map (partitionsHtml numbers)))
      (.join ((disks.map blotDisk).map (partitionsHtml numbers))) := by
    apply Alike.joinAll
    rw [List.map_map, List.forall₂_map_left_iff, List.forall₂_map_right_iff, List.forall₂_same]
    exact fun disk _ => alike_partitionsHtml numbers disk
  exact hTable.append hPartitions

theorem alike_usageHtml (usage : List DiskUsage) :
    Alike 0 (usageHtml numbers usage) (usageHtml numbers (usage.map blotUsage)) := by
  have hEnd : Complete "%</span>" := run_literal rfl
  apply alike_rows
  intro u
  have hStart : Alike 0 ("<span class=\"sev-" ++ esc u.severity ++ "\">")
      ("<span class=\"sev-" ++ esc u.severity ++ "\">") :=
    .quoted (esc_unquoted u.severity) (esc_unquoted u.severity) rfl rfl
  have hPercent := alike_esc (numbers.string u.usedPercent) (numbers.string u.usedPercent)
  have hBadge := (hStart.append hPercent).append (.refl hEnd)
  simp only [usageRow, List.forall₂_cons, cellAlike_text, true_and, List.forall₂_nil_left_iff,
    and_true]
  exact hBadge

theorem blot_eq_empty_iff (text : String) : blot text = "" ↔ text = "" := by
  by_cases h : text = "" <;> simp [blot, h]

theorem alike_errorRow (error : Option String) :
    Alike 0 (errorRow error) (errorRow (error.map blot)) := by
  cases error with
  | none => exact .empty
  | some text =>
      by_cases hEmpty : text = ""
      · simpa [errorRow, hEmpty, blot] using Alike.empty
      · have hRow : Alike 0 (kvRow "Error" "kv-val sev-warning" (esc text))
            (kvRow "Error" "kv-val sev-warning" (esc (blot text))) :=
          alike_kvRow (by decide) (by decide) (alike_esc text (blot text))
        simpa [errorRow, hEmpty, blot_eq_empty_iff] using hRow

theorem alike_issuesRow (issues : List String) :
    Alike 0 (issuesRow issues) (issuesRow (issues.map blot)) := by
  cases hEmpty : issues.isEmpty with
  | true => simpa [issuesRow, hEmpty] using Alike.empty
  | false =>
      have hBreak : Complete "<br>" := run_literal rfl
      have hItems : List.Forall₂ (Alike 0) (issues.map esc) ((issues.map blot).map esc) := by
        rw [List.map_map, List.forall₂_map_left_iff, List.forall₂_map_right_iff, List.forall₂_same]
        exact fun issue _ => alike_esc issue (blot issue)
      have hRow : Alike 0 (kvRow "Issues" "kv-val sev-critical" _)
          (kvRow "Issues" "kv-val sev-critical" _) :=
        alike_kvRow (by decide) (by decide) (Alike.intercalate hBreak hItems)
      simpa [issuesRow, hEmpty] using hRow

theorem measure_plain {write : Int → String} (hWrite : ∀ n, '<' ∉ (write n).toList) {unit : String}
    (hUnit : '<' ∉ unit.toList) (value : Option Int) : '<' ∉ (measure write unit value).toList := by
  cases value with
  | none => exact (by decide : '<' ∉ "-".toList)
  | some n => simp [measure, hWrite n, hUnit]

theorem count_plain (value : Option Int) : '<' ∉ (count numbers value).toList := by
  cases value with
  | none => exact (by decide : '<' ∉ "-".toList)
  | some n => exact esc_plain _

theorem sectorClass_unquoted (sectors : Option Int) : '"' ∉ (sectorClass sectors).toList := by
  unfold sectorClass
  split <;> decide

theorem status_safe (s : SmartHealth) :
    '"' ∉ ("kv-val " ++ statusClass s).toList ∧ '<' ∉ (statusText s).toList := by
  unfold statusClass statusText
  cases s.standby <;> rcases s.healthPassed with _ | passed | passed <;> decide

theorem alike_gridHtml (s : SmartHealth) :
    Alike 0 (gridHtml numbers s) (gridHtml numbers (blotReport s)) := by
  have hStart : Complete "<div class=\"kv-grid\">" := run_literal rfl
  have hEnd : Complete "\n            </div>" := run_literal rfl
  have hLine : Complete "\n                " := run_literal rfl
  have hSame : ∀ {text : String}, '<' ∉ text.toList → Alike 0 text text := fun h => .text h h
  have hSectors : ∀ (key : String) (value : Option Int), '<' ∉ key.toList →
      Alike 0 (kvRow key (sectorClass value) (count numbers value))
        (kvRow key (sectorClass value) (count numbers value)) := fun key value hKey =>
    alike_kvRow hKey (sectorClass_unquoted value) (hSame (count_plain numbers value))
  have hMeasure : ∀ (key : String) (write : Int → String) (unit : String) (value : Option Int),
      (∀ n, '<' ∉ (write n).toList) → '<' ∉ key.toList → '<' ∉ unit.toList →
        Alike 0 (kvRow key "kv-val" (measure write unit value))
          (kvRow key "kv-val" (measure write unit value)) :=
    fun key write unit value hWrite hKey hUnit =>
      alike_kvRow hKey (by decide) (hSame (measure_plain hWrite hUnit value))
  have hRows : List.Forall₂ (Alike 0) (gridRows numbers s) (gridRows numbers (blotReport s)) := by
    refine .cons ?_ (.cons ?_ (.cons ?_ (.cons ?_ (.cons ?_ (.cons ?_ (.cons ?_ (.cons ?_
      (.cons ?_ (.cons ?_ .nil)))))))))
    · exact alike_kvRow (by decide) (status_safe s).1 (hSame (status_safe s).2)
    · exact alike_kvRow (by decide) (by decide) (alike_esc _ _)
    · exact hMeasure _ _ _ _ numbers.string_plain (by decide) (by decide)
    · exact hMeasure _ _ _ _ numbers.locale_plain (by decide) (by decide)
    · exact hMeasure _ _ _ _ numbers.string_plain (by decide) (by decide)
    · exact hSectors _ _ (by decide)
    · exact hSectors _ _ (by decide)
    · exact hSectors _ _ (by decide)
    · exact alike_errorRow s.error
    · exact alike_issuesRow s.smartIssues
  have hLines : Alike 0 (.join ((gridRows numbers s).map fun row => "\n                " ++ row))
      (.join ((gridRows numbers (blotReport s)).map fun row => "\n                " ++ row)) := by
    apply Alike.joinAll
    rw [List.forall₂_map_left_iff, List.forall₂_map_right_iff]
    exact hRows.imp fun _ _ hRow => (Alike.refl hLine).append hRow
  exact (Alike.refl hStart).between hLines (.refl hEnd)

theorem alike_headingHtml (s : SmartHealth) :
    Alike 0 (headingHtml s) (headingHtml (blotReport s)) := by
  have hStart : Complete
      "<div style=\"margin-top:8px;font-weight:500;color:var(--text-bright)\">" := run_literal rfl
  have hDash : Complete " — " := run_literal rfl
  have hEnd : Complete "</div>" := run_literal rfl
  have hDevice := (Alike.refl hStart).append (alike_esc s.device (blot s.device))
  exact ((hDevice.append (.refl hDash)).append (alike_esc _ _)).append (.refl hEnd)

/-- A device that closes the value it is put into and adds an attribute. -/
def smuggler : String := "\" x=\""

/-- The attributes that the device of the report adds to the markup. -/
def smuggled (s : SmartHealth) : Nat :=
  if s.attributes ≠ [] ∧ '"' ∈ s.device.toList then 1 else 0

theorem notMem_devId {device : String} (h : '"' ∉ device.toList) : '"' ∉ (devId device).toList := by
  rw [devId, String.toList_map]
  intro hMem
  obtain ⟨c, hChar, hEq⟩ := List.mem_map.mp hMem
  split_ifs at hEq
  · cases hEq
  · exact h (hEq ▸ hChar)

theorem blot_unquoted (text : String) : '"' ∉ (blot text).toList := by
  unfold blot
  split <;> decide

theorem digits_plain (n : Nat) : '<' ∉ (toString n).toList := by
  intro hMem
  have hDigit : '<'.isDigit = true :=
    Nat.isDigit_of_mem_toDigits (by omega) (by omega) (Nat.toList_repr ▸ hMem)
  exact absurd hDigit (by decide)

theorem run_devId {before device after : List Char} {opened behind last : Mode}
    {early within late : List Tag} (hBefore : run .data before = (opened, early))
    (hDevice : run opened (device.map fun c => if c = '/' then '-' else c) = (behind, within))
    (hAfter : run behind after = (last, late)) :
    run .data (.ofList before ++ devId (.ofList device) ++ .ofList after : String).toList =
      (last, early ++ within ++ late) := by
  simp [devId, run_append, hBefore, hDevice, hAfter]

set_option maxRecDepth 1000 in
/-- The tag that holds the device changes with it only where it holds a quote. -/
theorem alike_opening {s : SmartHealth} (hAttributes : s.attributes ≠ [])
    (h : '"' ∈ s.device.toList → s.device = smuggler) :
    Alike (smuggled s)
      ("<details data-id=\"smart-attr-" ++ devId s.device ++
        "\" class=\"sub-section\" style=\"margin-top:4px\"><summary>SMART Attributes (")
      ("<details data-id=\"smart-attr-" ++ devId (blot s.device) ++
        "\" class=\"sub-section\" style=\"margin-top:4px\"><summary>SMART Attributes (") := by
  by_cases hQuote : '"' ∈ s.device.toList
  · have hOne : smuggled s = 1 := if_pos ⟨hAttributes, hQuote⟩
    rw [hOne, h hQuote]
    have hLeft : run .data ("<details data-id=\"smart-attr-" ++ devId smuggler ++
        "\" class=\"sub-section\" style=\"margin-top:4px\"><summary>SMART Attributes (").toList =
          (.data, _) := run_devId rfl rfl rfl
    have hRight : run .data ("<details data-id=\"smart-attr-" ++ devId (blot smuggler) ++
        "\" class=\"sub-section\" style=\"margin-top:4px\"><summary>SMART Attributes (").toList =
          (.data, _) := run_devId rfl rfl rfl
    exact {
      left := congrArg Prod.fst hLeft
      right := congrArg Prod.fst hRight
      count := by
        rw [tagsOf, tagsOf, hLeft, hRight]
        rfl
      tags := fun hZero => absurd hZero Nat.one_ne_zero }
  · have hZero : smuggled s = 0 := if_neg fun hBoth => hQuote hBoth.2
    rw [hZero]
    exact .quoted (notMem_devId hQuote) (notMem_devId (blot_unquoted s.device)) rfl rfl

theorem alike_attributesHtml {s : SmartHealth}
    (h : '"' ∈ s.device.toList → s.attributes = [] ∨ s.device = smuggler) :
    Alike (smuggled s) (attributesHtml numbers s) (attributesHtml numbers (blotReport s)) := by
  by_cases hAttributes : s.attributes = []
  · simpa [attributesHtml, blotReport, smuggled, hAttributes] using Alike.empty
  · have hOpen := alike_opening hAttributes fun hQuote => (h hQuote).resolve_left hAttributes
    have hCount : Alike 0 (toString s.attributes.length) (toString s.attributes.length) :=
      .text (digits_plain _) (digits_plain _)
    have hContent : Complete ")</summary><div class=\"section-content\">" := run_literal rfl
    have hEnd : Complete "</div></details>" := run_literal rfl
    have hTable := alike_rows numbers ["ID", "Name", "Value", "Worst", "Thresh", "Raw"]
      s.attributes attributeRow blotAttribute fun a => by simp [attributeRow, blotAttribute]
    have hDetails := (((hOpen.append hCount).append (.refl hContent)).append hTable).append
      (.refl hEnd)
    simpa [attributesHtml, blotReport, hAttributes] using hDetails

/-- A device that holds a quote is the one that smuggles, or is not put into a
value. -/
def Covered (s : SmartHealth) : Prop :=
  '"' ∈ s.device.toList → s.attributes = [] ∨ s.device = smuggler

theorem alike_reportHtml {s : SmartHealth} (h : Covered s) :
    Alike (smuggled s) (reportHtml numbers s) (reportHtml numbers (blotReport s)) := by
  have hFront := (alike_headingHtml s).append (alike_gridHtml numbers s)
  have hReport := hFront.append (alike_attributesHtml numbers h)
  rwa [Nat.zero_add] at hReport

/-- A section of the page is left out when its list is empty, which the shape
does not change. -/
theorem alike_section {A : Type} (items : List A) (change : A → A) (id title : String)
    (html : List A → String) {more : Nat} (hEmpty : items = [] → more = 0)
    (h : Alike more (html items) (html (items.map change))) :
    Alike more (if items.isEmpty then "" else subSection id title (html items))
      (if (items.map change).isEmpty then "" else
        subSection id title (html (items.map change))) := by
  cases items with
  | nil =>
      rw [hEmpty rfl]
      exact .empty
  | cons => exact alike_subSection id title h

/-- The markup of a payload against that of its shape. -/
theorem alike_renderStorage {storage : StorageOverview} (h : ∀ s ∈ storage.smart, Covered s) :
    Alike (storage.smart.map smuggled).sum (renderStorage numbers storage)
      (renderStorage numbers (shape storage)) := by
  have hStart : Complete
      "<details data-id=\"storage\"><summary>Storage</summary><div class=\"section-content\">" :=
        run_literal rfl
  have hEnd : Complete "</div></details>" := run_literal rfl
  have hReports : Alike (storage.smart.map smuggled).sum
      (.join (storage.smart.map (reportHtml numbers)))
      (.join ((storage.smart.map blotReport).map (reportHtml numbers))) := by
    rw [List.map_map]
    exact .join smuggled _ _ fun s hMem => alike_reportHtml numbers (h s hMem)
  have hDisks := alike_section storage.disks blotDisk "stor-disks" "Disks & Partitions"
    (disksHtml numbers) (fun _ => rfl) (alike_disksHtml numbers storage.disks)
  have hSmart := alike_section storage.smart blotReport "stor-smart" "SMART Health"
    (fun smart => .join (smart.map (reportHtml numbers))) (fun hNone => by simp [hNone]) hReports
  have hUsage := alike_section storage.usage blotUsage "stor-usage" "Disk Usage"
    (usageHtml numbers) (fun _ => rfl) (alike_usageHtml numbers storage.usage)
  have hPage := (((Alike.refl hStart).append hDisks).between hSmart hUsage).append (.refl hEnd)
  exact hPage

theorem blot_blot (text : String) : blot (blot text) = blot text := by
  by_cases h : text = "" <;> simp [blot, h]

theorem shape_shape (storage : StorageOverview) : shape (shape storage) = shape storage := by
  have hOption : ∀ text : Option String, (text.map blot).map blot = text.map blot := fun text => by
    cases text <;> simp [blot_blot]
  have hPartition : blotPartition ∘ blotPartition = blotPartition := by
    funext p
    simp [blotPartition, blot_blot, hOption]
  have hDisk : blotDisk ∘ blotDisk = blotDisk := by
    funext d
    simp [blotDisk, blot_blot, hOption, hPartition]
  have hAttribute : blotAttribute ∘ blotAttribute = blotAttribute := by
    funext a
    simp [blotAttribute, blot_blot]
  have hIssue : blot ∘ blot = blot := funext blot_blot
  have hReport : blotReport ∘ blotReport = blotReport := by
    funext s
    simp [blotReport, blot_blot, hOption, hAttribute, hIssue]
  have hUsage : blotUsage ∘ blotUsage = blotUsage := by
    funext u
    simp [blotUsage, blot_blot]
  simp [shape, hDisk, hReport, hUsage]

/-- No device that is put into the value of an attribute holds a quote. -/
def Unquoted (storage : StorageOverview) : Prop :=
  ∀ s ∈ storage.smart, s.attributes = [] ∨ '"' ∉ s.device.toList

theorem Unquoted.tags_eq {storage : StorageOverview} (h : Unquoted storage) :
    tagsOf (renderStorage numbers storage) = tagsOf (renderStorage numbers (shape storage)) := by
  have hCovered : ∀ s ∈ storage.smart, Covered s := fun s hMem hQuote =>
    .inl ((h s hMem).resolve_right (not_not.mpr hQuote))
  refine (alike_renderStorage numbers hCovered).tags
    (List.sum_eq_zero_iff_forall_eq_nat.mpr fun n hMem => ?_)
  obtain ⟨s, hReport, rfl⟩ := List.mem_map.mp hMem
  refine if_neg fun hBoth => ?_
  exact (h s hReport).elim hBoth.1 fun hQuote => hQuote hBoth.2

/-- The payload with the smuggling device in every report. -/
def smuggle (storage : StorageOverview) : StorageOverview :=
  { storage with smart := storage.smart.map fun s =>
      { s with device := if s.device = "" then "" else smuggler } }

theorem shape_smuggle (storage : StorageOverview) : shape (smuggle storage) = shape storage := by
  have hDevice : ∀ device : String,
      blot (if device = "" then "" else smuggler) = blot device := fun device => by
    by_cases h : device = "" <;> simp [blot, smuggler, h]
  simp [shape, smuggle, blotReport, hDevice, Function.comp_def]

theorem smuggle_tags_ne {storage : StorageOverview} {s : SmartHealth} (hMem : s ∈ storage.smart)
    (hAttributes : s.attributes ≠ []) (hDevice : s.device ≠ "") :
    tagsOf (renderStorage numbers (smuggle storage)) ≠
      tagsOf (renderStorage numbers (shape storage)) := by
  have hCovered : ∀ r ∈ (smuggle storage).smart, Covered r := by
    intro r hReport hQuote
    obtain ⟨original, _, rfl⟩ := List.mem_map.mp hReport
    by_cases hEmpty : original.device = ""
    · simp [hEmpty] at hQuote
    · exact .inr (if_neg hEmpty)
  have hAlike := alike_renderStorage numbers hCovered
  rw [shape_smuggle] at hAlike
  have hOne : 1 ∈ (smuggle storage).smart.map smuggled := by
    refine List.mem_map.mpr ⟨_, List.mem_map.mpr ⟨s, hMem, rfl⟩, if_pos ⟨hAttributes, ?_⟩⟩
    simp [hDevice, smuggler]
  intro hSame
  have hCount := hAlike.count
  rw [hSame, Nat.left_eq_add, List.sum_eq_zero_iff_forall_eq_nat] at hCount
  exact absurd (hCount 1 hOne) Nat.one_ne_zero

/-- Which strings can change the markup of the storage section. Payloads of one
shape have the same tags with the same attributes when no device holds a quote
where it is put into a value. Whatever else the strings are, a payload shares
its markup with all others of its shape exactly when no report with a device has
attributes. -/
theorem storageMarkup (p : StorageOverview) :
    (∀ q, shape q = shape p → Unquoted p → Unquoted q →
      tagsOf (renderStorage numbers q) = tagsOf (renderStorage numbers p)) ∧
    ((∀ q, shape q = shape p →
      tagsOf (renderStorage numbers q) = tagsOf (renderStorage numbers p)) ↔
        ∀ s ∈ p.smart, s.attributes = [] ∨ s.device = "") := by
  have hUnquoted : ∀ q, shape q = shape p → Unquoted p → Unquoted q →
      tagsOf (renderStorage numbers q) = tagsOf (renderStorage numbers p) := by
    intro q hShape hFirst hSecond
    rw [hSecond.tags_eq, hFirst.tags_eq, hShape]
  refine ⟨hUnquoted, ⟨?_, ?_⟩⟩
  · intro hSame s hMem
    by_contra hNeither
    rw [not_or] at hNeither
    apply smuggle_tags_ne numbers hMem hNeither.1 hNeither.2
    rw [hSame _ (shape_smuggle p), hSame _ (shape_shape p)]
  · intro hNone q hShape
    have hBare : ∀ r ∈ q.smart, r.attributes = [] ∨ r.device = "" := by
      intro r hMem
      have hBlotted : blotReport r ∈ (shape p).smart := hShape ▸ List.mem_map_of_mem hMem
      obtain ⟨s, hReport, hSame⟩ := List.mem_map.mp hBlotted
      have hDevice : blot s.device = blot r.device := congrArg SmartHealth.device hSame
      have hAttributes : s.attributes.map blotAttribute = r.attributes.map blotAttribute :=
        congrArg SmartHealth.attributes hSame
      rcases hNone s hReport with hEmpty | hEmpty
      · rw [hEmpty] at hAttributes
        exact .inl (List.map_eq_nil_iff.mp hAttributes.symm)
      · rw [hEmpty] at hDevice
        exact .inr ((blot_eq_empty_iff _).mp hDevice.symm)
    have hFree : ∀ storage : StorageOverview,
        (∀ s ∈ storage.smart, s.attributes = [] ∨ s.device = "") → Unquoted storage :=
      fun storage h s hMem => (h s hMem).imp id fun hEmpty => by simp [hEmpty]
    exact hUnquoted q hShape (hFree p hNone) (hFree q hBare)

theorem decimal_plain (n : Int) : '<' ∉ (toString n).toList := by
  cases n with
  | ofNat n => exact digits_plain n
  | negSucc n =>
      have hText : toString (Int.negSucc n) = "-" ++ toString (n + 1) := rfl
      rw [hText, String.toList_append, List.mem_append, not_or]
      exact ⟨by decide, digits_plain (n + 1)⟩

/-- Numbers in plain decimals. -/
def decimal : Numbers where
  string n := toString n
  locale n := toString n
  string_plain := decimal_plain
  locale_plain := decimal_plain

/-- One report with one attribute. -/
def oneReport (device : String) : StorageOverview where
  smart := [{
    device := device
    attributes := [{
      id := 5
      name := "Reallocated_Sector_Ct"
      value := 100
      worst := 100
      threshold := 36
      rawValue := "0" }] }]

/-- One drive under two names. -/
theorem storageMarkup_renamed :
    tagsOf (renderStorage decimal (oneReport "/dev/nvme0n1")) =
      tagsOf (renderStorage decimal (oneReport "/dev/sda")) := by
  apply (storageMarkup decimal (oneReport "/dev/sda")).1
  · decide +kernel
  · simp [Unquoted, oneReport]
  · simp [Unquoted, oneReport]

/-- A device that is put into `data-id` as it is can close the value and add an
attribute of its own. -/
theorem not_storageMarkup : shape (oneReport smuggler) = shape (oneReport "/dev/sda") ∧
    tagsOf (renderStorage decimal (oneReport smuggler)) ≠
      tagsOf (renderStorage decimal (oneReport "/dev/sda")) := by
  have hShape : shape (oneReport smuggler) = shape (oneReport "/dev/sda") := by decide +kernel
  have hPlain : Unquoted (oneReport "/dev/sda") := by simp [Unquoted, oneReport]
  refine ⟨hShape, ?_⟩
  have hSmuggle : smuggle (oneReport "/dev/sda") = oneReport smuggler := by decide +kernel
  rw [hPlain.tags_eq decimal, ← hSmuggle]
  exact smuggle_tags_ne decimal (List.mem_singleton_self _) (by simp) (by simp)

end NodeDebugDashboard.Frontend.Storage
