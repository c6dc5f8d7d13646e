import NodeDebugDashboard.Frontend.Renderers
import NodeDebugDashboard.Frontend.StorageMarkup

/-! The tags that the renderers of app/static/app.js write, whatever the strings of the payloads. -/
namespace NodeDebugDashboard.Frontend.Renderers

open Library Library.Html Library.JavaScript Library.JavaScript.JsNumber Models
open Storage (Cell cellHtml esc esc_plain esc_unquoted table subSection orText kvRow measure)

/-- The start tags of the page, with the names of their attributes. None is a script, and no
attribute is run as one. -/
def startTags : List (List Char × List (List Char)) :=
  let dataId := letters "data-id" rfl
  let cls := letters "class" rfl
  let style := letters "style" rfl
  let details := letters "details" rfl
  let div := letters "div" rfl
  let span := letters "span" rfl
  let button := letters "button" rfl
  let sort := letters "data-proc-sort" rfl
  [(details, [dataId]), (details, [dataId, letters "open" rfl]), (details, [dataId, cls]),
    (details, [dataId, cls, style]), (letters "summary" rfl, []), (div, [cls]), (div, [style]),
    (div, [cls, style]), (span, [cls]), (span, [style]), (span, [cls, style]),
    (span, [cls, letters "title" rfl, letters "data-copy" rfl]),
    (letters "a" rfl, [letters "href" rfl, cls]), (letters "table" rfl, []),
    (letters "thead" rfl, []), (letters "tbody" rfl, []), (letters "tr" rfl, []),
    (letters "th" rfl, []), (letters "td" rfl, []), (letters "br" rfl, []),
    (button, [cls, letters "data-log-id" rfl, letters "data-log-name" rfl]), (button, [cls, sort]),
    (button, [cls, sort, letters "aria-pressed" rfl, style]),
    (letters "svg" rfl, [letters "viewbox" rfl, letters "width" rfl, letters "height" rfl, style]),
      (letters "polygon" rfl, [letters "points" rfl, letters "fill" rfl, letters "stroke" rfl,
       letters "stroke-width" rfl]),
    (letters "text" rfl,
      [letters "x" rfl, letters "y" rfl, letters "text-anchor" rfl, letters "font-size" rfl,
        letters "font-weight" rfl, letters "fill" rfl, letters "font-family" rfl])]

/-- The elements of the page without content. -/
def voids : List (List Char) := [letters "br" rfl, letters "polygon" rfl]

/-- The tags that the page is written with: every start tag, and an end tag for each that is
not void. -/
def repertoire : Repertoire where
  tags :=
    startTags.map (fun tag => { closing := false, name := tag.1, attrs := tag.2 }) ++
      (startTags.filter fun tag => tag.1 ∉ voids).map fun tag => { closing := true, name := tag.1 }
  voids := voids

/-- Markup that has no other tags than those of the page, and closes what it opens. -/
abbrev Sound (html : String) : Prop := repertoire.Sound html

section Values

variable {F : Type} [JsNumber F]

/-- A number never opens a tag. -/
theorem stringOf_plain (n : Int) : '<' ∉ (stringOf F n).toList := string_plain (ofInt n : F)

/-- What went through `esc` is plain text. -/
theorem sound_esc (s : String) : Sound (esc s) := .text (esc_plain s)

theorem sound_string (x : F) : Sound (string x) := .text (string_plain x)

theorem sound_stringOf (n : Int) : Sound (stringOf F n) := .text (stringOf_plain n)

/-- A choice between two pieces of markup. -/
theorem sound_ite {c : Prop} [Decidable c] {yes no : String} (hYes : Sound yes) (hNo : Sound no) :
    Sound (if c then yes else no) := by
  split_ifs
  · exact hYes
  · exact hNo

theorem sound_verdict {good : Bool} {yes no : String} (hYes : Sound yes) (hNo : Sound no) :
    Sound (verdict good yes no) := sound_ite hYes hNo

/-- Neither of two words ends the attribute that it stands in. -/
theorem unquoted_verdict {good : Bool} {yes no : String} (hYes : '"' ∉ yes.toList)
    (hNo : '"' ∉ no.toList) :
    '"' ∉ (verdict good yes no).toList := by
  cases good
  · exact hNo
  · exact hYes

theorem sound_unlessEmpty {A : Type*} {items : List A} {html : String} (h : Sound html) :
    Sound (unlessEmpty items html) := sound_ite .empty h

/-- Markup that is made of each item in turn. -/
theorem sound_joinMap {A : Type*} {items : List A} {html : A → String}
    (h : ∀ item ∈ items, Sound (html item)) :
    Sound (.join (items.map html)) := by
  apply Repertoire.Sound.join
  rw [List.forall_mem_map]
  exact h

/-- The strings of a list with escaped items. -/
theorem commas_plain (items : List String) : '<' ∉ (commas (items.map esc)).toList := by
  unfold commas
  induction items with
  | nil => simp
  | cons first rest ih =>
      cases rest with
      | nil => simpa using esc_plain first
      | cons second rest =>
          rw [List.map_cons] at ih ⊢
          rw [List.map_cons, String.intercalate_cons_cons]
          simp only [String.toList_append, List.mem_append, not_or]
          exact ⟨⟨esc_plain first, by decide⟩, ih⟩

theorem sound_orDash {text : String} (h : Sound text) : Sound (orDash text) :=
  sound_ite (.text (by decide)) h

end Values

section Helpers

set_option maxRecDepth 4000

open Library.Html.Repertoire (Filled)

/-- A row of a key-value grid: the key is a text, the value markup. -/
theorem sound_kvRow {key valClass value : String} (hKey : '<' ∉ key.toList)
    (hClass : '"' ∉ valClass.toList) (hValue : Sound value) : Sound (kvRow key valClass value) := by
  have hEq : kvRow key valClass value =
      template ["<span class=\"kv-key\">", "</span><span class=\"", "\">", "</span>"]
        [key, valClass, value] := by
    unfold kvRow
    simp only [template, String.append_assoc]
  rw [hEq]
  exact Filled.sound (.text hKey (.value hClass (.markup hValue .last))) (by decide)

/-- A part of a section that can be folded away. -/
theorem sound_subSection (id title : String) {content : String} (h : Sound content) :
    Sound (subSection id title content) := by
  have hEq : subSection id title content =
      template
        ["<details data-id=\"", "\" class=\"sub-section\"><summary>",
          "</summary><div class=\"section-content\">", "</div></details>"]
        [esc id, esc title, content] := by
    unfold subSection
    simp only [template, String.append_assoc]
  rw [hEq]
  exact Filled.sound (.value (esc_unquoted id) (.text (esc_plain title) (.markup h .last)))
    (by decide)

variable (numbers : Storage.Numbers)

/-- A cell whose markup is sound. -/
def CellSound (cell : Cell) : Prop := Sound (cellHtml numbers cell)

@[simp] theorem cellSound_text (text : String) : CellSound numbers (.text text) := sound_esc text

@[simp] theorem cellSound_number (n : Int) : CellSound numbers (.number n) := sound_esc _

@[simp] theorem cellSound_raw {html : String} : CellSound numbers (.raw html) ↔ Sound html := .rfl

/-- A table is sound when its cells are. -/
theorem sound_table (headers : List String) {rows : List (List Cell)}
    (h : ∀ row ∈ rows, ∀ cell ∈ row, CellSound numbers cell) :
    Sound (table numbers headers rows) := by
  have hHeaders : Sound (.join (headers.map fun header => "<th>" ++ esc header ++ "</th>")) :=
    sound_joinMap fun header _ => Filled.sound (.text (esc_plain header) .last) (by decide)
  have hRows : Sound (.join (rows.map fun row =>
      "<tr>" ++ .join (row.map fun cell => "<td>" ++ cellHtml numbers cell ++ "</td>") ++
      "</tr>")) := by
    refine sound_joinMap fun row hRow =>
      Filled.sound (.markup (sound_joinMap fun cell hCell => ?_) .last)
      (by decide)
    exact Filled.sound (.markup (h row hRow cell hCell) .last) (by decide)
  have hEq : table numbers headers rows =
      template ["<table><thead><tr>", "</tr></thead><tbody>", "</tbody></table>"]
        [.join (headers.map fun header => "<th>" ++ esc header ++ "</th>"),
          .join (rows.map fun row =>
            "<tr>" ++ .join (row.map fun cell => "<td>" ++ cellHtml numbers cell ++ "</td>") ++
            "</tr>")] := by
    unfold table
    simp only [template, String.append_assoc]
  rw [hEq]
  exact Filled.sound (.markup hHeaders (.markup hRows .last)) (by decide)

/-- A table with a row for each item. -/
theorem sound_rows {A : Type*} (headers : List String) {items : List A} {row : A → List Cell}
    (h : ∀ item, ∀ cell ∈ row item, CellSound numbers cell) :
    Sound (table numbers headers (items.map row)) := by
  apply sound_table
  rw [List.forall_mem_map]
  exact fun item _ => h item

theorem spaces_plain (n : Nat) : '<' ∉ (spaces n).toList := by
  rw [spaces, String.toList_ofList, List.mem_replicate]
  exact fun h => absurd h.2 (by decide)

/-- A grid of sound rows, at any indentation. -/
theorem sound_kvGrid (indent : Nat) {rows : List String} (h : ∀ row ∈ rows, Sound row) :
    Sound (kvGrid indent rows) := by
  have hLines : Sound (.join (rows.map fun row => "\n" ++ spaces (indent + 4) ++ row)) := by
    refine sound_joinMap fun row hRow => Repertoire.Sound.append (.text ?_) (h row hRow)
    simp [spaces_plain]
  have hEq : kvGrid indent rows =
      template ["<div class=\"kv-grid\">", "\n", "</div>"]
        [.join (rows.map fun row => "\n" ++ spaces (indent + 4) ++ row), spaces indent] := by
    unfold kvGrid
    simp only [template, String.append_assoc]
  rw [hEq]
  exact Filled.sound (.markup hLines (.text (spaces_plain indent) .last)) (by decide)

theorem sound_kvText {key : String} (hKey : '<' ∉ key.toList) (text : String) :
    Sound (kvText key text) :=
  sound_kvRow hKey (by decide) (sound_esc text)

theorem sound_heading {margin title : String} (hMargin : '"' ∉ margin.toList)
    (hTitle : Sound title) :
    Sound (heading margin title) := Filled.sound (.value hMargin (.markup hTitle .last)) (by decide)

theorem sound_dim {text : String} (h : Sound text) : Sound (dim text) :=
  Filled.sound (.markup h .last) (by decide)

theorem sound_unavailable : Sound unavailable := sound_dim (.text (by decide))

/-- A badge, whatever severity and text the server sent. -/
theorem sound_severityBadge (severity text : String) : Sound (severityBadge severity text) :=
  Filled.sound (.value (esc_unquoted severity) (.text (esc_plain text) .last)) (by decide)

/-- A section that can be folded away, with its title. -/
theorem sound_details {id title content : String} (hId : '"' ∉ id.toList) (hTitle : Sound title)
    (hContent : Sound content) : Sound (details id title content) :=
  Filled.sound (.value hId (.markup hTitle (.markup hContent .last))) (by decide)

end Helpers

section Bars

set_option maxRecDepth 4000

open Library.Html.Repertoire (Filled)

variable {F : Type} [JsNumber F]

/-- The badge of any role is sound, known or not. -/
theorem sound_roleBadge (role : String) : Sound (roleBadge role) :=
  Filled.sound (.value (unquoted_verdict (by decide) (by decide)) (.text (esc_plain role) .last))
    (by decide)

omit [JsNumber F] in
/-- The line over the page, with or without a role. -/
theorem sound_renderHeader (nodeRole : Option String) (node : Payload.NodeInfo F) :
    Sound (renderHeader nodeRole node) :=
  Filled.sound
    (.text (esc_plain node.hostname) (.markup (sound_ite .empty (sound_roleBadge _)) .last))
    (by decide)

theorem sound_roleTag (role : String) : Sound (roleTag role) :=
  sound_ite (.literal (by decide)) (.literal (by decide))

/-- The command to copy is an attribute, and stays in it. -/
theorem sound_sshBadge {name lead : String} (hName : '"' ∉ name.toList) (hLead : '"' ∉ lead.toList)
    (ssh : Payload.SSHInfo) (ip : String) : Sound (sshBadge F name lead ssh ip) :=
  Filled.sound
    (.value hName (.value hLead (.value (esc_unquoted _) (.value (esc_unquoted _) .last))))
      (by decide)

theorem sound_currentHtml (ssh : Payload.SSHInfo) (current : Payload.ClusterNode) :
    Sound (currentHtml F ssh current) := by
  have hBadge : Sound (" " ++ sshBadge F "ssh-badge" "Click to copy: " ssh current.ip) :=
    Repertoire.Sound.append (.text (by decide))
      (sound_sshBadge (by decide) (by decide) ssh current.ip)
  refine Repertoire.Sound.append ?_ (sound_ite hBadge .empty)
  exact Filled.sound (.markup (sound_roleTag _) (.text (esc_plain _) (.text (esc_plain _) .last)))
    (by decide)

/-- A node in the list of the cluster bar, with a link in the chosen theme. -/
theorem sound_clusterItem (browser : Browser) (ssh : Payload.SSHInfo) (theme : String)
    (n : Payload.ClusterNode) :
    Sound (clusterItem F browser ssh theme n) := by
  have hDot : Sound (verdict n.ready "<span class=\"cn-dot cn-ready\"></span>"
      "<span class=\"cn-dot cn-notready\"></span>") :=
        sound_verdict (.literal (by decide)) (.literal (by decide))
  have hBadge :
      Sound (if ssh.enabled && n.ready then sshBadge F "ssh-badge-sm" "" ssh n.ip else "") :=
    sound_ite (sound_sshBadge (by decide) (by decide) ssh n.ip) .empty
  exact Filled.sound
    (.value (esc_unquoted _) (.value (unquoted_verdict (by decide) (by decide)) (.markup hDot
      (.markup (sound_roleTag n.role)
        (.text (esc_plain n.name) (.markup hBadge (.text (esc_plain n.ip) .last)))))))
    (by decide)

/-- The list of the cluster bar, for any query. -/
theorem sound_renderClusterList (browser : Browser) (nodes : List Payload.ClusterNode)
    (ssh : Payload.SSHInfo) (theme query : String) :
    Sound (renderClusterList F browser nodes ssh theme query) :=
  sound_joinMap fun n _ => sound_clusterItem browser ssh theme n

/-- A bar that is filled to a percentage. -/
theorem sound_gauge {label valueText : String} (hLabel : '<' ∉ label.toList) (percent : F)
    (hValue : Sound valueText) : Sound (gauge label percent valueText) := by
  have hColor : '"' ∉ (if lt (ofInt 90) percent then "var(--red)"
      else if lt (ofInt 70) percent then "var(--yellow)" else "var(--green)").toList := by
    split_ifs <;> decide
  exact Filled.sound
    (.text hLabel (.value (string_unquoted _) (.value hColor (.markup hValue .last)))) (by decide)

theorem sound_item {label value : String} (hLabel : '<' ∉ label.toList) (hValue : Sound value) :
    Sound (item label value) := Filled.sound (.text hLabel (.markup hValue .last)) (by decide)

theorem sound_ipItem (ip : Payload.IPAddress) : Sound (ipItem F ip) :=
  sound_item (esc_plain ip.interface)
    (Filled.sound (.text (esc_plain _) (.text (stringOf_plain _) .last)) (by decide))

theorem sound_cpuGauge (node : Payload.NodeInfo F) : Sound (cpuGauge node) :=
  sound_gauge (by decide) _
    (Filled.sound (.text (string_plain _) (.text (string_plain _) .last)) (by decide))

theorem sound_ramGauge (node : Payload.NodeInfo F) (mem : Option (MemoryInfo F)) :
    Sound (ramGauge node mem) := by
  have hUsed :
      '<' ∉ ((mem.map fun mem => fixed1 (sub mem.totalGb mem.availableGb)).getD "?").toList := by
    cases mem with
    | none => exact (by decide : '<' ∉ "?".toList)
    | some mem => exact fixed1_plain _
  exact sound_gauge (by decide) _
    (Filled.sound (.text hUsed (.text (string_plain _) (.text (string_plain _) .last))) (by decide))

/-- The bar over the page, while the hardware is still missing too. -/
theorem sound_renderNodeBar (node : Payload.NodeInfo F)
    (hardware : Option (Payload.HardwareOverview F)) :
    Sound (renderNodeBar node hardware) := by
  have hItem :
      ∀ {label : String} (value : String), '<' ∉ label.toList → Sound (item label (esc value)) :=
    fun value hLabel => sound_item hLabel (sound_esc value)
  have hCpu : Sound (item "CPU" (template ["", " (", "c/", "t)"]
      [esc node.cpuModel, stringOf F node.cpuCores, stringOf F node.cpuThreads])) :=
    sound_item (by decide)
      (Filled.sound (.text (esc_plain _)
        (.text (stringOf_plain _) (.text (stringOf_plain _) .last))) (by decide))
  have hIps :
      Sound (.join ((node.ipAddresses.filter fun ip => ip.family = "inet").map (ipItem F))) :=
    sound_joinMap fun ip _ => sound_ipItem ip
  exact Filled.sound
    (.markup (hItem _ (by decide))
      (.markup (sound_ite .empty (hItem _ (by decide))) (.markup (hItem _ (by decide))
      (.markup (hItem _ (by decide)) (.markup hCpu (.markup hIps (.markup (sound_cpuGauge node)
        (.markup (sound_ramGauge node _) .last))))))))
    (by decide)

/-- A warning, with the device that it names if there is one. -/
theorem sound_warningItem (w : NodeWarning) : Sound (warningItem w) := by
  have hNote : Sound (deviceNote (w.device.getD "")) :=
    Filled.sound (.text (esc_plain _) .last) (by decide)
  exact Filled.sound
    (.value (esc_unquoted _) (.value (esc_unquoted _) (.text (esc_plain _) (.text (esc_plain _)
      (.markup (sound_ite .empty hNote) .last)))))
    (by decide)

/-- The list of warnings and its summary. -/
theorem sound_renderWarnings (warnings : List NodeWarning) : Sound (renderWarnings F warnings) := by
  have hSummary : ∀ crits warns : Nat, Sound (warningsSummary F crits warns) := fun crits warns =>
    sound_ite (.literal (by decide)) <| Repertoire.Sound.append
      (sound_ite .empty (Filled.sound (.text (stringOf_plain crits) .last) (by decide)))
      (sound_ite .empty (Filled.sound (.text (stringOf_plain warns) .last) (by decide)))
  have hNominal : Sound (if warnings.isEmpty then
      "<div style=\"color:var(--green);padding:4px 0\">All systems nominal</div>" else "") :=
    sound_ite (.literal (by decide)) .empty
  exact Filled.sound
    (.markup (hSummary _ _)
      (.markup (sound_joinMap fun w _ => sound_warningItem w) (.markup hNominal .last)))
    (by decide)

end Bars

section Hardware

set_option maxRecDepth 4000

open Library.Html.Repertoire (Filled)

variable {F : Type} [JsNumber F]

/-- A part of a section, if there is one. -/
theorem sound_part {A : Type*} {items : List A} {id title content : String} (h : Sound content) :
    Sound (unlessEmpty items (subSection id title content)) :=
      sound_unlessEmpty (sound_subSection id title h)

theorem sound_framed {opening closing html : String} (hOpening : '<' ∉ opening.toList)
    (h : Sound html) (hClosing : '<' ∉ closing.toList) : Sound (opening ++ html ++ closing) :=
  (Repertoire.Sound.append (.text hOpening) h).append (.text hClosing)

theorem sound_cpuHtml (cpu : Option Payload.CPUInfo) : Sound (cpuHtml F cpu) := by
  cases cpu with
  | none => exact sound_unavailable
  | some cpu =>
      refine sound_framed (by decide) (sound_kvGrid 8 ?_) (by decide)
      simp [sound_kvText, sound_kvRow, sound_stringOf]

/-- The class of a counter ends no attribute. -/
theorem unquoted_errorClass {severity : String} (h : '"' ∉ severity.toList) (errors : Int) :
    '"' ∉ (errorClass errors severity).toList := by
  rw [errorClass, String.toList_append, List.mem_append, not_or]
  exact ⟨by decide, unquoted_verdict h (by decide)⟩

/-- A number with a unit behind it. -/
theorem sound_quantity (x : F) {unit : String} (h : '<' ∉ unit.toList) : Sound (string x ++ unit) :=
  (sound_string x).append (.text h)

/-- The memory, or the word that it is unavailable. -/
theorem sound_memoryHtml (mem : Option (MemoryInfo F)) : Sound (memoryHtml mem) := by
  cases mem with
  | none => exact sound_unavailable
  | some mem =>
      refine (sound_framed (by decide) (sound_kvGrid 8 ?_) (by decide)).append (sound_ite .empty ?_)
      · simp [sound_kvRow, sound_stringOf, sound_quantity, unquoted_errorClass]
      · exact sound_rows _ _ fun d => by simp [dimmRow]

theorem sound_linkBadge (n : NICInfo) : CellSound (numbers F) (linkBadge n) :=
  sound_verdict (.literal (by decide)) (.literal (by decide))

theorem sound_sensorRow (r : SensorReading F) :
    ∀ cell ∈ sensorRow r, CellSound (numbers F) cell := by
  have hAlarm : Sound (verdict r.isAlarm "<span class=\"sev-critical\">ALARM</span>"
      "<span class=\"sev-ok\">OK</span>") :=
        sound_verdict (.literal (by decide)) (.literal (by decide))
  simpa [sensorRow] using hAlarm

/-- The readings, chip by chip. -/
theorem sound_sensorsHtml (sensors : List (SensorReading F)) : Sound (sensorsHtml sensors) := by
  refine sound_joinMap fun chip _ => Repertoire.Sound.append ?_ (sound_rows _ _ sound_sensorRow)
  exact sound_heading (by decide) (sound_esc chip.1)

/-- The hardware section, whenever its renderer returns. -/
theorem sound_renderHardware {hw : Payload.HardwareOverview F} {html : String}
    (h : renderHardware hw = some html) :
    Sound html := by
  unfold renderHardware at h
  split_ifs at h
  obtain rfl := Option.some.inj h
  have hPci :
      Sound (table (numbers F) ["Slot", "Class", "Vendor", "Device", "Driver"]
        (hw.pciDevices.map pciRow)) :=
    sound_rows _ _ fun d => by simp [pciRow]
  have hUsb : Sound (table (numbers F) ["Bus", "Dev", "ID", "Name"] (hw.usbDevices.map usbRow)) :=
    sound_rows _ _ fun d => by simp [usbRow]
  have hNics : Sound (table (numbers F) ["Name", "MAC", "Driver", "Speed", "Link", "IPs", "Errors"]
      (hw.nics.map (nicRow F))) := sound_rows _ _ fun n => by simp [nicRow, sound_linkBadge]
  have hGpus :
      Sound (table (numbers F) ["#", "Name", "Driver", "VRAM", "Used", "Temp", "Util", "Power"]
      (hw.gpus.map gpuRow)) := sound_rows _ _ fun g => by simp [gpuRow]
  refine sound_details (by decide) (.text (by decide)) ?_
  have hFront := (sound_subSection "hw-cpu" "CPU" (sound_cpuHtml (F := F) hw.cpu)).append
    (sound_subSection "hw-memory" "Memory (DIMMs)" (sound_memoryHtml hw.memory))
  exact ((((hFront.append (sound_part hPci)).append (sound_part hUsb)).append
    (sound_part hNics)).append
    (sound_part (sound_sensorsHtml hw.sensors))).append (sound_part hGpus)

end Hardware

section Sections

set_option maxRecDepth 4000

open Library.Html.Repertoire (Filled)

variable {F : Type} [JsNumber F]

/-- The boot entries and the boot order. -/
theorem sound_renderSystem (sys : Payload.SystemOverview) : Sound (renderSystem F sys) := by
  have hEntries :
      Sound (table (numbers F) ["#", "Active", "Label", "Path"] (sys.efi.entries.map efiRow)) := by
    refine sound_rows _ _ fun e => ?_
    have hActive : Sound (verdict e.active "<span class=\"sev-ok\">*</span>" "") :=
      sound_verdict (.literal (by decide)) .empty
    have hPath : Sound (template ["<span class=\"path-cell\">", "</span>"] [esc e.path]) :=
      Filled.sound (.text (esc_plain _) .last) (by decide)
    simpa [efiRow] using And.intro hActive hPath
  have hGrid : Sound (kvGrid 8
      [kvText "Boot Current" (orText sys.efi.bootCurrent "-"),
        kvRow "Boot Order" "kv-val" (orDash (commas (sys.efi.bootOrder.map esc))),
        kvText "Timeout" (orText sys.efi.timeout "-")]) := by
    apply sound_kvGrid
    simp [sound_kvText, sound_kvRow, sound_orDash
      (Repertoire.Sound.text (commas_plain sys.efi.bootOrder))]
  refine sound_details (by decide) (.text (by decide))
    (sound_ite (sound_dim (.text (by decide))) ?_)
  exact sound_subSection _ _ (hGrid.append hEntries)

/-- The name servers, with those that failed. -/
theorem sound_dnsServers (conn : Collectors.Kubernetes.Connectivity) : Sound (dnsServers conn) := by
  refine (sound_orDash (.text (commas_plain _))).append (sound_unlessEmpty ?_)
  exact Filled.sound (.text (commas_plain _) .last) (by decide)

theorem sound_checkRow {key value : String} (hKey : '<' ∉ key.toList) (ok : Bool)
    (hValue : Sound value) :
    Sound (checkRow key ok value) := by
  refine sound_kvRow hKey ?_ hValue
  cases ok <;> decide

theorem sound_connHtml (conn : Option Collectors.Kubernetes.Connectivity) :
    Sound (connHtml conn) := by
  cases conn with
  | none => exact sound_unavailable
  | some conn =>
      have hReach : ∀ ok : Bool, Sound (verdict ok "Reachable" "Unreachable") := fun ok =>
        sound_verdict (.text (by decide)) (.text (by decide))
      have hAnswer : Sound (" (" ++ esc conn.dnsResult ++ ")") :=
        sound_framed (by decide) (sound_esc _) (by decide)
      have hDns : Sound (verdict conn.dnsOk "OK" "FAILED" ++
          if conn.dnsResult = "" then "" else " (" ++ esc conn.dnsResult ++ ")") :=
        (sound_verdict (.text (by decide)) (.text (by decide))).append (sound_ite .empty hAnswer)
      apply sound_kvGrid
      simp [sound_kvText, sound_kvRow, sound_dnsServers, sound_checkRow, hReach, hDns]

/-- The interfaces and the connectivity. -/
theorem sound_renderNetwork (net : Payload.NetworkOverview) : Sound (renderNetwork F net) := by
  have hInterfaces :
      Sound (table (numbers F) ["Name", "MAC", "Driver", "Speed", "Duplex", "Link", "IPs"]
      (net.interfaces.map interfaceRow)) := sound_rows _ _ fun n => by
        simp [interfaceRow, sound_linkBadge]
  refine sound_details (by decide) (.text (by decide)) ?_
  exact (sound_subSection _ _ (sound_connHtml _)).append (sound_part hInterfaces)

/-- What the API server says about the node, its conditions included. -/
theorem sound_nodeHtml (ni : Payload.K8sNodeInfo) : Sound (nodeHtml F ni) := by
  have hHeading : ∀ {title : String}, '<' ∉ title.toList → Sound (heading "8px" title) :=
    fun hTitle => sound_heading (by decide) (.text hTitle)
  have hGrid : Sound (kvGrid 4
      [kvText "Kubelet" ni.kubeletVersion, kvText "Runtime" ni.containerRuntime,
        kvText "OS Image" ni.osImage, kvText "Arch" ni.architecture]) := by
    apply sound_kvGrid
    simp [sound_kvText]
  have hLabels : Sound (table (numbers F) ["Key", "Value"]
      ((objectEntries ni.labels).map fun label => [.text label.1, .text label.2])) :=
    sound_rows _ _ fun label => by simp
  have hConditions : Sound (table (numbers F) ["Type", "Status", "Reason", "Last Transition"]
      (ni.conditions.map conditionRow)) := sound_rows _ _ fun c => by
        simp [conditionRow, sound_severityBadge]
  have hResources :
      Sound (table (numbers F) ["Resource", "Capacity", "Allocatable"] (resourceRows ni)) := by
    apply sound_table
    unfold resourceRows
    split_ifs <;> simp
  refine ((hGrid.append (sound_unlessEmpty ?_)).append (sound_unlessEmpty ?_)).append
    (sound_ite .empty ?_)
  · exact (hHeading (by decide)).append hLabels
  · exact (hHeading (by decide)).append hConditions
  · exact (hHeading (by decide)).append hResources

theorem sound_apiHtml (endpoint : K8sApiEndpoint) : Sound (apiHtml endpoint) := by
  refine sound_ite .empty ?_
  exact Filled.sound (.text (esc_plain _) (.markup (sound_severityBadge _ _) .last)) (by decide)

theorem sound_fingerprintCell (sha256Fingerprint : String) :
    CellSound (numbers F) (fingerprintCell sha256Fingerprint) :=
  Filled.sound (.text (esc_plain _) .last) (by decide)

theorem sound_expiryCell (severity : String) (days : Option Int) :
    CellSound (numbers F) (expiryCell F severity days) :=
  sound_severityBadge severity _

/-- The size of the database against its quota, and the members. -/
theorem sound_etcdHtml (e : Payload.EtcdStatus F) : Sound (etcdHtml e) := by
  have hAssumed : Sound (verdict e.quotaAssumed
      " <span style=\"color:var(--text-dim)\">(etcd default, assumed)</span>" "") :=
    sound_verdict (.literal (by decide)) .empty
  have hMembers : Sound (table (numbers F) ["Name", "ID", "Client URLs", "Peer URLs"]
      (e.members.map (memberRow e.leaderId))) := by
    refine sound_rows _ _ fun m => ?_
    unfold memberRow
    split_ifs <;> simp [sound_severityBadge]
  refine ((sound_heading (by decide) (.text (by decide))).append (sound_kvGrid 12 ?_)).append
    (sound_unlessEmpty ?_)
  · simp [sound_kvText, sound_kvRow, sound_quantity, sound_stringOf,
      (sound_severityBadge _ _).append hAssumed,
      sound_verdict (sound_severityBadge "ok" "This node") (sound_esc e.leaderId)]
  · exact (sound_heading (by decide) (.text (by decide))).append hMembers

theorem sound_compHtml (components : List (Payload.K8sComponentStatus F)) :
    Sound (compHtml components) := by
  refine (sound_rows _ _ fun c => ?_).append ?_
  · simp [componentRow, sound_severityBadge, sound_verdict]
  · cases (components.find? fun c => c.name = "etcd" && c.etcdStatus.isSome).bind
        Payload.K8sComponentStatus.etcdStatus with
    | none => exact .empty
    | some e => exact sound_etcdHtml e

/-- The Kubernetes section, certificates included. -/
theorem sound_renderKubernetes (k8s : Payload.KubernetesOverview F) :
    Sound (renderKubernetes k8s) := by
  have hCertificates :
      Sound
        (table (numbers F) ["File", "Subject", "Issuer", "Not After", "Expires In", "Fingerprint"]
      (k8s.certificates.map (certificateRow F))) :=
    sound_rows _ _ fun c => by simp [certificateRow, sound_expiryCell, sound_fingerprintCell]
  refine sound_details (by decide) (.text (by decide)) ?_
  have hNode :=
    (sound_subSection "k8s-node" "Node Info" (sound_nodeHtml (F := F) k8s.nodeInfo)).append
    (sound_apiHtml k8s.apiEndpoint)
  exact (hNode.append (sound_part hCertificates)).append
    (sound_part (sound_compHtml k8s.components))

end Sections

section Lists

set_option maxRecDepth 4000

open Library.Html.Repertoire (Filled)

variable {F : Type} [JsNumber F]

/-- The strings of a row with the attributes behind its class. -/
theorem sound_kv {key value extra : String} {text : List Char} (hKey : '<' ∉ key.toList)
    (hText : "</span><span class=\"kv-val\"" ++ extra ++ ">" = .ofList text)
    (hAccepts : repertoire.accepts [letters "<span class=\"kv-key\">" rfl, text,
      letters "</span>" rfl] [.text, .text] =
      true) : Sound (kv key value extra) := by
  refine sound_ite .empty ?_
  rw [hText]
  exact Filled.sound (.text hKey (.text (esc_plain value) .last)) hAccepts

/-- The rows of the machine configuration. -/
theorem sound_mcRows (mc : TalosMachineConfig) : Sound (mcRows mc) := by
  have hOpen : "</span><span class=\"kv-val\"" ++ "" ++ ">" = "</span><span class=\"kv-val\">" := by
    decide
  have hOpenStyle : "</span><span class=\"kv-val\"" ++ " style=\"word-break:break-all\"" ++ ">" =
      "</span><span class=\"kv-val\" style=\"word-break:break-all\">" := by decide
  have hPlain : ∀ {key value : String}, '<' ∉ key.toList → Sound (kv key value "") :=
    fun hKey => sound_kv hKey (hOpen.trans rfl) (by decide)
  have hImage : Sound (kv "Install Image" mc.installImage " style=\"word-break:break-all\"") :=
    sound_kv (by decide) (hOpenStyle.trans rfl) (by decide)
  apply Repertoire.Sound.join
  simp [hPlain, hImage]

theorem sound_talosLogo : Sound talosLogo :=
  Filled.sound (.markup (.literal (by decide)) (.markup (.literal (by decide)) .last)) (by decide)

theorem sound_versionHtml (talos : TalosOverview) : Sound (versionHtml F talos) := by
  have hRows : ∀ row ∈ [kvText "Version" talos.version.version,
      if talos.version.schematicId = "" then "" else kvText "Schematic" talos.version.schematicId],
        Sound row := by
    simp [sound_kvText, sound_ite]
  have hExtensions : Sound (template ["<div style=\"padding:4px 0\">", "</div>"]
      [.join (talos.machineConfig.extensions.map extensionHtml)]) :=
    Filled.sound
      (.markup
        (sound_joinMap fun e _ => Filled.sound (.text (esc_plain e) .last) (by decide)) .last)
      (by decide)
  have hIfaces : Sound (table (numbers F) ["Name", "Addresses", "DHCP", "Routes"]
      (talos.machineConfig.networkInterfaces.map ifaceRow)) := sound_rows _ _ fun i => by
        simp [ifaceRow]
  have hConfig : Sound (template ["<div class=\"kv-grid\" style=\"margin-top:8px\">", "</div>"]
      [mcRows talos.machineConfig]) := Filled.sound (.markup (sound_mcRows _) .last) (by decide)
  refine ((((sound_kvGrid 4 hRows).append (sound_ite .empty (sound_dim (sound_esc _)))).append
    (sound_ite .empty hConfig)).append (sound_unlessEmpty ?_)).append (sound_unlessEmpty ?_)
  · exact (sound_heading (by decide) (.text (by decide))).append hExtensions
  · exact (sound_heading (by decide) (.text (by decide))).append hIfaces

/-- The Talos section: version, configuration, certificates. -/
theorem sound_renderTalos (talos : TalosOverview) : Sound (renderTalos F talos) := by
  have hCertificates :
      Sound
        (table (numbers F) ["Name", "Subject", "Issuer", "Not After", "Expires In", "Fingerprint"]
      (talos.certificates.map (talosCertificateRow F))) :=
    sound_rows _ _ fun c => by simp [talosCertificateRow, sound_expiryCell, sound_fingerprintCell]
  refine sound_details (by decide) (sound_talosLogo.append (.text (by decide))) ?_
  exact (sound_subSection _ _ (sound_versionHtml talos)).append (sound_part hCertificates)

/-- A container without an id has no button, and any id stays in its attribute. -/
theorem sound_logButton (containerId label : String) : Sound (logButton containerId label) := by
  refine sound_ite (.text (by decide)) ?_
  exact Filled.sound (.value (esc_unquoted _) (.value (esc_unquoted _) .last)) (by decide)

theorem sound_containerStateBadge (state : String) : Sound (containerStateBadge state) :=
  sound_ite (sound_severityBadge _ _) <| sound_ite (sound_severityBadge _ _) <|
    sound_ite (sound_severityBadge _ _) (sound_severityBadge _ _)

/-- The two tables of containers. -/
theorem sound_renderContainers (ct : ContainersOverview F) : Sound (renderContainers ct) := by
  have hImage :
      ∀ image : String, Sound (template ["<span class=\"image-cell\">", "</span>"] [esc image]) :=
    fun image => Filled.sound (.text (esc_plain image) .last) (by decide)
  have hSystem : Sound (table (numbers F) ["Name", "State", "Memory", "Image", "Uptime", "Logs"]
      (ct.systemContainers.map systemRow)) :=
    sound_rows _ _ fun c => by simp [systemRow, sound_containerStateBadge, sound_logButton, hImage]
  have hWorkload :
      Sound
        (table (numbers F) ["Namespace", "Pod", "Container", "State", "Memory", "Uptime", "Logs"]
      (ct.workloadContainers.map workloadRow)) :=
    sound_rows _ _ fun c => by simp [workloadRow, sound_containerStateBadge, sound_logButton]
  exact sound_details (by decide) (.text (by decide))
    ((sound_part hSystem).append (sound_part hWorkload))

/-- A button that sorts the processes, pressed or not. -/
theorem sound_sortButton {name label : String} (hName : '"' ∉ name.toList)
    (hLabel : '<' ∉ label.toList) (pressed : Bool) : Sound (sortButton name label pressed) := by
  have hFilled : ∀ {extra : String} {text : List Char}, "\"" ++ extra ++ ">" = .ofList text →
      repertoire.accepts [letters "<button class=\"log-btn\" data-proc-sort=\"" rfl, text,
        letters "</button>" rfl]
        [.value, .text] = true →
      Sound ("<button class=\"log-btn\" data-proc-sort=\"" ++ name ++ "\"" ++ extra ++
        ">" ++ label ++ "</button>") := by
    intro extra text hText hAccepts
    have hSound := Filled.sound (.value hName (.text hLabel .last)) hAccepts
    simp only [template, ← hText, String.append_assoc] at hSound ⊢
    exact hSound
  have hPlain : "\"" ++ "" ++ ">" = "\">" := by decide
  have hPressed : "\"" ++ " aria-pressed=\"true\" style=\"font-weight:700\"" ++ ">" =
      "\" aria-pressed=\"true\" style=\"font-weight:700\">" := by decide
  cases pressed
  · exact hFilled (hPlain.trans rfl) (by decide)
  · exact hFilled (hPressed.trans rfl) (by decide)

/-- The table of processes, in either order. -/
theorem sound_renderProcesses (order : ProcessSort) (procs : ProcessesOverview F) :
    Sound (renderProcesses order procs) := by
  have hCommand :
      ∀ command : String, Sound (template ["<span class=\"cmd-cell\">", "</span>"] [esc command]) :=
    fun command => Filled.sound (.text (esc_plain command) .last) (by decide)
  have hTable :
      Sound (table (numbers F) ["PID", "PPID", "User", "CPU%", "MEM%", "RSS", "State", "Command"]
      ((sortedRows order procs.processes).map processRow)) := sound_rows _ _ fun p => by
        simp [processRow, hCommand]
  exact Filled.sound
    (.text (esc_plain _) (.markup (sound_sortButton (by decide) (by decide) _)
      (.markup (sound_sortButton (by decide) (by decide) _) (.markup hTable .last)))) (by decide)

end Lists

section Storage

set_option maxRecDepth 4000

open Library.Html.Repertoire (Filled)

variable (numbers : Storage.Numbers)

theorem sound_disksHtml (disks : List DiskInfo) : Sound (Storage.disksHtml numbers disks) := by
  have hPartitions : ∀ disk, Sound (Storage.partitionsHtml numbers disk) := by
    intro disk
    refine sound_ite .empty (Repertoire.Sound.append ?_ (sound_rows numbers _ fun p => by
      simp [Storage.partitionRow]))
    exact Filled.sound (.text (esc_plain disk.name) .last) (by decide)
  refine (sound_rows numbers _ fun d => ?_).append (sound_joinMap fun disk _ => hPartitions disk)
  simp [Storage.diskRow]

theorem sound_issuesRow (issues : List String) : Sound (Storage.issuesRow issues) := by
  refine sound_ite .empty
    (sound_kvRow (by decide) (by decide) (.intercalate (.literal (by decide)) ?_))
  rw [List.forall_mem_map]
  exact fun issue _ => sound_esc issue

theorem sound_errorRow (error : Option String) : Sound (Storage.errorRow error) := by
  cases error with
  | none => exact .empty
  | some error => exact sound_ite .empty (sound_kvRow (by decide) (by decide) (sound_esc error))

/-- The measures of a drive, those that are missing left out. -/
theorem sound_gridHtml (s : SmartHealth) : Sound (Storage.gridHtml numbers s) := by
  have hMeasure :
      ∀ {write : Int → String} {unit : String} (value : Option Int), (∀ n, '<' ∉ (write n).toList) →
      '<' ∉ unit.toList → Sound (measure write unit value) :=
    fun value hWrite hUnit => .text (Storage.measure_plain hWrite hUnit value)
  have hSectors : ∀ {key : String} (value : Option Int), '<' ∉ key.toList →
      Sound (kvRow key (Storage.sectorClass value) (Storage.count numbers value)) :=
        fun value hKey =>
    sound_kvRow hKey (Storage.sectorClass_unquoted value)
      (.text (Storage.count_plain numbers value))
  have hHealth :
      Sound (kvRow "Health" ("kv-val " ++ Storage.statusClass s) (Storage.statusText s)) :=
    sound_kvRow (by decide) (Storage.status_safe s).1 (.text (Storage.status_safe s).2)
  have hRows : ∀ row ∈ Storage.gridRows numbers s, Sound row := by
    simp [Storage.gridRows, hHealth, sound_kvRow, sound_esc, hMeasure, numbers.string_plain,
      numbers.locale_plain, hSectors, sound_errorRow, sound_issuesRow]
  have hLines :
      Sound (.join ((Storage.gridRows numbers s).map fun row => "\n                " ++ row)) :=
    sound_joinMap fun row hRow => Repertoire.Sound.append (.text (by decide)) (hRows row hRow)
  exact Filled.sound (.markup hLines .last) (by decide)

theorem sound_headingHtml (s : SmartHealth) : Sound (Storage.headingHtml s) := by
  have hEq : Storage.headingHtml s =
      template ["<div style=\"margin-top:8px;font-weight:500;color:var(--text-bright)\">",
        " — ", "</div>"]
        [esc s.device, esc (orText s.model "Unknown")] := by
    unfold Storage.headingHtml
    simp only [template, String.append_assoc]
  rw [hEq]
  exact Filled.sound (.text (esc_plain _) (.text (esc_plain _) .last)) (by decide)

/-- The attributes of a report, whose device must not close the value it is put into. -/
theorem sound_attributesHtml {s : SmartHealth} (h : s.attributes = [] ∨ '"' ∉ s.device.toList) :
    Sound (Storage.attributesHtml numbers s) := by
  rcases h with hNone | hDevice
  · rw [Storage.attributesHtml, if_pos (by simp [hNone])]
    exact .empty
  · have hTable : Sound (table numbers ["ID", "Name", "Value", "Worst", "Thresh", "Raw"]
        (s.attributes.map Storage.attributeRow)) := sound_rows numbers _ fun a => by
          simp [Storage.attributeRow]
    have hDetails : Sound (template
        ["<details data-id=\"smart-attr-",
          "\" class=\"sub-section\" style=\"margin-top:4px\"><summary>SMART Attributes (",
          ")</summary><div class=\"section-content\">", "</div></details>"]
        [Storage.devId s.device, toString s.attributes.length,
          table numbers ["ID", "Name", "Value", "Worst", "Thresh", "Raw"]
            (s.attributes.map Storage.attributeRow)]) :=
      Filled.sound
        (.value (Storage.notMem_devId hDevice)
          (.text (Storage.digits_plain _) (.markup hTable .last)))
        (by decide)
    refine sound_ite .empty ?_
    simp only [template, String.append_assoc] at hDetails ⊢
    exact hDetails

/-- The table of file systems. -/
theorem sound_usageHtml (usage : List DiskUsage) : Sound (Storage.usageHtml numbers usage) := by
  refine sound_rows numbers _ fun u => ?_
  have hBadge : Sound (template ["<span class=\"sev-", "\">", "%</span>"]
      [esc u.severity, esc (numbers.string u.usedPercent)]) :=
    Filled.sound (.value (esc_unquoted _) (.text (esc_plain _) .last)) (by decide)
  simp only [template, ← String.append_assoc] at hBadge
  simpa [Storage.usageRow] using hBadge

/-- The markup of the storage section, as long as no device closes the value it is put into. -/
theorem sound_renderStorage {storage : StorageOverview} (h : Storage.Unquoted storage) :
    Sound (Storage.renderStorage numbers storage) := by
  have hReports : Sound (.join (storage.smart.map (Storage.reportHtml numbers))) :=
    sound_joinMap fun s hMem => ((sound_headingHtml s).append (sound_gridHtml numbers s)).append
      (sound_attributesHtml numbers (h s hMem))
  have hDisks :
      Sound (unlessEmpty storage.disks (subSection "stor-disks" "Disks & Partitions" _)) :=
    sound_part (sound_disksHtml numbers storage.disks)
  have hSmart : Sound (unlessEmpty storage.smart (subSection "stor-smart" "SMART Health" _)) :=
    sound_part hReports
  have hUsage : Sound (unlessEmpty storage.usage (subSection "stor-usage" "Disk Usage" _)) :=
    sound_part (sound_usageHtml numbers storage.usage)
  have hStart : Sound (details "storage" "Storage" _) :=
    sound_details (by decide) (.text (by decide)) ((hDisks.append hSmart).append hUsage)
  have hOpen : "<details data-id=\"" ++ "storage" ++ "\"><summary>" ++ "Storage" ++
      "</summary><div class=\"section-content\">" =
        "<details data-id=\"storage\"><summary>Storage</summary><div class=\"section-content\">" := by
    decide
  unfold Storage.renderStorage
  rw [← hOpen]
  simp only [details, template, unlessEmpty, String.append_assoc] at hStart ⊢
  exact hStart

end Storage

end NodeDebugDashboard.Frontend.Renderers
