import NodeDebugDashboard.Library.Html
import NodeDebugDashboard.Models

/-! `renderStorage` of app/static/app.js and the helpers it builds its markup
with. The result is the text that it assigns to `innerHTML`. -/
namespace NodeDebugDashboard.Frontend.Storage

open Library.Html Models

/-- How the browser writes an integer, as `String(n)` and as
`n.toLocaleString()`. Neither writes a `<`. -/
structure Numbers where
  string : Int → String
  locale : Int → String
  string_plain : ∀ n, '<' ∉ (string n).toList
  locale_plain : ∀ n, '<' ∉ (locale n).toList

/-- The table `ESCAPES`; other characters stay. -/
def escapes : Char → String
  | '&' => "&amp;"
  | '<' => "&lt;"
  | '>' => "&gt;"
  | '"' => "&quot;"
  | '\'' => "&#39;"
  | c => .singleton c

def esc (s : String) : String := .ofList (s.toList.flatMap fun c => (escapes c).toList)

/-- A cell of a table: a string or a number of the payload, or markup that
`raw` marks. -/
inductive Cell where
  | text (text : String)
  | number (n : Int)
  | raw (html : String)

variable (numbers : Numbers)

def cellHtml : Cell → String
  | .text text => esc text
  | .number n => esc (numbers.string n)
  | .raw html => html

def table (headers : List String) (rows : List (List Cell)) : String :=
  "<table><thead><tr>" ++ .join (headers.map fun h => "<th>" ++ esc h ++ "</th>") ++
    "</tr></thead><tbody>" ++
    .join (rows.map fun row =>
      "<tr>" ++ .join (row.map fun cell => "<td>" ++ cellHtml numbers cell ++ "</td>") ++
        "</tr>") ++
    "</tbody></table>"

def subSection (id title content : String) : String :=
  "<details data-id=\"" ++ esc id ++ "\" class=\"sub-section\"><summary>" ++ esc title ++
    "</summary><div class=\"section-content\">" ++ content ++ "</div></details>"

/-- `text || fallback` -/
def orText (text : Option String) (fallback : String) : String :=
  match text with
  | some text => if text = "" then fallback else text
  | none => fallback

def diskRow (d : DiskInfo) : List Cell :=
  [.text d.name, .text (orText d.model "-"), .text (orText d.serial "-"), .text d.size,
    .text (orText d.transport "-"), .text (if d.rotational then "HDD" else "SSD/NVMe")]

def partitionRow (p : Partition) : List Cell :=
  [.text p.name, .text p.size, .text p.type, .text (orText p.fstype "-"),
    .text (orText p.mountpoint "-")]

def partitionsHtml (disk : DiskInfo) : String :=
  if disk.partitions.isEmpty then "" else
    "<div style=\"margin:6px 0 2px;color:var(--text-dim)\">Partitions of " ++ esc disk.name ++
      ":</div>" ++
      table numbers ["Name", "Size", "Type", "FS", "Mount"] (disk.partitions.map partitionRow)

def disksHtml (disks : List DiskInfo) : String :=
  table numbers ["Name", "Model", "Serial", "Size", "Transport", "Rotational"]
    (disks.map diskRow) ++ .join (disks.map (partitionsHtml numbers))

def statusClass (s : SmartHealth) : String :=
  match s.healthPassed with
  | none => "sev-unknown"
  | some passed => if passed then "sev-ok" else "sev-critical"

def statusText (s : SmartHealth) : String :=
  match s.healthPassed with
  | none => if s.standby then "STANDBY" else "NOT REPORTED"
  | some passed => if passed then "PASSED" else "FAILED"

def count : Option Int → String
  | some v => esc (numbers.string v)
  | none => "-"

/-- An integer with its unit, or a dash. -/
def measure (write : Int → String) (unit : String) : Option Int → String
  | some v => write v ++ unit
  | none => "-"

def sectorClass (sectors : Option Int) : String :=
  "kv-val " ++ if sectors.getD 0 > 0 then "sev-warning" else ""

def kvRow (key valClass value : String) : String :=
  "<span class=\"kv-key\">" ++ key ++ ("</span><span class=\"" ++ valClass ++ "\">") ++ value ++
    "</span>"

def errorRow : Option String → String
  | some error => if error = "" then "" else kvRow "Error" "kv-val sev-warning" (esc error)
  | none => ""

def issuesRow (issues : List String) : String :=
  if issues.isEmpty then "" else
    kvRow "Issues" "kv-val sev-critical" (.intercalate "<br>" (issues.map esc))

/-- The lines of the grid, each on a line of its own in the source. -/
def gridRows (s : SmartHealth) : List String :=
  [kvRow "Health" ("kv-val " ++ statusClass s) (statusText s),
    kvRow "Serial" "kv-val" (esc (orText s.serial "-")),
    kvRow "Temperature" "kv-val" (measure numbers.string "°C" s.temperatureCelsius),
    kvRow "Power-On Hours" "kv-val" (measure numbers.locale "h" s.powerOnHours),
    kvRow "Wear Level" "kv-val" (measure numbers.string "%" s.wearLevelingPercent),
    kvRow "Reallocated Sectors" (sectorClass s.reallocatedSectors)
      (count numbers s.reallocatedSectors),
    kvRow "Pending Sectors" (sectorClass s.pendingSectors) (count numbers s.pendingSectors),
    kvRow "Offline Uncorrectable" (sectorClass s.offlineUncorrectable)
      (count numbers s.offlineUncorrectable),
    errorRow s.error,
    issuesRow s.smartIssues]

def gridHtml (s : SmartHealth) : String :=
  "<div class=\"kv-grid\">" ++
    .join ((gridRows numbers s).map fun row => "\n                " ++ row) ++
    "\n            </div>"

def headingHtml (s : SmartHealth) : String :=
  "<div style=\"margin-top:8px;font-weight:500;color:var(--text-bright)\">" ++ esc s.device ++
    " — " ++ esc (orText s.model "Unknown") ++ "</div>"

/-- `s.device.replace(/\//g, '-')` -/
def devId (device : String) : String := device.map fun c => if c = '/' then '-' else c

def attributeRow (a : SmartAttribute) : List Cell :=
  [.number a.id, .text a.name, .number a.value, .number a.worst, .number a.threshold,
    .text a.rawValue]

/-- The device goes into the value of `data-id` as it is. -/
def attributesHtml (s : SmartHealth) : String :=
  if s.attributes.isEmpty then "" else
    "<details data-id=\"smart-attr-" ++ devId s.device ++
      "\" class=\"sub-section\" style=\"margin-top:4px\"><summary>SMART Attributes (" ++
      toString s.attributes.length ++ ")</summary><div class=\"section-content\">" ++
      table numbers ["ID", "Name", "Value", "Worst", "Thresh", "Raw"]
        (s.attributes.map attributeRow) ++
      "</div></details>"

def reportHtml (s : SmartHealth) : String :=
  headingHtml s ++ gridHtml numbers s ++ attributesHtml numbers s

def usageRow (u : DiskUsage) : List Cell :=
  [.text u.filesystem, .text u.mount, .text u.fsType, .text u.size, .text u.used,
    .text u.available,
    .raw ("<span class=\"sev-" ++ esc u.severity ++ "\">" ++ esc (numbers.string u.usedPercent) ++
      "%</span>")]

def usageHtml (usage : List DiskUsage) : String :=
  table numbers ["Filesystem", "Mount", "Type", "Size", "Used", "Avail", "Used%"]
    (usage.map (usageRow numbers))

def renderStorage (storage : StorageOverview) : String :=
  "<details data-id=\"storage\"><summary>Storage</summary><div class=\"section-content\">" ++
    (if storage.disks.isEmpty then "" else
      subSection "stor-disks" "Disks & Partitions" (disksHtml numbers storage.disks)) ++
    (if storage.smart.isEmpty then "" else
      subSection "stor-smart" "SMART Health" (.join (storage.smart.map (reportHtml numbers)))) ++
    (if storage.usage.isEmpty then "" else
      subSection "stor-usage" "Disk Usage" (usageHtml numbers storage.usage)) ++
    "</div></details>"

end NodeDebugDashboard.Frontend.Storage
