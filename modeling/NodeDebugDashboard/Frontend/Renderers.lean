import NodeDebugDashboard.Frontend.Payloads
import NodeDebugDashboard.Frontend.Storage
import NodeDebugDashboard.Library.JavaScript
import NodeDebugDashboard.Library.Markup
import NodeDebugDashboard.Library.Python

/-! The markup that the renderers of app/static/app.js build, but for `renderStorage`. -/
namespace NodeDebugDashboard.Frontend.Renderers

open Library Library.Html Library.JavaScript Library.JavaScript.JsNumber Models
open Storage (Cell esc table subSection orText kvRow measure)

/-- `window.location` and what else the page has from the browser. -/
structure Browser where
  protocol : String
  port : String
  toLowerCase : String → String
  toLowerCase_empty : toLowerCase "" = ""

variable {F : Type} [JsNumber F]

variable (F) in
/-- Numbers as the storage section writes them. -/
def numbers : Storage.Numbers where
  string := stringOf F
  locale n := locale (ofInt n : F)
  string_plain n := string_plain (ofInt n : F)
  locale_plain n := locale_plain (ofInt n : F)

/-- `text || '-'` -/
def orDash (text : String) : String := orText (some text) "-"

/-- `items.join(', ')` -/
def commas (items : List String) : String := ", ".intercalate items

def spaces (n : Nat) : String := .ofList (List.replicate n ' ')

/-- A grid with a row on each line, as deep in the source as it says. -/
def kvGrid (indent : Nat) (rows : List String) : String :=
  "<div class=\"kv-grid\">" ++ .join (rows.map fun row => "\n" ++ spaces (indent + 4) ++ row) ++
    ("\n" ++ spaces indent ++ "</div>")

/-- A row with a text for its value. -/
def kvText (key text : String) : String := kvRow key "kv-val" (esc text)

def heading (margin title : String) : String :=
  template ["<div style=\"margin-top:", ";font-weight:500;color:var(--text-bright)\">", "</div>"]
    [margin, title]

def dim (text : String) : String :=
  template ["<div style=\"color:var(--text-dim);padding:8px 0\">", "</div>"] [text]

/-- `UNAVAILABLE` -/
def unavailable : String := dim "Not available (collector failed)"

/-- A text in the colour of a severity. -/
def severityBadge (severity text : String) : String :=
  template ["<span class=\"sev-", "\">", "</span>"] [esc severity, esc text]

/-- A class that depends on a condition, and a text that depends on it too. -/
def verdict (good : Bool) (yes no : String) : String := if good then yes else no

/-- `badge` of `renderHeader` -/
def roleBadge (role : String) : String :=
  template [" <span class=\"role-badge ", "\">", "</span>"]
    [verdict (role = "control-plane") "role-cp" "role-worker", esc role]

/-- The name of the node, and its role where it is known. -/
def renderHeader (nodeRole : Option String) (node : Payload.NodeInfo F) : String :=
  let role := nodeRole.getD ""
  template ["", "", ""] [esc node.hostname, if role = "" then "" else roleBadge role]

def roleTag (role : String) : String :=
  if role = "control-plane" then "<span class=\"cn-role cn-cp\">CP</span>"
  else "<span class=\"cn-role cn-wk\">W</span>"

variable (F) in
/-- The command that opens a shell on the node. -/
def sshCmd (ssh : Payload.SSHInfo) (ip : String) : String :=
  template ["ssh -p ", " debug@", ""] [stringOf F ssh.port, ip]

variable (F) in
/-- The badge with the command, which differs in its class and in the words before the command. -/
def sshBadge (name lead : String) (ssh : Payload.SSHInfo) (ip : String) : String :=
  template ["<span class=\"", "\" title=\"", "", "\" data-copy=\"", "\">SSH</span>"]
    [name, lead, esc (sshCmd F ssh ip), esc (sshCmd F ssh ip)]

variable (F) in
/-- `currentHtml` of `renderClusterBar` -/
def currentHtml (ssh : Payload.SSHInfo) (current : Payload.ClusterNode) : String :=
  template ["", " <span class=\"cn-name\">", "</span> <span class=\"cn-ip\">", "</span>"]
      [roleTag current.role, esc current.name, esc current.ip] ++
    if ssh.enabled then " " ++ sshBadge F "ssh-badge" "Click to copy: " ssh current.ip else ""

/-- The dashboard of another node; an address with colons stands in brackets. -/
def nodeUrl (browser : Browser) (ip theme : String) : String :=
  template ["", "//", "", "/?theme=", ""]
    [browser.protocol, if ':' ∈ ip.toList then "[" ++ ip ++ "]" else ip,
      if browser.port = "" then "" else ":" ++ browser.port, encodeURIComponent theme]

/-- `filtered` of `renderClusterList` -/
def filtered (browser : Browser) (nodes : List Payload.ClusterNode) (query : String) :
    List Payload.ClusterNode :=
  nodes.filter fun n =>
    query = "" || Python.contains query (browser.toLowerCase n.name) || Python.contains query n.ip

variable (F) in
/-- A node of the list: a link to its dashboard, unless it is this one. -/
def clusterItem (browser : Browser) (ssh : Payload.SSHInfo) (theme : String)
    (n : Payload.ClusterNode) : String :=
  let dot :=
    verdict n.ready "<span class=\"cn-dot cn-ready\"></span>"
      "<span class=\"cn-dot cn-notready\"></span>"
  let link := if n.current then "#" else nodeUrl browser n.ip theme
  let sshBadge := if ssh.enabled && n.ready then sshBadge F "ssh-badge-sm" "" ssh n.ip else ""
  template ["<a href=\"", "\" class=\"", "\">", "", "<span class=\"cn-name\">", "</span>",
      "<span class=\"cn-ip\">", "</span></a>"]
    [esc link, verdict n.current "cluster-item current" "cluster-item", dot, roleTag n.role,
      esc n.name, sshBadge, esc n.ip]

variable (F) in
/-- The nodes that match the query. -/
def renderClusterList (browser : Browser) (nodes : List Payload.ClusterNode) (ssh : Payload.SSHInfo)
    (theme query : String) : String :=
  .join ((filtered browser nodes query).map (clusterItem F browser ssh theme))

/-- A bar that turns yellow over 70 and red over 90 percent. -/
def gauge (label : String) (percent : F) (valueText : String) : String :=
  let color :=
    if lt (ofInt 90) percent then "var(--red)"
    else if lt (ofInt 70) percent then "var(--yellow)" else "var(--green)"
  template
    ["<div class=\"gauge\">\n        <div class=\"gauge-label\">",
      "</div>\n        <div class=\"gauge-bar\"><div class=\"gauge-fill\" style=\"width:",
      "%;background:", "\"></div></div>\n        <div class=\"gauge-value\">", "</div>\n    </div>"]
    [label, string (min percent (ofInt 100)), color, valueText]

def item (label value : String) : String :=
  template ["<div class=\"item\"><span class=\"label\">", ":</span><span class=\"value\">",
    "</span></div>"]
    [label, value]

variable (F) in
def ipItem (ip : Payload.IPAddress) : String :=
  item (esc ip.interface) (template ["", "/", ""] [esc ip.address, stringOf F ip.prefixLength])

/-- The load of a minute over the threads. -/
def cpuGauge (node : Payload.NodeInfo F) : String :=
  let threads := if node.cpuThreads = 0 then 1 else node.cpuThreads
  let cpuPercent := JsNumber.round (mul (div node.load1m (ofInt threads)) (ofInt 100))
  gauge "CPU" cpuPercent (template ["", "% (load ", ")"] [string cpuPercent, string node.load1m])

/-- The memory in use; without the hardware payload it is a question mark. -/
def ramGauge (node : Payload.NodeInfo F) (mem : Option (MemoryInfo F)) : String :=
  let ramPercent := (mem.map fun mem => JsNumber.round mem.usedPercent).getD (ofInt 0)
  let ramUsed := (mem.map fun mem => fixed1 (sub mem.totalGb mem.availableGb)).getD "?"
  gauge "RAM" ramPercent
    (template ["", "/", " GB (", "%)"] [ramUsed, string node.ramTotalGb, string ramPercent])

/-- What stands over the sections, before the hardware has come too. -/
def renderNodeBar (node : Payload.NodeInfo F) (hardware : Option (Payload.HardwareOverview F)) :
    String :=
  template
    ["\n        <div class=\"node-bar-info\">\n            ", "\n            ", "\n            ",
      "\n            ", "\n            ", "\n            ",
      "\n        </div>\n        <div class=\"node-bar-gauges\">\n            ", "\n            ",
      "\n        </div>\n    "]
    [item "OS" (esc node.osName),
      if node.talosVersion.getD "" = "" then "" else item "Talos" (esc (node.talosVersion.getD "")),
      item "Kernel" (esc node.kernelVersion), item "Up" (esc node.uptimeHuman),
      item "CPU" (template ["", " (", "c/", "t)"]
        [esc node.cpuModel, stringOf F node.cpuCores, stringOf F node.cpuThreads]),
      .join ((node.ipAddresses.filter fun ip => ip.family = "inet").map (ipItem F)),
      cpuGauge node, ramGauge node (hardware.bind Payload.HardwareOverview.memory)]

/-- `el.className` of `renderWarnings` -/
def warningsClass (warnings : List NodeWarning) : String :=
  "warnings-banner " ++
    if warnings.any fun w => w.severity = "critical" then "has-critical"
    else if warnings.any fun w => w.severity = "warning" then "has-warning" else "all-ok"

/-- The device behind a message. -/
def deviceNote (device : String) : String :=
  template [" <span style=\"color:var(--text-dim)\">(", ")</span>"] [esc device]

def warningItem (w : NodeWarning) : String :=
  template
    ["<div class=\"warning-item\">\n            <span class=\"warning-dot ",
      "\"></span>\n            <span class=\"sev-", "\">[", "]</span>\n            ", "",
      "\n        </div>"]
    [esc w.severity, esc w.severity, esc w.source, esc w.message,
      if w.device.getD "" = "" then "" else deviceNote (w.device.getD "")]

variable (F) in
/-- The counts of the two severities. -/
def warningsSummary (crits warns : Nat) : String :=
  if crits + warns = 0 then "<span class=\"badge ok\">OK</span> No warnings"
  else
    (if crits = 0 then "" else
      template ["<span class=\"badge critical\">", " critical</span> "] [stringOf F crits]) ++
    if warns = 0 then ""
      else template ["<span class=\"badge warning\">", " warning</span>"] [stringOf F warns]

variable (F) in
/-- The warnings in the order of the server. -/
def renderWarnings (warnings : List NodeWarning) : String :=
  template
    ["<details data-id=\"warnings\" open><summary>", "</summary><div class=\"section-content\">",
     "", "</div></details>"]
    [warningsSummary F (warnings.countP fun w => w.severity = "critical")
        (warnings.countP fun w => w.severity = "warning"),
      .join (warnings.map warningItem),
      if warnings.isEmpty then
        "<div style=\"color:var(--green);padding:4px 0\">All systems nominal</div>" else ""]

/-- A section of the page around its parts. -/
def details (id title content : String) : String :=
  template ["<details data-id=\"", "\"><summary>", "</summary><div class=\"section-content\">",
    "</div></details>"]
    [id, title, content]

variable (F) in
def cpuHtml : Option Payload.CPUInfo → String
  | none => unavailable
  | some cpu =>
      "\n        " ++
        kvGrid 8
          [kvText "Model" cpu.model, kvText "Architecture" cpu.architecture,
            kvRow "Sockets" "kv-val" (stringOf F cpu.sockets),
            kvRow "Cores/Socket" "kv-val" (stringOf F cpu.coresPerSocket),
            kvRow "Threads" "kv-val" (stringOf F cpu.threads)] ++
        "\n    "

/-- A number with its unit, or a dash if it is 0 or missing. -/
def nonzero (unit : String) (value : Option Int) : String :=
  if value.getD 0 = 0 then "-" else stringOf F (value.getD 0) ++ unit

variable (F) in
/-- A module of memory; a size or speed of 0 is not known. -/
def dimmRow (d : DimmInfo) : List Cell :=
  [.text d.locator, .text (nonzero (F := F) " MB" d.sizeMb), .text (orText d.type "-"),
    .text (nonzero (F := F) " MHz" d.speedMhz), .text (orText d.manufacturer "-"),
    .text (orText d.serial "-"), .text (orText d.partNumber "-")]

/-- The class of a count of errors. -/
def errorClass (errors : Int) (severity : String) : String :=
  "kv-val " ++ verdict (errors > 0) severity ""

/-- The memory with its error counters, and the modules. -/
def memoryHtml : Option (MemoryInfo F) → String
  | none => unavailable
  | some mem =>
      "\n        " ++
        kvGrid 8
          [kvRow "Total" "kv-val" (string mem.totalGb ++ " GB"),
            kvRow "Available" "kv-val" (string mem.availableGb ++ " GB"),
            kvRow "Used" "kv-val" (string mem.usedPercent ++ "%"),
            kvRow "ECC CE" (errorClass mem.eccCorrectableErrors "sev-warning")
              (stringOf F mem.eccCorrectableErrors),
            kvRow "ECC UE" (errorClass mem.eccUncorrectableErrors "sev-critical")
              (stringOf F mem.eccUncorrectableErrors)] ++
        "\n    " ++
        if mem.dimms.isEmpty then "" else
          table (numbers F) ["Locator", "Size", "Type", "Speed", "Manufacturer", "Serial", "Part"]
            (mem.dimms.map (dimmRow F))

def pciRow (d : Payload.PCIDevice) : List Cell :=
  [.text d.slot, .text d.className, .text d.vendor, .text d.device, .text (orDash d.driver)]

def usbRow (d : Payload.USBDevice) : List Cell :=
  [.text d.bus, .text d.device, .text d.id, .text d.name]

/-- Whether there is a link. -/
def linkBadge (n : NICInfo) : Cell :=
  .raw
    (verdict n.linkDetected "<span class=\"sev-ok\">up</span>"
      "<span class=\"sev-critical\">down</span>")

variable (F) in
/-- The sum of four counters, written as a number of the script. -/
def nicErrors (n : NICInfo) : String :=
  let sum : F :=
    add (add (add (ofInt n.rxErrors) (ofInt n.txErrors)) (ofInt n.rxCrcErrors))
      (ofInt n.txCarrierErrors)
  if truthy sum then string sum else "0"

variable (F) in
def nicRow (n : NICInfo) : List Cell :=
  [.text n.name, .text n.mac, .text (orDash n.driver), .text (orDash n.speed), linkBadge n,
    .text (orDash (commas n.ipAddresses)), .text (nicErrors F n)]

/-- A reading with its unit, or a dash. -/
def reading (unit : String) : Option F → String
  | some value => template ["", " ", ""] [string value, unit]
  | none => "-"

/-- A reading with its limits. -/
def sensorRow (r : SensorReading F) : List Cell :=
  [.text r.label, .text (reading r.unit (some r.value)), .text (reading r.unit r.warning),
    .text (reading r.unit r.critical),
    .raw
      (verdict r.isAlarm "<span class=\"sev-critical\">ALARM</span>"
        "<span class=\"sev-ok\">OK</span>")]

/-- `byChip`, with the readings of each chip in their order. -/
def byChip (sensors : List (SensorReading F)) : List (String × List (SensorReading F)) :=
  sensors.foldl (fun chips s => Dict.assign s.name ((Dict.find s.name chips).getD [] ++ [s]) chips)
    []

def chipHtml (chip : String × List (SensorReading F)) : String :=
  heading "6px" (esc chip.1) ++
    table (numbers F) ["Label", "Value", "Warning", "Critical", "Status"] (chip.2.map sensorRow)

/-- The readings by chip, in the order of the keys of an object. -/
def sensorsHtml (sensors : List (SensorReading F)) : String :=
  .join ((objectEntries (byChip sensors)).map chipHtml)

def gpuRow (g : Payload.GPUInfo F) : List Cell :=
  [.number g.index, .text g.name, .text g.driverVersion,
    .text (stringOf F g.memoryTotalMb ++ " MB"), .text (stringOf F g.memoryUsedMb ++ " MB"),
    .text (measure (stringOf F) "°C" g.temperatureC),
    .text (measure (stringOf F) "%" g.utilizationPercent),
    .text ((g.powerDrawW.map fun power => string power ++ " W").getD "-")]

/-- A part of a section, which is left out when there is nothing in it. -/
def unlessEmpty {A : Type*} (items : List A) (html : String) : String :=
  if items.isEmpty then "" else html

/-- `none` if it throws. -/
def renderHardware (hw : Payload.HardwareOverview F) : Option String :=
  -- The chips are collected in an object literal, where such a name is taken.
  if hw.sensors.any fun s => s.name ∈ inherited then none
  else some <| details "hardware" "Hardware" <|
    subSection "hw-cpu" "CPU" (cpuHtml F hw.cpu) ++
    subSection "hw-memory" "Memory (DIMMs)" (memoryHtml hw.memory) ++
    unlessEmpty hw.pciDevices (subSection "hw-pci" "PCI Devices"
      (table (numbers F) ["Slot", "Class", "Vendor", "Device", "Driver"]
        (hw.pciDevices.map pciRow))) ++
    unlessEmpty hw.usbDevices (subSection "hw-usb" "USB Devices"
      (table (numbers F) ["Bus", "Dev", "ID", "Name"] (hw.usbDevices.map usbRow))) ++
    unlessEmpty hw.nics (subSection "hw-nics" "Network Interfaces"
      (table (numbers F) ["Name", "MAC", "Driver", "Speed", "Link", "IPs", "Errors"]
        (hw.nics.map (nicRow F)))) ++
    unlessEmpty hw.sensors (subSection "hw-sensors" "Sensors" (sensorsHtml hw.sensors)) ++
    unlessEmpty hw.gpus (subSection "hw-gpus" "GPU"
      (table (numbers F) ["#", "Name", "Driver", "VRAM", "Used", "Temp", "Util", "Power"]
        (hw.gpus.map gpuRow)))

def efiRow (e : EFIBootEntry) : List Cell :=
  [.text e.number, .raw (verdict e.active "<span class=\"sev-ok\">*</span>" ""), .text e.label,
    .raw (template ["<span class=\"path-cell\">", "</span>"] [esc e.path])]

variable (F) in
/-- The boot entries of the firmware. -/
def renderSystem (sys : Payload.SystemOverview) : String :=
  let efi := sys.efi
  details "system" "System" <|
    if efi.entries.isEmpty then dim "EFI boot manager not available (legacy BIOS or not accessible)"
    else subSection "sys-efi" "UEFI Boot Order" <|
      kvGrid 8
        [kvText "Boot Current" (orText efi.bootCurrent "-"),
          kvRow "Boot Order" "kv-val" (orDash (commas (efi.bootOrder.map esc))),
          kvText "Timeout" (orText efi.timeout "-")] ++
      table (numbers F) ["#", "Active", "Label", "Path"] (efi.entries.map efiRow)

def dnsServers (conn : Collectors.Kubernetes.Connectivity) : String :=
  orDash (commas (conn.dnsServers.map esc)) ++
    unlessEmpty conn.dnsFailedServers
      (template [" <span class=\"sev-warning\">(not resolving: ", ")</span>"]
        [commas (conn.dnsFailedServers.map esc)])

/-- A row that says whether a check passed. -/
def checkRow (key : String) (ok : Bool) (value : String) : String :=
  kvRow key ("kv-val " ++ verdict ok "sev-ok" "sev-critical") value

/-- The connectivity, or the word that it is unavailable. -/
def connHtml : Option Collectors.Kubernetes.Connectivity → String
  | none => unavailable
  | some conn =>
      kvGrid 4
        [kvText "Default Gateway" (orText (some conn.defaultGateway) "none"),
          kvRow "DNS Servers" "kv-val" (dnsServers conn),
          checkRow "DNS Resolution" conn.dnsOk
            (verdict conn.dnsOk "OK" "FAILED" ++
              if conn.dnsResult = "" then "" else " (" ++ esc conn.dnsResult ++ ")"),
          checkRow "Internet" conn.internetOk (verdict conn.internetOk "Reachable" "Unreachable"),
          checkRow "K8s API" conn.kubernetesApiOk
            (verdict conn.kubernetesApiOk "Reachable" "Unreachable")]

def interfaceRow (n : NICInfo) : List Cell :=
  [.text n.name, .text n.mac, .text (orDash n.driver), .text (orDash n.speed),
    .text (orDash n.duplex), linkBadge n, .text (orDash (commas n.ipAddresses))]

variable (F) in
def renderNetwork (net : Payload.NetworkOverview) : String :=
  details "network" "Network" <|
    subSection "net-conn" "Connectivity" (connHtml net.connectivity) ++
    unlessEmpty net.interfaces (subSection "net-ifaces" "Interfaces"
      (table (numbers F) ["Name", "MAC", "Driver", "Speed", "Duplex", "Link", "IPs"]
        (net.interfaces.map interfaceRow)))

/-- A condition is good when `Ready` is true, and any other false. -/
def conditionRow (c : Payload.K8sNodeCondition) : List Cell :=
  let ok := (c.type = "Ready" && c.status = "True") || (c.type ≠ "Ready" && c.status = "False")
  [.text c.type, .raw (severityBadge (verdict ok "ok" "critical") c.status), .text c.reason,
   .text c.lastTransition]

def resourceRows (ni : Payload.K8sNodeInfo) : List (List Cell) :=
  [[.text "CPU", .text ni.capacity.cpu, .text ni.allocatable.cpu],
    [.text "Memory", .text ni.capacity.memory, .text ni.allocatable.memory],
    [.text "Pods", .text ni.capacity.pods, .text ni.allocatable.pods]] ++
    if ni.capacity.gpuNvidia = "" then [] else
      [[.text "GPU (NVIDIA)", .text ni.capacity.gpuNvidia, .text ni.allocatable.gpuNvidia]]

variable (F) in
/-- What the API server says about the node. -/
def nodeHtml (ni : Payload.K8sNodeInfo) : String :=
  kvGrid 4
      [kvText "Kubelet" ni.kubeletVersion, kvText "Runtime" ni.containerRuntime,
        kvText "OS Image" ni.osImage, kvText "Arch" ni.architecture] ++
    unlessEmpty ni.labels (heading "8px" "Labels" ++
      table (numbers F) ["Key", "Value"]
        ((objectEntries ni.labels).map fun label => [.text label.1, .text label.2])) ++
    unlessEmpty ni.conditions (heading "8px" "Conditions" ++
      table (numbers F) ["Type", "Status", "Reason", "Last Transition"]
        (ni.conditions.map conditionRow)) ++
    if ni.capacity.cpu = "" ∧ ni.allocatable.cpu = "" then "" else
      heading "8px" "Resources" ++ table (numbers F) ["Resource", "Capacity", "Allocatable"]
        (resourceRows ni)

def apiHtml (endpoint : K8sApiEndpoint) : String :=
  if endpoint.url = "" then "" else
    template
      ["<div style=\"padding:6px 12px;font-size:12px;color:var(--text-dim)\">\n            API: ",
        " — ", "\n        </div>"]
      [esc endpoint.url,
        severityBadge (verdict endpoint.healthy "ok" "critical")
          (verdict endpoint.healthy "Healthy" "Unhealthy")]

def fingerprintCell (sha256Fingerprint : String) : Cell :=
  .raw (template ["<span class=\"fingerprint-cell\">", "...</span>"]
    [esc (substring 24 sha256Fingerprint)])

variable (F) in
/-- The days until a certificate expires, in the colour of its severity. -/
def expiryCell (severity : String) (days : Option Int) : Cell :=
  .raw (severityBadge severity (measure (stringOf F) "d" days))

variable (F) in
def certificateRow (c : CertificateInfo) : List Cell :=
  [.text (Python.lastPart '/' c.filePath), .text c.subject, .text c.issuer, .text c.notAfter,
    expiryCell F c.expirySeverity c.daysUntilExpiry, fingerprintCell c.sha256Fingerprint]

/-- A component with its health. -/
def componentRow (c : Payload.K8sComponentStatus F) : List Cell :=
  let severity :=
    if c.healthStatus = "Healthy" then "ok"
    else if c.healthStatus = "Unknown" ∨ c.healthStatus = "Unavailable" then "" else "critical"
  [.text c.name, .raw
    (verdict c.running (severityBadge "ok" "Yes") (severityBadge "critical" "No")),
    .raw (severityBadge severity c.healthStatus), .text (orDash c.uptime)]

def memberRow (leaderId : String) (m : Payload.EtcdMember) : List Cell :=
  [.text m.name,
    if m.id = leaderId then .raw (severityBadge "ok" (m.id ++ " (leader)")) else .text m.id,
    .text (commas m.clientUrls), .text (commas m.peerUrls)]

/-- The size of the database against its quota, and the members. -/
def etcdHtml (e : Payload.EtcdStatus F) : String :=
  let quota := template ["", "% of ", " MB"] [string e.quotaUsedPercent, string e.dbSizeQuotaMb]
  heading "10px" "etcd Details" ++
    kvGrid 12
      [kvRow "DB Size" "kv-val" (string e.dbSizeMb ++ " MB"),
        kvRow "DB In Use" "kv-val" (string e.dbSizeInUseMb ++ " MB"),
        kvRow "Quota" "kv-val" (severityBadge (orText (some e.defragSeverity) "ok") quota ++
          verdict e.quotaAssumed
            " <span style=\"color:var(--text-dim)\">(etcd default, assumed)</span>" ""),
        kvRow "Leader" "kv-val"
          (verdict e.isLeader (severityBadge "ok" "This node") (esc e.leaderId)),
        kvText "Member ID" e.memberId,
        kvRow "Raft Index" "kv-val" (stringOf F e.raftIndex)] ++
    unlessEmpty e.members (heading "6px" "etcd Members" ++
      table (numbers F) ["Name", "ID", "Client URLs", "Peer URLs"]
        (e.members.map (memberRow e.leaderId)))

/-- The components, and the details of etcd where it has any. -/
def compHtml (components : List (Payload.K8sComponentStatus F)) : String :=
  let etcd := components.find? fun c => c.name = "etcd" && c.etcdStatus.isSome
  table (numbers F) ["Name", "Running", "Health", "Uptime"] (components.map componentRow) ++
    ((etcd.bind Payload.K8sComponentStatus.etcdStatus).map etcdHtml).getD ""

def renderKubernetes (k8s : Payload.KubernetesOverview F) : String :=
  details "kubernetes" "Kubernetes" <|
    subSection "k8s-node" "Node Info" (nodeHtml F k8s.nodeInfo) ++
    apiHtml k8s.apiEndpoint ++
    unlessEmpty k8s.certificates (subSection "k8s-certs" "Certificates"
      (table (numbers F) ["File", "Subject", "Issuer", "Not After", "Expires In", "Fingerprint"]
        (k8s.certificates.map (certificateRow F)))) ++
    unlessEmpty k8s.components (subSection "k8s-components" "Components" (compHtml k8s.components))

def talosLogo : String :=
  template
    ["<svg viewBox=\"0 0 24 24\" width=\"16\" height=\"16\" style=\"vertical-align:middle;margin-right:6px\">", "",
      "</svg>"]
    ["<polygon points=\"12,2 22,7.5 22,16.5 12,22 2,16.5 2,7.5\" fill=\"none\" stroke=\"var(--cyan)\" stroke-width=\"1.5\"/>",
      "<text x=\"12\" y=\"15\" text-anchor=\"middle\" font-size=\"9\" font-weight=\"700\" fill=\"var(--cyan)\" font-family=\"monospace\">T</text>"]

/-- `kv` of `renderTalos`, which puts attributes of its own behind the class. -/
def kv (key value extra : String) : String :=
  if value = "" then "" else
    template ["<span class=\"kv-key\">", "</span><span class=\"kv-val\"" ++ extra ++ ">", "</span>"]
      [key, esc value]

/-- `mcRows` -/
def mcRows (mc : TalosMachineConfig) : String :=
  .join
    [kv "Type"
        (if mc.configAvailable then orText (some mc.machineType) "unknown" else mc.machineType) "",
      kv "Install Disk" mc.installDisk "",
      kv "Install Image" mc.installImage " style=\"word-break:break-all\"",
      kv "Cluster" mc.clusterName "", kv "Endpoint" mc.clusterEndpoint ""]

def extensionHtml (e : String) : String :=
  template
    ["<span style=\"background:var(--bg);padding:2px 6px;border-radius:3px;margin:2px;display:inline-block;font-size:11px\">",
      "</span>"]
    [esc e]

def ifaceRow (i : TalosNetworkInterface) : List Cell :=
  [.text i.name, .text (orDash (commas i.addresses)), .text (verdict i.dhcp "Yes" "No"),
    .text (if i.routes.isEmpty then "-" else commas i.routes)]

variable (F) in
/-- The machine configuration and the version of Talos. -/
def versionHtml (talos : TalosOverview) : String :=
  let mc := talos.machineConfig
  kvGrid 4
      [kvText "Version" talos.version.version,
        if talos.version.schematicId = "" then ""
          else kvText "Schematic" talos.version.schematicId] ++
    (if mc.configAvailable then ""
      else dim (esc (orText (some mc.error) "Config not available"))) ++
    (if mcRows mc = "" then "" else
      template ["<div class=\"kv-grid\" style=\"margin-top:8px\">", "</div>"] [mcRows mc]) ++
    unlessEmpty mc.extensions (heading "8px" "Extensions" ++
      template ["<div style=\"padding:4px 0\">", "</div>"]
        [.join (mc.extensions.map extensionHtml)]) ++
    unlessEmpty mc.networkInterfaces (heading "8px" "Network Interfaces" ++
      table (numbers F) ["Name", "Addresses", "DHCP", "Routes"] (mc.networkInterfaces.map ifaceRow))

variable (F) in
def talosCertificateRow (c : TalosCertificateInfo) : List Cell :=
  [.text c.name, .text c.subject, .text c.issuer, .text c.notAfter,
    expiryCell F c.expirySeverity c.daysUntilExpiry, fingerprintCell c.sha256Fingerprint]

variable (F) in
def renderTalos (talos : TalosOverview) : String :=
  details "talos" (talosLogo ++ "Talos") <|
    subSection "talos-config" "Machine Config" (versionHtml F talos) ++
    unlessEmpty talos.certificates (subSection "talos-certs" "Certificates"
      (table (numbers F) ["Name", "Subject", "Issuer", "Not After", "Expires In", "Fingerprint"]
        (talos.certificates.map (talosCertificateRow F))))

/-- The button that opens the log of a container. -/
def logButton (containerId label : String) : String :=
  if containerId = "" then "-" else
    template ["<button class=\"log-btn\" data-log-id=\"", "\" data-log-name=\"", "\">Logs</button>"]
      [esc containerId, esc label]

/-- The state of a container in words. -/
def containerStateBadge (state : String) : String :=
  if state = "CONTAINER_RUNNING" then severityBadge "ok" "Running"
  else if state = "CONTAINER_EXITED" then severityBadge "unknown" "Exited"
  else if state = "CONTAINER_CREATED" then severityBadge "info" "Created"
  else severityBadge "warning" (orText (some state) "unknown")

def systemRow (c : SystemContainer F) : List Cell :=
  [.text c.name, .raw (containerStateBadge c.state), .text (orDash c.stats.memoryHuman),
    .raw (template ["<span class=\"image-cell\">", "</span>"] [esc (Python.lastPart '/' c.image)]),
    .text (orDash c.uptime), .raw (logButton c.containerId c.name)]

def workloadRow (c : WorkloadContainer F) : List Cell :=
  [.text c.ns, .text c.podName, .text c.containerName, .raw (containerStateBadge c.state),
    .text (orDash c.stats.memoryHuman), .text (orDash c.uptime),
    .raw (logButton c.containerId (template ["", "/", "/", ""] [c.ns, c.podName, c.containerName]))]

/-- The services of the system, and the pods. -/
def renderContainers (ct : ContainersOverview F) : String :=
  details "containers" "Containers" <|
    unlessEmpty ct.systemContainers (subSection "ct-system" "Talos System Services"
      (table (numbers F) ["Name", "State", "Memory", "Image", "Uptime", "Logs"]
        (ct.systemContainers.map systemRow))) ++
    unlessEmpty ct.workloadContainers (subSection "ct-workloads" "Workload Pods"
      (table (numbers F) ["Namespace", "Pod", "Container", "State", "Memory", "Uptime", "Logs"]
        (ct.workloadContainers.map workloadRow)))

/-- What `processSort` can be. -/
inductive ProcessSort where
  | cpu
  | mem
  deriving DecidableEq

/-- `humanBytes` from a unit on. -/
def humanUnits (val : F) : List String → String
  | [] => fixed1 val
  | [unit] => template ["", " ", ""] [fixed1 val, unit]
  | unit :: units =>
      if le (ofInt 1024) val then humanUnits (div val (ofInt 1024)) units
      else template ["", " ", ""] [fixed1 val, unit]

/-- A size in B, KB, MB, GB or TB, each 1024 of the one before. -/
def humanBytes (bytes : F) : String :=
  if truthy bytes then humanUnits bytes ["B", "KB", "MB", "GB", "TB"] else "0 B"

/-- `b[key] || 0` -/
def ProcessSort.key (order : ProcessSort) (p : ProcessInfo F) : F :=
  orElse (match order with | .cpu => p.cpuPercent | .mem => p.memPercent) (ofInt 0)

/-- `rows` of `renderProcesses` -/
def sortedRows (order : ProcessSort) (procs : List (ProcessInfo F)) : List (ProcessInfo F) :=
  sort (fun a b => lt (ofInt 0) (sub (order.key b) (order.key a))) procs

/-- A process, with its memory in bytes. -/
def processRow (p : ProcessInfo F) : List Cell :=
  [.number p.pid, .number p.ppid, .text p.user, .text (fixed1 (ProcessSort.cpu.key p)),
    .text (fixed1 (ProcessSort.mem.key p)),
    .text (humanBytes (mul (ofInt p.rssKb) (ofInt 1024) : F)), .text p.state,
    .raw (template ["<span class=\"cmd-cell\">", "</span>"] [esc p.command])]

/-- A button of the sort order, with the attributes of the pressed one behind its own. -/
def sortButton (name label : String) (pressed : Bool) : String :=
  "<button class=\"log-btn\" data-proc-sort=\"" ++ name ++ "\"" ++
    verdict pressed " aria-pressed=\"true\" style=\"font-weight:700\"" "" ++ ">" ++
    label ++ "</button>"

/-- The processes in an order, under two buttons that choose it. -/
def renderProcesses (order : ProcessSort) (procs : ProcessesOverview F) : String :=
  template
    ["<details data-id=\"processes\"><summary>Processes (",
      ")</summary><div class=\"section-content\"><div class=\"proc-sort\" style=\"padding:4px 0\">Sort by:\n        ",
      "\n        ", "\n    </div>", "</div></details>"]
    [esc (stringOf F procs.totalCount), sortButton "cpu" "CPU%" (order = .cpu),
      sortButton "mem" "MEM%" (order = .mem),
      table (numbers F) ["PID", "PPID", "User", "CPU%", "MEM%", "RSS", "State", "Command"]
        ((sortedRows order procs.processes).map processRow)]

end NodeDebugDashboard.Frontend.Renderers
