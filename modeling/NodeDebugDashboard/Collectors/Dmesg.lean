import NodeDebugDashboard.Collectors.Host
import NodeDebugDashboard.Library.Pattern
import NodeDebugDashboard.Models

/-! `collect_dmesg_warnings` of app/collectors/dmesg.py. -/
namespace NodeDebugDashboard.Collectors.Dmesg

open Library Library.Python Library.Text Models

/-- The part of the text that passes the tests one by one, and the rest. -/
def takeShape : List (Char → Bool) → List Char → Option (List Char × List Char)
  | [], text => some ([], text)
  | test :: tests, c :: rest =>
      if test c then (takeShape tests rest).map fun found => (c :: found.1, found.2) else none
  | _ :: _, [] => none

/-- `\s*(.*)$`: the message. -/
def lineMessage (text : List Char) : Option (List Char) :=
  let message := (text.dropWhile isSpace).takeWhile (· ≠ '\n')
  if (text.dropWhile isSpace).drop message.length ∈ [[], ['\n']] then some message else none

/-- `\d{4}-\d{2}-\d{2}T\d{2}:\d{2}:\d{2}` -/
def isoDate : List (Char → Bool) :=
  [isDecimal, isDecimal, isDecimal, isDecimal, (· = '-'), isDecimal, isDecimal, (· = '-'),
    isDecimal, isDecimal, (· = 'T'), isDecimal, isDecimal, (· = ':'), isDecimal, isDecimal,
    (· = ':'), isDecimal, isDecimal]

/-- `(?:[,.]\d+)?` -/
def isoFraction : List Char → List Char × List Char
  | mark :: rest =>
      let digits := rest.takeWhile isDecimal
      if (mark = ',' || mark = '.') && digits ≠ [] then
        (mark :: digits, rest.drop digits.length)
      else ([], mark :: rest)
  | [] => ([], [])

def isSign (c : Char) : Bool := c = '+' || c = '-'

/-- `[+-]\d{2}:?\d{2}` -/
def isoZone (text : List Char) : Option (List Char × List Char) :=
  (takeShape [isSign, isDecimal, isDecimal, (· = ':'), isDecimal, isDecimal] text).or
    (takeShape [isSign, isDecimal, isDecimal, isDecimal, isDecimal] text)

/-- The parts of an ISO stamp. -/
structure IsoStamp where
  date : List Char
  fraction : List Char
  zone : List Char

/-- `_ISO_RE.match(raw)`: the stamp and the message. -/
def isoMatch (raw : List Char) : Option (IsoStamp × List Char) := do
  let (date, rest) ← takeShape isoDate raw
  let (fraction, rest) := isoFraction rest
  let (zone, rest) ← isoZone rest
  let message ← lineMessage rest
  return (⟨date, fraction, zone⟩, message)

/-- `_MONOTONIC_RE.match(raw)`: the seconds since boot and the message. -/
def monotonicMatch (raw : List Char) : Option (List Char × List Char) := do
  let (_, rest) ← takeShape [(· = '[')] raw
  let stamp := rest.dropWhile isSpace
  let whole := stamp.takeWhile isDecimal
  let (_, rest) ← takeShape [(· = '.')] (stamp.drop whole.length)
  let part := rest.takeWhile isDecimal
  let (_, rest) ← takeShape [(· = ']')] (rest.drop part.length)
  if whole = [] ∨ part = [] then none
  else (lineMessage rest).map fun message => (whole ++ ['.'] ++ part, message)

/-- The number that a field of a stamp spells in ASCII. -/
def field (start count : Nat) (text : List Char) : Option Nat :=
  let digits := (text.drop start).take count
  if digits.length = count ∧ digits.all Char.isDigit then
    some (ofDigits (digits.map fun c => c.toNat - '0'.toNat))
  else none

/-- The microseconds of a fraction; digits after the sixth do not count. -/
def microseconds : List Char → Option Nat
  | [] => some 0
  | _ :: digits => field 0 6 ((digits.take 6) ++ List.replicate (6 - digits.length) '0')

/-- `datetime.fromisoformat(…)`; `none` for a `ValueError`. -/
def IsoStamp.time (stamp : IsoStamp) : Option DateTime := do
  let year ← field 0 4 stamp.date
  let month ← field 5 2 stamp.date
  let day ← field 8 2 stamp.date
  let hour ← field 11 2 stamp.date
  let minute ← field 14 2 stamp.date
  let second ← field 17 2 stamp.date
  let microsecond ← microseconds stamp.fraction
  let zoneHour ← field 1 2 stamp.zone
  let zoneMinute ← field (stamp.zone.length - 2) 2 stamp.zone
  let ahead : Int := zoneHour * 3600 + zoneMinute * 60
  DateTime.ofFields? year month day hour minute second microsecond
    (if stamp.zone.head? = some '-' then -ahead else ahead)

/-- What `timedelta(seconds=float(text))` is converted with. -/
abbrev Seconds := String → Except SecondsError Int

def outOfRange : Raised := .exception "date value out of range"

/-- `time + delta` -/
def shift (time : DateTime) (delta : Int) : Outcome DateTime :=
  match time.add? delta with
  | some later => .ok later
  | none => .error outOfRange

/-- `parse_line` -/
def parseLine (seconds : Seconds) (raw : String) (bootTime : Option DateTime) :
    Outcome (Option DateTime × String) :=
  match isoMatch raw.toList with
  | some (stamp, message) => .ok (stamp.time, String.ofList message)
  | none =>
      match monotonicMatch raw.toList, bootTime with
      | some (_, message), none => .ok (none, String.ofList message)
      | some (stamp, message), some boot =>
          match seconds (String.ofList stamp) with
          | .error error => .error error.raised
          | .ok delta => (shift boot delta).map fun time => (some time, String.ofList message)
      | none, _ => .ok (none, raw)

structure Rule where
  source : String
  severity : String
  label : String
  patterns : List Pattern
  excludes : List Pattern := []

/-- `Rule.matches` -/
def Rule.hits (rule : Rule) (message : String) : Bool :=
  !(rule.excludes.any fun pattern => pattern.search message.toList) &&
    rule.patterns.any fun pattern => pattern.search message.toList

section

open Pattern

variable [Unicode]

/-- `_MCE_BANNERS` -/
def mceBanners : List Pattern :=
  [all [lit "mce:", spaces, lit "CPU", many isDecimal, spaces, lit "supports"],
    all [lit "mce:", spaces, lit "Machine check", anything, anyOf "enabled" ["initialized"]],
    lit "no mce"]

/-- `RULES` -/
def rules : List Rule :=
  [{ source := "memory"
     severity := "critical"
     label := "Machine check exceptions"
     patterns := [lit "Machine Check Exception", lit "Fatal machine check",
       lit "Processor context corrupt", lit "Uncorrected hardware memory error",
       all [wordEdge, lit "mce:", anything, lit "Action required"],
       all [wordEdge, lit "MCE", wordEdge, anything, wordEdge, anyOf "uncorrected" ["fatal"],
         wordEdge]]
     excludes := mceBanners },
   { source := "memory"
     severity := "warning"
     label := "Machine check events"
     patterns := [all [wordEdge, lit "mce:", anything, lit "hardware error"],
       lit "machine check events logged",
       all [lit "CPU", spaces, digits, lit ": Machine Check", wordEdge]]
     excludes := mceBanners },
   { source := "memory"
     severity := "critical"
     label := "Uncorrectable ECC errors"
     patterns := [all [wordEdge, digits, one isSpace, spaces, lit "UE", wordEdge],
       lit "uncorrected error", lit "uncorrectable error"]
     excludes := [all [wordEdge, lit "0", one isSpace, spaces, lit "UE", wordEdge],
       all [wordEdge, lit "AER:"], lit "PCIe Bus Error"] },
   { source := "memory"
     severity := "warning"
     label := "Correctable ECC errors"
     patterns := [all [lit "EDAC", one isSpace, spaces, lit "MC", digits, lit ":", spaces, digits,
         one isSpace, spaces, lit "CE", wordEdge],
       all [wordEdge, lit "corrected error", wordEdge]]
     excludes := [all [lit "EDAC", one isSpace, spaces, lit "MC", digits, lit ":", spaces, lit "0",
         one isSpace, spaces, lit "CE", wordEdge],
       all [lit "EDAC MC:", spaces, lit "Ver"], lit "no ecc support",
       all [lit "EDAC", anything, lit "giving out device"], all [wordEdge, lit "AER:"],
       lit "PCIe Bus Error"] },
   { source := "cpu"
     severity := "critical"
     label := "CPU lockups or RCU stalls"
     patterns :=
       [lit "soft lockup", lit "hard LOCKUP", all [lit "rcu", anything, lit "detected stall"],
        all [lit "rcu", anything, lit "self-detected stall"]] },
   { source := "cpu"
     severity := "warning"
     label := "CPU thermal throttling"
     patterns := [lit "temperature above threshold", lit "package temperature above",
       lit "clock throttled", lit "thermal throttl"]
     excludes := [lit "thermal monitoring enabled", lit "registered thermal governor",
       lit "registered as thermal_zone", lit "interrupt throttling rate",
       all [lit "temperature", spaces, lit "/", spaces, lit "speed normal"]] },
   { source := "disk"
     severity := "critical"
     label := "Disk I/O errors"
     patterns := [all [wordEdge, lit "I/O error", wordEdge],
       all [lit "critical ", anyOf "medium" ["target"], lit " error"], lit "failed command:",
       lit "exception Emask", all [lit "SCSI error", anything, lit "return code"],
       lit "rejecting I/O to offline device"]
     excludes := [all [wordEdge, lit "dev ", anyOf "sr" ["fd", "loop"], digits]] },
   { source := "pcie"
     severity := "critical"
     label := "PCIe uncorrected errors (AER)"
     patterns := [all [wordEdge, lit "AER:", anything, lit "Uncorrect"],
       all [wordEdge, lit "AER:", anything, wordEdge, lit "Fatal", wordEdge],
       lit "PCIe Bus Error: severity=Uncorrect"] },
   { source := "pcie"
     severity := "warning"
     label := "PCIe corrected errors (AER)"
     patterns := [all [wordEdge, lit "AER:", anything, wordEdge, lit "Correct", anyOf "ed" ["able"],
         lit " error"],
       lit "PCIe Bus Error: severity=Correct"] }]

/-- Whether a line with this stamp is old enough to be left out. -/
def isOld (stamp cutoff : Option DateTime) : Bool :=
  match stamp, cutoff with
  | some time, some cutoff => time.before cutoff
  | _, _ => false

/-- What one line adds to `hits`: the place of the first rule that it matches,
and its message. -/
def hit (seconds : Seconds) (bootTime cutoff : Option DateTime) (raw : String) :
    Outcome (Option (Nat × String)) :=
  if stripped raw = "" then .ok none
  else
    (parseLine seconds raw bootTime).map fun parsed =>
      if isOld parsed.1 cutoff then none
      else (rules.findIdx? fun rule => rule.hits parsed.2).map fun place =>
        (place, stripped parsed.2)

/-- `"; ".join(m[:120] for m in messages[-2:])` -/
def sample (messages : List String) : String :=
  "; ".intercalate ((messages.drop (messages.length - 2)).map fun message =>
    String.ofList (message.toList.take 120))

/-- The warning of a rule, if some messages matched it. -/
def Rule.summary (rule : Rule) (windowHours : Int) (messages : List String) : Option NodeWarning :=
  if messages = [] then none
  else some {
    severity := rule.severity
    source := rule.source
    message := rule.label ++ ": " ++ toString messages.length ++ " in the last " ++
      toString windowHours ++ "h — " ++ sample messages }

/-- `hits.get(rule)`, for the rule at the place. -/
def messagesAt (place : Nat) (found : List (Option (Nat × String))) : List String :=
  ((found.filterMap id).filter fun hit => hit.1 = place).map Prod.snd

/-- `scan` -/
def scan (seconds : Seconds) (lines : List String) (bootTime cutoff : Option DateTime)
    (windowHours : Int) : Outcome (List NodeWarning) := do
  let found ← lines.mapM (hit seconds bootTime cutoff)
  return rules.zipIdx.filterMap fun entry =>
    entry.1.summary windowHours (messagesAt entry.2 found)

variable {F : Type}

/-- `_boot_time` -/
def bootTime (host : Host F) : Outcome (Option DateTime) :=
  let uptime := host.readFile (host.proc ++ "/uptime")
  if uptime = "" then .ok none
  else
    match words uptime.toList with
    | [] => .ok none
    | first :: _ =>
        match host.seconds (String.ofList first) with
        | .error (.valueError _) => .ok none
        | .error (.overflowError text) => .error (.exception text)
        | .ok delta => (shift (host.now 0) (-delta)).map some

/-- The lines of the log, as far as they are younger than the window. -/
def scanLog (host : Host F) (stdout : String) : Outcome (List NodeWarning) := do
  let boot ← bootTime host
  let cutoff ← shift (host.now 1) (-(host.dmesgWindowHours * 3600 * 1000000))
  scan host.seconds (lines stdout) boot (some cutoff) host.dmesgWindowHours

/-- `collect_dmesg_warnings` -/
def collectDmesgWarnings (host : Host F) : Outcome (List NodeWarning) := do
  let (iso, _, isoCode) ← host.run ["dmesg", "--time-format", "iso"]
  if isoCode = 0 then scanLog host iso
  else
    let (plain, _, plainCode) ← host.run ["dmesg"]
    if plainCode = 0 then scanLog host plain else return []

omit [Unicode] in
theorem Rule.summary_source {rule : Rule} {windowHours : Int} {messages : List String}
    {warning : NodeWarning} (h : rule.summary windowHours messages = some warning) :
    warning.source = rule.source := by
  unfold Rule.summary at h
  split_ifs at h
  cases h
  rfl

/-- Every warning about the log has the source of a rule. -/
theorem scan_source {seconds : Seconds} {lines : List String} {bootTime cutoff : Option DateTime}
    {windowHours : Int} {warnings : List NodeWarning}
    (h : scan seconds lines bootTime cutoff windowHours = .ok warnings) :
    ∀ warning ∈ warnings, warning.source ∈ rules.map Rule.source := by
  obtain ⟨found, _, hFound⟩ := bind_eq_ok.mp h
  cases hFound
  intro warning hWarning
  obtain ⟨⟨rule, place⟩, hRule, hMade⟩ := List.mem_filterMap.mp hWarning
  obtain ⟨hPlace, hEntry⟩ := List.mem_zipIdx' hRule
  rw [Rule.summary_source hMade, hEntry]
  exact List.mem_map_of_mem (List.getElem_mem hPlace)

theorem collectDmesgWarnings_source {host : Host F} {warnings : List NodeWarning}
    (h : collectDmesgWarnings host = .ok warnings) :
    ∀ warning ∈ warnings, warning.source ∈ rules.map Rule.source := by
  have hLog : ∀ stdout, scanLog host stdout = .ok warnings →
      ∀ warning ∈ warnings, warning.source ∈ rules.map Rule.source := by
    intro stdout hScan
    obtain ⟨_, _, hCutoff⟩ := bind_eq_ok.mp hScan
    obtain ⟨_, _, hFound⟩ := bind_eq_ok.mp hCutoff
    exact scan_source hFound
  obtain ⟨⟨iso, _, isoCode⟩, _, hIso⟩ := bind_eq_ok.mp h
  simp only at hIso
  split_ifs at hIso
  · exact hLog iso hIso
  · obtain ⟨⟨plain, _, plainCode⟩, _, hPlain⟩ := bind_eq_ok.mp hIso
    simp only at hPlain
    split_ifs at hPlain
    · exact hLog plain hPlain
    · cases hPlain
      simp

theorem rules_source : "dashboard" ∉ rules.map Rule.source := by
  simp [rules]

end

end NodeDebugDashboard.Collectors.Dmesg
