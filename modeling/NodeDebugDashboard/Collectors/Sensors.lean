import Mathlib.Data.List.ReduceOption
import Mathlib.Data.List.Sort
import Mathlib.Data.List.Sublists
import Mathlib.Data.String.Basic
import NodeDebugDashboard.Collectors.Host
import NodeDebugDashboard.Models

/-! `collect_sensors` of app/collectors/sensors.py, and which thermal zones it leaves out. -/
namespace NodeDebugDashboard.Collectors.Sensors

open Library Library.Python Library.Text Models

/-- The floats of the sensors. -/
class PyReal (F : Type) extends PyNumber F where
  /-- `float(text)`; `none` when it raises `ValueError` -/
  ofText? : String → Option F
  /-- `float(n)`; `none` when it raises `OverflowError` -/
  ofInt? : Int → Option F
  /-- `round(x, 3)` -/
  round3 : F → F

/-- From `2 ^ 1024 - 2 ^ 970` on, an integer is rounded to what no float can hold. -/
instance : PyReal Int where
  ofText? text := int? text.toList
  ofInt? value := if value.natAbs < 2 ^ 1024 - 2 ^ 970 then some value else none
  round3 value := value

/-- `_index` -/
def index (stem path : String) : String :=
  let name := (lastPart '/' path).toList
  let rest := name.drop stem.length
  let digits := rest.takeWhile isDecimal
  let tail := rest.drop digits.length
  if stem.toList.isPrefixOf name ∧ digits ≠ [] ∧
    (tail = "_input".toList ∨ tail = "_input\n".toList) then
    String.ofList digits
  else ""

/-- `text or default` -/
def orElse (text default : String) : String := if text = "" then default else text

section

variable {F : Type} [PyReal F]

/-- `value / 1000.0` -/
def thousandth (value : Int) : Outcome F :=
  match PyReal.ofInt? value with
  | some number => .ok (PyNumber.quotient number (PyFloat.ofInt 1000))
  | none => .error (.exception "int too large to convert to float")

example : ¬(thousandth (2 ^ 1024) : Outcome Int).isOk := by decide +kernel

/-- `_millis`, and what the loops make of the text of an input: nothing when `int`
raises `ValueError`. Only that is caught. -/
def millis (val : String) : Outcome (Option F) :=
  match int? val.toList with
  | some value => (thousandth value).map some
  | none => .ok none

/-- A threshold that is set has been reached. -/
def reached (value : F) : Option F → Bool
  | some limit => PyFloat.truthy limit && PyFloat.ge value limit
  | none => false

section

variable (host : Host F)

/-- `sorted(glob.glob(…))` -/
def sortedGlob (pattern : String) : List String := (host.glob pattern).insertionSort (· ≤ ·)

/-- `(await read_file(path)).strip()` -/
def readStripped (path : String) : String := stripped (host.readFile path)

def chipName (hwmonDir : String) : String :=
  orElse (readStripped host (hwmonDir ++ "/name")) (lastPart '/' hwmonDir)

/-- The label of an input of a chip. -/
def labelOf (hwmonDir stem path : String) : String :=
  orElse (readStripped host (hwmonDir ++ "/" ++ stem ++ index stem path ++ "_label"))
    (stem ++ index stem path)

/-- The text of a threshold of a temperature input. -/
def thresholdText (hwmonDir tempFile kind : String) : String :=
  readStripped host (hwmonDir ++ "/temp" ++ index "temp" tempFile ++ kind)

def tempReading (hwmonDir tempFile : String) : Outcome (Option (SensorReading F)) := do
  match ← millis (readStripped host tempFile) with
  | none => return none
  | some value =>
      let critical ← millis (thresholdText host hwmonDir tempFile "_crit")
      let warning ← millis (thresholdText host hwmonDir tempFile "_max")
      return some
        { name := chipName host hwmonDir
          label := labelOf host hwmonDir "temp" tempFile
          value := value
          unit := "°C"
          critical := critical
          warning := warning
          isAlarm := reached value critical || reached value warning }

def fanReading (hwmonDir fanFile : String) : Option (SensorReading F) :=
  let valStr := readStripped host fanFile
  if valStr = "" then none
  else
    (PyReal.ofText? valStr).map fun value =>
      { name := chipName host hwmonDir
        label := labelOf host hwmonDir "fan" fanFile
        value := value
        unit := "RPM" }

def inReading (hwmonDir inFile : String) : Outcome (Option (SensorReading F)) :=
  (millis (readStripped host inFile)).map fun volts => volts.map fun value =>
    { name := chipName host hwmonDir
      label := labelOf host hwmonDir "in" inFile
      value := PyReal.round3 value
      unit := "V" }

/-- The inputs of a chip of one kind. -/
def inputs (hwmonDir stem : String) : List String :=
  sortedGlob host (hwmonDir ++ "/" ++ stem ++ "*_input")

/-- The readings of a chip. -/
def chipReadings (hwmonDir : String) : Outcome (List (SensorReading F)) := do
  let temps ← (inputs host hwmonDir "temp").mapM (tempReading host hwmonDir)
  let fans := (inputs host hwmonDir "fan").filterMap (fanReading host hwmonDir)
  let volts ← (inputs host hwmonDir "in").mapM (inReading host hwmonDir)
  return temps.reduceOption ++ fans ++ volts.reduceOption

def hwmonDirs : List String := sortedGlob host (host.sys ++ "/class/hwmon/hwmon*")

def hwmonReadings : Outcome (List (SensorReading F)) :=
  ((hwmonDirs host).mapM (chipReadings host)).map List.flatten

def zoneType (tzDir : String) : String :=
  orElse (readStripped host (tzDir ++ "/type")) (lastPart '/' tzDir)

/-- A thermal zone: its type, and its temperature if the file holds an integer. -/
def zone? (tzDir : String) : Outcome (Option (String × F)) :=
  (millis (readStripped host (tzDir ++ "/temp"))).map fun degrees =>
    degrees.map fun value => (zoneType host tzDir, value)

end

/-- `any(tz_type in (r.name, r.label) and r.unit == "°C" for r in readings)` -/
def shown (readings : List (SensorReading F)) (tzType : String) : Bool :=
  readings.any fun r => (tzType = r.name || tzType = r.label) && r.unit = "°C"

def zoneReading (zone : String × F) : SensorReading F :=
  { name := "thermal_zone", label := zone.1, value := zone.2, unit := "°C" }

def addZone (readings : List (SensorReading F)) (zone : String × F) : List (SensorReading F) :=
  if shown readings zone.1 then readings else readings ++ [zoneReading zone]

/-- A turn of the loop over the thermal zones. -/
def zoneTurn (host : Host F) (readings : List (SensorReading F)) (tzDir : String) :
    Outcome (List (SensorReading F)) :=
  (zone? host tzDir).map fun
    | some zone => addZone readings zone
    | none => readings

def zoneDirs (host : Host F) : List String :=
  sortedGlob host (host.sys ++ "/class/thermal/thermal_zone*")

/-- `collect_sensors` -/
def collectSensors (host : Host F) : Outcome (List (SensorReading F)) := do
  (zoneDirs host).foldlM (zoneTurn host) (← hwmonReadings host)

/-- The zones whose temperature file holds an integer. -/
def zones (host : Host F) : Outcome (List (String × F)) :=
  ((zoneDirs host).mapM (zone? host)).map List.reduceOption

/-- `collect_sensors` returns, and every zone has a reading of its own, but for those
with the name or the label of a temperature of a chip. -/
def NoZoneLost (host : Host F) : Prop :=
  ∃ chips found readings, hwmonReadings host = .ok chips ∧ zones host = .ok found ∧
    collectSensors host = .ok readings ∧
    ((found.filter fun zone => !shown chips zone.1).map zoneReading).Subperm readings

/-- The text is not an integer that is too large for a float. -/
def Fits (F : Type) [PyReal F] (text : String) : Prop :=
  ∀ value, int? text.toList = some value → (PyReal.ofInt? value : Option F).isSome

instance (F : Type) [PyReal F] (text : String) : Decidable (Fits F text) :=
  match h : int? text.toList with
  | some value =>
      decidable_of_iff ((PyReal.ofInt? value : Option F).isSome = true) (by simp [Fits, h])
  | none => isTrue (by simp [Fits, h])

def holdsInt (text : String) : Bool := (int? text.toList).isSome

/-- What is read of a temperature input: a threshold only next to a temperature. -/
def tempTexts (host : Host F) (hwmonDir tempFile : String) : List String :=
  readStripped host tempFile ::
    if holdsInt (readStripped host tempFile) then
      [thresholdText host hwmonDir tempFile "_crit", thresholdText host hwmonDir tempFile "_max"]
    else []

/-- The texts that `collect_sensors` takes for thousandths. -/
def scaledTexts (host : Host F) : List String :=
  ((hwmonDirs host).flatMap fun hwmonDir =>
    (inputs host hwmonDir "temp").flatMap (tempTexts host hwmonDir) ++
      (inputs host hwmonDir "in").map (readStripped host)) ++
    (zoneDirs host).map fun tzDir => readStripped host (tzDir ++ "/temp")

/-- The names and labels of the temperatures of the chips. -/
def hwmonNames (host : Host F) : List String :=
  (hwmonDirs host).flatMap fun hwmonDir =>
    ((inputs host hwmonDir "temp").filter fun tempFile => holdsInt
      (readStripped host tempFile)).flatMap
      fun tempFile => [chipName host hwmonDir, labelOf host hwmonDir "temp" tempFile]

/-- The types of the zones whose temperature file holds an integer. -/
def zoneTypes (host : Host F) : List String :=
  ((zoneDirs host).filter fun tzDir => holdsInt (readStripped host (tzDir ++ "/temp"))).map
    (zoneType host)

/-- The types of the zones that no chip shows, in the order of the loop. -/
def unbridgedTypes (host : Host F) : List String :=
  (zoneTypes host).filter fun tzType => tzType ∉ hwmonNames host

/-- No type comes twice, and `thermal_zone` comes first if at all. -/
def Distinct (types : List String) : Prop := types.Nodup ∧ "thermal_zone" ∉ types.tail

instance (types : List String) : Decidable (Distinct types) := inferInstanceAs (Decidable (_ ∧ _))

/-- Only an overflow ends the reading of a text. -/
theorem millis_isOk_iff {text : String} :
    (∃ found, (millis text : Outcome (Option F)) = .ok found) ↔ Fits F text := by
  unfold millis Fits
  cases int? text.toList with
  | none => simp
  | some value =>
      unfold thousandth
      cases hFloat : (PyReal.ofInt? value : Option F) <;> simp [hFloat, Except.map]

/-- What is read is a number exactly when the text is an integer. -/
theorem millis_isSome {text : String} {found : Option F} (h : millis text = .ok found) :
    found.isSome = holdsInt text := by
  unfold millis at h
  unfold holdsInt
  cases hInt : int? text.toList with
  | none =>
      rw [hInt] at h
      cases h
      rfl
  | some value =>
      rw [hInt] at h
      obtain ⟨number, _, rfl⟩ := map_eq_ok.mp h
      rfl

theorem tempReading_spec {host : Host F} {hwmonDir tempFile : String} {r : SensorReading F}
    (h : tempReading host hwmonDir tempFile = .ok (some r)) : r.name = chipName host hwmonDir ∧
      r.label = labelOf host hwmonDir "temp" tempFile ∧ r.unit = "°C" := by
  obtain ⟨found, _, hFound⟩ := bind_eq_ok.mp h
  cases found with
  | none => cases hFound
  | some value =>
      obtain ⟨critical, _, hRest⟩ := bind_eq_ok.mp hFound
      obtain ⟨warning, _, hReading⟩ := bind_eq_ok.mp hRest
      rw [← Option.some.inj (Except.ok.inj hReading)]
      dsimp only
      exact ⟨rfl, rfl, rfl⟩

theorem tempReading_isSome {host : Host F} {hwmonDir tempFile : String}
    {r : Option (SensorReading F)} (h : tempReading host hwmonDir tempFile = .ok r) :
    r.isSome = holdsInt (readStripped host tempFile) := by
  obtain ⟨found, hRead, hFound⟩ := bind_eq_ok.mp h
  rw [← millis_isSome hRead]
  cases found with
  | none =>
      cases hFound
      rfl
  | some value =>
      obtain ⟨critical, _, hRest⟩ := bind_eq_ok.mp hFound
      obtain ⟨warning, _, hReading⟩ := bind_eq_ok.mp hRest
      cases hReading
      rfl

theorem tempReading_isOk_iff {host : Host F} {hwmonDir tempFile : String} :
    (∃ r, tempReading host hwmonDir tempFile = .ok r) ↔ ∀ text ∈ tempTexts host hwmonDir tempFile,
    Fits F text := by
  rw [tempTexts, List.forall_mem_cons, ← millis_isOk_iff]
  constructor
  · rintro ⟨r, hRead⟩
    obtain ⟨found, hFound, hRest⟩ := bind_eq_ok.mp hRead
    refine ⟨⟨found, hFound⟩, ?_⟩
    rw [← millis_isSome hFound]
    cases found with
    | none => simp
    | some value =>
        obtain ⟨critical, hCritical, hRest⟩ := bind_eq_ok.mp hRest
        obtain ⟨warning, hWarning, _⟩ := bind_eq_ok.mp hRest
        simpa using ⟨millis_isOk_iff.mp ⟨critical, hCritical⟩,
          millis_isOk_iff.mp ⟨warning, hWarning⟩⟩
  · rintro ⟨⟨found, hFound⟩, hThresholds⟩
    rw [← millis_isSome hFound] at hThresholds
    cases found with
    | none => exact ⟨none, bind_eq_ok.mpr ⟨none, hFound, rfl⟩⟩
    | some value =>
        obtain ⟨critical, hCritical⟩ := millis_isOk_iff.mpr (hThresholds _ List.mem_cons_self)
        obtain ⟨warning, hWarning⟩ := millis_isOk_iff.mpr
          (hThresholds _ (List.mem_cons_of_mem _ List.mem_cons_self))
        exact ⟨_, bind_eq_ok.mpr
          ⟨_, hFound, bind_eq_ok.mpr ⟨_, hCritical, bind_eq_ok.mpr ⟨_, hWarning, rfl⟩⟩⟩⟩

theorem inReading_isOk_iff {host : Host F} (hwmonDir : String) {inFile : String} :
    (∃ r, inReading host hwmonDir inFile = .ok r) ↔ Fits F (readStripped host inFile) := by
  rw [← millis_isOk_iff]
  constructor
  · rintro ⟨r, hRead⟩
    obtain ⟨found, hFound, _⟩ := map_eq_ok.mp hRead
    exact ⟨found, hFound⟩
  · rintro ⟨found, hFound⟩
    exact ⟨_, map_eq_ok.mpr ⟨found, hFound, rfl⟩⟩

theorem zone?_isOk_iff {host : Host F} {tzDir : String} :
    (∃ zone, zone? host tzDir = .ok zone) ↔ Fits F (readStripped host (tzDir ++ "/temp")) := by
  rw [← millis_isOk_iff]
  constructor
  · rintro ⟨zone, hRead⟩
    obtain ⟨found, hFound, _⟩ := map_eq_ok.mp hRead
    exact ⟨found, hFound⟩
  · rintro ⟨found, hFound⟩
    exact ⟨_, map_eq_ok.mpr ⟨found, hFound, rfl⟩⟩

theorem fanReading_unit {host : Host F} {hwmonDir fanFile : String} {r : SensorReading F}
    (h : fanReading host hwmonDir fanFile = some r) : r.unit = "RPM" := by
  simp only [fanReading] at h
  split_ifs at h
  obtain ⟨value, _, rfl⟩ := Option.map_eq_some_iff.mp h
  rfl

theorem inReading_unit {host : Host F} {hwmonDir inFile : String} {r : SensorReading F}
    (h : inReading host hwmonDir inFile = .ok (some r)) : r.unit = "V" := by
  obtain ⟨found, _, hRead⟩ := map_eq_ok.mp h
  obtain ⟨volts, _, rfl⟩ := Option.map_eq_some_iff.mp hRead
  rfl

theorem chipReadings_eq_ok {host : Host F} {hwmonDir : String} {readings : List (SensorReading F)} :
    chipReadings host hwmonDir = .ok readings ↔ ∃ temps volts,
      (inputs host hwmonDir "temp").mapM (tempReading host hwmonDir) = .ok temps ∧
      (inputs host hwmonDir "in").mapM (inReading host hwmonDir) = .ok volts ∧
      temps.reduceOption ++ (inputs host hwmonDir "fan").filterMap (fanReading host hwmonDir) ++
        volts.reduceOption = readings := by
  simp only [chipReadings, bind_eq_ok, pure, Except.pure, Except.ok.injEq]
  constructor
  · rintro ⟨temps, hTemps, volts, hVolts, hReadings⟩
    exact ⟨temps, volts, hTemps, hVolts, hReadings⟩
  · rintro ⟨temps, volts, hTemps, hVolts, hReadings⟩
    exact ⟨temps, hTemps, volts, hVolts, hReadings⟩

theorem chipReadings_isOk_iff {host : Host F} {hwmonDir : String} :
    (∃ readings, chipReadings host hwmonDir = .ok readings) ↔
      ∀ text ∈ (inputs host hwmonDir "temp").flatMap (tempTexts host hwmonDir) ++
        (inputs host hwmonDir "in").map (readStripped host), Fits F text := by
  rw [List.forall_mem_append, List.forall_mem_flatMap, List.forall_mem_map]
  simp only [← tempReading_isOk_iff, ← mapM_isOk_iff, chipReadings_eq_ok]
  simp only [← inReading_isOk_iff hwmonDir, ← mapM_isOk_iff]
  constructor
  · rintro ⟨readings, temps, volts, hTemps, hVolts, _⟩
    exact ⟨⟨temps, hTemps⟩, volts, hVolts⟩
  · rintro ⟨⟨temps, hTemps⟩, volts, hVolts⟩
    exact ⟨_, temps, volts, hTemps, hVolts, rfl⟩

/-- The temperatures of a chip are those of its temperature inputs. -/
theorem mem_chipReadings {host : Host F} {hwmonDir : String} {readings : List (SensorReading F)}
    (h : chipReadings host hwmonDir = .ok readings) {r : SensorReading F} (hUnit : r.unit = "°C") :
    r ∈ readings ↔ ∃ tempFile ∈ inputs host hwmonDir "temp",
    tempReading host hwmonDir tempFile = .ok (some r) := by
  obtain ⟨temps, volts, hTemps, hVolts, rfl⟩ := chipReadings_eq_ok.mp h
  rw [List.mem_append, List.mem_append, List.mem_filterMap, List.reduceOption_mem_iff,
    List.reduceOption_mem_iff, mem_mapM hTemps, mem_mapM hVolts]
  constructor
  · rintro ((hTemp | ⟨_, _, hFan⟩) | ⟨_, _, hIn⟩)
    · exact hTemp
    · simp [fanReading_unit hFan] at hUnit
    · simp [inReading_unit hIn] at hUnit
  · exact fun hTemp => Or.inl (Or.inl hTemp)

omit [PyReal F] in
theorem shown_iff {readings : List (SensorReading F)} {tzType : String} :
    shown readings tzType = true ↔ ∃ r ∈ readings, (tzType = r.name ∨ tzType = r.label) ∧
    r.unit = "°C" := by
  simp [shown]

/-- What the loop compares a type with in the readings of the chips. -/
theorem shown_hwmonReadings {host : Host F} {chips : List (SensorReading F)}
    (h : hwmonReadings host = .ok chips) (tzType : String) :
    shown chips tzType = true ↔ tzType ∈ hwmonNames host := by
  obtain ⟨perChip, hPerChip, rfl⟩ := map_eq_ok.mp h
  rw [shown_iff, hwmonNames, List.mem_flatMap]
  constructor
  · rintro ⟨r, hMem, hType, hUnit⟩
    obtain ⟨readings, hReadings, hMem⟩ := List.mem_flatten.mp hMem
    obtain ⟨hwmonDir, hDir, hChip⟩ := (mem_mapM hPerChip).mp hReadings
    obtain ⟨tempFile, hFile, hRead⟩ := (mem_chipReadings hChip hUnit).mp hMem
    obtain ⟨hName, hLabel, _⟩ := tempReading_spec hRead
    have hInt : holdsInt (readStripped host tempFile) = true := (tempReading_isSome hRead).symm
    refine ⟨hwmonDir, hDir, List.mem_flatMap.mpr ⟨tempFile, List.mem_filter.mpr ⟨hFile, hInt⟩, ?_⟩⟩
    rw [← hName, ← hLabel]
    simpa using hType
  · rintro ⟨hwmonDir, hDir, hMem⟩
    obtain ⟨tempFile, hFile, hType⟩ := List.mem_flatMap.mp hMem
    obtain ⟨hFile, hInt⟩ := List.mem_filter.mp hFile
    obtain ⟨readings, hChip⟩ := mapM_isOk_iff.mp ⟨perChip, hPerChip⟩ hwmonDir hDir
    obtain ⟨temps, volts, hTemps, _⟩ := chipReadings_eq_ok.mp hChip
    obtain ⟨found, hRead⟩ := mapM_isOk_iff.mp ⟨temps, hTemps⟩ tempFile hFile
    obtain ⟨r, rfl⟩ := Option.isSome_iff_exists.mp ((tempReading_isSome hRead).trans hInt)
    obtain ⟨hName, hLabel, hUnit⟩ := tempReading_spec hRead
    refine ⟨r, List.mem_flatten.mpr ⟨readings, (mem_mapM hPerChip).mpr ⟨hwmonDir, hDir, hChip⟩, ?_⟩,
      ?_, hUnit⟩
    · exact (mem_chipReadings hChip hUnit).mpr ⟨tempFile, hFile, hRead⟩
    · rw [hName, hLabel]
      simpa using hType

/-- The loop runs over the zones whose temperature can be read. -/
theorem foldlM_zoneTurn {host : Host F} {tzDirs : List String}
    {readings result : List (SensorReading F)} :
    tzDirs.foldlM (zoneTurn host) readings = .ok result ↔
      ∃ found, tzDirs.mapM (zone? host) = .ok found ∧
      found.reduceOption.foldl addZone readings = result := by
  induction tzDirs generalizing readings with
  | nil => simp [pure, Except.pure]
  | cons tzDir rest ih =>
      simp only [List.foldlM_cons, List.mapM_cons, bind_eq_ok, zoneTurn, map_eq_ok, ih,
        pure, Except.pure, Except.ok.injEq]
      constructor
      · rintro ⟨_, ⟨zone, hZone, rfl⟩, found, hFound, hLoop⟩
        refine ⟨zone :: found, ⟨zone, hZone, found, hFound, rfl⟩, ?_⟩
        cases zone <;> exact hLoop
      · rintro ⟨_, ⟨zone, hZone, found, hFound, rfl⟩, hLoop⟩
        refine ⟨_, ⟨zone, hZone, rfl⟩, found, hFound, ?_⟩
        cases zone <;> exact hLoop

/-- The readings are those of the chips, and what the loop adds to them. -/
theorem collectSensors_eq_ok {host : Host F} {readings : List (SensorReading F)} :
    collectSensors host = .ok readings ↔ ∃ chips found, hwmonReadings host = .ok chips ∧
      zones host = .ok found ∧ found.foldl addZone chips = readings := by
  simp only [collectSensors, zones, bind_eq_ok, foldlM_zoneTurn, map_eq_ok]
  constructor
  · rintro ⟨chips, hChips, found, hFound, hLoop⟩
    exact ⟨chips, _, hChips, ⟨found, hFound, rfl⟩, hLoop⟩
  · rintro ⟨chips, _, hChips, ⟨found, hFound, rfl⟩, hLoop⟩
    exact ⟨chips, hChips, found, hFound, hLoop⟩

/-- `collect_sensors` returns unless it comes upon an integer that is too large. -/
theorem collectSensors_isOk_iff {host : Host F} :
    (∃ readings, collectSensors host = .ok readings) ↔ ∀ text ∈ scaledTexts host, Fits F text := by
  rw [scaledTexts, List.forall_mem_append, List.forall_mem_flatMap, List.forall_mem_map]
  simp only [← chipReadings_isOk_iff, ← zone?_isOk_iff, ← mapM_isOk_iff, collectSensors_eq_ok,
    hwmonReadings, zones, map_eq_ok]
  constructor
  · rintro ⟨readings, chips, found, ⟨perChip, hPerChip, _⟩, ⟨read, hRead, _⟩, _⟩
    exact ⟨⟨perChip, hPerChip⟩, read, hRead⟩
  · rintro ⟨⟨perChip, hPerChip⟩, read, hRead⟩
    exact ⟨_, _, _, ⟨perChip, hPerChip, rfl⟩, ⟨read, hRead, rfl⟩, rfl⟩

theorem mapM_zone?_types {host : Host F} {tzDirs : List String} {read : List (Option (String × F))}
    (h : tzDirs.mapM (zone? host) = .ok read) : read.reduceOption.map Prod.fst =
      (tzDirs.filter fun tzDir => holdsInt (readStripped host (tzDir ++ "/temp"))).map
        (zoneType host) := by
  induction tzDirs generalizing read with
  | nil =>
      cases h
      rfl
  | cons tzDir rest ih =>
      rw [List.mapM_cons, bind_eq_ok] at h
      obtain ⟨zone, hZone, hLater⟩ := h
      obtain ⟨others, hOthers, hCons⟩ := bind_eq_ok.mp hLater
      cases hCons
      obtain ⟨degrees, hDegrees, rfl⟩ := map_eq_ok.mp hZone
      have hInt := millis_isSome hDegrees
      cases degrees with
      | none =>
          rw [Option.map_none, List.reduceOption_cons_of_none, List.filter_cons_of_neg
            (by simp [← hInt])]
          exact ih hOthers
      | some value =>
          rw [Option.map_some, List.reduceOption_cons_of_some, List.filter_cons_of_pos
            (by simp [← hInt]), List.map_cons, List.map_cons, ih hOthers]

section

variable {hwmon : List (SensorReading F)}

omit [PyReal F] in
/-- The readings of the zones shadow their types, and the name that they share. -/
theorem shown_append {kept : List (String × F)} {tzType : String} :
    shown (hwmon ++ kept.map zoneReading) tzType = true ↔ shown hwmon tzType = true ∨
      ∃ zone ∈ kept, tzType = "thermal_zone" ∨ tzType = zone.1 := by
  rw [shown_iff, shown_iff]
  constructor
  · rintro ⟨r, hMem, hType, hUnit⟩
    rcases List.mem_append.mp hMem with hChip | hZone
    · exact Or.inl ⟨r, hChip, hType, hUnit⟩
    · obtain ⟨zone, hKept, rfl⟩ := List.mem_map.mp hZone
      exact Or.inr ⟨zone, hKept, hType⟩
  · rintro (⟨r, hMem, hFound⟩ | ⟨zone, hKept, hType⟩)
    · exact ⟨r, List.mem_append_left _ hMem, hFound⟩
    · exact ⟨zoneReading zone, List.mem_append_right _ (List.mem_map_of_mem hKept), hType, rfl⟩

/-- A zone that is not shown yet differs from all before it. -/
theorem distinct_concat {kept : List String} {tzType : String} (h : Distinct kept) :
    Distinct (kept ++ [tzType]) ↔ ¬∃ other ∈ kept, tzType = "thermal_zone" ∨ tzType = other := by
  cases kept with
  | nil => simp [Distinct]
  | cons first rest =>
      obtain ⟨hNodup, hTail⟩ := h
      rw [Distinct, ← List.concat_eq_append, List.nodup_concat, List.concat_eq_append,
        List.cons_append, List.tail_cons, List.mem_append, List.mem_singleton]
      constructor
      · rintro ⟨⟨hFresh, _⟩, hName⟩ ⟨other, hMem, rfl | rfl⟩
        · exact hName (Or.inr rfl)
        · exact hFresh hMem
      · intro hNone
        refine ⟨⟨fun hMem => hNone ⟨tzType, hMem, Or.inr rfl⟩, hNodup⟩, ?_⟩
        rintro (hMem | rfl)
        · exact hTail hMem
        · exact hNone ⟨first, List.mem_cons_self, Or.inl rfl⟩

theorem Distinct.of_append {first second : List String} (h : Distinct (first ++ second)) :
    Distinct first := by
  obtain ⟨hNodup, hTail⟩ := h
  refine ⟨hNodup.of_append_left, fun hMem => hTail ?_⟩
  cases first with
  | nil => cases hMem
  | cons tzType rest => exact List.mem_append_left _ hMem

omit [PyReal F] in
/-- A zone that a chip shows is passed over. -/
theorem foldl_addZone_filter (zones : List (String × F)) (extra : List (SensorReading F)) :
    zones.foldl addZone (hwmon ++ extra) =
      (zones.filter fun zone => !shown hwmon zone.1).foldl addZone (hwmon ++ extra) := by
  induction zones generalizing extra with
  | nil => rfl
  | cons zone rest ih =>
      have hNext : ∃ more, addZone (hwmon ++ extra) zone = hwmon ++ more := by
        rw [addZone]
        split_ifs
        · exact ⟨extra, rfl⟩
        · exact ⟨extra ++ [zoneReading zone], List.append_assoc _ _ _⟩
      obtain ⟨more, hMore⟩ := hNext
      cases hShown : shown hwmon zone.1 with
      | true =>
          have hAll : shown (hwmon ++ extra) zone.1 = true := by
            obtain ⟨r, hMem, hFound⟩ := shown_iff.mp hShown
            exact shown_iff.mpr ⟨r, List.mem_append_left _ hMem, hFound⟩
          rw [List.filter_cons_of_neg (by simp [hShown]), List.foldl_cons, addZone, if_pos hAll, ih]
      | false =>
          rw [List.filter_cons_of_pos (by simp [hShown]), List.foldl_cons,
            List.foldl_cons, hMore, ih]

omit [PyReal F] in
/-- The loop adds zones of distinct types, and all of them if they are. -/
theorem foldl_addZone {unbridged : List (String × F)}
    (hNone : ∀ zone ∈ unbridged, shown hwmon zone.1 = false) (kept : List (String × F))
    (hKept : Distinct (kept.map Prod.fst)) :
    ∃ added, List.Sublist added unbridged ∧
      unbridged.foldl addZone (hwmon ++ kept.map zoneReading) =
        hwmon ++ (kept ++ added).map zoneReading ∧
      Distinct ((kept ++ added).map Prod.fst) ∧
      (Distinct ((kept ++ unbridged).map Prod.fst) → added = unbridged) := by
  induction unbridged generalizing kept with
  | nil => exact ⟨[], List.Sublist.refl _, by simp, by simpa using hKept, fun _ => rfl⟩
  | cons zone rest ih =>
      rw [List.forall_mem_cons] at hNone
      have hNew : Distinct ((kept ++ [zone]).map Prod.fst) ↔
          shown (hwmon ++ kept.map zoneReading) zone.1 = false := by
        rw [List.map_append, List.map_singleton, distinct_concat hKept, ← Bool.not_eq_true,
          not_iff_not, shown_append]
        simp [hNone.1]
      have hSplit : kept ++ zone :: rest = (kept ++ [zone]) ++ rest := by simp
      cases hShown : shown (hwmon ++ kept.map zoneReading) zone.1 with
      | true =>
          obtain ⟨added, hSub, hLoop, hDistinct, _⟩ := ih hNone.2 kept hKept
          refine ⟨added, hSub.cons zone, ?_, hDistinct, fun hAll => ?_⟩
          · rw [List.foldl_cons, addZone, if_pos hShown, hLoop]
          · rw [hSplit, List.map_append] at hAll
            simp [hNew.mp hAll.of_append] at hShown
      | false =>
          obtain ⟨added, hSub, hLoop, hDistinct, hAll⟩ :=
            ih hNone.2 (kept ++ [zone]) (hNew.mpr hShown)
          refine ⟨zone :: added, hSub.cons_cons zone, ?_, ?_, fun hWhole => ?_⟩
          · rw [List.foldl_cons, addZone, if_neg (by simp [hShown]), List.append_assoc]
            simpa using hLoop
          · simpa using hDistinct
          · rw [hSplit] at hWhole
            rw [hAll hWhole]

end

theorem unbridgedTypes_eq {host : Host F} {chips : List (SensorReading F)}
    {found : List (String × F)} (hChips : hwmonReadings host = .ok chips)
    (hFound : zones host = .ok found) :
    unbridgedTypes host = (found.filter fun zone => !shown chips zone.1).map Prod.fst := by
  obtain ⟨read, hRead, rfl⟩ := map_eq_ok.mp hFound
  rw [unbridgedTypes, zoneTypes, ← mapM_zone?_types hRead, List.filter_map]
  congr 1
  refine List.filter_congr fun zone _ => ?_
  rw [Function.comp_apply, Bool.eq_iff_iff, decide_eq_true_eq, Bool.not_eq_true',
    ← Bool.not_eq_true, shown_hwmonReadings hChips]

omit [PyReal F] in
/-- Where the loop runs, it has a reading for every zone that no chip shows exactly
when their types are distinct. -/
theorem subperm_foldl_addZone_iff {chips : List (SensorReading F)} {found : List (String × F)} :
    ((found.filter fun zone => !shown chips zone.1).map zoneReading).Subperm
      (found.foldl addZone chips) ↔
      Distinct ((found.filter fun zone => !shown chips zone.1).map Prod.fst) := by
  have hNone : ∀ zone ∈ found.filter fun zone => !shown chips zone.1, shown chips zone.1 = false :=
    fun zone hMem => by simpa using (List.mem_filter.mp hMem).2
  obtain ⟨added, hSub, hLoop, hDistinct, hAll⟩ := foldl_addZone hNone [] (by simp [Distinct])
  rw [List.map_nil, ← foldl_addZone_filter, List.append_nil, List.nil_append] at hLoop
  rw [hLoop]
  constructor
  · intro hOwn
    -- No reading of a chip can be the one of such a zone.
    let own (r : SensorReading F) : Bool := r.unit = "°C" && !shown chips r.label
    have hChips : chips.filter own = [] := by
      refine List.filter_eq_nil_iff.mpr fun r hMem => ?_
      by_cases hUnit : r.unit = "°C"
      · simp [own, hUnit, shown_iff.mpr ⟨r, hMem, Or.inr rfl, hUnit⟩]
      · simp [own, hUnit]
    have hZones :
        ∀ zone ∈ found.filter fun zone => !shown chips zone.1, own (zoneReading zone) = true := by
      intro zone hMem
      simp [own, zoneReading, hNone zone hMem]
    have hFiltered := hOwn.filter own
    rw [List.filter_append, hChips, List.nil_append,
      List.filter_eq_self.mpr (List.forall_mem_map.mpr hZones)] at hFiltered
    have hLength := hFiltered.length_le.trans (List.length_filter_le _ _)
    rw [List.length_map, List.length_map] at hLength
    rw [hSub.eq_of_length_le hLength] at hDistinct
    exact hDistinct
  · intro hTypes
    rw [hAll hTypes]
    exact (List.sublist_append_right _ _).subperm

/-- No zone is lost exactly when no integer is too large for a float, no type of those
that only zones have comes twice, and none but the first of them has the name under
which all are listed. -/
theorem noZoneLost_iff (host : Host F) :
    NoZoneLost host ↔ (∀ text ∈ scaledTexts host, Fits F text) ∧
    Distinct (unbridgedTypes host) := by
  rw [← collectSensors_isOk_iff]
  constructor
  · rintro ⟨chips, found, readings, hChips, hFound, hReadings, hOwn⟩
    obtain ⟨_, _, hSameChips, hSameFound, rfl⟩ := collectSensors_eq_ok.mp hReadings
    cases hChips.symm.trans hSameChips
    cases hFound.symm.trans hSameFound
    refine ⟨⟨_, hReadings⟩, ?_⟩
    rw [unbridgedTypes_eq hChips hFound]
    exact subperm_foldl_addZone_iff.mp hOwn
  · rintro ⟨⟨readings, hReadings⟩, hDistinct⟩
    obtain ⟨chips, found, hChips, hFound, rfl⟩ := collectSensors_eq_ok.mp hReadings
    rw [unbridgedTypes_eq hChips hFound] at hDistinct
    exact ⟨chips, found, _, hChips, hFound, hReadings, subperm_foldl_addZone_iff.mpr hDistinct⟩

end

/-- A node with two processor packages, one of them hot. -/
def twoPackages : Host Int :=
  { unreadable with
    glob := fun pattern =>
      if pattern = "/sys/class/thermal/thermal_zone*" then
        ["/sys/class/thermal/thermal_zone0", "/sys/class/thermal/thermal_zone1"]
      else []
    open? := fun path =>
      if path = "/sys/class/thermal/thermal_zone0/temp" then some "45000\n"
      else if path = "/sys/class/thermal/thermal_zone1/temp" then some "97000\n"
      else if path = "/sys/class/thermal/thermal_zone0/type" then some "x86_pkg_temp\n"
      else if path = "/sys/class/thermal/thermal_zone1/type" then some "x86_pkg_temp\n"
      else none }

/-- The temperature of the hot package is not reported. -/
theorem not_noZoneLost_twoPackages : ¬NoZoneLost twoPackages := by
  rintro ⟨chips, found, readings, hChips, hFound, hReadings, hOwn⟩
  have hNone : (hwmonReadings twoPackages).toOption.map List.length = some 0 := by decide +kernel
  have hTwo : (zones twoPackages).toOption.map List.length = some 2 := by decide +kernel
  have hOne : (collectSensors twoPackages).toOption.map List.length = some 1 := by decide +kernel
  rw [hChips] at hNone
  rw [hFound] at hTwo
  rw [hReadings] at hOne
  obtain rfl := List.length_eq_zero_iff.mp (Option.some.inj hNone)
  have hAll : (found.filter fun zone => !shown ([] : List (SensorReading Int)) zone.1) = found :=
    List.filter_eq_self.mpr fun _ _ => rfl
  have hLength := hOwn.length_le
  rw [hAll, List.length_map, Option.some.inj hTwo, Option.some.inj hOne] at hLength
  omega

end NodeDebugDashboard.Collectors.Sensors
