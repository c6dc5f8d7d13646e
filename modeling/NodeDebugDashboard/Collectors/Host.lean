import NodeDebugDashboard.Library.DateTime
import NodeDebugDashboard.Library.Json

/-! The node as the collectors see it during one collection: files, links,
directories and commands, each of which may fail. -/
namespace NodeDebugDashboard.Collectors

open Library Library.Python Library.Text

/-- What `timedelta(seconds=float(text))` raises. -/
inductive SecondsError where
  | valueError (text : String)
  | overflowError (text : String)

def SecondsError.raised : SecondsError → Raised
  | .valueError text => .exception text
  | .overflowError text => .exception text

/-- Every access to the node that a collector makes. Where Python raises
`OSError`, `open?`, `openBytes?` and `readlink?` are `none`, `openText` is
`.ok none`, and `listdir` is an error. -/
structure Host (F : Type) where
  sys : String := "/sys"
  proc : String := "/host-proc"
  dmesgWindowHours : Int := 168
  /-- `open(path, errors="replace")` -/
  open? : String → Option String
  /-- `open(path)`, which raises on text that is not UTF-8. -/
  openText : String → Outcome (Option String)
  /-- `open(path, "rb")` with `decode(errors="replace")` -/
  openBytes? : String → Option String
  readlink? : String → Option String
  listdir : String → Except String (List String)
  pathExists : String → Bool
  glob : String → List String
  /-- `run_command` -/
  run : List String → Outcome (String × String × Int)
  /-- `json.loads` -/
  loads : Loads F
  /-- The text of the `ValidationError` for fields of a model and the values
  that they cannot take. -/
  validationError : String → List (String × Json F) → String
  /-- `timedelta(seconds=float(text))` in microseconds. -/
  seconds : String → Except SecondsError Int
  /-- `datetime.now(timezone.utc)` when it is called for the n-th time. -/
  now : Nat → DateTime

variable {F : Type}

/-- `read_file`: the content, or the empty string on any `OSError`. -/
def Host.readFile (host : Host F) (path : String) : String := (host.open? path).getD ""

/-- `text.strip()` -/
def stripped (text : String) : String := String.ofList (strip text.toList)

/-- `int(text)` -/
def parseInt (text : String) : Outcome Int :=
  match int? text.toList with
  | some value => .ok value
  | none => .error (.exception "invalid literal for int() with base 10")

/-- `int((await read_file(path)).strip() or "0")` -/
def Host.readInt (host : Host F) (path : String) : Outcome Int :=
  let text := stripped (host.readFile path)
  parseInt (if text = "" then "0" else text)

/-- `text.lower()` -/
def lower [Unicode] (text : String) : String := String.ofList (Unicode.lower text.toList)

/-- `text.splitlines()` -/
def lines (text : String) : List String := (splitLines text.toList).map String.ofList

/-- `text.startswith(start)` -/
def startsWith (start text : String) : Bool := start.toList.isPrefixOf text.toList

/-- What follows `start`, stripped, in a text that starts with it. -/
def after (start text : String) : String := stripped (String.ofList (text.toList.drop start.length))

/-- A node on which nothing can be read and no command can be run. -/
def unreadable : Host F where
  open? := fun _ => none
  openText := fun _ => .ok none
  openBytes? := fun _ => none
  readlink? := fun _ => none
  listdir := fun path => .error ("[Errno 5] Input/output error: '" ++ path ++ "'")
  pathExists := fun _ => false
  glob := fun _ => []
  run := fun cmd => .ok ("", "Command not found: " ++ cmd.headD "", -1)
  loads := fun _ => .error .decodeError
  validationError := fun model rejected =>
    toString rejected.length ++ " validation errors for " ++ model
  seconds :=
    fun text => .error (.valueError ("could not convert string to float: '" ++ text ++ "'"))
  now := fun _ => ⟨0, 0, by decide⟩

/-- Reading the file gives the number as the kernel prints it, or fails. -/
def Host.Reads (host : Host F) (path : String) (value : Nat) : Prop :=
  host.readFile path = "" ∨ host.readFile path = String.ofList (line value)

/-- The number, or 0 when it could not be read. -/
def Host.seen (host : Host F) (path : String) (value : Nat) : Nat :=
  if host.readFile path = "" then 0 else value

theorem stripped_ne_empty {text : String} (h : Visible text.toList) : stripped text ≠ "" := by
  intro hEmpty
  have hNil := congrArg String.toList hEmpty
  rw [stripped, String.toList_ofList] at hNil
  exact strip_ne_nil h hNil

theorem prefix_ne_empty {start text : String} (h : start ≠ "") : start ++ text ≠ "" := by
  intro hEmpty
  have hText := congrArg String.toList hEmpty
  rw [String.toList_append] at hText
  exact h (String.toList_inj.mp (List.append_eq_nil_iff.mp hText).1)

theorem stripped_line (n : Nat) : stripped (String.ofList (line n)) =
    String.ofList (Nat.toDigits 10 n) := by
  rw [stripped, String.toList_ofList, strip_line]

theorem toDigits_ne_empty (n : Nat) : String.ofList (Nat.toDigits 10 n) ≠ "" := by
  intro hEmpty
  have hNil := congrArg String.toList hEmpty
  rw [String.toList_ofList] at hNil
  exact Nat.toDigits_ne_nil hNil

theorem parseInt_toDigits {n : Nat} (h : n < 10 ^ maxDigits) :
    parseInt (String.ofList (Nat.toDigits 10 n)) = .ok (n : Int) := by
  rw [parseInt, String.toList_ofList, int?_toDigits h]

theorem line_ne_empty (n : Nat) : String.ofList (line n) ≠ "" := by
  intro hEmpty
  have hNil := congrArg String.toList hEmpty
  simp [line] at hNil

/-- A counter file reads as its number or as 0. -/
theorem Host.readInt_eq {host : Host F} {path : String} {value : Nat}
    (hReads : host.Reads path value) (hSmall : value < 10 ^ maxDigits) :
    host.readInt path = .ok (host.seen path value : Int) := by
  rcases hReads with hFailed | hRead
  · have hZero : parseInt "0" = .ok 0 := rfl
    rw [Host.readInt, Host.seen, if_pos hFailed, hFailed]
    exact hZero
  · rw [Host.readInt, Host.seen, hRead, if_neg (line_ne_empty value), stripped_line,
      if_neg (toDigits_ne_empty value), parseInt_toDigits hSmall]

theorem small_of_uint64 (value : UInt64) : value.toNat < 10 ^ maxDigits := by
  have hDigits : 2 ^ 64 < 10 ^ 20 := by norm_num
  have hMore : 10 ^ 20 ≤ 10 ^ maxDigits := Nat.pow_le_pow_right (by omega) (by decide)
  exact lt_of_lt_of_le (lt_trans value.toNat_lt hDigits) hMore

end NodeDebugDashboard.Collectors
