import Mathlib.Data.List.Sort
import NodeDebugDashboard.Collectors.Host
import NodeDebugDashboard.Library.Paths
import NodeDebugDashboard.Library.Strptime
import NodeDebugDashboard.Models

/-! `collect_k8s_certificates` of app/collectors/kubernetes.py and
`collect_talos_certificates` of app/collectors/talos.py. Both run `openssl` on every
certificate that they find, each in a run of its own. -/
namespace NodeDebugDashboard.Collectors.Certificates

open Library Library.Paths Library.Python Library.Text Models

/-- A pattern for `glob`: the names with this ending in a directory, or (`**`) in and
below it. -/
structure Glob where
  dir : List String
  deep : Bool := false
  ending : String

/-- `text.endswith(ending)` -/
def endsWith (ending text : String) : Bool := ending.toList.isSuffixOf text.toList

/-- A wildcard matches a name that starts with a dot only if the pattern does. -/
def visible (name : String) : Bool := !startsWith "." name

def Glob.matches (glob : Glob) (path : RealPath) : Bool :=
  let below := path.parts.drop glob.dir.length
  glob.dir.isPrefixOf path.parts && below ≠ [] && (glob.deep || below.length = 1) &&
    below.all visible && endsWith glob.ending (below.getLastD "")

def pkiDir : List String := ["system", "secrets", "kubernetes"]

/-- `system/secrets/kubernetes/**/*.crt` -/
def pkiGlob : Glob := { dir := pkiDir, deep := true, ending := ".crt" }

/-- A name in a directory of the host. -/
structure Entry where
  /-- below `HOST_ROOT` -/
  path : RealPath
  /-- `os.path.isfile` -/
  isFile : Bool := true
  /-- `os.path.realpath` -/
  real : String
  deriving DecidableEq

/-- What the collectors read of the host and of the process. No certificate of the
Kubernetes PKI is a link. -/
structure Node where
  hostRoot : String := "/host"
  /-- `time.tzname` -/
  tzname : List String := ["UTC", "UTC"]
  entries : List Entry
  nodup : entries.Nodup
  unlinked : ∀ first ∈ entries, ∀ second ∈ entries, pkiGlob.matches first.path →
    pkiGlob.matches second.path → first.real = second.real → first = second

/-- A run of `openssl x509` on a file, and the clock when its dates are looked at. -/
structure Openssl where
  stdout : String
  code : Int
  now : DateTime

/-- `sorted(glob.glob(…))`, or of several patterns together. -/
def Node.sortedGlob (node : Node) (globs : List Glob) : List Entry :=
  (node.entries.filter fun entry => globs.any fun glob => glob.matches entry.path).insertionSort
    fun first second => first.path.text ≤ second.path.text

/-- What `openssl` prints of a certificate. -/
structure Printed where
  subject : String := ""
  issuer : String := ""
  notBefore : String := ""
  notAfter : String := ""
  serialNumber : String := ""
  sha256Fingerprint : String := ""

/-- `line.split("=", 1)[1].strip()` -/
def afterEquals (line : String) : String :=
  stripped (String.ofList ((line.toList.dropWhile (· ≠ '=')).drop 1))

/-- One line of the output; the values are cut off the line in a way of their own by
either collector. -/
def Printed.read (value : String → String → String) (printed : Printed) (text : String) : Printed :=
  let line := stripped text
  if startsWith "subject=" line then { printed with subject := value "subject=" line }
  else if startsWith "issuer=" line then { printed with issuer := value "issuer=" line }
  else if startsWith "notBefore=" line then { printed with notBefore := value "notBefore=" line }
  else if startsWith "notAfter=" line then { printed with notAfter := value "notAfter=" line }
  else if contains "Fingerprint=" line then { printed with sha256Fingerprint := afterEquals line }
  else if startsWith "serial=" line then { printed with serialNumber := value "serial=" line }
  else printed

/-- The loop of `collect_k8s_certificates` over the lines, with `line[len("subject="):]`. -/
def k8sPrinted (stdout : String) : Printed := (lines stdout).foldl (Printed.read after) {}

/-- The loop of `collect_talos_certificates`, with `line.split("=", 1)[1]`. -/
def talosPrinted (stdout : String) : Printed :=
  (lines stdout).foldl (Printed.read fun _ line => afterEquals line) {}

/-- `days_until_expiry` and `expiry_severity`. A date that cannot be read is ok. -/
def expiry (tzname : List String) (notAfter : String) (now : DateTime) : Option Int × String :=
  if notAfter = "" then (none, "ok")
  else
    match Strptime.strptime tzname notAfter.toList with
    | none => (none, "ok")
    | some time =>
        let days := (time.utc - now.utc) / microsecondsPerDay
        (some days, if days < 30 then "critical" else if days < 90 then "warning" else "ok")

def k8sGlobs : List Glob :=
  [{ dir := ["etc", "kubernetes", "pki"], ending := ".crt" },
    { dir := ["etc", "kubernetes", "pki", "etcd"], ending := ".crt" },
    { dir := ["system", "secrets", "etcd"], ending := ".crt" }, pkiGlob]

/-- One turn of the loop of `collect_k8s_certificates`. -/
def k8sCertificate (node : Node) (entry : Entry) (run : Openssl) : Option CertificateInfo :=
  if run.code ≠ 0 then none
  else
    let printed := k8sPrinted run.stdout
    let expires := expiry node.tzname printed.notAfter run.now
    some { filePath := node.hostRoot ++ entry.path.text
           subject := printed.subject
           issuer := printed.issuer
           notBefore := printed.notBefore
           notAfter := printed.notAfter
           serialNumber := printed.serialNumber
           sha256Fingerprint := printed.sha256Fingerprint
           daysUntilExpiry := expires.1
           expirySeverity := expires.2 }

/-- The certificates, each with the file that it was read from. -/
def k8sScan (node : Node) (run : Entry → Openssl) : List (Entry × CertificateInfo) :=
  (node.sortedGlob k8sGlobs).filterMap fun entry =>
    (k8sCertificate node entry (run entry)).map (entry, ·)

def collectK8sCertificates (node : Node) (run : Entry → Openssl) : List CertificateInfo :=
  (k8sScan node run).map Prod.snd

/-- `search_roots` -/
def searchRoots : List Glob :=
  [pkiGlob, { dir := ["var", "lib", "kubelet", "pki"], ending := ".crt" },
    { dir := ["var", "lib", "kubelet", "pki"], ending := "-current.pem" }]

/-- The files that are not skipped, given the targets that were seen. -/
def unseen (seen : List String) : List (Glob × Entry) → List (Glob × Entry)
  | [] => []
  | (root, entry) :: rest =>
      if entry.real ∈ seen ∨ ¬entry.isFile then unseen seen rest
      else (root, entry) :: unseen (entry.real :: seen) rest

/-- One turn of the loop of `collect_talos_certificates`. -/
def talosCertificate (node : Node) (root : Glob) (entry : Entry) (run : Openssl) :
    Option TalosCertificateInfo :=
  if run.code ≠ 0 then none
  else
    let printed := talosPrinted run.stdout
    let expires := expiry node.tzname printed.notAfter run.now
    some { name := "/".intercalate (entry.path.parts.drop root.dir.length)
           subject := printed.subject
           issuer := printed.issuer
           notBefore := printed.notBefore
           notAfter := printed.notAfter
           serialNumber := printed.serialNumber
           sha256Fingerprint := printed.sha256Fingerprint
           daysUntilExpiry := expires.1
           expirySeverity := expires.2 }

def talosFiles (node : Node) : List (Glob × Entry) :=
  unseen [] (searchRoots.flatMap fun root => (node.sortedGlob [root]).map (root, ·))

/-- The certificates, each with the file that it was read from. -/
def talosScan (node : Node) (run : Entry → Openssl) : List (Entry × TalosCertificateInfo) :=
  (talosFiles node).filterMap fun (root, entry) =>
    (talosCertificate node root entry (run entry)).map (entry, ·)

def collectTalosCertificates (node : Node) (run : Entry → Openssl) : List TalosCertificateInfo :=
  (talosScan node run).map Prod.snd

/-- The certificates of the Kubernetes PKI. -/
def Node.pki (node : Node) : List Entry :=
  node.entries.filter fun entry => pkiGlob.matches entry.path && entry.isFile

/-- The run of `openssl` read a certificate that expires within 90 days. -/
def Openssl.expiring (tzname : List String) (run : Openssl) : Prop :=
  run.code = 0 ∧ (expiry tzname (k8sPrinted run.stdout).notAfter run.now).2 ≠ "ok"

instance (tzname : List String) (run : Openssl) : Decidable (run.expiring tzname) :=
  inferInstanceAs (Decidable (_ ∧ _))

/-- Both ways to cut the value off a line come to the same. -/
theorem afterEquals_eq_after (key : List Char) {start line : String}
    (hStart : start.toList = key ++ ['=']) (hKey : '=' ∉ key) (h : startsWith start line = true) :
    afterEquals line = after start line := by
  obtain ⟨rest, hLine⟩ := List.isPrefixOf_iff_prefix.mp h
  have hLength : start.length = (key ++ ['=']).length := by rw [← String.length_toList, hStart]
  have hDrop : line.toList.dropWhile (· ≠ '=') = '=' :: rest := by
    rw [← hLine, hStart, List.append_assoc, List.dropWhile_append_of_pos]
    · rfl
    · intro c hMem
      simpa using fun hc : c = '=' => hKey (hc ▸ hMem)
  rw [afterEquals, after, hDrop, hLength, ← hLine, hStart, List.drop_left]
  rfl

theorem read_eq (printed : Printed) (text : String) :
    printed.read (fun _ line => afterEquals line) text = printed.read after text := by
  simp only [Printed.read]
  split_ifs with hSubject hIssuer hNotBefore hNotAfter hFingerprint hSerial
  · rw [afterEquals_eq_after "subject".toList rfl (by decide) hSubject]
  · rw [afterEquals_eq_after "issuer".toList rfl (by decide) hIssuer]
  · rw [afterEquals_eq_after "notBefore".toList rfl (by decide) hNotBefore]
  · rw [afterEquals_eq_after "notAfter".toList rfl (by decide) hNotAfter]
  · rfl
  · rw [afterEquals_eq_after "serial".toList rfl (by decide) hSerial]
  · rfl

/-- Both loops read the same from the same output. -/
theorem talosPrinted_eq (stdout : String) : talosPrinted stdout = k8sPrinted stdout := by
  have hSame : Printed.read (fun _ line => afterEquals line) = Printed.read after :=
    funext fun printed => funext fun text => read_eq printed text
  rw [talosPrinted, hSame, k8sPrinted]

end NodeDebugDashboard.Collectors.Certificates
