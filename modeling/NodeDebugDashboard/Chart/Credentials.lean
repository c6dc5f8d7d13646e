import NodeDebugDashboard.Auth.Middleware
import NodeDebugDashboard.Chart.Names
import NodeDebugDashboard.Library.Dict
import NodeDebugDashboard.Library.Strip

/-! The credentials that the chart renders: its Secret, the variables that the pods get
from it, and the checksum that restarts the pods. -/
namespace NodeDebugDashboard.Chart

open Library Library.Text Library.Templates

/-- The values that have a say in the credentials. A value that is missing or null is
`none`, and one that is not a string is the text that `toString` makes of it. -/
structure Values where
  names : NameValues := {}
  authDisabled : Bool := false
  authUsername : String := "debug"
  authToken : Option String := some ""
  authPassword : Option String := some ""
  authExistingSecret : String := ""
  authTokenKey : String := "token"
  authPasswordKey : String := "password"
  sshPassword : Option String := some ""
  sshExistingSecret : String := ""

/-- The contents of a Secret by key, decoded. -/
abbrev SecretData := Dict String String

/-- What `randAlphaNum 32` draws. -/
structure Draw where
  text : String
  length : text.toList.length = 32
  alphaNum : ∀ c ∈ text.toList, c.isAlphanum

/-- What `lookup` finds: whether the release namespace, and which Secrets in it. -/
structure Cluster where
  live : Bool
  secrets : String → Option SecretData

/-- `b64enc` -/
def b64enc (text : String) : String := String.ofList (b64encode (encodeUtf8 text.toList))

/-- `b64dec`, on what `b64enc` makes. -/
def b64dec (text : String) : String :=
  match (b64decode text.toList).bind decodeUtf8 with
  | some decoded => String.ofList decoded
  | none => ""

/-- `node-debug-dashboard.str` -/
def str (value : Option String) : String := value.getD ""

/-- `node-debug-dashboard.wantsGeneratedPassword` -/
def wantsGeneratedPassword (values : Values) : Bool :=
  !(values.authDisabled || values.authExistingSecret ≠ "" || str values.authToken ≠ "" ||
    str values.authPassword ≠ "")

/-- `node-debug-dashboard.generatedPassword` -/
def generatedPassword (values : Values) (release : Release) (cluster : Cluster)
    (random : Draw) : String :=
  if wantsGeneratedPassword values then
    if cluster.live then
      let existing := cluster.secrets (secretName values.names release)
      let old := ((existing.bind fun data => data.get? "auth-password").map b64enc).getD ""
      if old ≠ "" then b64dec old else random.text
    else ""
  else ""

/-- `set $data key value`, under `with`. -/
def setWith (data : SecretData) (key value : String) : SecretData :=
  if value ≠ "" then data.set key value else data

/-- The part of `secretData` that stands for SSH. -/
def sshPart (values : Values) : String :=
  if values.sshExistingSecret = "" then str values.sshPassword else ""

/-- `node-debug-dashboard.secretData`, before it is written as YAML. -/
def secretData (values : Values) (release : Release) (cluster : Cluster)
    (random : Draw) : SecretData :=
  let data : SecretData := .empty
  let data :=
    if values.authExistingSecret = "" then
      let data := setWith data "auth-token" (str values.authToken)
      let data := setWith data "auth-password" (str values.authPassword)
      setWith data "auth-password" (generatedPassword values release cluster random)
    else data
  setWith data "ssh-password" (sshPart values)

/-- Where the pods' `AUTH_TOKEN` and `AUTH_PASSWORD` come from. A key that is not wired
is empty. -/
structure Wiring where
  authSource : String
  tokenKey : String
  passwordKey : String

/-- The wiring in templates/daemonset.yaml. -/
def wiring (values : Values) (release : Release) (data : SecretData) : Except String Wiring :=
  if values.authExistingSecret ≠ "" then
    let token := str values.authToken
    let password := str values.authPassword
    let anySwitch := token ≠ "" || password ≠ ""
    let tokenKey :=
      if values.authTokenKey ≠ "" && (token ≠ "" || !anySwitch) then values.authTokenKey else ""
    let passwordKey :=
      if values.authPasswordKey ≠ "" && (password ≠ "" || !anySwitch) then
        values.authPasswordKey else ""
    if tokenKey = "" ∧ passwordKey = "" then
      .error "auth.existingSecret is set but neither auth.tokenKey nor auth.passwordKey is wired"
    else .ok ⟨values.authExistingSecret, tokenKey, passwordKey⟩
  else
    .ok ⟨secretName values.names release,
      if (data.get? "auth-token").isSome then "auth-token" else "",
      if (data.get? "auth-password").isSome then "auth-password" else ""⟩

/-- The data of a Secret with a generated password. -/
def generatedData (sshPassword : String) (random : Draw) : SecretData :=
  setWith ((.empty : SecretData).set "auth-password" random.text) "ssh-password" sshPassword

/-- The functions of Helm that go through YAML. What `toYaml` writes, without the line
end at its end, is read back with the same keys and values, except that a value may lose
the line end at its end. -/
structure Helm where
  /-- `fromYaml` of `toYaml` -/
  reread : SecretData → SecretData
  reread_spec : ∀ data, List.Forall₂
    (fun written read => read.1 = written.1 ∧ (read.2 = written.2 ∨ written.2 = read.2 ++ "\n"))
    data.entries (reread data).entries
  /-- `sha256sum` of `toYaml` -/
  sha256sum : SecretData → String
  /-- The checksum tells some generated passwords apart. -/
  sha256sum_ne : ∀ sshPassword, ∃ random other,
    sha256sum (reread (generatedData sshPassword random)) ≠
      sha256sum (reread (generatedData sshPassword other))

/-- What `randAlphaNum` draws in templates/secret.yaml and in templates/daemonset.yaml. -/
structure Draws where
  secret : Draw
  daemonset : Draw

/-- What a render makes of the credentials: the data of the chart's Secret, if there is
one, and the `checksum/credentials` and the wiring of the pod template. -/
structure Rendered where
  secret : Option SecretData
  checksum : Option String
  wiring : Wiring

def render (helm : Helm) (values : Values) (release : Release) (cluster : Cluster) (draws : Draws) :
    Except String Rendered :=
  let secret := helm.reread (secretData values release cluster draws.secret)
  let daemonset := helm.reread (secretData values release cluster draws.daemonset)
  match wiring values release daemonset with
  | .error message => .error message
  | .ok wiring => .ok
      { secret := if secret.entries = [] then none else some secret
        checksum := if daemonset.entries = [] then none else some (helm.sha256sum daemonset)
        wiring := wiring }

/-- The cluster with the rendered Secret. -/
def Cluster.apply (cluster : Cluster) (values : Values) (release : Release)
    (rendered : Rendered) : Cluster :=
  match rendered.secret with
  | some data =>
      { cluster with secrets :=
        Function.update cluster.secrets (secretName values.names release) (some data) }
  | none => cluster

/-- The credentials in the environment of the pods. -/
def environ (values : Values) (cluster : Cluster) (wiring : Wiring) (name : String) :
    Option String :=
  let value (key : String) : Option String :=
    if key ≠ "" then (cluster.secrets wiring.authSource).bind fun data => data.get? key else none
  if name = "AUTH_TOKEN" then value wiring.tokenKey
  else if name = "AUTH_PASSWORD" then value wiring.passwordKey
  else if name = "AUTH_USERNAME" then
    if wiring.tokenKey ≠ "" ∨ wiring.passwordKey ≠ "" then some values.authUsername else none
  else none

/-- The password in the Secret that the release has left in the cluster. -/
def keptPassword (values : Values) (release : Release) (cluster : Cluster) : String :=
  ((cluster.secrets (secretName values.names release)).bind fun data =>
    data.get? "auth-password").getD ""

theorem b64dec_b64enc (text : String) : b64dec (b64enc text) = text := by
  have hDecoded : (b64decode (b64enc text).toList).bind decodeUtf8 = some text.toList := by
    rw [b64enc, String.toList_ofList, b64decode_b64encode]
    exact decodeUtf8_eq_some_iff.mpr rfl
  rw [b64dec, hDecoded]
  exact String.ofList_toList

theorem b64enc_eq_empty_iff (text : String) : b64enc text = "" ↔ text = "" := by
  constructor
  · intro h
    rw [← b64dec_b64enc text, h]
    decide
  · rintro rfl
    decide

/-- A password is kept while there is one, and drawn otherwise. -/
theorem generatedPassword_of_wants {values : Values} {release : Release} {cluster : Cluster}
    (hWants : wantsGeneratedPassword values) (hLive : cluster.live) (random : Draw) :
    generatedPassword values release cluster random =
      if keptPassword values release cluster ≠ "" then keptPassword values release cluster
      else random.text := by
  have hOld : (((cluster.secrets (secretName values.names release)).bind fun data =>
      data.get? "auth-password").map b64enc).getD "" =
        b64enc (keptPassword values release cluster) := by
    unfold keptPassword
    generalize ((cluster.secrets (secretName values.names release)).bind fun data =>
      data.get? "auth-password") = kept
    cases kept with
    | none => exact ((b64enc_eq_empty_iff "").mpr rfl).symm
    | some password => rfl
  simp only [generatedPassword, hWants, hLive, hOld, if_true, ne_eq, b64enc_eq_empty_iff,
    b64dec_b64enc]

theorem generatedPassword_of_not_wants {values : Values}
    (hWants : wantsGeneratedPassword values = false) (release : Release) (cluster : Cluster)
    (random : Draw) :
    generatedPassword values release cluster random = "" := by
  simp [generatedPassword, hWants]

theorem Draw.text_ne_empty (random : Draw) : random.text ≠ "" := by
  intro h
  have hLength := random.length
  rw [h] at hLength
  cases hLength

theorem wantsGeneratedPassword_iff (values : Values) :
    wantsGeneratedPassword values ↔
      values.authDisabled = false ∧ values.authExistingSecret = "" ∧ str values.authToken = "" ∧
        str values.authPassword = "" := by
  simp [wantsGeneratedPassword, and_assoc]

theorem get?_setWith (data : SecretData) (key value other : String) :
    (setWith data key value).get? other =
      if other = key ∧ value ≠ "" then some value else data.get? other := by
  unfold setWith
  by_cases hValue : value = ""
  · simp [hValue]
  · rw [if_pos hValue, Dict.get?_set]
    simp [hValue]

/-- A letter, drawn every time. -/
def repeated (letter : Char) (h : letter.isAlphanum) : Draw where
  text := String.ofList (List.replicate 32 letter)
  length := by simp
  alphaNum c hMem := by
    rw [String.toList_ofList] at hMem
    rwa [List.eq_of_mem_replicate hMem]

/-- Values that come back from YAML as they are, and a checksum that shows the password. -/
def plainHelm : Helm where
  reread := id
  reread_spec data := List.forall₂_same.mpr fun _ _ => ⟨rfl, .inl rfl⟩
  sha256sum data := (data.get? "auth-password").getD ""
  sha256sum_ne sshPassword := by
    have hShown : ∀ random, ((generatedData sshPassword random).get? "auth-password").getD "" =
        random.text := by
      intro random
      simp [generatedData, get?_setWith]
    refine ⟨repeated 'a' rfl, repeated 'b' rfl, ?_⟩
    simp only [id_eq, hShown]
    decide

def twoDraws : Draws := ⟨repeated 'a' rfl, repeated 'b' rfl⟩

end NodeDebugDashboard.Chart
