import NodeDebugDashboard.Collectors.Kubernetes

/-! `collect_connectivity` of app/collectors/network.py, and the system that it forms
with the coroutines of app/collectors/kubernetes.py over the shared HTTP clients. -/
namespace NodeDebugDashboard.Collectors.Kubernetes

open Library Library.Async Library.Python Library.Text Models HttpClient

def textWords (text : String) : List String := (words text.toList).map String.ofList

def parseNameservers (resolv : String) : List String :=
  (lines resolv).filterMap fun line =>
    match textWords line with
    | "nameserver" :: address :: _ => some address
    | _ => none

/-- The first line of an answer that starts with a digit. -/
def firstAddress (stdout : String) : String :=
  (((lines stdout).map stripped).find? fun line => line.toList.head?.any isDigitChar).getD ""

/-- What follows each occurrence of a word. -/
def following (word : String) (tokens : List String) : List String :=
  (tokens.zip tokens.tail).filterMap fun pair => if pair.1 = word then some pair.2 else none

def parseDefaultGateway (stdout : String) : String :=
  let tokens := textWords stdout
  let gateways := (following "via" tokens).foldl
    (fun found token => if token ∈ found then found else found ++ [token]) []
  if gateways ≠ [] then String.intercalate ", " gateways
  else match following "dev" tokens with
    | device :: _ => "dev " ++ device
    | [] => ""

variable {F : Type} (app : App F)

def dig (server : Option String) : Program (signature F) .text :=
  .ask
    (.runCommand (["dig"] ++ server.toList ++ ["+short", "+time=2", "+tries=1", "google.com"])) fun
    | (stdout, _, rc) => .done (if rc ≠ 0 then "" else firstAddress stdout)

/-- `targets` -/
def digTargets (dnsServers : List String) : List (Option String) :=
  if dnsServers = [] then [none] else dnsServers.map fun server => some ("@" ++ server)

/-- The servers that gave no answer. -/
def failedServers (targets : List (Option String)) (answers : List String) : List String :=
  (targets.zip answers).filterMap fun pair =>
    if pair.2 = "" then pair.1.map fun target => String.ofList (target.toList.drop 1) else none

variable [Unicode]

/-- The end of `collect_connectivity`: the default gateway. -/
def withGateway (result : Connectivity) : Program (signature F) .connectivity :=
  .ask (.runCommand ["ip", "route", "show", "default"]) fun
    | (stdout, _, rc) => .done
        { result with defaultGateway := if rc = 0 then parseDefaultGateway stdout else "" }

/-- The part of `collect_connectivity` about the API server. -/
def withKubernetesApi (result : Connectivity) : Program (signature F) .connectivity :=
  if app.env "KUBERNETES_SERVICE_HOST" = "" then withGateway result
  else apiClient fun client token =>
    .ask (.send { client := client, method := "GET", url := kubernetesApiBase app ++ "/healthz",
                  headers := bearer token })
      (healthz fun healthy => withGateway { result with kubernetesApiOk := healthy })

/-- The part of `collect_connectivity` about the internet. -/
def withInternet (result : Connectivity) : Program (signature F) .connectivity :=
  .ask (.client .publicInternet) fun client =>
    .ask (.send { client := client, method := "HEAD", url := "https://www.google.com" }) fun
      | .ok response => withKubernetesApi app
          { result with internetOk := 200 ≤ response.status ∧ response.status < 400 }
      | .error .http => withKubernetesApi app { result with internetOk := false }
      | .error (.value raised) => .raise raised
      | .error (.other raised) => .raise raised

def collectConnectivity : Program (signature F) .connectivity :=
  .ask .hostNetwork fun (hostNet : Bool) =>
    .ask (.readFile ((if hostNet then app.hostRoot else "") ++ "/etc/resolv.conf"))
        fun (resolv : String) =>
      let dnsServers := parseNameservers resolv
      let targets := digTargets dnsServers
      .gather targets.length (fun _ => .text) (fun i => dig targets[i]) fun answers =>
        let found := (List.ofFn answers).filter (· ≠ "")
        withInternet app
          { dnsServers := dnsServers, dnsOk := found ≠ [], dnsResult := found.headD "",
            dnsFailedServers := failedServers targets (List.ofFn answers),
            internetOk := false, kubernetesApiOk := false, defaultGateway := "" }

/-- What reading the token file gives: one of the texts it has had, or an error. -/
inductive TokenRead where
  | text (version : Nat)
  | osError
  | raised (raised : Raised)

/-- What the environment has to say to an effect. -/
structure Env (F : Type) where
  token : TokenRead
  mtime : String → Option Int
  built : Bool
  sent : Except SendError (Response F)
  ownNamespace : Option String
  hostNamespace : Option String
  file : String
  command : String × String × Int

structure Store where
  tables : Tables
  requests : List Request

def Store.initial : Store where
  tables := .empty
  requests := []

def readServiceAccountToken (tokens : Nat → String) : TokenRead → Outcome String
  | .text version => .ok (stripped (tokens version))
  | .osError => .ok ""
  | .raised raised => .error raised

def inHostNetworkNamespace (own host : Option String) : Bool :=
  match own, host with
  | some ownLink, some hostLink => ownLink = hostLink
  | _, _ => true

def isAscii (text : String) : Bool := text.toList.all fun c => c.toNat < 128

/-- `text.encode("ascii")` where it raises: the first characters in a row that cannot
be encoded. -/
def encodeError? (text : String) : Option Raised :=
  let chars := text.toList
  let start := (chars.takeWhile fun c => c.toNat < 128).length
  match chars.dropWhile (fun c => c.toNat < 128) with
  | [] => none
  | c :: rest =>
      let more := (rest.takeWhile fun c => 128 ≤ c.toNat).length
      let place :=
        if more = 0 then "character '" ++ String.ofList (Json.hexEscape c) ++ "' in position " ++
          toString start
        else "characters in position " ++ toString start ++ "-" ++ toString (start + more)
      some (.exception ("'ascii' codec can't encode " ++ place ++ ": ordinal not in range(128)"))

/-- A request on a shared client. A header value that is not ASCII raises
`UnicodeEncodeError`, which is a `ValueError`, and a header that the connection refuses an
`httpx.HTTPError`: in both cases nothing is sent. -/
def App.sendRequest (request : Request) (env : Env F) (store : Store) :
    Except SendError (Response F) × Store :=
  match request.headers.findSome? fun header => encodeError? header.2 with
  | some raised => (.error (.value raised), store)
  | none =>
      if request.headers.any fun header => app.refuses header.2 then
        match env.sent with
        | .ok _ => (.error .http, store)
        | .error failure => (.error failure, store)
      else (env.sent, { store with requests := store.requests ++ [request] })

/-- The effects, over the texts that the token file has had. -/
def handle (tokens : Nat → String) (effect : Effect) (_now : ℚ) (env : Env F) (store : Store) :
    effect.Answer F × Store :=
  match effect with
  | .token => (readServiceAccountToken tokens env.token, store)
  | .certClient key =>
      let found := store.tables.certClient app.hostRoot key env.mtime env.built
      (found.1, { store with tables := found.2 })
  | .client key =>
      let found := store.tables.client app.hostRoot key
      (found.1, { store with tables := found.2 })
  | .send request => app.sendRequest request env store
  | .hostNetwork => (inHostNetworkNamespace env.ownNamespace env.hostNamespace, store)
  | .readFile _ => (env.file, store)
  | .runCommand _ => (env.command, store)

/-- The calls from outside. -/
inductive Entry where
  | k8sGet (path : String) (params : Option (List (String × String)))
  | components
  | apiEndpoint
  | connectivity

def body : (f : Fn) → Program (signature F) f.kind
  | .etcdStatus => collectEtcdStatus app
  | .components => collectK8sComponents
  | .apiEndpoint => collectK8sApiEndpoint app
  | .connectivity => collectConnectivity app

def seconds : Fn → Int
  | .etcdStatus => 300
  | .components => 300
  | .apiEndpoint => 300
  | .connectivity => app.cacheTtl

/-- A call of a function behind `ttl_cache`. -/
def callOf (f : Fn) : Program (signature F) f.kind :=
  .call (S := signature F) f fun result => .done result.value

def entry : Entry → (r : Kind) × Program (signature F) r
  | .k8sGet path params => ⟨.json, k8sGet app path params⟩
  | .components => ⟨.components, callOf .components⟩
  | .apiEndpoint => ⟨.endpoint, callOf .apiEndpoint⟩
  | .connectivity => ⟨.connectivity, callOf .connectivity⟩

/-- The system, over the texts that the token file has had. -/
def system (tokens : Nat → String) : Tasks.System (signature F) Store (Env F) Entry where
  cfg := fun f => { seconds := seconds app f }
  body := body app
  handle := handle app tokens
  entry := entry app

end NodeDebugDashboard.Collectors.Kubernetes
