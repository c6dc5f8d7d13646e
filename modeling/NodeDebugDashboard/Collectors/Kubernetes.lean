import NodeDebugDashboard.Collectors.Host
import NodeDebugDashboard.Collectors.Tasks
import NodeDebugDashboard.HttpClient.Clients
import NodeDebugDashboard.Models

/-! The coroutines that reach the API server, etcd and the other components over HTTP:
`_k8s_get`, `collect_k8s_components` and `collect_k8s_api_endpoint` of
app/collectors/kubernetes.py, and `collect_connectivity` of app/collectors/network.py. -/
namespace NodeDebugDashboard.Collectors.Kubernetes

open Library Library.Async Library.Python Library.Text Models HttpClient

/-- What the coroutines read of the configuration and the process environment. -/
structure App (F : Type) where
  hostRoot : String := "/host"
  cacheTtl : Int := 10
  environ : String → Option String
  /-- The header values that a connection refuses to send, such as one with a line
  feed in it: an `httpx.LocalProtocolError` -/
  refuses : String → Bool
  /-- What `_collect_etcd_status` makes of the two replies. -/
  etcdStatus : Option (Json F) → Option (Json F) → Outcome (EtcdStatus F)

structure Response (F : Type) where
  status : Int
  text : String
  /-- `response.json()`; `none` when it raises `ValueError` -/
  json : Option (Json F)

/-- `response.is_success`; without it `raise_for_status()` raises. -/
def Response.isSuccess {F : Type} (response : Response F) : Bool :=
  200 ≤ response.status ∧ response.status ≤ 299

/-- What is sent, and on which client. -/
structure Request where
  client : Client
  method : String
  url : String
  headers : List (String × String) := []
  params : Option (List (String × String)) := none
  body : String := ""
  deriving DecidableEq, Repr

/-- What a request raises: an `httpx.HTTPError`, a `ValueError`, something else. -/
inductive SendError where
  | http
  | value (raised : Raised)
  | other (raised : Raised)

inductive Effect where
  /-- `read_service_account_token()` -/
  | token
  /-- `kubernetes_client()`, `local_apiserver_client()`, `etcd_client()` -/
  | certClient (key : ClientKey)
  /-- `insecure_client()`, `public_client()` -/
  | client (key : ClientKey)
  | send (request : Request)
  /-- `in_host_network_namespace()` -/
  | hostNetwork
  | readFile (path : String)
  | runCommand (cmd : List String)

def Effect.Answer (F : Type) : Effect → Type
  | .token => Outcome String
  | .certClient _ => Option Client
  | .client _ => Client
  | .send _ => Except SendError (Response F)
  | .hostNetwork => Bool
  | .readFile _ => String
  | .runCommand _ => String × String × Int

/-- The dictionary that `collect_connectivity` returns. -/
structure Connectivity where
  dnsServers : List String
  dnsOk : Bool
  dnsResult : String
  dnsFailedServers : List String
  internetOk : Bool
  kubernetesApiOk : Bool
  defaultGateway : String
  deriving DecidableEq

inductive Kind where
  | json
  | text
  | etcdStatus
  | component
  | components
  | endpoint
  | connectivity

def Kind.Val (F : Type) : Kind → Type
  | .json => Option (Json F)
  | .text => String
  | .etcdStatus => EtcdStatus F
  | .component => K8sComponentStatus F
  | .components => List (K8sComponentStatus F)
  | .endpoint => K8sApiEndpoint
  | .connectivity => Connectivity

/-- The functions behind `ttl_cache`. -/
inductive Fn where
  | etcdStatus
  | components
  | apiEndpoint
  | connectivity
  deriving DecidableEq

def Fn.kind : Fn → Kind
  | .etcdStatus => .etcdStatus
  | .components => .components
  | .apiEndpoint => .endpoint
  | .connectivity => .connectivity

abbrev signature (F : Type) : Signature where
  Fn := Fn
  Kind := Kind
  Val := Kind.Val F
  kind := Fn.kind
  Effect := Effect
  Answer := Effect.Answer F
  Error := Raised

variable {F : Type} (app : App F)

/-- `os.environ.get(name, "")` -/
def App.env (name : String) : String := (app.environ name).getD ""

def kubernetesApiBase : String :=
  let host := app.env "KUBERNETES_SERVICE_HOST"
  if host = "" then "https://kubernetes.default.svc"
  else
    let address := if contains ":" host ∧ ¬startsWith "[" host then "[" ++ host ++ "]" else host
    let port :=
      if app.env "KUBERNETES_SERVICE_PORT" = "" then "443" else app.env "KUBERNETES_SERVICE_PORT"
    "https://" ++ address ++ ":" ++ port

def bearer (token : String) : List (String × String) :=
  if token = "" then [] else [("Authorization", "Bearer " ++ token)]

/-- `raise_for_status()` and `json()` of the reply, where an `httpx.HTTPError` and a
`ValueError` make it `None`. -/
def replyJson : Except SendError (Response F) → Program (signature F) .json
  | .ok response => .done (if response.isSuccess then response.json else none)
  | .error .http => .done none
  | .error (.value _) => .done none
  | .error (.other raised) => .raise raised

def k8sGet (path : String) (params : Option (List (String × String))) :
    Program (signature F) .json :=
  .ask .token fun
    | .error raised => .raise raised
    | .ok token => .ask (.certClient .kubernetes) fun
        | none => .done none
        | some client =>
            if token = "" then .done none
            else .ask (.send { client := client, method := "GET",
                               url := kubernetesApiBase app ++ path,
                               headers := bearer token, params := params }) replyJson

def etcdPost (path : String) : Program (signature F) .json :=
  .ask (.certClient .etcd) fun
    | none => .done none
    | some client => .ask (.send { client := client, method := "POST",
                                   url := "https://localhost:2379" ++ path,
                                   body := "\x7b\x7d" }) replyJson

def etcdPaths : List String := ["/v3/maintenance/status", "/v3/cluster/member/list"]

def collectEtcdStatus : Program (signature F) .etcdStatus :=
  .gather 2 (fun _ => .json) (fun i => etcdPost etcdPaths[i]) fun replies =>
    match app.etcdStatus (replies 0) (replies 1) with
    | .ok status => .done status
    | .error raised => .raise raised

/-- `components` of `collect_k8s_components`. -/
def components : List (String × String) :=
  [("kubelet", "http://localhost:10248/healthz"),
    ("kube-apiserver", "https://localhost:6443/healthz"),
    ("kube-scheduler", "https://localhost:10259/healthz"),
    ("kube-controller-manager", "https://localhost:10257/healthz"),
    ("etcd", "https://localhost:2379/health"),
    ("kube-proxy", "http://localhost:10249/healthz")]

variable [Unicode]

/-- `body.strip().lower() == "ok"` -/
def saysOk (body : String) : Bool := lower (stripped body) = "ok"

/-- `health_status` and `running` for the body of a reply. -/
def healthOf (body : String) : String × Bool :=
  if stripped body = "" then ("Unknown", false)
  else if saysOk body ∨ contains "\"health\":\"true\"" (lower body) then ("Healthy", true)
  else ("Unhealthy", false)

/-- The end of `probe`. -/
def probed (name body : String) : Program (signature F) .component :=
  let health := healthOf body
  let status : K8sComponentStatus F :=
    { name := name, running := health.2, healthStatus := health.1 }
  if name = "etcd" ∧ health.2 then
    .call (S := signature F) .etcdStatus fun etcd =>
      .done { status with etcdStatus := some etcd.value }
  else .done status

/-- The request of `probe`, on the client that was chosen. -/
def probeOn (name url : String) (headers : List (String × String)) :
    Option Client → Program (signature F) .component
  | none => probed name ""
  | some client =>
      .ask (.send { client := client, method := "GET", url := url, headers := headers }) fun
      | .ok response => probed name response.text
      | .error .http => probed name ""
      | .error (.value raised) => .raise raised
      | .error (.other raised) => .raise raised

def probe (token name url : String) : Program (signature F) .component :=
  if name = "etcd" then .ask (.certClient .etcd) fun client => probeOn name url [] client
  else if name = "kube-apiserver" then .ask (.certClient .apiserverLocal) fun
    | some client => probeOn name url (bearer token) (some client)
    | none => .ask (.client .insecure) fun client => probeOn name url [] (some client)
  else .ask (.client .insecure) fun client => probeOn name url [] (some client)

def collectK8sComponents : Program (signature F) .components :=
  .ask .hostNetwork fun
    | false => .done (components.map fun entry =>
        { name := entry.1, running := false, healthStatus := "Unavailable" })
    | true => .ask .token fun
        | .error raised => .raise raised
        | .ok token => .gather components.length (fun _ => .component)
            (fun i => probe token components[i].1 components[i].2) fun results =>
              .done (List.ofFn results)

/-- The client of a probe of the API server, and the token that goes with it: without
the token or a verified channel the probe is anonymous. -/
def apiClient {r : Kind} (next : Client → String → Program (signature F) r) :
    Program (signature F) r :=
  .ask .token fun
    | .error raised => .raise raised
    | .ok token =>
        if token = "" then .ask (.client .insecure) fun client => next client ""
        else .ask (.certClient .kubernetes) fun
          | some client => next client token
          | none => .ask (.client .insecure) fun client => next client ""

/-- The reply of `/healthz`; a full "ok" with status 200 is healthy. -/
def healthz {r : Kind} (next : Bool → Program (signature F) r) :
    Except SendError (Response F) → Program (signature F) r
  | .ok response => next (response.status = 200 ∧ saysOk response.text)
  | .error .http => next false
  | .error (.value raised) => .raise raised
  | .error (.other raised) => .raise raised

def collectK8sApiEndpoint : Program (signature F) .endpoint :=
  if app.env "KUBERNETES_SERVICE_HOST" = "" then .done {}
  else
    let url := kubernetesApiBase app
    apiClient fun client token =>
      .ask (.send { client := client, method := "GET", url := url ++
        "/healthz", headers := bearer token })
        (healthz fun healthy => .done { url := url, healthy := healthy })

end NodeDebugDashboard.Collectors.Kubernetes
