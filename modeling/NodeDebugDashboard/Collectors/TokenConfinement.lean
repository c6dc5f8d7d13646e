import NodeDebugDashboard.Collectors.Connectivity
import NodeDebugDashboard.Collectors.TaskPairs

/-! The service account token stays with the API server: what goes out on the other
clients does not depend on it, and it is sent only to a peer that the cluster's
certificate authority vouches for. -/
namespace NodeDebugDashboard.Collectors.Kubernetes

open Library Library.Async Library.Python Library.Text Models HttpClient Tasks

/-- The SSL context of the client was built from `SA_CA_PATH`. -/
def TrustsServiceAccountCa (client : Client) : Prop :=
  ∃ checkHostname, client.verify = .context saCaPath none checkHostname

def Request.Authorized (request : Request) : Prop :=
  ∃ value, ("Authorization", value) ∈ request.headers

/-- The request goes out on the insecure client, the public client or the etcd client. -/
def Request.Low (hostRoot : String) (request : Request) : Prop :=
  ∃ key ∈ [ClientKey.insecure, .publicInternet, .etcd], request.client.verify = key.verify hostRoot

instance (hostRoot : String) (request : Request) : Decidable (request.Low hostRoot) :=
  inferInstanceAs (Decidable (∃ key ∈ _, _))

def lowRequests (hostRoot : String) (requests : List Request) : List Request :=
  requests.filter fun request => request.Low hostRoot

theorem not_low_of_trusts {hostRoot : String} {request : Request}
    (h : TrustsServiceAccountCa request.client) : ¬request.Low hostRoot := by
  rintro ⟨key, hKey, hOn⟩
  obtain ⟨checkHostname, hVerify⟩ := h
  rw [hVerify] at hOn
  simp only [List.mem_cons, List.not_mem_nil, or_false] at hKey
  rcases hKey with rfl | rfl | rfl <;> simp [ClientKey.verify] at hOn

/-- Both tokens are there, or neither, and both can be encoded for a header, or neither. -/
structure SameKind (token token' : String) : Prop where
  empty : token = "" ↔ token' = ""
  ascii : isAscii token = isAscii token'

theorem SameKind.refl (token : String) : SameKind token token := ⟨Iff.rfl, rfl⟩

theorem encodeError?_isNone (text : String) : (encodeError? text).isNone = isAscii text := by
  simp only [encodeError?, isAscii]
  split
  · rename_i hAll
    simpa [List.dropWhile_eq_nil_iff] using hAll
  · rename_i c rest hRest
    have hFirst : text.toList.any fun c => !decide (c.toNat < 128) := by
      refine List.any_eq_true.mpr ⟨c, ?_, ?_⟩
      · exact (List.dropWhile_sublist _).subset (hRest ▸ List.mem_cons_self)
      · have hHead :=
          List.head_dropWhile_not (fun c : Char => decide (c.toNat < 128)) (l := text.toList)
        simp only [hRest] at hHead
        rw [show decide (c.toNat < 128) = false from hHead (List.cons_ne_nil c rest)]
        rfl
    simpa [List.all_eq_not_any_not] using hFirst

/-- A token is as good in its header as by itself. -/
theorem isAscii_bearer (token : String) : isAscii ("Bearer " ++ token) = isAscii token := by
  have hBearer : ("Bearer ".toList.all fun c => c.toNat < 128) = true := by decide
  simp only [isAscii, String.toList_append, List.all_append, hBearer, Bool.true_and]

/-- The two runs cause the same effect, without the token, or send a request with their
token to a peer that may see it. -/
inductive RelatedEffects : Effect → Effect → Prop
  | same (effect : Effect) (hAnonymous : ∀ request, effect = .send request → request.headers = []) :
      RelatedEffects effect effect
  | send (request : Request) {token token' : String} (hSame : SameKind token token')
      (hTrusts : TrustsServiceAccountCa request.client) :
      RelatedEffects (.send { request with headers := bearer token })
        (.send { request with headers := bearer token' })

/-- The token cannot be read in either run, or the two are of one kind. -/
inductive RelatedTokens : Outcome String → Outcome String → Prop
  | error (raised : Raised) : RelatedTokens (.error raised) (.error raised)
  | ok {token token' : String} (hSame : SameKind token token') :
      RelatedTokens (.ok token) (.ok token')

/-- There is a reply, or an `httpx.HTTPError` in its place. -/
def Caught {F : Type} : Except SendError (Response F) → Prop
  | .ok _ => True
  | .error .http => True
  | .error _ => False

theorem Caught.ok_or_http {F : Type} {reply : Except SendError (Response F)} (h : Caught reply) :
    (∃ response, reply = .ok response) ∨ reply = .error .http := by
  match reply with
  | .ok response => exact .inl ⟨response, rfl⟩
  | .error .http => exact .inr rfl

/-- Two replies that take the same way through the handlers of the callers. -/
inductive RelatedReplies {F : Type} :
    Except SendError (Response F) → Except SendError (Response F) → Prop
  | caught {reply reply' : Except SendError (Response F)} (hFirst : Caught reply)
      (hSecond : Caught reply') :
      RelatedReplies reply reply'
  | value (raised raised' : Raised) :
      RelatedReplies (.error (.value raised)) (.error (.value raised'))
  | other (raised raised' : Raised) :
      RelatedReplies (.error (.other raised)) (.error (.other raised'))

theorem RelatedReplies.refl {F : Type} (reply : Except SendError (Response F)) :
    RelatedReplies reply reply := by
  match reply with
  | .ok _ => exact .caught trivial trivial
  | .error .http => exact .caught trivial trivial
  | .error (.value raised) => exact .value raised raised
  | .error (.other raised) => exact .other raised raised

/-- The two runs get the same answers, up to the token and to what the peers that see it
make of it. -/
def RelatedAnswers {F : Type} (hostRoot : String) :
    (first second : Effect) → first.Answer F → second.Answer F → Prop
  | .token, .token, answer, answer' => RelatedTokens answer answer'
  | .certClient key, .certClient _, answer, answer' => answer = answer' ∧
      ∀ client, answer = some client → client.verify = key.verify hostRoot
  | .client _, .client _, answer, answer' => answer = answer'
  | .send request, .send _, answer, answer' => RelatedReplies answer answer' ∧
      (request.headers = [] → answer = answer')
  | .hostNetwork, .hostNetwork, answer, answer' => answer = answer'
  | .readFile _, .readFile _, answer, answer' => answer = answer'
  | .runCommand _, .runCommand _, answer, answer' => answer = answer'
  | _, _, _, _ => False

abbrev twins (F : Type) (hostRoot : String) : Relation (signature F) where
  effect := RelatedEffects
  answer := RelatedAnswers hostRoot

/-- The two runs have the same clients, have sent the same requests on those that must
not see the token, and have sent it only where it belongs. -/
structure RelatedStores (hostRoot : String) (first second : Store) : Prop where
  tables : first.tables = second.tables
  verified : first.tables.Verified hostRoot
  low : lowRequests hostRoot first.requests = lowRequests hostRoot second.requests
  confined : ∀ request ∈ first.requests, request.Authorized → TrustsServiceAccountCa request.client

section Programs

variable {F : Type} {hostRoot : String} (app : App F)

/-- An effect without the token whose answer is the same in both runs. -/
theorem alike_ask {r : Kind} {Results : r.Val F → r.Val F → Prop} {effect : Effect}
    {next next' : effect.Answer F → Program (signature F) r}
    (hAnonymous : ∀ request, effect = .send request → request.headers = [])
    (hEq : ∀ answer answer' : effect.Answer F,
      RelatedAnswers hostRoot effect effect answer answer' → answer = answer')
    (hNext : ∀ answer, (twins F hostRoot).Alike Results (next answer) (next' answer)) :
    (twins F hostRoot).Alike Results (.ask effect next : Program (signature F) r)
      (.ask effect next') := by
  apply Relation.Alike.ask (RelatedEffects.same effect hAnonymous)
  intro answer answer' hAnswer
  cases hEq answer answer' hAnswer
  exact hNext answer

theorem alike_token {r : Kind} {Results : r.Val F → r.Val F → Prop}
    {next next' : Outcome String → Program (signature F) r}
    (hError : ∀ raised, (twins F hostRoot).Alike Results (next (.error raised))
      (next' (.error raised)))
    (hOk : ∀ token token', SameKind token token' →
      (twins F hostRoot).Alike Results (next (.ok token)) (next' (.ok token'))) :
    (twins F hostRoot).Alike Results (.ask .token next : Program (signature F) r)
      (.ask .token next') := by
  apply Relation.Alike.ask (RelatedEffects.same _ (by simp))
  intro answer answer' hAnswer
  cases hAnswer with
  | error raised => exact hError raised
  | ok hSame => exact hOk _ _ hSame

/-- The client of a key verifies its peer the way the key says. -/
theorem alike_certClient {r : Kind} {Results : r.Val F → r.Val F → Prop} {key : ClientKey}
    {next next' : Option Client → Program (signature F) r}
    (hNone : (twins F hostRoot).Alike Results (next none) (next' none))
    (hSome : ∀ client, client.verify = key.verify hostRoot →
      (twins F hostRoot).Alike Results (next (some client)) (next' (some client))) :
    (twins F hostRoot).Alike Results (.ask (.certClient key) next : Program (signature F) r)
      (.ask (.certClient key) next') := by
  apply Relation.Alike.ask (RelatedEffects.same _ (by simp))
  intro answer answer' hAnswer
  obtain ⟨hSame, hVerify⟩ := hAnswer
  cases hSame
  cases answer with
  | none => exact hNone
  | some client => exact hSome client (hVerify client rfl)

theorem alike_client {r : Kind} {Results : r.Val F → r.Val F → Prop} {key : ClientKey}
    {next next' : Client → Program (signature F) r}
    (hNext : ∀ client, (twins F hostRoot).Alike Results (next client) (next' client)) :
    (twins F hostRoot).Alike Results (.ask (.client key) next : Program (signature F) r)
      (.ask (.client key) next') := by
  apply @alike_ask F hostRoot r Results (.client key) next next' (by simp) _ hNext
  intro client client' hClient
  exact hClient

/-- A request that carries no header of its own. -/
theorem alike_send {r : Kind} {Results : r.Val F → r.Val F → Prop} {request : Request}
    (hAnonymous : request.headers = [])
    {next next' : Except SendError (Response F) → Program (signature F) r}
    (hNext : ∀ reply, (twins F hostRoot).Alike Results (next reply) (next' reply)) :
    (twins F hostRoot).Alike Results (.ask (.send request) next : Program (signature F) r)
      (.ask (.send request) next') := by
  apply @alike_ask F hostRoot r Results (.send request) next next' _ _ hNext
  · intro other hOther
    cases hOther
    exact hAnonymous
  · intro reply reply' hReply
    exact hReply.2 hAnonymous

/-- A request with the token, or without when there is none. -/
theorem alike_sendToken {r : Kind} {Results : r.Val F → r.Val F → Prop} (request : Request)
    {token token' : String} (hSame : SameKind token token')
    (hTrusts : token ≠ "" → TrustsServiceAccountCa request.client)
    {next next' : Except SendError (Response F) → Program (signature F) r}
    (hNext : ∀ reply reply', RelatedReplies reply reply' →
      (twins F hostRoot).Alike Results (next reply) (next' reply')) :
    (twins F hostRoot).Alike Results
      (.ask (.send { request with headers := bearer token }) next : Program (signature F) r)
      (.ask (.send { request with headers := bearer token' }) next') := by
  by_cases hToken : token = ""
  · have hToken' : token' = "" := hSame.empty.mp hToken
    subst hToken hToken'
    exact alike_send rfl fun reply => hNext reply reply (.refl reply)
  · apply Relation.Alike.ask (RelatedEffects.send request hSame (hTrusts hToken))
    intro reply reply' hReply
    exact hNext reply reply' hReply.1

theorem alike_replyJson {reply reply' : Except SendError (Response F)}
    (h : RelatedReplies reply reply') :
    (twins F hostRoot).Alike (fun _ _ => True) (replyJson reply) (replyJson reply') := by
  cases h with
  | value => exact .done trivial
  | other => exact .raise _ _
  | caught hFirst hSecond =>
      obtain ⟨response, rfl⟩ | rfl := hFirst.ok_or_http <;>
        obtain ⟨response', rfl⟩ | rfl := hSecond.ok_or_http <;>
          exact .done trivial

/-- The JSON of one and the same reply. -/
theorem alike_sameJson (reply : Except SendError (Response F)) :
    (twins F hostRoot).Alike Eq (replyJson reply) (replyJson reply) := by
  unfold replyJson
  split
  · exact .done rfl
  · exact .done rfl
  · exact .done rfl
  · exact .raise _ _

theorem trusts_kubernetes {client : Client}
    (h : client.verify = ClientKey.kubernetes.verify hostRoot) :
    TrustsServiceAccountCa client := ⟨true, h⟩

theorem trusts_apiserverLocal {client : Client}
    (h : client.verify = ClientKey.apiserverLocal.verify hostRoot) :
    TrustsServiceAccountCa client := ⟨false, h⟩

theorem alike_k8sGet (path : String) (params : Option (List (String × String))) :
    (twins F hostRoot).Alike (fun _ _ => True) (k8sGet app path params)
      (k8sGet app path params) := by
  apply alike_token
  · intro raised
    exact .raise _ _
  · intro token token' hSame
    apply alike_certClient
    · exact .done trivial
    · intro client hVerify
      by_cases hToken : token = ""
      · simp only [hToken, hSame.empty.mp hToken, if_true]
        exact .done trivial
      · simp only [hToken, mt hSame.empty.mpr hToken, if_false]
        apply alike_sendToken
          { client := client, method := "GET", url := kubernetesApiBase app ++ path,
            params := params }
          hSame (fun _ => trusts_kubernetes hVerify)
        intro reply reply' hReplies
        exact alike_replyJson hReplies

theorem alike_etcdPost (path : String) :
    (twins F hostRoot).Alike Eq (etcdPost path) (etcdPost path) := by
  apply alike_certClient
  · exact .done rfl
  · intro client _
    exact alike_send rfl alike_sameJson

theorem alike_collectEtcdStatus :
    (twins F hostRoot).Alike (fun _ _ => True) (collectEtcdStatus app) (collectEtcdStatus app) := by
  apply Relation.Alike.gather fun _ => Eq
  · intro i
    exact alike_etcdPost _
  · intro replies replies' hReplies
    rw [hReplies 0, hReplies 1]
    split
    · exact .done trivial
    · exact .raise _ _

theorem alike_apiClient {r : Kind} {Results : r.Val F → r.Val F → Prop}
    {next next' : Client → String → Program (signature F) r}
    (hNext : ∀ client token token', SameKind token token' →
      (token ≠ "" → TrustsServiceAccountCa client) →
      (twins F hostRoot).Alike Results (next client token) (next' client token')) :
    (twins F hostRoot).Alike Results (apiClient next) (apiClient next') := by
  have hInsecure : (twins F hostRoot).Alike Results
      (.ask (.client .insecure) fun client => next client "" : Program (signature F) r)
      (.ask (.client .insecure) fun client => next' client "") := by
    apply alike_client
    intro client
    exact hNext client "" "" (.refl "") fun hToken => absurd rfl hToken
  apply alike_token
  · intro raised
    exact .raise _ _
  · intro token token' hSame
    by_cases hToken : token = ""
    · simp only [hToken, hSame.empty.mp hToken, if_true]
      exact hInsecure
    · simp only [hToken, mt hSame.empty.mpr hToken, if_false]
      apply alike_certClient
      · exact hInsecure
      · intro client hVerify
        exact hNext client token token' hSame fun _ => trusts_kubernetes hVerify

theorem alike_withGateway (result result' : Connectivity) :
    (twins F hostRoot).Alike (fun _ _ => True) (withGateway result) (withGateway result') := by
  apply @alike_ask F hostRoot Kind.connectivity _ (.runCommand _) _ _ (by simp)
  · intro output output' hOutput
    exact hOutput
  · intro output
    exact .done trivial

theorem alike_dig (server : Option String) :
    (twins F hostRoot).Alike (fun _ _ => True) (dig server : Program (signature F) .text)
      (dig server) := by
  apply @alike_ask F hostRoot Kind.text _ (.runCommand _) _ _ (by simp)
  · intro output output' hOutput
    exact hOutput
  · intro output
    exact .done trivial

theorem alike_callOf (f : Fn) :
    (twins F hostRoot).Alike (fun _ _ => True) (callOf f : Program (signature F) f.kind)
      (callOf f) := by
  apply Relation.Alike.call
  intro result result'
  exact .done trivial

theorem alike_entry (call : Entry) :
    (twins F hostRoot).Alike (fun _ _ => True) (entry app call).2 (entry app call).2 := by
  cases call with
  | k8sGet path params => exact alike_k8sGet app path params
  | components => exact alike_callOf .components
  | apiEndpoint => exact alike_callOf .apiEndpoint
  | connectivity => exact alike_callOf .connectivity

variable [Unicode]

/-- Only etcd's probe looks at what the reply says before it ends. -/
theorem alike_probed {name : String} {body body' : String} (h : body = body' ∨ name ≠ "etcd") :
    (twins F hostRoot).Alike (fun _ _ => True) (probed name body) (probed name body') := by
  rcases h with rfl | hName
  · simp only [probed]
    split
    · apply Relation.Alike.call
      intro etcd etcd'
      exact .done trivial
    · exact .done trivial
  · simp only [probed, hName, false_and, if_false]
    exact .done trivial

/-- A probe that goes out without the token. -/
theorem alike_probeAnonymous (name url : String) (client : Option Client) :
    (twins F hostRoot).Alike (fun _ _ => True) (probeOn name url [] client)
      (probeOn name url [] client) := by
  cases client with
  | none => exact alike_probed (.inl rfl)
  | some client =>
      apply alike_send rfl
      intro reply
      split
      · exact alike_probed (.inl rfl)
      · exact alike_probed (.inl rfl)
      · exact .raise _ _
      · exact .raise _ _

/-- A probe that goes out with the token. -/
theorem alike_probeToken {name : String} (hName : name ≠ "etcd") (url : String)
    {token token' : String} (hSame : SameKind token token') {client : Client}
    (hTrusts : TrustsServiceAccountCa client) :
    (twins F hostRoot).Alike (fun _ _ => True) (probeOn name url (bearer token) (some client))
      (probeOn name url (bearer token') (some client)) := by
  apply alike_sendToken { client := client, method := "GET", url := url } hSame (fun _ => hTrusts)
  intro reply reply' hReplies
  cases hReplies with
  | value => exact .raise _ _
  | other => exact .raise _ _
  | caught hFirst hSecond =>
      obtain ⟨response, rfl⟩ | rfl := hFirst.ok_or_http <;>
        obtain ⟨response', rfl⟩ | rfl := hSecond.ok_or_http <;>
          exact alike_probed (.inr hName)

theorem alike_probe {token token' : String} (hSame : SameKind token token') (name url : String) :
    (twins F hostRoot).Alike (fun _ _ => True) (probe token name url) (probe token' name url) := by
  unfold probe
  split_ifs with hEtcd
  · apply alike_certClient
    · exact alike_probeAnonymous name url none
    · intro client _
      exact alike_probeAnonymous name url (some client)
  · apply alike_certClient
    · apply alike_client
      intro client
      exact alike_probeAnonymous name url (some client)
    · intro client hVerify
      exact alike_probeToken hEtcd url hSame (trusts_apiserverLocal hVerify)
  · apply alike_client
    intro client
    exact alike_probeAnonymous name url (some client)

theorem alike_collectK8sComponents :
    (twins F hostRoot).Alike (fun _ _ => True)
      (collectK8sComponents : Program (signature F) .components)
      collectK8sComponents := by
  apply @alike_ask F hostRoot Kind.components _ .hostNetwork _ _ (by simp)
  · intro reached reached' hReached
    exact hReached
  · intro reached
    cases reached with
    | false => exact .done trivial
    | true =>
        apply alike_token
        · intro raised
          exact .raise _ _
        · intro token token' hSame
          apply Relation.Alike.gather fun _ _ _ => True
          · intro i
            exact alike_probe hSame _ _
          · intro results results' _
            exact .done trivial

theorem alike_healthz {r : Kind} {Results : r.Val F → r.Val F → Prop}
    {next next' : Bool → Program (signature F) r}
    (hNext : ∀ healthy healthy', (twins F hostRoot).Alike Results (next healthy) (next' healthy'))
    {reply reply' : Except SendError (Response F)} (h : RelatedReplies reply reply') :
    (twins F hostRoot).Alike Results (healthz next reply) (healthz next' reply') := by
  cases h with
  | value => exact .raise _ _
  | other => exact .raise _ _
  | caught hFirst hSecond =>
      obtain ⟨response, rfl⟩ | rfl := hFirst.ok_or_http <;>
        obtain ⟨response', rfl⟩ | rfl := hSecond.ok_or_http <;>
          exact hNext _ _

theorem alike_sendHealthz {r : Kind} {Results : r.Val F → r.Val F → Prop}
    {next next' : Bool → Program (signature F) r}
    (hNext : ∀ healthy healthy', (twins F hostRoot).Alike Results (next healthy) (next' healthy')) :
    (twins F hostRoot).Alike Results
      (apiClient fun client token =>
        .ask (.send { client := client, method := "GET", url := kubernetesApiBase app ++ "/healthz",
                      headers := bearer token }) (healthz next))
      (apiClient fun client token =>
        .ask (.send { client := client, method := "GET", url := kubernetesApiBase app ++ "/healthz",
                      headers := bearer token }) (healthz next')) := by
  apply alike_apiClient
  intro client token token' hSame hTrusts
  apply alike_sendToken
    { client := client, method := "GET", url := kubernetesApiBase app ++ "/healthz" } hSame hTrusts
  intro reply reply' hReplies
  exact alike_healthz hNext hReplies

theorem alike_collectK8sApiEndpoint :
    (twins F hostRoot).Alike (fun _ _ => True) (collectK8sApiEndpoint app)
      (collectK8sApiEndpoint app) := by
  unfold collectK8sApiEndpoint
  split_ifs
  · exact .done trivial
  · apply alike_sendHealthz
    intro healthy healthy'
    exact .done trivial

theorem alike_withKubernetesApi (result result' : Connectivity) :
    (twins F hostRoot).Alike (fun _ _ => True) (withKubernetesApi app result)
      (withKubernetesApi app result') := by
  unfold withKubernetesApi
  split_ifs
  · exact alike_withGateway result result'
  · apply alike_sendHealthz
    intro healthy healthy'
    exact alike_withGateway _ _

theorem alike_withInternet (result result' : Connectivity) :
    (twins F hostRoot).Alike (fun _ _ => True) (withInternet app result)
      (withInternet app result') := by
  apply alike_client
  intro client
  apply alike_send rfl
  intro reply
  split
  · exact alike_withKubernetesApi app _ _
  · exact alike_withKubernetesApi app _ _
  · exact .raise _ _
  · exact .raise _ _

theorem alike_collectConnectivity :
    (twins F hostRoot).Alike (fun _ _ => True) (collectConnectivity app)
      (collectConnectivity app) := by
  apply @alike_ask F hostRoot Kind.connectivity _ .hostNetwork _ _ (by simp)
  · intro reached reached' hReached
    exact hReached
  · intro reached
    apply @alike_ask F hostRoot Kind.connectivity _ (.readFile _) _ _ (by simp)
    · intro text text' hText
      exact hText
    · intro resolv
      apply Relation.Alike.gather fun _ _ _ => True
      · intro i
        exact alike_dig _
      · intro answers answers' _
        exact alike_withInternet app _ _

theorem alike_body (f : Fn) :
    (twins F hostRoot).Alike (fun _ _ => True) (body app f) (body app f) := by
  cases f with
  | etcdStatus => exact alike_collectEtcdStatus app
  | components => exact alike_collectK8sComponents
  | apiEndpoint => exact alike_collectK8sApiEndpoint app
  | connectivity => exact alike_collectConnectivity app

end Programs

theorem lowRequests_append (hostRoot : String) (requests : List Request) (request : Request) :
    lowRequests hostRoot (requests ++ [request]) =
      lowRequests hostRoot requests ++ lowRequests hostRoot [request] :=
  List.filter_append ..

section Runs

variable {F : Type} (app : App F)

theorem sendRequest_anonymous {request : Request} (h : request.headers = []) (env : Env F)
    (store : Store) :
    app.sendRequest request env store =
      (env.sent, { store with requests := store.requests ++ [request] }) := by
  simp [App.sendRequest, h]

theorem reply_anonymous (request : Request) (h : request.headers = []) (env : Env F)
    (store : Store) :
    (app.sendRequest request env store).1 = env.sent := by
  rw [sendRequest_anonymous app h]

/-- A request is sent, or the store stays as it is. -/
theorem sendRequest_store (request : Request) (env : Env F) (store : Store) :
    (app.sendRequest request env store).2 = store ∨
      (app.sendRequest request env store).2 =
        { store with requests := store.requests ++ [request] } := by
  unfold App.sendRequest
  split
  · exact .inl rfl
  · split_ifs
    · split <;> exact .inl rfl
    · exact .inr rfl

/-- The reply is the one that came, unless the header was refused in its place. -/
theorem sendRequest_reply (request : Request)
    (h : (request.headers.findSome? fun header => encodeError? header.2) = none) (env : Env F)
    (store : Store) :
    (app.sendRequest request env store).1 = env.sent ∨
      (app.sendRequest request env store).1 = .error .http ∧ Caught env.sent := by
  simp only [App.sendRequest, h]
  split_ifs
  · match env.sent with
    | .ok _ => exact .inr ⟨rfl, trivial⟩
    | .error _ => exact .inl rfl
  · exact .inl rfl

theorem headerError_bearer (token : String) :
    ((bearer token).findSome? fun header => encodeError? header.2).isNone = isAscii token := by
  unfold bearer
  split_ifs with hToken
  · subst hToken
    rfl
  · rw [← isAscii_bearer, ← encodeError?_isNone]
    simp only [List.findSome?]
    cases encodeError? ("Bearer " ++ token) <;> rfl

theorem bearer_eq_nil_iff (token : String) : bearer token = [] ↔ token = "" := by
  unfold bearer
  split_ifs with hToken <;> simp [hToken]

/-- What comes back depends on the kind of the token only, as far as the callers tell. -/
theorem relatedReplies_sendRequest (request : Request) {token token' : String}
    (hSame : SameKind token token') (env : Env F) (store store' : Store) :
    RelatedReplies (app.sendRequest { request with headers := bearer token } env store).1
      (app.sendRequest { request with headers := bearer token' } env store').1 := by
  have hError := headerError_bearer token
  have hError' := headerError_bearer token'
  rw [hSame.ascii] at hError
  cases hAscii : isAscii token' with
  | true =>
      rw [hAscii, Option.isNone_iff_eq_none] at hError hError'
      have hFirst := sendRequest_reply app { request with headers := bearer token } hError env store
      have hSecond :=
        sendRequest_reply app { request with headers := bearer token' } hError' env store'
      rcases hFirst with hReply | ⟨hReply, hCaught⟩
      · rcases hSecond with hReply' | ⟨hReply', hCaught⟩ <;> rw [hReply, hReply']
        · exact .refl _
        · exact .caught hCaught trivial
      · rcases hSecond with hReply' | ⟨hReply', _⟩ <;> rw [hReply, hReply']
        · exact .caught trivial hCaught
        · exact .refl _
  | false =>
      rw [hAscii, Option.isNone_eq_false_iff, Option.isSome_iff_exists] at hError hError'
      obtain ⟨raised, hRaised⟩ := hError
      obtain ⟨raised', hRaised'⟩ := hError'
      simp only [App.sendRequest, hRaised, hRaised']
      exact .value raised raised'

/-- The stores stay related by the same request without the token. -/
theorem RelatedStores.sendAnonymous {store store' : Store}
    (h : RelatedStores app.hostRoot store store') {request : Request}
    (hAnonymous : request.headers = []) (env : Env F) :
    RelatedStores app.hostRoot (app.sendRequest request env store).2
      (app.sendRequest request env store').2 := by
  rw [sendRequest_anonymous app hAnonymous, sendRequest_anonymous app hAnonymous]
  refine ⟨h.tables, h.verified, ?_, fun other hOther hAuthorized => ?_⟩
  · rw [lowRequests_append, lowRequests_append, h.low]
  · rcases List.mem_append.mp hOther with hOld | hNew
    · exact h.confined other hOld hAuthorized
    · cases List.mem_singleton.mp hNew
      obtain ⟨value, hValue⟩ := hAuthorized
      rw [hAnonymous] at hValue
      cases hValue

/-- A peer that may see the token gets no request of the other clients. -/
theorem lowRequests_sendTrusted {request : Request}
    (hTrusts : TrustsServiceAccountCa request.client) (env : Env F) (store : Store) :
    lowRequests app.hostRoot (app.sendRequest request env store).2.requests =
      lowRequests app.hostRoot store.requests := by
  rcases sendRequest_store app request env store with hStore | hStore
  · rw [hStore]
  · have hLow : ¬request.Low app.hostRoot := not_low_of_trusts hTrusts
    rw [hStore, lowRequests_append]
    simp [lowRequests, hLow]

theorem sendRequest_tables (request : Request) (env : Env F) (store : Store) :
    (app.sendRequest request env store).2.tables = store.tables := by
  rcases sendRequest_store app request env store with hStore | hStore <;> rw [hStore]

/-- The stores stay related by requests to a peer that may see the token. -/
theorem RelatedStores.sendTrusted {store store' : Store}
    (h : RelatedStores app.hostRoot store store') (request request' : Request)
    (hTrusts : TrustsServiceAccountCa request.client)
    (hTrusts' : TrustsServiceAccountCa request'.client) (env : Env F) :
    RelatedStores app.hostRoot (app.sendRequest request env store).2
      (app.sendRequest request' env store').2 where
  tables := by rw [sendRequest_tables, sendRequest_tables, h.tables]
  verified := by
    rw [sendRequest_tables]
    exact h.verified
  low := by rw [lowRequests_sendTrusted app hTrusts, lowRequests_sendTrusted app hTrusts', h.low]
  confined := by
    intro other hOther hAuthorized
    rcases sendRequest_store app request env store with hStore | hStore
    · rw [hStore] at hOther
      exact h.confined other hOther hAuthorized
    · rw [hStore] at hOther
      rcases List.mem_append.mp hOther with hOld | hNew
      · exact h.confined other hOld hAuthorized
      · cases List.mem_singleton.mp hNew
        exact hTrusts

variable {tokens tokens' : Nat → String}

theorem relatedTokens_of_read
    (hTokens : ∀ version, SameKind (stripped (tokens version)) (stripped (tokens' version)))
    (read : TokenRead) :
    RelatedTokens (readServiceAccountToken tokens read) (readServiceAccountToken tokens' read) := by
  cases read with
  | text version => exact .ok (hTokens version)
  | osError => exact .ok (.refl "")
  | raised raised => exact .error raised

theorem stateAlike_initial (clock : ℚ) :
    StateAlike (twins F app.hostRoot) (RelatedStores app.hostRoot) (.initial clock .initial)
      (.initial clock .initial) where
  shared := ⟨rfl, fun _ => rfl, rfl, rfl, Tables.verified_empty, rfl, fun _ h => by cases h⟩
  roots := .nil

variable [Unicode]

/-- The two systems differ in the token only, and their programs do not tell. -/
theorem twins_of_tokens
    (hTokens : ∀ version, SameKind (stripped (tokens version)) (stripped (tokens' version))) :
    Twins (twins F app.hostRoot) (RelatedStores app.hostRoot) (system app tokens)
      (handle app tokens') where
  body := alike_body app
  entry := alike_entry app
  cacheIf := fun _ => rfl
  handle := by
    intro effect effect' now env store store' hEffect hStores
    cases hEffect with
    | @send request token token' hSame hTrusts =>
        refine ⟨⟨relatedReplies_sendRequest app request hSame env store store', fun hNone => ?_⟩,
          hStores.sendTrusted app { request with headers := bearer token }
            { request with headers := bearer token' } hTrusts hTrusts env⟩
        have hToken : token = "" := (bearer_eq_nil_iff token).mp hNone
        have hToken' : token' = "" := hSame.empty.mp hToken
        subst hToken hToken'
        exact (reply_anonymous app { request with headers := bearer "" } rfl env store).trans
          (reply_anonymous app { request with headers := bearer "" } rfl env store').symm
    | same _ hAnonymous =>
        cases effect with
        | token => exact ⟨relatedTokens_of_read hTokens env.token, hStores⟩
        | certClient key =>
            obtain ⟨hVerify, hVerified⟩ := hStores.verified.certClient key env.mtime env.built
            have hSame : store.tables.certClient app.hostRoot key env.mtime env.built =
                store'.tables.certClient app.hostRoot key env.mtime env.built := by
              rw [hStores.tables]
            have hClient := congrArg Prod.fst hSame
            have hTables := congrArg Prod.snd hSame
            exact ⟨⟨hClient, hVerify⟩, hTables, hVerified, hStores.low, hStores.confined⟩
        | client key =>
            obtain ⟨_, hVerified⟩ := hStores.verified.client key
            have hSame :
                store.tables.client app.hostRoot key = store'.tables.client app.hostRoot key := by
              rw [hStores.tables]
            have hClient := congrArg Prod.fst hSame
            have hTables := congrArg Prod.snd hSame
            exact ⟨hClient, hTables, hVerified, hStores.low, hStores.confined⟩
        | send request =>
            have hNone := hAnonymous request rfl
            have hReply :
                (app.sendRequest request env store).1 = (app.sendRequest request env store').1 :=
              (reply_anonymous app request hNone env store).trans
                (reply_anonymous app request hNone env store').symm
            have hRelated := RelatedReplies.refl (app.sendRequest request env store).1
            exact ⟨⟨hReply ▸ hRelated, fun _ => hReply⟩, hStores.sendAnonymous app hNone env⟩
        | hostNetwork => exact ⟨rfl, hStores⟩
        | readFile path => exact ⟨rfl, hStores⟩
        | runCommand cmd => exact ⟨rfl, hStores⟩

/-- Two runs of the same calls, in the same order, with the same answers from outside:
whatever two tokens of one kind there are, the requests on the insecure, the public and the
etcd client are the same in both. And in every run the token is sent only to a peer that
the cluster's certificate authority vouches for. -/
theorem tokenConfinement {clock : ℚ} {actions : List (Tasks.Action (Env F) Entry)}
    {s : Tasks.State (signature F) Store}
    (h : Runs (Tasks.step (system app tokens)) (.initial clock .initial) actions s) :
    (∀ request ∈ s.shared.store.requests, request.Authorized →
      TrustsServiceAccountCa request.client) ∧ ∀ tokens' : Nat → String,
        (∀ version, SameKind (stripped (tokens version)) (stripped (tokens' version))) →
        (∃ s', Runs (Tasks.step (system app tokens')) (.initial clock .initial) actions s') ∧
          ∀ s', Runs (Tasks.step (system app tokens')) (.initial clock .initial) actions s' →
            lowRequests app.hostRoot s.shared.store.requests =
              lowRequests app.hostRoot s'.shared.store.requests := by
  constructor
  · obtain ⟨_, _, hAlike⟩ :=
      runs_alike (twins_of_tokens app fun version => .refl (stripped (tokens version))) h
      (stateAlike_initial app clock)
    exact hAlike.shared.store.confined
  · intro tokens' hTokens
    obtain ⟨s', hRun, hAlike⟩ :=
      runs_alike (twins_of_tokens app hTokens) h (stateAlike_initial app clock)
    refine ⟨⟨s', hRun⟩, fun other hOther => ?_⟩
    rw [hOther.unique hRun]
    exact hAlike.shared.store.low

end Runs

/-- In a pod, with an etcd that is never asked. -/
def inCluster : App Int where
  environ := fun name => if name = "KUBERNETES_SERVICE_HOST" then some "10.96.0.1" else none
  refuses := fun _ => false
  etcdStatus := fun _ _ => .error (.exception "")

/-- The token file can be read, the certificates are in place, and every peer says "ok". -/
def mounted : Env Int where
  token := .text 0
  mtime := fun _ => some 1
  built := true
  sent := .ok { status := 200, text := "ok", json := none }
  ownNamespace := none
  hostNamespace := none
  file := ""
  command := ("", "", 1)

/-- One `_k8s_get` from its start to its end. -/
def nodeListCall : List (Tasks.Action (Env Int) Entry) :=
  [.begin (.k8sGet "/api/v1/nodes" none), .act 0 [] (.ask mounted 1), .act 0 [] (.ask mounted 2),
    .act 0 [] (.ask mounted 3)]

theorem execute_nodeListCall :
    letI := Unicode.ascii
    (execute (Tasks.step (system inCluster fun _ => "first\n"))
      (.initial 0 .initial) nodeListCall).map
      (fun s => s.shared.store.requests.map Request.headers) =
        some [[("Authorization", "Bearer first")]] := by
  decide +kernel

/-- The call sends the token, and sends it only where it belongs. -/
theorem tokenConfinement_nodeListCall :
    letI := Unicode.ascii
    ∃ s, Runs (Tasks.step (system inCluster fun _ => "first\n"))
      (.initial 0 .initial) nodeListCall s ∧
      (∃ request ∈ s.shared.store.requests, request.Authorized) ∧
      (∀ request ∈ s.shared.store.requests, request.Authorized →
        TrustsServiceAccountCa request.client) ∧
      (∃ s', Runs (Tasks.step (system inCluster fun _ => "second\n"))
        (.initial 0 .initial) nodeListCall s') ∧
      ∀ s', Runs (Tasks.step (system inCluster fun _ => "second\n"))
        (.initial 0 .initial) nodeListCall s' →
        lowRequests "/host" s.shared.store.requests =
          lowRequests "/host" s'.shared.store.requests := by
  let : Unicode := Unicode.ascii
  obtain ⟨s, hExecute, hHeaders⟩ := Option.map_eq_some_iff.mp execute_nodeListCall
  have hRun := runs_of_execute hExecute
  have hSent : ∃ request ∈ s.shared.store.requests, request.Authorized := by
    have hMem :
        [("Authorization", "Bearer first")] ∈ s.shared.store.requests.map Request.headers := by
      rw [hHeaders]
      exact List.mem_singleton_self _
    obtain ⟨request, hRequest, hHeader⟩ := List.mem_map.mp hMem
    exact ⟨request, hRequest, "Bearer first", by rw [hHeader]; exact List.mem_singleton_self _⟩
  have hKind : SameKind (stripped "first\n") (stripped "second\n") := by
    have hFirst : stripped "first\n" = "first" := by decide +kernel
    have hSecond : stripped "second\n" = "second" := by decide +kernel
    rw [hFirst, hSecond]
    exact ⟨by decide, by decide⟩
  have hConfined := tokenConfinement inCluster hRun
  exact ⟨s, hRun, hSent, hConfined.1, hConfined.2 _ fun _ => hKind⟩

/-- One `collect_connectivity` on its own, up to the reply of the API server. -/
def connectivityCall (root : Nat) (now : ℚ) : List (Tasks.Action (Env Int) Entry) :=
  [.begin .connectivity, .act root [] (.arrive now now now), .act root [] (.ask mounted now),
    .act root [] (.ask mounted now), .act root [] .spawn, .act root [0] (.ask mounted now),
    .act root [] .join, .act root [] (.ask mounted now), .act root [] (.ask mounted now),
    .act root [] (.ask mounted now),
    .act root [] (.ask mounted now), .act root [] (.ask mounted now)]

/-- The first call returns, and the second finds what the first one has kept. -/
def keptCalls : List (Tasks.Action (Env Int) Entry) :=
  connectivityCall 0 1 ++ [.act 0 [] (.ask mounted 1), .act 0 [] (.leave 1), .begin .connectivity,
    .act 1 [] (.arrive 2 2 2)]

/-- The first call raises at the API server, and so does the second. -/
def failedCalls : List (Tasks.Action (Env Int) Entry) :=
  connectivityCall 0 1 ++ [.act 0 [] (.leave 1)] ++ connectivityCall 1 2 ++ [.act 1 [] (.leave 2)]

/-- The URLs of the requests without the token, and whether every call has ended. -/
def outcome (s : Tasks.State (signature Int) Store) : List String × Bool :=
  ((lowRequests "/host" s.shared.store.requests).map Request.url, s.roots.all fun root =>
    root.2.result?.isSome)

theorem execute_keptCalls :
    letI := Unicode.ascii
    (execute (Tasks.step (system inCluster fun _ => "first\n")) (.initial 0 .initial) keptCalls).map
      outcome =
      some (["https://www.google.com"], true) := by
  decide +kernel

theorem execute_failedCalls :
    letI := Unicode.ascii
    (execute (Tasks.step (system inCluster fun _ => "é\n")) (.initial 0 .initial) failedCalls).map
      outcome =
      some (["https://www.google.com", "https://www.google.com"], true) := by
  decide +kernel

/-- The calls that an order of steps begins. -/
def begun (actions : List (Tasks.Action (Env Int) Entry)) : List Entry :=
  actions.filterMap fun
    | .begin entry => some entry
    | .act .. => none

/-- What the environment says in an order of steps. -/
def answers (actions : List (Tasks.Action (Env Int) Entry)) : List (Env Int) :=
  actions.filterMap fun
    | .act _ _ (.ask env _) => some env
    | _ => none

/-- Two calls of `collect_connectivity`, one after the other, in the same surroundings: a
token that cannot be encoded makes both raise, so the second one asks the public client
again, where with another token it finds the result of the first. -/
theorem not_tokenConfinement :
    letI := Unicode.ascii
    stripped "first\n" ≠ "" ∧ stripped "é\n" ≠ "" ∧
    ∃ s s', Runs (Tasks.step (system inCluster fun _ => "first\n"))
      (.initial 0 .initial) keptCalls s ∧
      Runs (Tasks.step (system inCluster fun _ => "é\n")) (.initial 0 .initial) failedCalls s' ∧
      begun keptCalls = begun failedCalls ∧
      (∀ env ∈ answers keptCalls ++ answers failedCalls, env = mounted) ∧
      (∀ root ∈ s.roots, root.2.result?.isSome) ∧ (∀ root ∈ s'.roots, root.2.result?.isSome) ∧
      lowRequests "/host" s.shared.store.requests ≠
        lowRequests "/host" s'.shared.store.requests := by
  let : Unicode := Unicode.ascii
  obtain ⟨s, hKept, hOutcome⟩ := Option.map_eq_some_iff.mp execute_keptCalls
  obtain ⟨s', hFailed, hOutcome'⟩ := Option.map_eq_some_iff.mp execute_failedCalls
  obtain ⟨hUrls, hEnded⟩ := Prod.mk.inj hOutcome
  obtain ⟨hUrls', hEnded'⟩ := Prod.mk.inj hOutcome'
  refine ⟨by decide +kernel, by decide +kernel, s, s', runs_of_execute hKept,
    runs_of_execute hFailed, rfl, ?_, List.all_eq_true.mp hEnded,
    List.all_eq_true.mp hEnded', fun hSame => ?_⟩
  · simp [answers, keptCalls, failedCalls, connectivityCall]
  · rw [hSame, hUrls'] at hUrls
    exact absurd hUrls (by decide)

end NodeDebugDashboard.Collectors.Kubernetes
