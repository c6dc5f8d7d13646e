import NodeDebugDashboard.Library.Dict

/-! The shared HTTP clients, built lazily and kept in tables. -/
namespace NodeDebugDashboard.HttpClient

open Library

/-- The keys of `_clients`: "kubernetes", "apiserver-local", "insecure", "public", "etcd". -/
inductive ClientKey where
  | kubernetes
  | apiserverLocal
  | insecure
  | publicInternet
  | etcd
  deriving DecidableEq, Repr

/-- How a client verifies its peer. -/
inductive Verify where
  /-- `verify=False` -/
  | off
  /-- the certificates that ship with the library -/
  | bundled
  /-- `ssl.create_default_context(cafile=..)`, with what is set on it afterwards -/
  | context (cafile : String) (certChain : Option (String × String)) (checkHostname : Bool)
  deriving DecidableEq, Repr

def saDir : String := "/var/run/secrets/kubernetes.io/serviceaccount"

def saCaPath : String := saDir ++ "/ca.crt"

def etcdCa (hostRoot : String) : String := hostRoot ++ "/system/secrets/etcd/ca.crt"

def etcdCert (hostRoot : String) : String := hostRoot ++ "/system/secrets/etcd/admin.crt"

def etcdKey (hostRoot : String) : String := hostRoot ++ "/system/secrets/etcd/admin.key"

/-- The certificate files that the client of a key is built from. -/
def ClientKey.files (hostRoot : String) : ClientKey → List String
  | .kubernetes => [saCaPath]
  | .apiserverLocal => [saCaPath]
  | .etcd => [etcdCa hostRoot, etcdCert hostRoot, etcdKey hostRoot]
  | .insecure => []
  | .publicInternet => []

/-- What `build` or the keyword arguments of `_client` make the client verify with. -/
def ClientKey.verify (hostRoot : String) : ClientKey → Verify
  | .kubernetes => .context saCaPath none true
  | .apiserverLocal => .context saCaPath none false
  | .etcd => .context (etcdCa hostRoot) (some (etcdCert hostRoot, etcdKey hostRoot)) false
  | .insecure => .off
  | .publicInternet => .bundled

/-- An `httpx.AsyncClient`; the identity tells two of them apart. -/
structure Client where
  id : Nat
  verify : Verify
  deriving DecidableEq, Repr

/-- The module's tables, and which clients are closed. -/
structure Tables where
  clients : Dict ClientKey Client
  stamps : Dict ClientKey (List Int)
  retired : List Client
  closed : List Nat
  nextId : Nat

namespace Tables

def empty : Tables where
  clients := .empty
  stamps := .empty
  retired := []
  closed := []
  nextId := 0

variable (hostRoot : String)

/-- `client.is_closed` -/
def isClosed (t : Tables) (client : Client) : Bool := client.id ∈ t.closed

/-- A new client under the key. -/
def create (t : Tables) (key : ClientKey) : Client × Tables :=
  let client : Client := { id := t.nextId, verify := key.verify hostRoot }
  (client, { t with clients := t.clients.set key client, nextId := t.nextId + 1 })

/-- `_client` -/
def client (t : Tables) (key : ClientKey) : Client × Tables :=
  match t.clients.get? key with
  | some client => if t.isClosed client then t.create hostRoot key else (client, t)
  | none => t.create hostRoot key

/-- The stored client, when it is open and was built from files with these times. -/
def current? (t : Tables) (key : ClientKey) (stamp : List Int) : Option Client :=
  match t.clients.get? key with
  | some client =>
      if t.isClosed client = false ∧ t.stamps.get? key = some stamp then some client else none
  | none => none

/-- The client that was found is retired if it is open. -/
def retire (t : Tables) : Option Client → Tables
  | some client => if t.isClosed client then t else { t with retired := t.retired ++ [client] }
  | none => t

/-- The end of `_cert_client`: a client with the new context takes the place of the
one that was found. -/
def install (t : Tables) (key : ClientKey) (stamp : List Int) (found : Option Client) :
    Client × Tables :=
  let made := (t.retire found).create hostRoot key
  (made.1, { made.2 with stamps := made.2.stamps.set key stamp })

/-- `_cert_client`, when nothing happens to the files or the clients meanwhile; `mtime`
says what each stat gives, `built` whether the context could be built. -/
def certClient (t : Tables) (key : ClientKey) (mtime : String → Option Int) (built : Bool) :
    Option Client × Tables :=
  match (key.files hostRoot).mapM mtime with
  | none => (none, t)
  | some stamp =>
      match t.current? key stamp with
      | some client => (some client, t)
      | none =>
          if built then
            let made := t.install hostRoot key stamp (t.clients.get? key)
            (some made.1, made.2)
          else (none, t)

/-- Every client in the table verifies its peer the way its key says. -/
def Verified (t : Tables) : Prop :=
  ∀ key client, t.clients.get? key = some client → client.verify = key.verify hostRoot

variable {hostRoot}

theorem verified_empty : empty.Verified hostRoot := fun _ _ h => by cases h

theorem Verified.create {t : Tables} (h : t.Verified hostRoot) (key : ClientKey) :
    (t.create hostRoot key).2.Verified hostRoot := by
  intro other client hClient
  simp only [Tables.create, Dict.get?_set] at hClient
  split_ifs at hClient with hKey
  · cases hClient
    rw [hKey]
  · exact h other client hClient

theorem Verified.retire {t : Tables} (h : t.Verified hostRoot) (found : Option Client) :
    (t.retire found).Verified hostRoot := by
  unfold Tables.retire
  split
  · split <;> exact h
  · exact h

theorem Verified.client {t : Tables} (h : t.Verified hostRoot) (key : ClientKey) :
    (t.client hostRoot key).1.verify = key.verify hostRoot ∧
    (t.client hostRoot key).2.Verified hostRoot := by
  unfold Tables.client
  split
  · next client hClient =>
    split
    · exact ⟨rfl, h.create key⟩
    · exact ⟨h key client hClient, h⟩
  · exact ⟨rfl, h.create key⟩

theorem get?_of_current? {t : Tables} {key : ClientKey} {stamp : List Int} {client : Client}
    (h : t.current? key stamp = some client) :
    t.clients.get? key = some client ∧ t.stamps.get? key = some stamp := by
  unfold current? at h
  split at h
  · next found hFound =>
    simp only [Option.ite_none_right_eq_some, Option.some.injEq] at h
    obtain ⟨⟨_, hStamp⟩, rfl⟩ := h
    exact ⟨hFound, hStamp⟩
  · cases h

theorem Verified.certClient {t : Tables} (h : t.Verified hostRoot) (key : ClientKey)
    (mtime : String → Option Int) (built : Bool) :
    (∀ client, (t.certClient hostRoot key mtime built).1 = some client →
        client.verify = key.verify hostRoot) ∧
      (t.certClient hostRoot key mtime built).2.Verified hostRoot := by
  unfold Tables.certClient
  split
  · exact ⟨by simp, h⟩
  · split
    · next client hCurrent =>
      refine ⟨fun other hOther => ?_, h⟩
      cases hOther
      exact h key client (get?_of_current? hCurrent).1
    · split
      · refine ⟨fun other hOther => ?_, (h.retire _).create key⟩
        cases hOther
        rfl
      · exact ⟨by simp, h⟩

end Tables
end NodeDebugDashboard.HttpClient
