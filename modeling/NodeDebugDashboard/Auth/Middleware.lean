import NodeDebugDashboard.Library.Base64

/-! app/auth.py, with the credentials of app/config.py. -/
namespace NodeDebugDashboard.Auth

open Library.Text

/-- `AUTH_TOKEN`, `AUTH_USERNAME` and `AUTH_PASSWORD`. -/
structure Config where
  authToken : String := ""
  authUsername : String := "debug"
  authPassword : String := ""

/-- `os.environ.get(name, default).strip()` -/
def setting (environ : String → Option String) (name default : String) : String :=
  String.ofList (strip ((environ name).getD default).toList)

def Config.ofEnviron (environ : String → Option String) : Config where
  authToken := setting environ "AUTH_TOKEN" ""
  authUsername := setting environ "AUTH_USERNAME" "debug"
  authPassword := setting environ "AUTH_PASSWORD" ""

/-- `EXEMPT_PATHS` -/
def exemptPaths : List String := ["/api/health"]

/-- `auth_configured` -/
def Config.authConfigured (cfg : Config) : Bool := cfg.authToken ≠ "" || cfg.authPassword ≠ ""

/-- `_same` -/
def same (a b : List Char) : Bool := encodeUtf8 a = encodeUtf8 b

/-- `_split_scheme` -/
def splitScheme (header : List Char) : List Char × List Char :=
  match splitFirst (strip header) with
  | [scheme, credentials] => (scheme.map lowerLatin1, strip credentials)
  | _ => ([], [])

/-- `_check_bearer` -/
def checkBearer (cfg : Config) (header : List Char) : Bool :=
  let (scheme, token) := splitScheme header
  if cfg.authToken = "" ∨ scheme ≠ "bearer".toList then false
  else
    let raw := match encodeLatin1 token with
      | some raw => raw
      | none => encodeUtf8 token
    raw = encodeUtf8 cfg.authToken.toList

/-- `_check_basic` -/
def checkBasic (cfg : Config) (header : List Char) : Bool :=
  let (scheme, payload) := splitScheme header
  if cfg.authPassword = "" ∨ scheme ≠ "basic".toList then false
  else
    match (b64decode payload).bind decodeUtf8 with
    | none => false
    | some decoded =>
        let username := decoded.takeWhile (· ≠ ':')
        let password := (decoded.dropWhile (· ≠ ':')).drop 1
        same username cfg.authUsername.toList && same password cfg.authPassword.toList

/-- `is_authorized` -/
def isAuthorized (cfg : Config) (header : List Char) : Bool :=
  if ¬cfg.authConfigured then true
  else if header = [] then false
  else checkBearer cfg header || checkBasic cfg header

inductive ScopeType where
  | http
  | websocket
  | lifespan
  deriving DecidableEq

/-- What the middleware reads of an ASGI scope. -/
structure Scope where
  type : ScopeType
  path : Option String
  headers : List (Bytes × Bytes)

/-- `_header`: the first header of that name, or the empty string. -/
def header (scope : Scope) (name : Bytes) : List Char :=
  match scope.headers.find? fun h => h.1.map lowerByte = name with
  | some h => decodeLatin1 h.2
  | none => []

/-- What is sent in place of the application's answer. -/
inductive Message where
  | close (code : Nat)
  | response (status : Nat) (headers content : List (String × String))
  deriving DecidableEq

/-- What the middleware does with a scope. -/
inductive Event where
  | app
  | send (message : Message)
  deriving DecidableEq

def authorizationName : Bytes := encodeUtf8 "authorization".toList

def exempt (path : Option String) : Bool :=
  match path with
  | some path => path ∈ exemptPaths
  | none => false

/-- `AuthMiddleware.__call__` -/
def authMiddleware (cfg : Config) (scope : Scope) : List Event :=
  if scope.type = .lifespan ∨ ¬cfg.authConfigured then [.app]
  else if exempt scope.path || isAuthorized cfg (header scope authorizationName) then [.app]
  else if scope.type = .websocket then [.send (.close 1008)]
  else
    let headers :=
      if cfg.authPassword ≠ "" then
        [("WWW-Authenticate", "Basic realm=\"Node Debug Dashboard\"")]
      else []
    [.send (.response 401 headers [("detail", "Unauthorized")])]

end NodeDebugDashboard.Auth
