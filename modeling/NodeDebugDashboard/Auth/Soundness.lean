import NodeDebugDashboard.Auth.Middleware

/-! Who gets past the middleware, said without the code: the application is
called for the exempt path and for the two kinds of credentials, and for
nothing else. -/
namespace NodeDebugDashboard.Auth

open Library.Text

/-- `Authorization`, in any case. -/
def IsAuthorization (name : Bytes) : Prop := name.map lowerByte = encodeUtf8 "authorization".toList

/-- The value of the first header with that name. -/
def FirstAuthorization (headers : List (Bytes × Bytes)) (value : Bytes) : Prop :=
  ∃ earlier name later, headers = earlier ++ (name, value) :: later ∧ IsAuthorization name ∧
    ∀ other ∈ earlier, ¬IsAuthorization other.1

/-- The scheme is this one, in any case. -/
def IsScheme (name : String) (scheme : List Char) : Prop := scheme.map Char.toLower = name.toList

/-- The header value, read as Latin-1, carries the configured credentials. -/
inductive Carries (cfg : Config) (value : Bytes) : Prop where
  | bearer {scheme : List Char} {credentials : Bytes}
      (hSplit : SplitsAt (strip (decodeLatin1 value)) scheme (decodeLatin1 credentials))
      (hScheme : IsScheme "bearer" scheme) (hToken : cfg.authToken ≠ "")
      (hSame : credentials = encodeUtf8 cfg.authToken.toList)
  | basic {scheme payload username password : List Char} {data : Bytes}
      (hSplit : SplitsAt (strip (decodeLatin1 value)) scheme payload)
      (hScheme : IsScheme "basic" scheme) (hPassword : cfg.authPassword ≠ "")
      (hData : b64decode payload = some data)
      (hText : data = encodeUtf8 (username ++ ':' :: password)) (hFirst : ':' ∉ username)
      (hUsername : username = cfg.authUsername.toList) (hSame : password = cfg.authPassword.toList)

/-- The scope asks for the exempt path or carries the credentials. -/
def Permitted (cfg : Config) (scope : Scope) : Prop :=
  scope.path = some "/api/health" ∨
    ∃ value, FirstAuthorization scope.headers value ∧ Carries cfg value

/-- What turns a request of each kind away. -/
def Rejects : ScopeType → Message → Prop
  | .websocket, .close code => code = 1008
  | .http, .response status _ _ => status = 401
  | _, _ => False

theorem exempt_iff {path : Option String} : exempt path = true ↔ path = some "/api/health" := by
  cases path <;> simp [exempt, exemptPaths]

/-- Lowering the case in Latin-1 finds the same schemes as lowering it in ASCII. -/
theorem map_lowerLatin1_eq_iff {scheme name : List Char} (h : ∀ letter ∈ name, letter.toNat < 128) :
    scheme.map lowerLatin1 = name ↔ scheme.map Char.toLower = name := by
  induction scheme generalizing name with
  | nil => simp
  | cons c rest ih =>
      cases name with
      | nil => simp
      | cons letter letters =>
          rw [List.map_cons, List.map_cons, List.cons_eq_cons, List.cons_eq_cons,
            lowerLatin1_eq_iff (h letter List.mem_cons_self),
            ih fun other hOther => h other (List.mem_cons_of_mem _ hOther)]

/-- Both ends of what is left after the first word of stripped text are kept. -/
theorem strip_rest {text word rest : List Char} (h : SplitsAt (strip text) word rest) :
    strip rest = rest := by
  obtain ⟨gap, hText, _, _, _, _, first, hHead, hFirst⟩ := h
  apply strip_eq_self_of_ends
  · intro c hc
    rw [hHead] at hc
    cases hc
    exact hFirst
  · intro c hc
    have hLast : (strip text).getLast? = some c := by
      rw [hText, List.getLast?_append, hc]
      rfl
    exact getLast?_strip hLast

/-- The scheme and the credentials that the code splits the header into. -/
theorem splitScheme_iff {header credentials : List Char} (name : String) (hName : name ≠ "")
    (hAscii : ∀ letter ∈ name.toList, letter.toNat < 128) :
    splitScheme header = (name.toList, credentials) ↔
      ∃ scheme, SplitsAt (strip header) scheme credentials ∧ IsScheme name scheme := by
  have hSplit : ∀ scheme rest, splitFirst (strip header) = [scheme, rest] ↔
      SplitsAt (strip header) scheme rest :=
    fun scheme rest => splitFirst_eq_pair_iff fun c => head?_strip
  constructor
  · intro h
    unfold splitScheme at h
    split at h
    · rename_i scheme rest hParts
      have hRest := (hSplit scheme rest).mp hParts
      obtain ⟨hScheme, rfl⟩ := Prod.mk.injEq _ _ _ _ ▸ h
      rw [strip_rest hRest]
      exact ⟨scheme, hRest, (map_lowerLatin1_eq_iff hAscii).mp hScheme⟩
    · exact absurd (String.toList_eq_nil_iff.mp (congrArg Prod.fst h).symm) hName
  · rintro ⟨scheme, hRest, hScheme⟩
    rw [splitScheme, (hSplit scheme credentials).mpr hRest]
    simp only [strip_rest hRest, (map_lowerLatin1_eq_iff hAscii).mpr hScheme]

theorem same_iff {a b : List Char} : same a b = true ↔ a = b := by
  simp [same, encodeUtf8_injective.eq_iff]

/-- The credentials are in Latin-1, as the whole header is. -/
theorem exists_credentials {value : Bytes} {scheme rest : List Char}
    (h : SplitsAt (strip (decodeLatin1 value)) scheme rest) : ∃ data, rest = decodeLatin1 data := by
  obtain ⟨gap, hText, _⟩ := h
  apply exists_decodeLatin1
  intro c hc
  have hStripped : c ∈ strip (decodeLatin1 value) := by
    rw [hText]
    exact List.mem_append_right _ hc
  exact toNat_of_mem_decodeLatin1 ((strip_isInfix _).subset hStripped)

theorem checkBearer_iff {cfg : Config} {value : Bytes} :
    checkBearer cfg (decodeLatin1 value) = true ↔ cfg.authToken ≠ "" ∧ ∃ scheme credentials,
      SplitsAt (strip (decodeLatin1 value)) scheme (decodeLatin1 credentials) ∧
        IsScheme "bearer" scheme ∧ credentials = encodeUtf8 cfg.authToken.toList := by
  constructor
  · intro h
    rcases hParts : splitScheme (decodeLatin1 value) with ⟨scheme, token⟩
    simp only [checkBearer, hParts] at h
    split_ifs at h with hRefused
    obtain ⟨hToken, hScheme⟩ := not_or.mp hRefused
    rw [not_not.mp hScheme] at hParts
    obtain ⟨scheme, hSplit, hScheme⟩ := (splitScheme_iff "bearer" (by decide) (by decide)).mp hParts
    obtain ⟨data, rfl⟩ := exists_credentials hSplit
    rw [encodeLatin1_decodeLatin1] at h
    exact ⟨hToken, scheme, data, hSplit, hScheme, of_decide_eq_true h⟩
  · rintro ⟨hToken, scheme, credentials, hSplit, hScheme, hSame⟩
    have hParts := (splitScheme_iff "bearer" (by decide) (by decide)).mpr ⟨scheme, hSplit, hScheme⟩
    simp [checkBearer, hParts, hToken, encodeLatin1_decodeLatin1, hSame]

/-- The text before the first colon and the text after it. -/
theorem partition_iff {text first later : List Char} (hLater : later ≠ []) :
    (text.takeWhile (· ≠ ':') = first ∧ (text.dropWhile (· ≠ ':')).drop 1 = later) ↔
      text = first ++ ':' :: later ∧ ':' ∉ first := by
  constructor
  · rintro ⟨rfl, rfl⟩
    obtain ⟨hWhole, hFirst, hStop⟩ := span_spec (fun c : Char => decide (c ≠ ':')) text
    cases hRest : text.dropWhile (· ≠ ':') with
    | nil => exact absurd (by rw [hRest]; rfl) hLater
    | cons c rest =>
        have hColon : c = ':' := by simpa using hStop c (by rw [hRest]; rfl)
        subst hColon
        rw [hRest] at hWhole
        exact ⟨hWhole, fun hMem => by simpa using hFirst ':' hMem⟩
  · rintro ⟨rfl, hFirst⟩
    have hSpan : (first ++ ':' :: later).takeWhile (· ≠ ':') = first ∧
        (first ++ ':' :: later).dropWhile (· ≠ ':') = ':' :: later := by
      refine span_eq_iff.mpr ⟨rfl, fun c hc => ?_, fun c hc => by cases hc; rfl⟩
      simp only [ne_eq, decide_not, Bool.not_eq_eq_eq_not, Bool.not_true, decide_eq_false_iff_not]
      rintro rfl
      exact hFirst hc
    rw [hSpan.1, hSpan.2]
    exact ⟨rfl, rfl⟩

theorem checkBasic_iff {cfg : Config} {value : Bytes} :
    checkBasic cfg (decodeLatin1 value) = true ↔ cfg.authPassword ≠ "" ∧
      ∃ scheme payload data, SplitsAt (strip (decodeLatin1 value)) scheme payload ∧
        IsScheme "basic" scheme ∧ b64decode payload = some data ∧
        data = encodeUtf8 (cfg.authUsername.toList ++ ':' :: cfg.authPassword.toList) ∧
        ':' ∉ cfg.authUsername.toList := by
  constructor
  · intro h
    rcases hParts : splitScheme (decodeLatin1 value) with ⟨scheme, payload⟩
    simp only [checkBasic, hParts] at h
    split_ifs at h with hRefused
    obtain ⟨hPassword, hScheme⟩ := not_or.mp hRefused
    rw [not_not.mp hScheme] at hParts
    obtain ⟨scheme, hSplit, hScheme⟩ := (splitScheme_iff "basic" (by decide) (by decide)).mp hParts
    cases hDecoded : (b64decode payload).bind decodeUtf8 with
    | none => simp [hDecoded] at h
    | some decoded =>
        simp only [hDecoded, Bool.and_eq_true, same_iff] at h
        obtain ⟨data, hData, hText⟩ := Option.bind_eq_some_iff.mp hDecoded
        have hSome : cfg.authPassword.toList ≠ [] := fun hNil =>
          hPassword (String.toList_eq_nil_iff.mp hNil)
        obtain ⟨rfl, hFirst⟩ := (partition_iff hSome).mp h
        exact ⟨hPassword, scheme, payload, data, hSplit, hScheme, hData,
          decodeUtf8_eq_some_iff.mp hText, hFirst⟩
  · rintro ⟨hPassword, scheme, payload, data, hSplit, hScheme, hData, hText, hFirst⟩
    have hParts := (splitScheme_iff "basic" (by decide) (by decide)).mpr ⟨scheme, hSplit, hScheme⟩
    have hSome : cfg.authPassword.toList ≠ [] := fun hNil =>
      hPassword (String.toList_eq_nil_iff.mp hNil)
    obtain ⟨hUser, hPass⟩ := (partition_iff hSome).mpr ⟨rfl, hFirst⟩
    have hDecoded : (b64decode payload).bind decodeUtf8 =
        some (cfg.authUsername.toList ++ ':' :: cfg.authPassword.toList) := by
      rw [hData]
      exact decodeUtf8_eq_some_iff.mpr hText
    simp only [checkBasic, hParts, hPassword, hDecoded, Bool.and_eq_true, same_iff, ne_eq,
      not_true_eq_false, or_self, if_false]
    exact ⟨hUser, hPass⟩

/-- `is_authorized` accepts a header value exactly when it carries the credentials. -/
theorem isAuthorized_iff {cfg : Config} (hConfigured : cfg.authConfigured = true) {value : Bytes} :
    isAuthorized cfg (decodeLatin1 value) = true ↔ Carries cfg value := by
  have hChecks : isAuthorized cfg (decodeLatin1 value) = true ↔
      checkBearer cfg (decodeLatin1 value) = true ∨ checkBasic cfg (decodeLatin1 value) = true := by
    unfold isAuthorized
    rw [if_neg (by simp [hConfigured])]
    split_ifs with hEmpty
    · rw [hEmpty]
      simp [checkBearer, checkBasic, splitScheme, splitFirst, strip]
    · rw [Bool.or_eq_true]
  rw [hChecks, checkBearer_iff, checkBasic_iff]
  constructor
  · rintro (⟨hToken, scheme, credentials, hSplit, hScheme, hSame⟩ |
      ⟨hPassword, scheme, payload, data, hSplit, hScheme, hData, hText, hFirst⟩)
    · exact .bearer hSplit hScheme hToken hSame
    · exact .basic hSplit hScheme hPassword hData hText hFirst rfl rfl
  · rintro (⟨hSplit, hScheme, hToken, hSame⟩ |
      ⟨hSplit, hScheme, hPassword, hData, hText, hFirst, hUsername, hSame⟩)
    · exact .inl ⟨hToken, _, _, hSplit, hScheme, hSame⟩
    · subst hUsername hSame
      exact .inr ⟨hPassword, _, _, _, hSplit, hScheme, hData, hText, hFirst⟩

/-- `_header` returns the value of the first header of the name. -/
theorem header_iff {scope : Scope} {value : Bytes}
    (h : FirstAuthorization scope.headers value) :
    header scope authorizationName = decodeLatin1 value := by
  obtain ⟨earlier, name, later, hHeaders, hName, hEarlier⟩ := h
  have hFind : scope.headers.find? (fun h => h.1.map lowerByte = authorizationName) =
      some (name, value) := by
    rw [List.find?_eq_some_iff_append]
    refine ⟨decide_eq_true hName, earlier, later, hHeaders, fun other hOther => ?_⟩
    rw [Bool.not_eq_true', decide_eq_false_iff_not]
    exact hEarlier other hOther
  rw [header, hFind]

theorem header_of_none {scope : Scope}
    (h : ∀ value, ¬FirstAuthorization scope.headers value) :
    header scope authorizationName = [] := by
  unfold header
  split
  · rename_i found hFind
    obtain ⟨hName, earlier, later, hHeaders, hEarlier⟩ := List.find?_eq_some_iff_append.mp hFind
    have hIs : found.1.map lowerByte = authorizationName := of_decide_eq_true hName
    refine absurd ⟨earlier, found.1, later, hHeaders, hIs, ?_⟩ (h found.2)
    intro other hOther
    have hOtherName := hEarlier other hOther
    rwa [Bool.not_eq_true', decide_eq_false_iff_not] at hOtherName
  · rfl

theorem permitted_iff {cfg : Config} (hConfigured : cfg.authConfigured = true) {scope : Scope} :
    (exempt scope.path || isAuthorized cfg (header scope authorizationName)) = true ↔
      Permitted cfg scope := by
  rw [Bool.or_eq_true, exempt_iff]
  refine or_congr Iff.rfl ?_
  by_cases hFirst : ∃ value, FirstAuthorization scope.headers value
  · obtain ⟨value, hValue⟩ := hFirst
    rw [header_iff hValue, isAuthorized_iff hConfigured]
    constructor
    · exact fun hCarries => ⟨value, hValue, hCarries⟩
    · rintro ⟨other, hOther, hCarries⟩
      have hSame := (header_iff hValue).symm.trans (header_iff hOther)
      rwa [decodeLatin1_injective hSame]
  · rw [header_of_none fun value hValue => hFirst ⟨value, hValue⟩]
    constructor
    · intro h
      simp [isAuthorized, hConfigured] at h
    · rintro ⟨value, hValue, _⟩
      exact absurd ⟨value, hValue⟩ hFirst

/-- With credentials configured, a request reaches the application exactly when
it is permitted, and is turned away once otherwise. -/
theorem authSoundness (cfg : Config) (scope : Scope)
    (hConfigured : cfg.authToken ≠ "" ∨ cfg.authPassword ≠ "")
    (hType : scope.type = .http ∨ scope.type = .websocket) :
    (Permitted cfg scope ∧ authMiddleware cfg scope = [.app]) ∨
      (¬Permitted cfg scope ∧ ∃ message, authMiddleware cfg scope = [.send message] ∧
        Rejects scope.type message) := by
  have hCfg : cfg.authConfigured = true := by simpa [Config.authConfigured] using hConfigured
  have hGuarded : ¬(scope.type = .lifespan ∨ ¬cfg.authConfigured) := by
    rcases hType with hHttp | hWebsocket
    · simp [hHttp, hCfg]
    · simp [hWebsocket, hCfg]
  by_cases hPermitted : Permitted cfg scope
  · left
    refine ⟨hPermitted, ?_⟩
    rw [authMiddleware, if_neg hGuarded, if_pos ((permitted_iff hCfg).mpr hPermitted)]
  · right
    refine ⟨hPermitted, ?_⟩
    rw [authMiddleware, if_neg hGuarded, if_neg fun h => hPermitted ((permitted_iff hCfg).mp h)]
    rcases hType with hHttp | hWebsocket
    · exact ⟨_, by rw [hHttp]; rfl, by rw [hHttp]; rfl⟩
    · exact ⟨_, by rw [hWebsocket]; rfl, by rw [hWebsocket]; rfl⟩

/-- A log stream is asked for without credentials. -/
theorem authSoundness_websocket :
    (Permitted { authToken := "s3cret" } ⟨.websocket, some "/api/containers/abc/logs", []⟩ ∧
        authMiddleware { authToken := "s3cret" }
          ⟨.websocket, some "/api/containers/abc/logs", []⟩ = [.app]) ∨
      (¬Permitted { authToken := "s3cret" } ⟨.websocket, some "/api/containers/abc/logs", []⟩ ∧
        ∃ message, authMiddleware { authToken := "s3cret" }
          ⟨.websocket, some "/api/containers/abc/logs", []⟩ = [.send message] ∧
          Rejects .websocket message) :=
  authSoundness _ _ (.inl (by decide)) (.inr rfl)

end NodeDebugDashboard.Auth
