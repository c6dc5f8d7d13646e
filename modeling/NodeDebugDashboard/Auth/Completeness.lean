import NodeDebugDashboard.Auth.Soundness

/-! Which credentials get in when the client sends them as the standards say. -/
namespace NodeDebugDashboard.Auth

open Library.Text

/-- `Bearer ` and the UTF-8 encoding of the token. -/
def bearerValue (token : String) : Bytes := encodeUtf8 ("Bearer ".toList ++ token.toList)

/-- `Basic ` and the base64 of the UTF-8 encoding of the user name and the password. -/
def basicValue (username password : String) : Bytes :=
  encodeUtf8 ("Basic ".toList ++ b64encode (encodeUtf8 (username.toList ++ ':' :: password.toList)))

/-- Every request with this header value reaches the application. -/
def Accepted (cfg : Config) (value : Bytes) : Prop :=
  ∀ scope : Scope, FirstAuthorization scope.headers value → authMiddleware cfg scope = [.app]

/-- The last byte is one that Latin-1 reads as whitespace. -/
def EndsLikeSpace (data : Bytes) : Prop := data.getLast? = some 0x85 ∨ data.getLast? = some 0xa0

/-- The encoding of a character is the character itself, or starts with a lead
byte and ends with a continuation byte. -/
theorem utf8EncodeChar_shape (c : Char) :
    (c.toNat < 0x80 ∧ String.utf8EncodeChar c = [UInt8.ofNat c.toNat]) ∨
      ∃ lead middle last, String.utf8EncodeChar c = lead :: (middle ++ [last]) ∧
        0xc0 ≤ lead.toNat ∧ 0x80 ≤ last.toNat ∧ last.toNat < 0xc0 := by
  have hVal : c.val.toNat = c.toNat := rfl
  simp only [String.utf8EncodeChar, hVal]
  split_ifs with hOne hTwo hThree
  · exact .inl ⟨by omega, rfl⟩
  · refine .inr ⟨_, [], _, rfl, ?_⟩
    simp only [UInt8.toNat_ofNat']
    omega
  · refine .inr ⟨_, [_], _, rfl, ?_⟩
    simp only [UInt8.toNat_ofNat']
    omega
  · refine .inr ⟨_, [_, _], _, rfl, ?_⟩
    simp only [UInt8.toNat_ofNat']
    omega

theorem isSpace_ofNat_iff {n : Nat} (hLow : 0x80 ≤ n) (hHigh : n < 0x100) :
    isSpace (Char.ofNat n) = true ↔ n = 0x85 ∨ n = 0xa0 := by
  simp only [isSpace, toNat_ofNat_of_lt (show n < 0xd800 by omega), Bool.or_eq_true,
    Bool.and_eq_true, decide_eq_true_eq]
  omega

/-- Read as Latin-1, the encoding begins with whitespace only if the text does. -/
theorem head?_decodeLatin1_encodeUtf8 {text : List Char}
    (h : ∀ c, text.head? = some c → isSpace c = false) :
    ∀ c, (decodeLatin1 (encodeUtf8 text)).head? = some c → isSpace c = false := by
  cases text with
  | nil => simp [encodeUtf8, decodeLatin1]
  | cons first rest =>
      intro c hc
      rcases utf8EncodeChar_shape first with ⟨hAscii, hByte⟩ | ⟨lead, middle, last,
        hBytes, hLead, _⟩
      · have hSame : c = first := by
          apply Char.toNat_inj.mp
          simp only [encodeUtf8, List.flatMap_cons, hByte, decodeLatin1, List.singleton_append,
            List.map_cons, List.head?_cons, Option.some.injEq] at hc
          rw [← hc, toNat_ofNat_byte]
          simp [Nat.mod_eq_of_lt (show first.toNat < 256 by omega)]
        rw [hSame]
        exact h first rfl
      · simp only [encodeUtf8, List.flatMap_cons, hBytes, decodeLatin1, List.cons_append,
          List.map_cons, List.head?_cons, Option.some.injEq] at hc
        rw [← hc, ← Bool.not_eq_true, isSpace_ofNat_iff (by omega) lead.toNat_lt]
        omega

/-- Read as Latin-1, the encoding ends in whitespace only if its last byte looks
like it, whatever the text ends in. -/
theorem getLast?_decodeLatin1_encodeUtf8 {text : List Char}
    (h : ∀ c, text.getLast? = some c → isSpace c = false) :
    (∀ c, (decodeLatin1 (encodeUtf8 text)).getLast? = some c → isSpace c = false) ↔
      ¬EndsLikeSpace (encodeUtf8 text) := by
  rcases List.eq_nil_or_concat text with rfl | ⟨init, final, rfl⟩
  · simp [encodeUtf8, decodeLatin1, EndsLikeSpace]
  · rw [List.concat_eq_append] at h ⊢
    have hFinal := h final (by simp)
    have hEncoded :
        encodeUtf8 (init ++ [final]) = encodeUtf8 init ++ String.utf8EncodeChar final := by
      rw [encodeUtf8_append]
      simp [encodeUtf8]
    rcases utf8EncodeChar_shape final with ⟨hAscii, hByte⟩ | ⟨lead, middle, last, hBytes,
      _, hLow, hHigh⟩
    · have hNat : (UInt8.ofNat final.toNat).toNat = final.toNat := by
        simp [Nat.mod_eq_of_lt (show final.toNat < 256 by omega)]
      have hSame : Char.ofNat (UInt8.ofNat final.toNat).toNat = final := by
        rw [hNat, Char.ofNat_toNat]
      have hPlain : ¬EndsLikeSpace (encodeUtf8 (init ++ [final])) := by
        rw [hEncoded, hByte]
        simp only [EndsLikeSpace, List.getLast?_concat, Option.some.injEq, ← UInt8.toNat_inj, hNat,
          UInt8.reduceToNat]
        omega
      refine iff_of_true (fun c hc => ?_) hPlain
      rw [hEncoded, hByte, decodeLatin1, List.map_append, List.map_singleton, List.getLast?_concat,
        Option.some.injEq, hSame] at hc
      rwa [← hc]
    · have hSpace := isSpace_ofNat_iff hLow (show last.toNat < 0x100 by omega)
      have hEnd : encodeUtf8 (init ++ [final]) = (encodeUtf8 init ++ lead :: middle) ++ [last] := by
        rw [hEncoded, hBytes]
        simp
      rw [hEnd, decodeLatin1, List.map_append, List.map_singleton, List.getLast?_concat]
      simp only [Option.some.injEq, forall_eq', ← Bool.not_eq_true, hSpace, EndsLikeSpace,
        List.getLast?_concat, ← UInt8.toNat_inj, UInt8.reduceToNat]

/-- Text in ASCII is its own encoding. -/
theorem decodeLatin1_encodeUtf8_ascii {text : List Char} (h : ∀ c ∈ text, c.toNat < 128) :
    decodeLatin1 (encodeUtf8 text) = text := by
  induction text with
  | nil => rfl
  | cons c rest ih =>
      have hRest := ih fun other hOther => h other (List.mem_cons_of_mem _ hOther)
      have hAscii := h c List.mem_cons_self
      rcases utf8EncodeChar_shape c with ⟨_, hByte⟩ | ⟨lead, middle, last, hBytes, _⟩
      · have hNat : (UInt8.ofNat c.toNat).toNat = c.toNat := by
          simp [Nat.mod_eq_of_lt (show c.toNat < 256 by omega)]
        simp only [encodeUtf8, List.flatMap_cons, hByte, decodeLatin1, List.singleton_append,
          List.map_cons, hNat, Char.ofNat_toNat]
        exact congrArg (c :: ·) hRest
      · have hVal : c.val.toNat = c.toNat := rfl
        rw [String.utf8EncodeChar] at hBytes
        simp only [hVal, show c.toNat ≤ 0x7f by omega, if_true] at hBytes
        simp at hBytes

section

variable {word credentials : List Char} (hWord : word ≠ [])
  (hWordChars : ∀ c ∈ word, isSpace c = false)
include hWord hWordChars

/-- A word and what follows it after one blank. -/
theorem splitsAt_word (hHead : ∃ c, credentials.head? = some c ∧ isSpace c = false)
    (hLast : ∀ c, credentials.getLast? = some c → isSpace c = false) :
    SplitsAt (strip (word ++ ' ' :: credentials)) word credentials := by
  have hStrip : strip (word ++ ' ' :: credentials) = word ++ ' ' :: credentials := by
    apply strip_eq_self_of_ends
    · intro c hc
      obtain ⟨first, rest, rfl⟩ := List.exists_cons_of_ne_nil hWord
      cases hc
      exact hWordChars _ List.mem_cons_self
    · intro c hc
      obtain ⟨first, hFirst, _⟩ := hHead
      have hSome : credentials ≠ [] := by
        rintro rfl
        simp at hFirst
      rw [List.getLast?_append_of_ne_nil _ (by simp), List.getLast?_cons,
        List.getLast?_eq_some_getLast hSome] at hc
      exact hLast c (by rw [List.getLast?_eq_some_getLast hSome]; exact hc)
  rw [hStrip]
  exact ⟨[' '], by simp, hWord, hWordChars, by simp, by simp [show isSpace ' ' = true by decide],
    hHead⟩

/-- The first word is the one that stands before the first blank. -/
theorem splitsAt_word_unique {scheme payload : List Char}
    (h : SplitsAt (strip (word ++ ' ' :: credentials)) scheme payload) : scheme = word := by
  obtain ⟨gap, hText, _, hScheme, hGap, hGapChars, _⟩ := h
  have hStart : (word ++ ' ' :: credentials).dropWhile isSpace = word ++ ' ' :: credentials := by
    apply dropWhile_eq_self
    intro c hc
    obtain ⟨first, rest, rfl⟩ := List.exists_cons_of_ne_nil hWord
    cases hc
    exact hWordChars _ List.mem_cons_self
  have hPrefix := strip_isPrefix (word ++ ' ' :: credentials)
  rw [hStart, hText] at hPrefix
  obtain ⟨more, hMore⟩ := hPrefix
  obtain ⟨g, gaps, rfl⟩ := List.exists_cons_of_ne_nil hGap
  have hSpan : ∀ first later : List Char, ∀ blank, (∀ c ∈ first, isSpace c = false) →
      isSpace blank = true → (first ++ blank :: later).takeWhile (!isSpace ·) = first := by
    intro first later blank hFirst hBlank
    refine (span_eq_iff.mpr ⟨rfl, fun c hc => by simp [hFirst c hc], fun c hc => ?_⟩).1
    cases hc
    simp [hBlank]
  calc scheme = (scheme ++ g :: (gaps ++ payload ++ more)).takeWhile (!isSpace ·) :=
        (hSpan _ _ g hScheme (hGapChars g List.mem_cons_self)).symm
    _ = (word ++ ' ' :: credentials).takeWhile (!isSpace ·) := by
        rw [← hMore]
        simp
    _ = word := hSpan _ _ ' ' hWordChars (by decide)

end

/-- A request with this value reaches the application when the value carries the
credentials. -/
theorem accepted_iff {cfg : Config} (hConfigured : cfg.authConfigured = true) {value : Bytes} :
    Accepted cfg value ↔ Carries cfg value := by
  constructor
  · intro h
    let scope : Scope := ⟨.http, none, [(authorizationName, value)]⟩
    have hFirst : FirstAuthorization scope.headers value :=
      ⟨[], authorizationName, [], rfl, by unfold IsAuthorization; decide, by simp⟩
    have hApp := h scope hFirst
    by_contra hCarries
    have hRefused : ¬Permitted cfg scope := by
      rintro (hPath | ⟨other, hOther, hCarried⟩)
      · cases hPath
      · have hSame := (header_iff hFirst).symm.trans (header_iff hOther)
        exact hCarries (decodeLatin1_injective hSame ▸ hCarried)
    rw [← permitted_iff hConfigured, Bool.not_eq_true] at hRefused
    simp [authMiddleware, scope, hConfigured, hRefused] at hApp
  · intro h scope hFirst
    have hPermitted := (permitted_iff hConfigured).mpr (.inr ⟨value, hFirst, h⟩)
    unfold authMiddleware
    split_ifs
    · rfl
    · rfl

theorem carries_basic {cfg : Config} (hPassword : cfg.authPassword ≠ "")
    (hUsername : ':' ∉ cfg.authUsername.toList) :
    Carries cfg (basicValue cfg.authUsername cfg.authPassword) := by
  let data := encodeUtf8 (cfg.authUsername.toList ++ ':' :: cfg.authPassword.toList)
  have hSome : data ≠ [] := by
    intro hNil
    have hText := encodeUtf8_injective (hNil.trans (show [] = encodeUtf8 [] from rfl))
    simp at hText
  have hAscii : ∀ c ∈ "Basic ".toList ++ b64encode data, c.toNat < 128 := by
    intro c hc
    rcases List.mem_append.mp hc with hScheme | hPayload
    · have hAll : ∀ c ∈ "Basic ".toList, c.toNat < 128 := by decide
      exact hAll c hScheme
    · exact (b64encode_plain data c hPayload).1
  obtain ⟨first, rest, hCons⟩ := List.exists_cons_of_ne_nil (b64encode_ne_nil hSome)
  have hSplit : SplitsAt (strip ("Basic".toList ++ ' ' :: b64encode data)) "Basic".toList
      (b64encode data) := by
    apply splitsAt_word (by decide) (by decide)
    · exact ⟨first, by rw [hCons]; rfl, (b64encode_plain data first (by simp [hCons])).2⟩
    · exact fun c hc => (b64encode_plain data c (List.mem_of_getLast? hc)).2
  have hValue : decodeLatin1 (basicValue cfg.authUsername cfg.authPassword) =
      "Basic".toList ++ ' ' :: b64encode data := decodeLatin1_encodeUtf8_ascii hAscii
  exact .basic (hValue ▸ hSplit) (by unfold IsScheme; decide) hPassword
    (b64decode_b64encode data) rfl
    hUsername rfl rfl

theorem carries_bearer_iff {cfg : Config} (hToken : cfg.authToken ≠ "")
    (hStripped : strip cfg.authToken.toList = cfg.authToken.toList) :
    Carries cfg (bearerValue cfg.authToken) ↔ ¬EndsLikeSpace (encodeUtf8 cfg.authToken.toList) := by
  have hSome : cfg.authToken.toList ≠ [] := fun hNil => hToken (String.toList_eq_nil_iff.mp hNil)
  have hHead : ∀ c, cfg.authToken.toList.head? = some c → isSpace c = false := by
    intro c hc
    rw [← hStripped] at hc
    exact head?_strip hc
  have hLast : ∀ c, cfg.authToken.toList.getLast? = some c → isSpace c = false := by
    intro c hc
    rw [← hStripped] at hc
    exact getLast?_strip hc
  have hValue : decodeLatin1 (bearerValue cfg.authToken) =
      "Bearer".toList ++ ' ' :: decodeLatin1 (encodeUtf8 cfg.authToken.toList) := by
    have hScheme : decodeLatin1 (encodeUtf8 "Bearer ".toList) = "Bearer ".toList :=
      decodeLatin1_encodeUtf8_ascii (by decide)
    rw [bearerValue, encodeUtf8_append, decodeLatin1, List.map_append]
    exact congrArg (· ++ _) hScheme
  rw [← getLast?_decodeLatin1_encodeUtf8 hLast]
  constructor
  · rintro (⟨hSplit, _, _, rfl⟩ | ⟨hSplit, hScheme, _⟩)
    · obtain ⟨gap, hText, _⟩ := hSplit
      intro c hc
      have hEnd : (strip (decodeLatin1 (bearerValue cfg.authToken))).getLast? = some c := by
        rw [hText, List.getLast?_append, hc]
        rfl
      exact getLast?_strip hEnd
    · rw [hValue] at hSplit
      rw [splitsAt_word_unique (by decide) (by decide) hSplit] at hScheme
      exact absurd hScheme (by unfold IsScheme; decide)
  · intro hEnd
    have hStart := head?_decodeLatin1_encodeUtf8 hHead
    have hCredentials : decodeLatin1 (encodeUtf8 cfg.authToken.toList) ≠ [] := by
      intro hNil
      have hBytes := decodeLatin1_injective (hNil.trans (show [] = decodeLatin1 [] from rfl))
      exact hSome (encodeUtf8_injective (hBytes.trans (show [] = encodeUtf8 [] from rfl)))
    obtain ⟨first, rest, hCons⟩ := List.exists_cons_of_ne_nil hCredentials
    have hWord : ∀ c ∈ "Bearer".toList, isSpace c = false := by decide
    have hSplit := splitsAt_word (by decide) hWord
      ⟨first, by rw [hCons]; rfl, hStart first (by rw [hCons]; rfl)⟩ hEnd
    exact .bearer (hValue ▸ hSplit) (by unfold IsScheme; decide) hToken rfl

/-- Every configuration that is read from the environment is stripped. -/
theorem ofEnviron_stripped (environ : String → Option String) :
    let cfg := Config.ofEnviron environ
    strip cfg.authToken.toList = cfg.authToken.toList ∧
      strip cfg.authUsername.toList = cfg.authUsername.toList ∧
        strip cfg.authPassword.toList = cfg.authPassword.toList := by
  have hSetting : ∀ name default, strip (setting environ name default).toList =
      (setting environ name default).toList := by
    intro name default
    rw [setting, String.toList_ofList]
    exact strip_eq_self_of_ends (fun _ => head?_strip) fun _ => getLast?_strip
  exact ⟨hSetting _ _, hSetting _ _, hSetting _ _⟩

/-- Both kinds of credentials are accepted as clients send them, except for a
token whose encoding ends in a byte that the header is stripped of. -/
theorem authCompleteness_iff (cfg : Config)
    (hToken : strip cfg.authToken.toList = cfg.authToken.toList)
    (hUsername : ':' ∉ cfg.authUsername.toList) :
    ((cfg.authToken ≠ "" → Accepted cfg (bearerValue cfg.authToken)) ∧
        (cfg.authPassword ≠ "" → Accepted cfg (basicValue cfg.authUsername cfg.authPassword))) ↔
      ¬EndsLikeSpace (encodeUtf8 cfg.authToken.toList) := by
  have hBasic :
      cfg.authPassword ≠ "" → Accepted cfg (basicValue cfg.authUsername cfg.authPassword) := by
    intro hPassword
    exact (accepted_iff (by simp [Config.authConfigured, hPassword])).mpr
      (carries_basic hPassword hUsername)
  by_cases hSome : cfg.authToken = ""
  · have hPlain : ¬EndsLikeSpace (encodeUtf8 cfg.authToken.toList) := by
      rw [hSome]
      simp [encodeUtf8, EndsLikeSpace]
    exact iff_of_true ⟨fun h => absurd hSome h, hBasic⟩ hPlain
  · rw [← carries_bearer_iff hSome hToken,
      ← accepted_iff (by simp [Config.authConfigured, hSome] : cfg.authConfigured = true)]
    exact ⟨fun h => h.1 hSome, fun h => ⟨fun _ => h, hBasic⟩⟩

/-- A token with an accent that passes. -/
theorem authCompleteness_iff_accent :
    (((Config.mk "clé" "debug" "").authToken ≠ "" →
          Accepted ⟨"clé", "debug", ""⟩ (bearerValue "clé")) ∧
        ((Config.mk "clé" "debug" "").authPassword ≠ "" →
          Accepted ⟨"clé", "debug", ""⟩ (basicValue "debug" ""))) ↔
      ¬EndsLikeSpace (encodeUtf8 "clé".toList) :=
  authCompleteness_iff ⟨"clé", "debug", ""⟩ (by decide) (by decide)

/-- The last byte of this token is the one of a no-break space. -/
theorem not_accepted_voila :
    ¬((Config.mk "voilà" "debug" "").authToken ≠ "" →
      Accepted ⟨"voilà", "debug", ""⟩ (bearerValue "voilà")) := by
  intro h
  have hScope :=
    h (by decide) ⟨.http, some "/api/system", [(authorizationName, bearerValue "voilà")]⟩
    ⟨[], authorizationName, [], rfl, by unfold IsAuthorization; decide, by simp⟩
  revert hScope
  decide

end NodeDebugDashboard.Auth
