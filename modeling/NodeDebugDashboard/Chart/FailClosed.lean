import NodeDebugDashboard.Chart.Credentials

/-! When the credentials that the chart renders close the dashboard. -/
namespace NodeDebugDashboard.Chart

open Library Library.Text Library.Templates Auth

/-- The credentials that the chart goes by are there, and all white space. -/
def Blank (values : Values) (release : Release) (cluster : Cluster) : Prop :=
  if str values.authToken = "" ∧ str values.authPassword = "" then
    keptPassword values release cluster ≠ "" ∧
    ¬ Visible (keptPassword values release cluster).toList
  else ¬ Visible (str values.authToken).toList ∧ ¬ Visible (str values.authPassword).toList

theorem Draw.visible (random : Draw) : Visible random.text.toList := by
  obtain ⟨c, hMem⟩ :=
    List.exists_mem_of_length_pos (by rw [random.length]; decide : 0 < random.text.toList.length)
  exact ⟨c, hMem, isSpace_of_isAlphanum (random.alphaNum c hMem)⟩

theorem visible_lineEnd (text : String) : Visible (text ++ "\n").toList ↔ Visible text.toList := by
  have hLineEnd : isSpace '\n' = true := rfl
  have hLetters : (text ++ "\n").toList = text.toList ++ ['\n'] := by
    rw [String.toList_append]
    congr
  simp [Visible, hLetters, hLineEnd]

/-- A key has a value that is not all white space. -/
def VisibleAt (data : SecretData) (key : String) : Prop :=
  ∃ value, data.get? key = some value ∧ Visible value.toList

/-- YAML gives back every key, with the same value but for a line end. -/
theorem Helm.reread_get? (helm : Helm) (data : SecretData) (key : String) :
    (data.get? key = none ∧ (helm.reread data).get? key = none) ∨
      ∃ written read, data.get? key = some written ∧ (helm.reread data).get? key = some read ∧
        (read = written ∨ written = read ++ "\n") := by
  have hSpec := helm.reread_spec data
  unfold Dict.get?
  generalize data.entries = written, (helm.reread data).entries = read at hSpec
  induction hSpec with
  | nil => exact .inl ⟨rfl, rfl⟩
  | @cons written read rest rest' hEntry _ ih =>
      simp only [Dict.find, hEntry.1]
      split_ifs
      · exact .inr ⟨_, _, rfl, rfl, hEntry.2⟩
      · exact ih

theorem Helm.reread_isSome (helm : Helm) (data : SecretData) (key : String) :
    ((helm.reread data).get? key).isSome = (data.get? key).isSome := by
  rcases helm.reread_get? data key with ⟨hWritten, hRead⟩ | ⟨written, read, hWritten, hRead, -⟩ <;>
    simp [hWritten, hRead]

theorem Helm.reread_visibleAt (helm : Helm) (data : SecretData) (key : String) :
    VisibleAt (helm.reread data) key ↔ VisibleAt data key := by
  rcases helm.reread_get? data key with ⟨hWritten, hRead⟩ | ⟨written, read, hWritten, hRead, hSame⟩
  · simp [VisibleAt, hWritten, hRead]
  · have hVisible : Visible read.toList ↔ Visible written.toList := by
      rcases hSame with rfl | rfl
      · rfl
      · exact (visible_lineEnd read).symm
    simpa [VisibleAt, hWritten, hRead] using hVisible

theorem setting_ne_empty_iff (env : String → Option String) (name : String) :
    setting env name "" ≠ "" ↔ ∃ value, env name = some value ∧ Visible value.toList := by
  have hBlank :
      ∀ text : String, String.ofList (strip text.toList) = "" ↔ ∀ c ∈ text.toList, isSpace c := by
    intro text
    have hStripped : strip text.toList = [] ↔ ∀ c ∈ text.toList, isSpace c := stripBy_eq_nil_iff _
    rw [← hStripped, ← String.toList_inj, String.toList_ofList]
    rfl
  rw [setting, Ne, hBlank]
  cases env name with
  | none => simp
  | some value => simp [Visible]

theorem authConfigured_iff (env : String → Option String) :
    (Config.ofEnviron env).authConfigured ↔
      (∃ value, env "AUTH_TOKEN" = some value ∧ Visible value.toList) ∨
        ∃ value, env "AUTH_PASSWORD" = some value ∧ Visible value.toList := by
  rw [← setting_ne_empty_iff, ← setting_ne_empty_iff]
  simp only [Config.authConfigured, Config.ofEnviron, Bool.or_eq_true]
  exact or_congr decide_eq_true_iff decide_eq_true_iff

section Rendered

variable {values : Values} {release : Release} {cluster : Cluster}

theorem get?_authToken (hExisting : values.authExistingSecret = "") (random : Draw) :
    (secretData values release cluster random).get? "auth-token" =
      if str values.authToken ≠ "" then some (str values.authToken) else none := by
  simp [secretData, hExisting, get?_setWith]

theorem get?_authPassword (hExisting : values.authExistingSecret = "") (random : Draw) :
    (secretData values release cluster random).get? "auth-password" =
      if generatedPassword values release cluster random ≠ "" then
        some (generatedPassword values release cluster random)
      else if str values.authPassword ≠ "" then some (str values.authPassword) else none := by
  simp [secretData, hExisting, get?_setWith]

/-- The draw decides a value of the Secret, and none of its keys. -/
theorem isSome_generated (hLive : cluster.live) (random other : Draw) :
    (generatedPassword values release cluster random ≠ "") ↔
      generatedPassword values release cluster other ≠ "" := by
  cases hWants : wantsGeneratedPassword values with
  | false => rw [generatedPassword_of_not_wants hWants, generatedPassword_of_not_wants hWants]
  | true =>
      rw [generatedPassword_of_wants hWants hLive, generatedPassword_of_wants hWants hLive]
      by_cases hKept : keptPassword values release cluster = "" <;>
        simp [hKept, random.text_ne_empty, other.text_ne_empty]

/-- A key is wired when the Secret has it, and then its value is the Secret's. -/
theorem environ_wired {data : SecretData} {source key : String} (hKey : key ≠ "")
    (hSource : data.entries ≠ [] → cluster.secrets source = some data)
    {wired : SecretData} (hSame : (wired.get? key).isSome = (data.get? key).isSome) :
    (let tokenKey := if (wired.get? key).isSome then key else ""
      if tokenKey ≠ "" then (cluster.secrets source).bind fun data =>
        data.get? tokenKey else none) =
      data.get? key := by
  rw [hSame]
  cases hFound : data.get? key with
  | none => simp
  | some value =>
      have hEntries : data.entries ≠ [] := by
        intro hNil
        rw [Dict.get?, hNil] at hFound
        cases hFound
      simp [hKey, hSource hEntries, hFound]

/-- The render, and the variables that the pods get from it. -/
theorem exists_rendered (helm : Helm) (draws : Draws) (hExisting : values.authExistingSecret = "")
    (hLive : cluster.live) :
    ∃ rendered, render helm values release cluster draws = .ok rendered ∧
      let env := environ values (cluster.apply values release rendered) rendered.wiring
      env "AUTH_TOKEN" =
        (helm.reread (secretData values release cluster draws.secret)).get? "auth-token" ∧
        env "AUTH_PASSWORD" =
          (helm.reread (secretData values release cluster draws.secret)).get? "auth-password" := by
  have hRender : render helm values release cluster draws = .ok
      { secret :=
          if (helm.reread (secretData values release cluster draws.secret)).entries = [] then none
          else some (helm.reread (secretData values release cluster draws.secret))
        checksum :=
          if (helm.reread (secretData values release cluster draws.daemonset)).entries = [] then
            none
          else
            some (helm.sha256sum (helm.reread (secretData values release cluster draws.daemonset)))
        wiring :=
          ⟨secretName values.names release,
            if ((helm.reread (secretData values release cluster draws.daemonset)).get?
              "auth-token").isSome then "auth-token" else "",
            if ((helm.reread (secretData values release cluster draws.daemonset)).get?
              "auth-password").isSome then "auth-password" else ""⟩ } := by
    simp [render, wiring, hExisting]
  refine ⟨_, hRender, ?_⟩
  generalize hData : helm.reread (secretData values release cluster draws.secret) = data
  have hSource : ∀ checksum wiring, data.entries ≠ [] →
      (cluster.apply values release
        ⟨if data.entries = [] then none else some data, checksum, wiring⟩).secrets
          (secretName values.names release) = some data := by
    intro checksum wiring hSome
    simp [Cluster.apply, hSome]
  constructor
  · apply environ_wired (by decide) (hSource _ _)
    rw [← hData, helm.reread_isSome, helm.reread_isSome, get?_authToken hExisting,
      get?_authToken hExisting]
  · apply environ_wired (by decide) (hSource _ _)
    rw [← hData, helm.reread_isSome, helm.reread_isSome, get?_authPassword hExisting,
      get?_authPassword hExisting]
    have hSame : generatedPassword values release cluster draws.daemonset ≠ "" ↔
        generatedPassword values release cluster draws.secret ≠ "" := isSome_generated hLive _ _
    by_cases hGenerated : generatedPassword values release cluster draws.secret ≠ ""
    · rw [if_pos hGenerated, if_pos (hSame.mpr hGenerated)]
      rfl
    · rw [if_neg hGenerated, if_neg (mt hSame.mp hGenerated)]

theorem not_visible_nil : ¬ Visible [] := nofun

theorem visibleAt_authToken (hExisting : values.authExistingSecret = "") (random : Draw) :
    VisibleAt (secretData values release cluster random) "auth-token" ↔
      Visible (str values.authToken).toList := by
  rw [VisibleAt, get?_authToken hExisting]
  by_cases hToken : str values.authToken = ""
  · simp [hToken, not_visible_nil]
  · simp [hToken]

theorem visibleAt_authPassword (hExisting : values.authExistingSecret = "") (random : Draw) :
    VisibleAt (secretData values release cluster random) "auth-password" ↔
      if generatedPassword values release cluster random ≠ "" then
        Visible (generatedPassword values release cluster random).toList
      else Visible (str values.authPassword).toList := by
  rw [VisibleAt, get?_authPassword hExisting]
  by_cases hGenerated : generatedPassword values release cluster random = ""
  · by_cases hPassword : str values.authPassword = ""
    · simp [hGenerated, hPassword, not_visible_nil]
    · simp [hGenerated, hPassword]
  · simp [hGenerated]

/-- The dashboard is closed unless the credentials that the chart goes by are white
space: those of the values, or else the password that an earlier render left. -/
theorem chartFailsClosed (helm : Helm) (draws : Draws) (hExisting : values.authExistingSecret = "")
    (hDisabled : values.authDisabled = false) (hLive : cluster.live) :
    ∃ rendered, render helm values release cluster draws = .ok rendered ∧
      ((Config.ofEnviron
        (environ values (cluster.apply values release rendered) rendered.wiring)).authConfigured ↔
        ¬ Blank values release cluster) := by
  obtain ⟨rendered, hRender, hToken, hPassword⟩ :=
    @exists_rendered values release cluster helm draws hExisting hLive
  refine ⟨rendered, hRender, ?_⟩
  rw [authConfigured_iff, hToken, hPassword]
  change VisibleAt _ "auth-token" ∨ VisibleAt _ "auth-password" ↔ _
  rw [helm.reread_visibleAt, helm.reread_visibleAt, visibleAt_authToken hExisting,
    visibleAt_authPassword hExisting, Blank]
  by_cases hUnset : str values.authToken = "" ∧ str values.authPassword = ""
  · have hWants : wantsGeneratedPassword values :=
      (wantsGeneratedPassword_iff values).mpr ⟨hDisabled, hExisting, hUnset⟩
    rw [if_pos hUnset, generatedPassword_of_wants hWants hLive, hUnset.1]
    by_cases hKept : keptPassword values release cluster = ""
    · simp [hKept, not_visible_nil, draws.secret.text_ne_empty, draws.secret.visible]
    · simp [hKept, not_visible_nil]
  · have hWants : wantsGeneratedPassword values = false := by
      rw [Bool.eq_false_iff]
      exact fun hWants => hUnset ((wantsGeneratedPassword_iff values).mp hWants).2.2
    rw [if_neg hUnset, generatedPassword_of_not_wants hWants]
    simp only [ne_eq, not_true, if_false]
    tauto

end Rendered

/-- A cluster without Secrets. -/
def emptyCluster : Cluster := ⟨true, fun _ => none⟩

theorem chartFailsClosed_token :
    ∃ rendered,
      render plainHelm { authToken := some "t0ken" } dashedName emptyCluster twoDraws =
        .ok rendered ∧
      ((Config.ofEnviron (environ { authToken := some "t0ken" }
          (emptyCluster.apply { authToken := some "t0ken" } dashedName rendered)
            rendered.wiring)).authConfigured ↔
        ¬ Blank { authToken := some "t0ken" } dashedName emptyCluster) :=
  chartFailsClosed plainHelm twoDraws rfl rfl rfl

/-- A token of one space goes into the Secret, and the dashboard takes it for none. -/
theorem not_authConfigured_space :
    ¬ ∀ helm values release cluster draws, values.authExistingSecret = "" →
      values.authDisabled = false →
      cluster.live → ∃ rendered, render helm values release cluster draws = .ok rendered ∧
        (Config.ofEnviron
          (environ values
            (cluster.apply values release rendered) rendered.wiring)).authConfigured := by
  intro h
  obtain ⟨rendered, hRender, hConfigured⟩ :=
    h plainHelm { authToken := some " " } dashedName emptyCluster twoDraws rfl rfl rfl
  have hOpen :
      (render plainHelm { authToken := some " " } dashedName emptyCluster twoDraws).toOption.map
      (fun rendered => (Config.ofEnviron (environ { authToken := some " " }
        (emptyCluster.apply { authToken := some " " } dashedName rendered)
          rendered.wiring)).authConfigured) =
      some false := by decide +kernel
  rw [hRender] at hOpen
  have hFalse : true = false := hConfigured.symm.trans (Option.some.inj hOpen)
  cases hFalse


end NodeDebugDashboard.Chart
