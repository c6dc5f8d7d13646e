import NodeDebugDashboard.Chart.Credentials

/-! The checksum of the credentials over an install and the upgrades after it. -/
namespace NodeDebugDashboard.Chart

open Library Library.Templates

/-- The cluster before a render: at first with other Secrets only, then with what the
render before it left. -/
def clusterBefore (helm : Helm) (values : Values) (release : Release)
    (others : String → Option SecretData) (draws : Nat → Draws) : Nat → Cluster
  | 0 => ⟨true, Function.update others (secretName values.names release) none⟩
  | n + 1 =>
      let cluster := clusterBefore helm values release others draws n
      match render helm values release cluster (draws n) with
      | .ok rendered => cluster.apply values release rendered
      | .error _ => cluster

/-- The install is the first render, and the upgrades follow. -/
def renderAt (helm : Helm) (values : Values) (release : Release)
    (others : String → Option SecretData) (draws : Nat → Draws) (n : Nat) :
    Except String Rendered :=
  render helm values release (clusterBefore helm values release others draws n) (draws n)

/-- Each checksum is the one of the Secret rendered with it, and both stay as they are at
the install. -/
def Follows (helm : Helm) (values : Values) (release : Release)
    (others : String → Option SecretData) (draws : Nat → Draws) : Prop :=
  ∀ n rendered, renderAt helm values release others draws n = .ok rendered →
    rendered.checksum = rendered.secret.map helm.sha256sum ∧
      ∀ installed, renderAt helm values release others draws 0 = .ok installed →
        rendered.checksum = installed.checksum ∧ rendered.secret = installed.secret

variable {helm : Helm} {values : Values} {release : Release} {others : String → Option SecretData}

/-- Without a generated password neither the cluster nor the draw comes in. -/
theorem secretData_of_not_wants (hWants : wantsGeneratedPassword values = false)
    (cluster other : Cluster) (random random' : Draw) :
    secretData values release cluster random = secretData values release other random' := by
  simp only [secretData, generatedPassword_of_not_wants hWants]

theorem render_of_not_wants (hWants : wantsGeneratedPassword values = false)
    (cluster other : Cluster) (draws draws' : Draws) :
    render helm values release cluster draws = render helm values release other draws' := by
  simp only [render, secretData_of_not_wants hWants cluster other draws.secret draws'.secret,
    secretData_of_not_wants hWants cluster other draws.daemonset draws'.daemonset]

theorem checksum_of_not_wants (hWants : wantsGeneratedPassword values = false) {cluster : Cluster}
    {draws : Draws} {rendered : Rendered}
    (hRender : render helm values release cluster draws = .ok rendered) :
    rendered.checksum = rendered.secret.map helm.sha256sum := by
  dsimp only [render] at hRender
  rw [secretData_of_not_wants hWants cluster cluster draws.daemonset draws.secret] at hRender
  split at hRender
  · cases hRender
  · cases hRender
    split_ifs <;> rfl

/-- What an install with a generated password renders. -/
theorem secretData_of_wants (hWants : wantsGeneratedPassword values) (random : Draw) :
    secretData values release
      ⟨true, Function.update others (secretName values.names release) none⟩ random =
      generatedData (sshPart values) random := by
  obtain ⟨-, hExisting, hToken, hPassword⟩ := (wantsGeneratedPassword_iff values).mp hWants
  have hGenerated : generatedPassword values release
      ⟨true, Function.update others (secretName values.names release) none⟩ random =
        random.text := by
    rw [generatedPassword_of_wants hWants rfl]
    simp [keptPassword]
  simp [secretData, generatedData, setWith, hExisting, hToken, hPassword, hGenerated,
    random.text_ne_empty]

theorem entries_generatedData (sshPassword : String) (random : Draw) :
    (helm.reread (generatedData sshPassword random)).entries ≠ [] := by
  intro hNil
  have hSpec := helm.reread_spec (generatedData sshPassword random)
  rw [hNil] at hSpec
  have hNone : (generatedData sshPassword random).get? "auth-password" = none := by
    rw [Dict.get?, List.forall₂_nil_right_iff.mp hSpec]
    rfl
  simp [generatedData, get?_setWith] at hNone

/-- Two draws at the install that the checksum tells apart. -/
theorem not_follows_of_ne (hWants : wantsGeneratedPassword values) {random other : Draw}
    (hApart : helm.sha256sum (helm.reread (generatedData (sshPart values) random)) ≠
      helm.sha256sum (helm.reread (generatedData (sshPart values) other))) :
    ¬ Follows helm values release others fun _ => ⟨random, other⟩ := by
  intro hFollows
  obtain ⟨-, hExisting, -, -⟩ := (wantsGeneratedPassword_iff values).mp hWants
  have hRender :
      ∃ rendered, renderAt helm values release others (fun _ => ⟨random, other⟩) 0 = .ok rendered ∧
      rendered.secret = some (helm.reread (generatedData (sshPart values) random)) ∧
        rendered.checksum =
          some (helm.sha256sum (helm.reread (generatedData (sshPart values) other))) := by
    simp [renderAt, clusterBefore, render, wiring, hExisting, secretData_of_wants hWants,
      entries_generatedData]
  obtain ⟨rendered, hFirst, hSecret, hChecksum⟩ := hRender
  have hSame := (hFollows 0 rendered hFirst).1
  rw [hSecret, hChecksum] at hSame
  exact hApart (Option.some.inj hSame).symm

/-- Whatever is drawn, the checksum follows the Secret exactly when no password is
generated: the two templates draw one each. -/
theorem checksumFollows_iff (helm : Helm) (values : Values) (release : Release)
    (others : String → Option SecretData) :
    (∀ draws, Follows helm values release others draws) ↔
    wantsGeneratedPassword values = false := by
  constructor
  · intro hAll
    rw [Bool.eq_false_iff]
    intro hWants
    obtain ⟨random, other, hApart⟩ := helm.sha256sum_ne (sshPart values)
    exact not_follows_of_ne hWants hApart (hAll _)
  · intro hWants draws n rendered hRender
    refine ⟨checksum_of_not_wants hWants hRender, fun installed hInstalled => ?_⟩
    rw [renderAt, render_of_not_wants hWants _ (clusterBefore helm values release others draws 0) _
      (draws 0)]
      at hRender
    have hSame : rendered = installed := Except.ok.inj (hRender.symm.trans hInstalled)
    rw [hSame]
    exact ⟨rfl, rfl⟩

/-- An install with the default values. -/
theorem not_follows_default :
    ¬ ∀ helm values release others draws, Follows helm values release others draws := by
  intro h
  have hApart :
      plainHelm.sha256sum (plainHelm.reread (generatedData (sshPart {}) twoDraws.secret)) ≠
      plainHelm.sha256sum (plainHelm.reread (generatedData (sshPart {}) twoDraws.daemonset)) := by
    decide +kernel
  exact not_follows_of_ne rfl hApart (h plainHelm {} dashedName (fun _ => none) _)

end NodeDebugDashboard.Chart
