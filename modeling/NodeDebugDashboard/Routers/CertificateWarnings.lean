import NodeDebugDashboard.Collectors.Certificates
import NodeDebugDashboard.Routers.Independence

/-! Which certificates of the Kubernetes PKI `get_warnings` warns about, from both
collectors that read them. -/
namespace NodeDebugDashboard.Routers

open Library Library.Paths Library.Python Models Collectors Collectors.Certificates

/-- The certificate warnings when neither collector raises, each with the file whose
certificate gives rise to it. -/
def warnedFiles (node : Node) (k8sRun talosRun : Entry → Openssl) : List (Entry × NodeWarning) :=
  ((k8sScan node k8sRun).flatMap fun scanned =>
    (k8sCertWarnings true scanned.2).map (scanned.1, ·)) ++
    (talosScan node talosRun).flatMap fun scanned =>
      (talosCertWarnings scanned.2).map (scanned.1, ·)

/-- Every file of the PKI that one of the collectors found not to be ok is warned about,
and none twice. -/
structure LosesNothing (node : Node) (k8sRun talosRun : Entry → Openssl)
    (warned : List (Entry × NodeWarning)) : Prop where
  covered : ∀ file ∈ node.pki,
    (∃ cert, (file, cert) ∈ k8sScan node k8sRun ∧ cert.expirySeverity ≠ "ok") ∨
      (∃ cert, (file, cert) ∈ talosScan node talosRun ∧ cert.expirySeverity ≠ "ok") →
    ∃ warning, (file, warning) ∈ warned
  once : ∀ file ∈ node.pki, (warned.filter fun pair => pair.1 = file).length ≤ 1

theorem mem_sortedGlob {node : Node} {globs : List Glob} {entry : Entry} :
    entry ∈ node.sortedGlob globs ↔ entry ∈ node.entries ∧ ∃ glob ∈ globs,
    glob.matches entry.path := by
  rw [Node.sortedGlob, (List.perm_insertionSort _ _).mem_iff, List.mem_filter, List.any_eq_true]

theorem mem_pki {node : Node} {file : Entry} :
    file ∈ node.pki ↔ file ∈ node.entries ∧ pkiGlob.matches file.path ∧ file.isFile := by
  rw [Node.pki, List.mem_filter, Bool.and_eq_true]

section Scans

variable {node : Node} {file : Entry}

theorem mem_k8sScan (hFile : file ∈ node.pki) {run : Entry → Openssl} {cert : CertificateInfo} :
    (file, cert) ∈ k8sScan node run ↔ k8sCertificate node file (run file) = some cert := by
  obtain ⟨hEntry, hMatches, _⟩ := mem_pki.mp hFile
  have hGlob : file ∈ node.sortedGlob k8sGlobs :=
    mem_sortedGlob.mpr ⟨hEntry, pkiGlob, by simp [k8sGlobs], hMatches⟩
  simp only [k8sScan, List.mem_filterMap, Option.map_eq_some_iff, Prod.mk.injEq]
  constructor
  · rintro ⟨_, _, _, hCert, rfl, rfl⟩
    exact hCert
  · intro hCert
    exact ⟨file, hGlob, cert, hCert, rfl, rfl⟩

/-- A file is not skipped whose target no other file has. The induction goes through the
files before it, which have other targets. -/
theorem mem_unseen {root : Glob} {seen : List String} {first rest : List (Glob × Entry)}
    (hMem : (root, file) ∈ first) (hFile : file.isFile) (hSeen : file.real ∉ seen)
    (hOnly : ∀ other ∈ first, other.2.real = file.real → other = (root, file)) :
    (root, file) ∈ unseen seen (first ++ rest) := by
  induction first generalizing seen with
  | nil => simp at hMem
  | cons head first ih =>
      obtain ⟨other, entry⟩ := head
      have hLater := fun other hOther => hOnly other (List.mem_cons_of_mem _ hOther)
      rw [List.cons_append, unseen]
      by_cases hSame : (other, entry) = (root, file)
      · cases hSame
        simp [hSeen, hFile]
      · have hNext : (root, file) ∈ first := (List.mem_cons.mp hMem).resolve_left (Ne.symm hSame)
        split_ifs
        · exact ih hNext hSeen hLater
        · refine List.mem_cons_of_mem _ (ih hNext ?_ hLater)
          have hReal : file.real ≠ entry.real :=
            fun hReal => hSame (hOnly _ List.mem_cons_self hReal.symm)
          simp [hReal, hSeen]

/-- No two files with one target are read. -/
theorem unseen_spec (seen : List String) (files : List (Glob × Entry)) :
    ((unseen seen files).map fun found => found.2.real).Nodup ∧
      ∀ found ∈ unseen seen files, found.2.real ∉ seen ∧ found ∈ files := by
  induction files generalizing seen with
  | nil => exact ⟨List.nodup_nil, nofun⟩
  | cons head rest ih =>
      obtain ⟨root, entry⟩ := head
      rw [unseen]
      split_ifs with hSkip
      · obtain ⟨hNodup, hFound⟩ := ih seen
        exact ⟨hNodup, fun found hMem =>
          ⟨(hFound found hMem).1, List.mem_cons_of_mem _ (hFound found hMem).2⟩⟩
      · obtain ⟨hNodup, hFound⟩ := ih (entry.real :: seen)
        rw [not_or] at hSkip
        refine ⟨?_, fun found hMem => ?_⟩
        · rw [List.map_cons, List.nodup_cons]
          refine ⟨fun hMem => ?_, hNodup⟩
          obtain ⟨found, hLater, hReal⟩ := List.mem_map.mp hMem
          exact (hFound found hLater).1 (by simp [hReal])
        · rcases List.mem_cons.mp hMem with rfl | hLater
          · exact ⟨hSkip.1, List.mem_cons_self⟩
          · obtain ⟨hSeen, hRest⟩ := hFound found hLater
            exact ⟨fun hReal => hSeen (List.mem_cons_of_mem _ hReal), List.mem_cons_of_mem _ hRest⟩

/-- Each file is read once at most. -/
theorem talosFiles_nodup (node : Node) : ((talosFiles node).map Prod.snd).Nodup := by
  have hReal :=
    (unseen_spec [] (searchRoots.flatMap fun root => (node.sortedGlob [root]).map (root, ·))).1
  have hMap : (talosFiles node).map (fun found => found.2.real) =
      ((talosFiles node).map Prod.snd).map Entry.real := by
    rw [List.map_map]
    rfl
  rw [← talosFiles, hMap] at hReal
  exact List.Nodup.of_map _ hReal

theorem pki_mem_talosFiles (hFile : file ∈ node.pki) : (pkiGlob, file) ∈ talosFiles node := by
  obtain ⟨hEntry, hMatches, hIsFile⟩ := mem_pki.mp hFile
  rw [talosFiles, searchRoots, List.flatMap_cons]
  refine mem_unseen ?_ hIsFile (by simp) fun other hOther hReal => ?_
  · exact List.mem_map_of_mem (mem_sortedGlob.mpr ⟨hEntry, pkiGlob, by simp, hMatches⟩)
  · obtain ⟨entry, hMem, rfl⟩ := List.mem_map.mp hOther
    obtain ⟨hOther, glob, hGlob, hPki⟩ := mem_sortedGlob.mp hMem
    rw [List.mem_singleton.mp hGlob] at hPki
    rw [node.unlinked entry hOther file hEntry hPki hMatches hReal]

theorem mem_talosScan (hFile : file ∈ node.pki) {run : Entry → Openssl}
    {cert : TalosCertificateInfo} :
    (file, cert) ∈ talosScan node run ↔
    talosCertificate node pkiGlob file (run file) = some cert := by
  have hFound := pki_mem_talosFiles hFile
  simp only [talosScan, List.mem_filterMap, Option.map_eq_some_iff, Prod.mk.injEq]
  constructor
  · rintro ⟨⟨root, entry⟩, hMem, cert, hCert, rfl, rfl⟩
    have hRoot := List.inj_on_of_nodup_map (talosFiles_nodup node) hMem hFound rfl
    cases hRoot
    exact hCert
  · intro hCert
    exact ⟨(pkiGlob, file), hFound, cert, hCert, rfl, rfl⟩

/-- Both collectors rate a certificate of the PKI by its run of `openssl` alone. -/
theorem k8s_flagged_iff (hFile : file ∈ node.pki) (run : Entry → Openssl) :
    (∃ cert, (file, cert) ∈ k8sScan node run ∧ cert.expirySeverity ≠ "ok") ↔
      (run file).expiring node.tzname := by
  simp only [mem_k8sScan hFile, k8sCertificate, Openssl.expiring]
  split_ifs with hCode
  · simp [hCode]
  · simp [not_not.mp hCode]

theorem talos_flagged_iff (hFile : file ∈ node.pki) (run : Entry → Openssl) :
    (∃ cert, (file, cert) ∈ talosScan node run ∧ cert.expirySeverity ≠ "ok") ↔
      (run file).expiring node.tzname := by
  simp only [mem_talosScan hFile, talosCertificate, Openssl.expiring, talosPrinted_eq]
  split_ifs with hCode
  · simp [hCode]
  · simp [not_not.mp hCode]

/-- The path of a file of the PKI says that the Talos collector owns it. -/
theorem contains_of_pki (hFile : file ∈ node.pki) :
    contains "/system/secrets/kubernetes/" (node.hostRoot ++ file.path.text) = true := by
  obtain ⟨_, hMatches, _⟩ := mem_pki.mp hFile
  simp only [Glob.matches, Bool.and_eq_true, decide_eq_true_eq] at hMatches
  obtain ⟨⟨⟨⟨hDir, hBelow⟩, _⟩, _⟩, _⟩ := hMatches
  obtain ⟨below, hParts⟩ := List.isPrefixOf_iff_prefix.mp hDir
  rw [← hParts, List.drop_left] at hBelow
  obtain ⟨part, rest, rfl⟩ := List.exists_cons_of_ne_nil hBelow
  have hText : file.path.text.toList =
      "/system/secrets/kubernetes/".toList ++ (part.toList ++ joined rest) := by
    rw [RealPath.toList_text, ← hParts]
    rfl
  rw [contains, decide_eq_true_eq, String.toList_append, hText]
  exact ⟨node.hostRoot.toList, part.toList ++ joined rest, by rw [List.append_assoc]⟩

/-- The Kubernetes collector leaves the file to the other one. -/
theorem not_mem_k8sWarned (hFile : file ∈ node.pki) (run : Entry → Openssl)
    (warning : NodeWarning) :
    (file, warning) ∉
      (k8sScan node run).flatMap fun scanned =>
        (k8sCertWarnings true scanned.2).map (scanned.1, ·) := by
  simp only [List.mem_flatMap, List.mem_map, Prod.mk.injEq, Prod.exists]
  rintro ⟨_, cert, hScan, _, hWarning, rfl, rfl⟩
  rw [mem_k8sScan hFile, k8sCertificate, Option.ite_none_left_eq_some] at hScan
  obtain ⟨_, hCert⟩ := hScan
  cases hCert
  simp [k8sCertWarnings, contains_of_pki hFile] at hWarning

theorem mem_warnedFiles (hFile : file ∈ node.pki) {k8sRun talosRun : Entry → Openssl}
    {warning : NodeWarning} : (file, warning) ∈ warnedFiles node k8sRun talosRun ↔
      ∃ cert, (file, cert) ∈ talosScan node talosRun ∧ warning ∈ talosCertWarnings cert := by
  rw [warnedFiles, List.mem_append, or_iff_right (not_mem_k8sWarned hFile k8sRun warning)]
  simp only [List.mem_flatMap, List.mem_map, Prod.mk.injEq, Prod.exists]
  constructor
  · rintro ⟨_, cert, hScan, _, hWarning, rfl, rfl⟩
    exact ⟨cert, hScan, hWarning⟩
  · rintro ⟨cert, hScan, hWarning⟩
    exact ⟨file, cert, hScan, warning, hWarning, rfl, rfl⟩

/-- A file is warned about exactly when the Talos collector's run finds it expiring. -/
theorem warned_iff (hFile : file ∈ node.pki) {k8sRun talosRun : Entry → Openssl} :
    (∃ warning, (file, warning) ∈ warnedFiles node k8sRun talosRun) ↔
      (talosRun file).expiring node.tzname := by
  simp only [mem_warnedFiles hFile, ← talos_flagged_iff hFile]
  constructor
  · rintro ⟨warning, cert, hScan, hWarning⟩
    refine ⟨cert, hScan, fun hOk => ?_⟩
    simp [talosCertWarnings, hOk] at hWarning
  · rintro ⟨cert, hScan, hSeverity⟩
    have hWarns : talosCertWarnings cert ≠ [] := by simp [talosCertWarnings, hSeverity]
    obtain ⟨warning, rest, hWarning⟩ := List.exists_cons_of_ne_nil hWarns
    exact ⟨warning, cert, hScan, by simp [hWarning]⟩

end Scans

theorem talosScan_nodup (node : Node) (run : Entry → Openssl) :
    ((talosScan node run).map Prod.fst).Nodup := by
  have hSub :
      List.Sublist ((talosScan node run).map Prod.fst) ((talosFiles node).map Prod.snd) := by
    unfold talosScan
    induction talosFiles node with
    | nil => exact .slnil
    | cons found rest ih =>
        obtain ⟨root, entry⟩ := found
        cases hCert : talosCertificate node root entry (run entry) with
        | none => simpa [hCert] using ih.cons entry
        | some cert => simpa [hCert] using ih.cons_cons entry
  exact (talosFiles_nodup node).sublist hSub

/-- Of what each certificate gives rise to at most one goes back to a file. -/
theorem length_filter_flatMap {α : Type} {scan : List (Entry × α)}
    (hNodup : (scan.map Prod.fst).Nodup) {warn : α → List NodeWarning}
    (hOne : ∀ cert, (warn cert).length ≤ 1) (file : Entry) :
    ((scan.flatMap fun scanned => (warn scanned.2).map (scanned.1, ·)).filter fun pair =>
      pair.1 = file).length ≤ 1 := by
  induction scan with
  | nil => simp
  | cons head rest ih =>
      obtain ⟨entry, cert⟩ := head
      rw [List.map_cons, List.nodup_cons] at hNodup
      rw [List.flatMap_cons, List.filter_append, List.length_append]
      by_cases hSame : entry = file
      · have hRest : (rest.flatMap fun scanned => (warn scanned.2).map (scanned.1, ·)).filter
            (fun pair => pair.1 = file) = [] := by
          rw [List.filter_eq_nil_iff]
          rintro ⟨other, warning⟩ hMem hOther
          obtain ⟨scanned, hScanned, hWarning⟩ := List.mem_flatMap.mp hMem
          obtain ⟨_, _, hPair⟩ := List.mem_map.mp hWarning
          have hFile : scanned.1 = entry := by
            rw [hSame, ← of_decide_eq_true hOther]
            exact congrArg Prod.fst hPair
          have hLater : scanned.1 ∈ rest.map Prod.fst := List.mem_map_of_mem hScanned
          exact hNodup.1 (hFile ▸ hLater)
        rw [hRest]
        simpa [List.filter_map, Function.comp_def, hSame] using hOne cert
      · simpa [List.filter_map, Function.comp_def, hSame] using ih hNodup.2

/-- No file of the PKI is warned about twice, whatever the runs give. -/
theorem warned_once {node : Node} {file : Entry} (hFile : file ∈ node.pki)
    (k8sRun talosRun : Entry → Openssl) :
    ((warnedFiles node k8sRun talosRun).filter fun pair => pair.1 = file).length ≤ 1 := by
  have hNone : ((k8sScan node k8sRun).flatMap fun scanned =>
      (k8sCertWarnings true scanned.2).map (scanned.1, ·)).filter (fun pair =>
        pair.1 = file) = [] := by
    rw [List.filter_eq_nil_iff]
    rintro ⟨other, warning⟩ hMem hOther
    have hSame : other = file := of_decide_eq_true hOther
    exact not_mem_k8sWarned hFile k8sRun warning (hSame ▸ hMem)
  rw [warnedFiles, List.filter_append, hNone, List.nil_append]
  refine length_filter_flatMap (talosScan_nodup node talosRun) (fun cert => ?_) file
  unfold talosCertWarnings
  split_ifs <;> simp

section

variable {F : Type} [PyFloat F]

/-- The warnings that `get_warnings` makes of the certificates of both collectors are those
of `warnedFiles`; and of these nothing is lost if and only if every certificate of the PKI
that the Kubernetes collector's run finds expiring is found so by the Talos collector's. -/
theorem certificateDedup_iff {node : Node} {k8sRun talosRun : Entry → Openssl} {pass : Pass F}
    {counters : Counters} {warnings : List (Origin × NodeWarning)}
    (hK8s : pass.sections.k8sCerts = .ok (collectK8sCertificates node k8sRun))
    (hTalos : pass.sections.talosCerts = .ok (collectTalosCertificates node talosRun))
    (hWarnings : (getWarnings pass counters).1 = .ok warnings) :
    generatedFrom .k8sCerts warnings ++ generatedFrom .talosCerts warnings =
        (warnedFiles node k8sRun talosRun).map Prod.snd ∧
      (LosesNothing node k8sRun talosRun (warnedFiles node k8sRun talosRun) ↔
        ∀ file ∈ node.pki, (k8sRun file).expiring node.tzname →
        (talosRun file).expiring node.tzname) := by
  constructor
  · obtain ⟨failed, hFailed⟩ := getWarnings_ok_iff.mp ⟨warnings, hWarnings⟩
    have hOwns : Source.talosCerts ∉ failed := by
      rw [mem_failed_iff hFailed]
      rintro ⟨error, hRaised⟩
      simp [Sections.raised, hTalos, raisedBy] at hRaised
    rw [generatedFrom_getWarnings pass hFailed hWarnings,
      generatedFrom_getWarnings pass hFailed hWarnings]
    simp [Pass.evaluate, hK8s, hTalos, hOwns, listOf, warnedFiles, collectK8sCertificates,
      collectTalosCertificates, List.map_flatMap, List.flatMap_map, Function.comp_def]
  · constructor
    · intro h file hFile hExpiring
      exact (warned_iff hFile).mp
        (h.covered file hFile (.inl ((k8s_flagged_iff hFile k8sRun).mpr hExpiring)))
    · intro h
      refine ⟨fun file hFile hFlagged => (warned_iff hFile).mpr ?_, fun file hFile =>
        warned_once hFile _ _⟩
      rw [k8s_flagged_iff hFile, talos_flagged_iff hFile] at hFlagged
      exact hFlagged.elim (h file hFile) id

end

def apiserverCert : Entry where
  path := ⟨["system", "secrets", "kubernetes", "kube-apiserver", "apiserver.crt"], by decide⟩
  real := "/host/system/secrets/kubernetes/kube-apiserver/apiserver.crt"

/-- A node with the certificate of its API server. -/
def apiserverNode : Node where
  entries := [apiserverCert]
  nodup := by decide
  unlinked := by
    intro first hFirst second hSecond _ _ _
    rw [List.mem_singleton.mp hFirst, List.mem_singleton.mp hSecond]

/-- 2026-05-26 10:00:00 UTC -/
def tenDaysBefore : DateTime := ⟨63915386400000000, 0, by decide⟩

/-- The certificate runs out in ten days. -/
def expiringRun : Openssl where
  stdout := "subject=CN = kube-apiserver\nnotAfter=Jun  5 10:00:00 2026 GMT\n"
  code := 0
  now := tenDaysBefore

def timedOutRun : Openssl where
  stdout := ""
  code := -1
  now := tenDaysBefore

/-- A pass over the node in which nothing else is reported. -/
def certificatePass (k8sRun talosRun : Openssl) : Pass Int where
  window := 24
  inHostNetwork := true
  clock := fun _ => 0
  sections := { quiet with
    k8sCerts := .ok (collectK8sCertificates apiserverNode fun _ => k8sRun)
    talosCerts := .ok (collectTalosCertificates apiserverNode fun _ => talosRun) }

theorem certificatePass_completed (k8sRun talosRun : Openssl) :
    ∃ warnings, (getWarnings (certificatePass k8sRun talosRun) .empty).1 = .ok warnings := ⟨_, rfl⟩

/-- `openssl` times out for the Talos collector only: the certificate expires in ten days,
and there is no warning at all. -/
theorem not_losesNothing_timedOut :
    (getWarnings (certificatePass expiringRun timedOutRun) .empty).1 = .ok [] ∧
      ¬LosesNothing apiserverNode (fun _ => expiringRun) (fun _ => timedOutRun)
        (warnedFiles apiserverNode (fun _ => expiringRun) fun _ => timedOutRun) := by
  refine ⟨by decide +kernel, fun hLoses => ?_⟩
  have hFile : apiserverCert ∈ apiserverNode.pki := by decide
  have hFlagged : expiringRun.expiring apiserverNode.tzname := by decide +kernel
  have hWarned := (warned_iff hFile).mp
    (hLoses.covered apiserverCert hFile
      (.inl ((k8s_flagged_iff hFile fun _ => expiringRun).mpr hFlagged)))
  exact absurd hWarned.1 (by decide)

/-- Both runs read the certificate: it is warned about. -/
theorem certificateDedup_iff_expiring : ∃ warnings,
    (getWarnings (certificatePass expiringRun expiringRun) .empty).1 = .ok warnings ∧
      generatedFrom .k8sCerts warnings ++ generatedFrom .talosCerts warnings =
        (warnedFiles apiserverNode (fun _ => expiringRun) fun _ => expiringRun).map Prod.snd ∧
      (LosesNothing apiserverNode (fun _ => expiringRun) (fun _ => expiringRun)
          (warnedFiles apiserverNode (fun _ => expiringRun) fun _ => expiringRun) ↔
        ∀ file ∈ apiserverNode.pki, expiringRun.expiring apiserverNode.tzname →
          expiringRun.expiring apiserverNode.tzname) := by
  obtain ⟨warnings, hWarnings⟩ := certificatePass_completed expiringRun expiringRun
  exact ⟨warnings, hWarnings, certificateDedup_iff rfl rfl hWarnings⟩

end NodeDebugDashboard.Routers
