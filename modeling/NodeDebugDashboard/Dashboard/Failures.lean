import NodeDebugDashboard.Frontend.Freshness
import NodeDebugDashboard.Routers.Sections

/-! A failing collector, from the node to the page: the section requests of a refresh of
app/static/app.js, answered by `get_section`. -/
namespace NodeDebugDashboard.Dashboard.Failures

open Library Library.Python Frontend Routers.Sections

variable {F : Type}

/-- `String(value)` of the script. -/
structure JsText (F : Type) where
  text : Json F → String
  text_str : ∀ text', text (.str text') = text'

/-- What the loop over `body?.errors || []` runs through; `none` when it throws. -/
def errorsOf [PyFloat F] (js : JsText F) : Json F → Option (List String)
  | .obj fields =>
      match Json.field? "errors" fields with
      | some (.arr items) => some (items.map js.text)
      | some (.str text) => some (text.toList.map fun c => String.ofList [c])
      | some (.obj _) => none
      | some value => if value.truthy then none else some []
      | none => some []
  | _ => some []

/-- What `fetchSection` makes of a response. -/
def answerOf [PyFloat F] (js : JsText F) : Response F → Answer (Json F)
  | .httpException statusCode _ => .refused statusCode
  | .body .null => .body none []
  | .body json =>
      match errorsOf js json with
      | some errors => .body (some json) errors
      | none => .raised [] false

/-- The name of a collector in the gatherings of `get_section`. -/
def partName : Collector → String
  | .cpu => "cpu"
  | .memory => "memory"
  | .pci => "pci"
  | .usb => "usb"
  | .nics => "nics"
  | .sensors => "sensors"
  | .gpus => "gpus"
  | .connectivity => "connectivity"
  | _ => ""

def aggregated : List String := ["hardware", "network"]

/-- How the page reports that a collector of a section raised an exception. -/
def failureOf (name : String) (collector : Collector) : Failure :=
  if name ∈ aggregated then ⟨name ++ "/" ++ partName collector, .collectorFailed⟩
    else ⟨name, .http 503⟩

/-- A body that is no error and holds no list of errors. -/
def Plain (json : Json F) : Prop :=
  (∃ fields, json = .obj fields ∧ Json.field? "errors" fields = none) ∨ ∃ items, json = .arr items

/-- A section is a single collector, or gathers several. -/
inductive Served (c : Collected F) (name : String) : Prop where
  | single (collector : Collector) (wrap : Dump F → Json F) (plain : ∀ value, Plain (wrap value))
      (own : collectorsOf name = [collector]) (alone : name ∉ aggregated)
      (served : getSection c name =
        match c collector with
        | .ok value => .ok (.body (wrap value))
        | .error (.exception _) =>
            .ok (.httpException 503 ("Section " ++ name ++ " could not be collected"))
        | .error (.baseException text) => .error (.baseException text))
  | gathered (fields : List (String × Option (Dump F)) → List (String × Json F))
      (plain : ∀ r failed, Json.field? "errors" (fields r ++ [("errors", names failed)]) =
        some (names failed))
      (several : name ∈ aggregated)
      (served : getSection c name =
          (gather ((collectorsOf name).map fun k => (partName k, c k))).map fun result =>
        .body (.obj (fields result.1 ++ [("errors", names result.2)])))

theorem served_single {c : Collected F} {name : String} {collector : Collector}
    (wrap : Dump F → Json F) (hPlain : ∀ value, Plain (wrap value))
    (hOwn : collectorsOf name = [collector]) (hAlone : name ∉ aggregated)
    (hMap : sectionMap c name = some ((c collector).map wrap)) : Served c name := by
  refine .single collector wrap hPlain hOwn hAlone ?_
  have hNetwork : name ≠ "network" := fun hSame => hAlone (by simp [aggregated, hSame])
  rw [getSection, if_neg hNetwork, hMap]
  cases c collector with
  | ok value => rfl
  | error raised => cases raised <;> rfl

theorem served (c : Collected F) {name : String} (h : name ∈ sections) : Served c name := by
  simp only [sections, fastSections, slowSections, List.mem_append, List.mem_cons, List.not_mem_nil,
    or_false] at h
  rcases h with (rfl | rfl | rfl | rfl | rfl) | (rfl | rfl | rfl | rfl | rfl | rfl)
  case inl.inr.inl =>
    refine .gathered (fun r => [("cpu", dump r "cpu"), ("memory", dump r "memory"),
      ("pci_devices", dumpList r "pci"), ("usb_devices", dumpList r "usb"),
      ("nics", dumpList r "nics"),
      ("sensors", dumpList r "sensors"), ("gpus", dumpList r "gpus")]) (fun _ _ =>
        rfl) (by decide) ?_
    change getSection c "hardware" = (gather (hardwareParts c)).map _
    simp only [getSection, sectionMap, collectHardware]
    cases hGather : gather (hardwareParts c) with
    | ok result => rfl
    | error raised =>
        obtain ⟨text, rfl⟩ := gather_error hGather
        rfl
  case inr.inr.inr.inr.inr.inl =>
    refine .gathered (fun r =>
      [("interfaces", dumpList r "nics"), ("connectivity", dump r "connectivity")])
      (fun _ _ => rfl) (by decide) ?_
    change getSection c "network" = (gather (networkParts c)).map _
    simp only [getSection, if_true]
    cases gather (networkParts c) <;> rfl
  case inr.inr.inr.inr.inl =>
    exact served_single (fun efi => .obj [("efi", efi.json)]) (fun _ => .inl ⟨_, rfl, rfl⟩) rfl
      (by decide) rfl
  all_goals exact served_single Dump.json Dump.shape rfl (by decide) rfl

section

variable [PyFloat F] {js : JsText F}

theorem answerOf_plain {json : Json F} (h : Plain json) :
    answerOf js (.body json) = .body (some json) [] := by
  rcases h with ⟨fields, rfl, hNone⟩ | ⟨items, rfl⟩
  · simp [answerOf, errorsOf, hNone]
  · rfl

theorem answerOf_gathered {fields : List (String × Json F)} {failed : List String}
    (h : Json.field? "errors" fields = some (names failed)) :
    answerOf js (.body (.obj fields)) = .body (some (.obj fields)) failed := by
  have hTexts : failed.map (js.text ∘ Json.str) = failed := by
    have hSame : js.text ∘ Json.str = id := funext js.text_str
    rw [hSame, List.map_id]
  simp [answerOf, errorsOf, h, names, hTexts]

/-- A section without an error has the results of all its collectors. -/
theorem Served.collected {c : Collected F} {name : String} (h : Served c name)
    {response : Response F} (hResponse : getSection c name = .ok response)
    {payload : Option (Json F)} (hClean : answerOf js response = .body payload []) :
    (∀ k ∈ collectorsOf name, ∃ value, c k = .ok value) ∧ ∃ json, response = .body json ∧
    payload = some json := by
  cases h with
  | single collector wrap plain own alone served =>
      rw [served] at hResponse
      cases hOutcome : c collector with
      | ok value =>
          rw [hOutcome] at hResponse
          obtain rfl := Except.ok.inj hResponse
          rw [answerOf_plain (plain value)] at hClean
          obtain ⟨rfl, -⟩ := Answer.body.inj hClean
          refine ⟨fun k hOwn => ?_, _, rfl, rfl⟩
          obtain rfl : k = collector := by simpa [own] using hOwn
          exact ⟨value, hOutcome⟩
      | error raised =>
          rw [hOutcome] at hResponse
          cases raised with
          | baseException text => cases hResponse
          | exception text =>
              obtain rfl := Except.ok.inj hResponse
              cases hClean
  | gathered fields plain several served =>
      rw [served, map_eq_ok] at hResponse
      obtain ⟨⟨r, failed⟩, hGather, rfl⟩ := hResponse
      rw [answerOf_gathered (plain r failed)] at hClean
      obtain ⟨rfl, hNone⟩ := Answer.body.inj hClean
      refine ⟨fun k hOwn => ?_, _, rfl, rfl⟩
      have hFailed := (gather_spec hGather).2
      rw [hNone] at hFailed
      cases hOutcome : c k with
      | ok value => exact ⟨value, rfl⟩
      | error raised =>
          have hMem : partName k ∈ (((collectorsOf name).map fun k => (partName k, c k)).filter
              fun part => part.2.toOption.isNone).map Prod.fst :=
            List.mem_map.mpr ⟨(partName k, c k),
              List.mem_filter.mpr ⟨List.mem_map.mpr ⟨k, hOwn, rfl⟩, by
                simp [hOutcome, Except.toOption]⟩, rfl⟩
          rw [← hFailed] at hMem
          cases hMem

/-- The page learns of every collector that raised an exception. -/
theorem Served.reported {c : Collected F} {name : String} (h : Served c name)
    {response : Response F} (hResponse : getSection c name = .ok response) {k : Collector}
    (hOwn : k ∈ collectorsOf name) {text : String} (hRaised : c k = .error (.exception text)) :
    failureOf name k ∈ (fetchSection name (answerOf js response)).2 := by
  cases h with
  | single collector wrap plain own alone served =>
      obtain rfl : k = collector := by simpa [own] using hOwn
      rw [served, hRaised] at hResponse
      obtain rfl := Except.ok.inj hResponse
      simp [failureOf, alone, answerOf, fetchSection]
  | gathered fields plain several served =>
      rw [served, map_eq_ok] at hResponse
      obtain ⟨⟨r, failed⟩, hGather, rfl⟩ := hResponse
      rw [answerOf_gathered (plain r failed), failureOf, if_pos several]
      have hMem : partName k ∈ failed := by
        rw [(gather_spec hGather).2]
        exact List.mem_map.mpr ⟨(partName k, c k),
          List.mem_filter.mpr ⟨List.mem_map.mpr ⟨k, hOwn, rfl⟩, by simp [hRaised, Except.toOption]⟩,
          rfl⟩
      exact List.mem_map.mpr ⟨partName k, hMem, rfl⟩

end

/-- The page, and the outcomes behind the answers of its last refresh. -/
structure State (F : Type) where
  page : Page (Json F)
  served : String → Option (Collected F)

inductive Event (F : Type) where
  /-- Anything in the browser; a request ends without a body. -/
  | browser (action : Action (Json F))
  /-- The server answers a request. -/
  | serve (i j : Nat) (collected : Collected F)

def loaded : State F := ⟨.loaded, fun _ => none⟩

/-- The event is a body. -/
def bringsBody {V : Type} : Frontend.Event V → Bool
  | .settle _ _ (.body _ _) => true
  | _ => false

def step [PyFloat F] (js : JsText F) (s : State F) : Event F → Option (State F)
  | .browser action =>
      if bringsBody action.event then none
      else (s.page.step action).map fun page =>
        { page := page, served := if s.page.refresh < page.refresh then fun _ => none
        else s.served }
  | .serve i j collected => do
      let body ← s.page.state.bodies[i]?
      let request ← body.requests[j]?
      match getSection collected request.1 with
      | .error _ => none
      | .ok response =>
          let page ← s.page.step ⟨.settle i j (answerOf js response), []⟩
          return { page := page, served := Function.update s.served request.1 (some collected) }

section

variable [PyFloat F] {js : JsText F}

/-- The outcomes on record are those behind the answers. -/
structure Inv (js : JsText F) (s : State F) : Prop where
  page : PageInv s.page
  answered : ∀ name c, s.served name = some c → name ∈ sections ∧
    ∃ response, getSection c name = .ok response ∧ s.page.answers name = some (answerOf js response)
  served : ∀ name payload errors, s.page.answers name = some (.body payload errors) →
    ∃ c, s.served name = some c

theorem Inv.loaded : Inv js (loaded : State F) where
  page := .loaded
  answered := nofun
  served := nofun

theorem Inv.browser {s t : State F} {action : Action (Json F)} (h : Inv js s)
    (hStep : step js s (.browser action) = some t) : Inv js t := by
  obtain ⟨hBare, hStep⟩ := Option.ite_none_left_eq_some.mp hStep
  obtain ⟨page, hPage, rfl⟩ := Option.map_eq_some_iff.mp hStep
  have hNext := h.page.step hPage
  by_cases hSettle : ∃ i j answer, action.event = .settle i j answer
  · obtain ⟨i, j, answer, hEvent⟩ := hSettle
    obtain ⟨event, reached⟩ := action
    obtain rfl : event = .settle i j answer := hEvent
    obtain ⟨body, name, -, -, -, hOpen, hAnswers, hRefresh⟩ := h.page.step_settle hPage
    refine ⟨hNext, fun other c hServed => ?_, fun other payload errors hAnswer => ?_⟩
    · have hOld : s.served other = some c := by simpa [hRefresh] using hServed
      obtain ⟨hName, response, hResponse, hAnswer⟩ := h.answered other c hOld
      have hNe : other ≠ name := by
        rintro rfl
        simp [hOpen] at hAnswer
      exact ⟨hName, response, hResponse, by simpa [hAnswers, hNe] using hAnswer⟩
    · have hOther : s.page.answers other = some (.body payload errors) := by
        by_cases hSame : other = name
        · subst hSame
          obtain rfl : answer = .body payload errors := by simpa [hAnswers] using hAnswer
          exact absurd rfl hBare
        · simpa [hAnswers, hSame] using hAnswer
      obtain ⟨c, hServed⟩ := h.served other payload errors hOther
      exact ⟨c, by simpa [hRefresh] using hServed⟩
  · have hOther : ∀ i j answer, action.event ≠ .settle i j answer :=
      fun i j answer hEvent => hSettle ⟨i, j, answer, hEvent⟩
    rcases Page.step_other hPage hOther with ⟨hAnswers, hRefresh⟩ | ⟨hAnswers, hRefresh⟩
    · exact ⟨hNext, by simp [hRefresh], by simp [hAnswers]⟩
    · exact ⟨hNext, by simpa [hAnswers, hRefresh] using h.answered, by simpa [hAnswers, hRefresh]
        using h.served⟩

theorem Inv.serve {s t : State F} {i j : Nat} {c : Collected F} (h : Inv js s)
    (hStep : step js s (.serve i j c) = some t) : Inv js t := by
  obtain ⟨body, hBody, hStep⟩ := Option.bind_eq_some_iff.mp hStep
  obtain ⟨request, hRequest, hStep⟩ := Option.bind_eq_some_iff.mp hStep
  split at hStep
  case h_1 => cases hStep
  case h_2 response hResponse =>
    obtain ⟨page, hPage, hSame⟩ := Option.bind_eq_some_iff.mp hStep
    obtain rfl := Option.some.inj hSame
    obtain ⟨other, name, hOther, hName, hSection, hOpen, hAnswers, hRefresh⟩ :=
      h.page.step_settle hPage
    obtain rfl := Option.some.inj (hBody.symm.trans hOther)
    obtain rfl := Option.some.inj (hRequest.symm.trans hName)
    refine ⟨h.page.step hPage, fun other c' hServed => ?_, fun other payload errors hAnswer => ?_⟩
    · by_cases hSame : other = name
      · subst hSame
        obtain rfl : c = c' := by simpa using hServed
        exact ⟨hSection, response, hResponse, by simp [hAnswers]⟩
      · obtain ⟨hIn, old, hOld, hAnswer⟩ := h.answered other c' (by simpa [hSame] using hServed)
        exact ⟨hIn, old, hOld, by simpa [hAnswers, hSame] using hAnswer⟩
    · by_cases hSame : other = name
      · exact ⟨c, by simp [hSame]⟩
      · obtain ⟨c', hServed⟩ :=
          h.served other payload errors (by simpa [hAnswers, hSame] using hAnswer)
        exact ⟨c', by simpa [hSame] using hServed⟩

theorem Inv.step {s t : State F} {event : Event F} (h : Inv js s)
    (hStep : Failures.step js s event = some t) :
    Inv js t := by
  cases event with
  | browser action => exact h.browser hStep
  | serve i j c => exact h.serve hStep

theorem inv_of_runs {events : List (Event F)} {s : State F}
    (run : Runs (Failures.step js) Failures.loaded events s) :
    Inv js s :=
  run.invariant .loaded fun _ _ _ hInv _ hStep => hInv.step hStep

/-- No collector fails unseen. When a refresh has left no error bar, every collector behind every
section has returned, and the page shows what they returned in this refresh; a collector
that raised an exception in it leaves a bar, which names it unless the browser has to sign in
or an exception ended the refresh. -/
theorem noUnseenFailure {events : List (Event F)} {s : State F}
    (run : Runs (step js) loaded events s) (hIdle : s.page.state.bodies = []) :
    (s.page.state.errorBar = none → ∀ name ∈ sections, ∃ c json, s.served name = some c ∧
      (∀ k ∈ collectorsOf name, ∃ value, c k = .ok value) ∧ getSection c name = .ok (.body json) ∧
      s.page.shown name = some (s.page.refresh, json)) ∧
      ∀ name c k text, s.served name = some c → k ∈ collectorsOf name →
        c k = .error (.exception text) → ∃ bar, s.page.state.errorBar = some bar ∧
          (s.page.escaped = false →
            (∀ failure, s.page.Fails failure → failure.status.isUnauthorized = false) →
            (failureOf name k).text.toList <:+: bar.toList) := by
  have inv := inv_of_runs run
  have hLeft := inv.page.left hIdle
  constructor
  · intro hBar name hName
    have hClean := hLeft.bar.mp hBar
    obtain ⟨payload, hAnswer⟩ := hClean.answered name hName
    obtain ⟨c, hServed⟩ := inv.served name payload [] hAnswer
    obtain ⟨-, response, hResponse, hSame⟩ := inv.answered name c hServed
    have hBody := Option.some.inj (hSame.symm.trans hAnswer)
    obtain ⟨hCollected, json, rfl, rfl⟩ := (Failures.served c hName).collected hResponse hBody
    exact ⟨c, json, hServed, hCollected, hResponse, hLeft.shown hClean name hName json [] hAnswer⟩
  · intro name c k text hServed hOwn hRaised
    obtain ⟨hName, response, hResponse, hAnswer⟩ := inv.answered name c hServed
    have hReported : failureOf name k ∈ (fetchSection name (answerOf js response)).2 :=
      (Failures.served c hName).reported hResponse hOwn hRaised
    have hFails : s.page.Fails (failureOf name k) := .inl ⟨name, _, hAnswer, hReported⟩
    cases hBar : s.page.state.errorBar with
    | none =>
        obtain ⟨payload, hClean⟩ := (hLeft.bar.mp hBar).answered name hName
        rw [Option.some.inj (hAnswer.symm.trans hClean)] at hReported
        simp [fetchSection] at hReported
    | some bar =>
        refine ⟨bar, rfl, fun hReturned hSigned => ?_⟩
        obtain ⟨same, hSame, hText⟩ := hLeft.named hReturned hSigned _ hFails
        rwa [← Option.some.inj (hBar.symm.trans hSame)] at hText

end

/-- A refresh in which the server answers every request after the same outcomes. -/
def refreshOf (collected : Collected Int) : List (Event Int) :=
  (List.range 5).map (fun j => .serve 0 j collected) ++ [.browser ⟨.proceed 0 ⟨[], none⟩, []⟩] ++
    (List.range 6).map (fun j => .serve 0 j collected) ++ [.browser ⟨.proceed 0 ⟨[], none⟩, []⟩]

/-- A refresh in which every collector returns. -/
def allReturn : List (Event Int) := refreshOf fun _ => .ok (.list [])

def exampleText : JsText Int where
  text
    | .str text => text
    | _ => ""
  text_str _ := rfl

def sensorsFailed : String :=
  "Error fetching data: some sections could not be loaded: hardware/sensors (collector failed)"

theorem bar_noSensors :
    (execute (step exampleText) loaded (refreshOf noSensors)).map
      (fun s => (s.page.state.bodies.isEmpty, s.page.state.errorBar)) =
        some (true, some sensorsFailed) := by
  decide +kernel

theorem execute_noSensors : ∃ s, execute (step exampleText) loaded (refreshOf noSensors) = some s ∧
    s.page.state.bodies = [] ∧ s.served "hardware" = some noSensors ∧
      s.page.state.errorBar = some sensorsFailed := by
  obtain ⟨s, hExecute, hEnd⟩ := Option.map_eq_some_iff.mp bar_noSensors
  obtain ⟨hIdle, hText⟩ := Prod.mk.inj hEnd
  have hServed :
      (execute (step exampleText) loaded (refreshOf noSensors)).map (fun s => s.served "hardware") =
      some (some noSensors) := rfl
  rw [hExecute] at hServed
  exact ⟨s, hExecute, List.isEmpty_iff.mp hIdle, Option.some.inj hServed, hText⟩

/-- Where every collector returns, the page shows what they returned; where the sensors raise,
the bar names them. -/
theorem noUnseenFailure_allReturn :
    (∃ s : State Int, Runs (step exampleText) loaded allReturn s ∧
      ∃ c json, s.served "network" = some c ∧ getSection c "network" = .ok (.body json) ∧
        s.page.shown "network" = some (s.page.refresh, json)) ∧
    ∃ s : State Int, Runs (step exampleText) loaded (refreshOf noSensors) s ∧
      (∃ bar, s.page.state.errorBar = some bar) ∧
      s.page.state.errorBar = some sensorsFailed := by
  constructor
  · have hRun : Runs (step exampleText) loaded allReturn
        ((execute (step exampleText) loaded allReturn).get (by decide +kernel)) :=
      runs_of_execute (Option.some_get _).symm
    obtain ⟨hFresh, -⟩ := noUnseenFailure hRun (by decide +kernel)
    obtain ⟨c, json, hServed, -, hBody, hShown⟩ := hFresh (by decide +kernel) "network" (by decide)
    exact ⟨_, hRun, c, json, hServed, hBody, hShown⟩
  · obtain ⟨s, hExecute, hIdle, hRaised, hText⟩ := execute_noSensors
    have hRun := runs_of_execute hExecute
    obtain ⟨bar, hBar, -⟩ :=
      (noUnseenFailure hRun hIdle).2 "hardware" noSensors .sensors "" hRaised (by decide) rfl
    exact ⟨s, hRun, ⟨bar, hBar⟩, hText⟩

end NodeDebugDashboard.Dashboard.Failures
