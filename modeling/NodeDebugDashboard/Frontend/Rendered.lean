import NodeDebugDashboard.Frontend.Freshness
import NodeDebugDashboard.Frontend.ViewHistory

/-! The refresh loop of app/static/app.js with the markup that it writes: what a refresh leaves in
the regions of the page. -/
namespace NodeDebugDashboard.Frontend.Rendered

open Library Library.JavaScript Models
open View (Region Fast Slow Kept written composed indexHtml)

variable {V F : Type}

/-- How the renderers read the bodies of the sections. -/
structure Reader (V F : Type) where
  node : V → Payload.NodeInfo F
  hardware : V → Payload.HardwareOverview F
  warnings : V → List NodeWarning
  containers : V → ContainersOverview F
  clusterNodes : V → List Payload.ClusterNode
  kubernetes : V → Payload.KubernetesOverview F
  talos : V → TalosOverview
  storage : V → StorageOverview
  system : V → Payload.SystemOverview
  network : V → Payload.NetworkOverview
  processes : V → ProcessesOverview F

/-- What a `Promise.all` has put into `data`. -/
def received (body : Body V) (name : String) : Option V := (body.requests.lookup name).join.join

namespace Reader

variable (reader : Reader V F)

def fast (data : String → Option V) : Fast F where
  node := (data "node").map reader.node
  hardware := (data "hardware").map reader.hardware
  warnings := (data "warnings").map reader.warnings
  containers := (data "containers").map reader.containers
  clusterNodes := (data "cluster_nodes").map reader.clusterNodes

def slow (data : String → Option V) : Slow F where
  kubernetes := (data "kubernetes").map reader.kubernetes
  talos := (data "talos").map reader.talos
  storage := (data "storage").map reader.storage
  system := (data "system").map reader.system
  network := (data "network").map reader.network
  processes := (data "processes").map reader.processes

/-- The half of a refresh that a body renders. -/
def rendering (body : Body V) : View.Event F :=
  match body.phase with
  | .fast => .fast (reader.fast (received body))
  | .slow => .slow (reader.slow (received body))

variable [JsNumber F]

/-- The sections whose renderers throw. -/
def thrown (body : Body V) : List String :=
  if (received body "hardware").any fun payload =>
    (Renderers.renderHardware (reader.hardware payload)).isNone then
    ["hardware"]
  else []

end Reader

structure State (V F : Type) where
  page : Page V
  view : View.State F

inductive Event (V F : Type) where
  /-- An interval, the button, or the end of a request. -/
  | browser (event : Frontend.Event V)
  /-- A body goes on and renders what it has received. -/
  | render (i : Nat)
  /-- What is clicked or typed apart from that. -/
  | input (event : View.Event F)

def isRendering : Frontend.Event V → Bool
  | .proceed _ _ => true
  | _ => false

def isInput : View.Event F → Bool
  | .fast _ => false
  | .slow _ => false
  | _ => true

def loaded (theme : String) : State V F := ⟨.loaded, View.initial theme⟩

def step [JsNumber F] (reader : Reader V F) (browser : Renderers.Browser) (s : State V F) :
    Event V F → Option (State V F)
  | .browser event =>
      if isRendering event then none
      else (s.page.step ⟨event, []⟩).map fun page => { s with page := page }
  | .render i => do
      let body ← s.page.state.bodies[i]?
      let page ← s.page.step ⟨.proceed i ⟨reader.thrown body, none⟩, []⟩
      return { page := page, view := s.view.step browser (reader.rendering body) }
  | .input event =>
      if isInput event then some { s with view := s.view.step browser event } else none

/-- The regions that hold the markup of one section, whatever the order and the search are. -/
def single : List Region :=
  [.warnings, .hardware, .containers, .storage, .system, .network, .kubernetes, .talos]

def sectionName : Region → String
  | .warnings => "warnings"
  | .hardware => "hardware"
  | .containers => "containers"
  | .storage => "storage"
  | .system => "system"
  | .network => "network"
  | .kubernetes => "kubernetes"
  | .talos => "talos"
  | _ => ""

section Markup

variable [JsNumber F] (reader : Reader V F)

/-- The markup of a payload, unless its renderer throws. -/
def markup : Region → V → Option String
  | .warnings, payload => some (Renderers.renderWarnings F (reader.warnings payload))
  | .hardware, payload => Renderers.renderHardware (reader.hardware payload)
  | .containers, payload => some (Renderers.renderContainers (reader.containers payload))
  | .storage, payload => some (Storage.renderStorage (Renderers.numbers F) (reader.storage payload))
  | .system, payload => some (Renderers.renderSystem F (reader.system payload))
  | .network, payload => some (Renderers.renderNetwork F (reader.network payload))
  | .kubernetes, payload => some (Renderers.renderKubernetes (reader.kubernetes payload))
  | .talos, payload => some (Renderers.renderTalos F (reader.talos payload))
  | _, _ => none

theorem single_notMem_composed : ∀ region ∈ single, region ∉ composed := by decide

theorem sectionName_mem : ∀ region ∈ single, sectionName region ∈ sections := by decide

/-- A body does not receive what it did not ask for. -/
theorem received_eq_none {body : Body V} (hNames : body.requests.map Prod.fst = body.phase.sections)
    {name : String} (h : name ∉ body.phase.sections) : received body name = none := by
  rw [received, Body.lookup_eq_none hNames h]
  rfl

theorem map_map_eq_bind {A B C : Type*} (payload : Option A) (read : A → B) (html : B → C) :
    (payload.map read).map html = payload.bind fun item => some (html (read item)) := by
  cases payload <;> rfl

/-- A body writes into a region what it received for its section. -/
theorem written_rendering {body : Body V}
    (hNames : body.requests.map Prod.fst = body.phase.sections) {region : Region}
    (h : region ∈ single) :
    written region (reader.rendering body) = (received body (sectionName region)).bind
      (markup reader region) := by
  have hOther :
      sectionName region ∉ body.phase.sections → received body (sectionName region) = none :=
    received_eq_none hNames
  unfold Reader.rendering
  simp only [single, List.mem_cons, List.not_mem_nil, or_false] at h
  cases hPhase : body.phase with
  | fast =>
      rw [hPhase] at hOther
      rcases h with rfl | rfl | rfl | rfl | rfl | rfl | rfl | rfl
      case inl => exact map_map_eq_bind ..
      case inr.inl => exact Option.bind_map ..
      case inr.inr.inl => exact map_map_eq_bind ..
      all_goals
        rw [hOther (by decide)]
        rfl
  | slow =>
      rw [hPhase] at hOther
      rcases h with rfl | rfl | rfl | h
      case inr.inr.inr => rcases h with rfl | rfl | rfl | rfl | rfl <;> exact map_map_eq_bind ..
      all_goals
        rw [hOther (by decide)]
        rfl

/-- A renderer throws when it has no markup for what was received. -/
theorem mem_thrown_iff {body : Body V} {region : Region} (h : region ∈ single) {payload : V}
    (hReceived : received body (sectionName region) = some payload) :
    sectionName region ∈ reader.thrown body ↔ markup reader region payload = none := by
  simp only [single, List.mem_cons, List.not_mem_nil, or_false] at h
  unfold Reader.thrown
  rcases h with rfl | rfl | rfl | rfl | rfl | rfl | rfl | rfl
  case inr.inl =>
    change received body "hardware" = some payload at hReceived
    cases hHtml : Renderers.renderHardware (reader.hardware payload) <;>
      simp [hReceived, sectionName, markup, hHtml]
  all_goals split_ifs <;> simp [sectionName, markup]

omit [JsNumber F] in
theorem nodes_rendering {body : Body V}
    (hNames : body.requests.map Prod.fst = body.phase.sections) :
    (reader.rendering body).nodes = (received body "cluster_nodes").map reader.clusterNodes := by
  unfold Reader.rendering
  cases hPhase : body.phase with
  | fast => rfl
  | slow =>
      rw [received_eq_none hNames (by rw [hPhase]; decide)]
      rfl

omit [JsNumber F] in
theorem procs_rendering {body : Body V}
    (hNames : body.requests.map Prod.fst = body.phase.sections) :
    (reader.rendering body).procs = (received body "processes").map reader.processes := by
  unfold Reader.rendering
  cases hPhase : body.phase with
  | fast =>
      rw [received_eq_none hNames (by rw [hPhase]; decide)]
      rfl
  | slow => rfl

omit [JsNumber F] in
theorem ssh_rendering {body : Body V} (hNames : body.requests.map Prod.fst = body.phase.sections) :
    (reader.rendering body).ssh =
      (received body "kubernetes").map fun payload => (reader.kubernetes payload).sshInfo := by
  unfold Reader.rendering
  cases hPhase : body.phase with
  | fast =>
      rw [received_eq_none hNames (by rw [hPhase]; decide)]
      rfl
  | slow => exact Option.map_map ..

/-- The bar of the node shows what the same body received of its hardware. -/
theorem written_nodeBar {body : Body V}
    (hNames : body.requests.map Prod.fst = body.phase.sections) :
    written .nodeBar (reader.rendering body) = (received body "node").map fun payload =>
      Renderers.renderNodeBar (reader.node payload)
        ((received body "hardware").map reader.hardware) := by
  unfold Reader.rendering
  cases hPhase : body.phase with
  | fast => exact Option.map_map ..
  | slow =>
      have hNode : received body "node" = none := received_eq_none hNames (by rw [hPhase]; decide)
      rw [hNode]
      rfl

/-- What is clicked and typed brings no payload. -/
theorem input_brings_none {event : View.Event F} (h : isInput event = true) :
    (∀ region, written region event = none) ∧ event.nodes = none ∧ event.ssh = none ∧
    event.procs = none := by
  cases event with
  | fast data => cases h
  | slow data => cases h
  | _ => exact ⟨fun region => by cases region <;> rfl, rfl, rfl, rfl⟩

end Markup

section Pages

theorem render_shown (p : Page V) (state : Frontend.State V) (body : Body V) (raised : List String)
    (name : String) :
    (p.render state body ⟨raised, none⟩ []).shown name =
      match received body name with
      | some payload => if name ∈ raised then p.shown name else some (p.refresh, payload)
      | none => p.shown name := by
  cases hLookup : body.requests.lookup name with
  | none => simp [Page.render, received, hLookup]
  | some result => rcases result with _ | _ | payload <;> simp [Page.render, received, hLookup]

/-- No renderer but that of the hardware throws. -/
theorem render_unthrown [JsNumber F] (reader : Reader V F) (p : Page V) (state : Frontend.State V)
    (body : Body V) {name : String} (h : name ≠ "hardware") :
    (p.render state body ⟨reader.thrown body, none⟩ []).shown name =
      ((received body name).map fun payload => (p.refresh, payload)).or (p.shown name) := by
  have hNot : name ∉ reader.thrown body := by
    unfold Reader.thrown
    split_ifs <;> simp [h]
  rw [render_shown]
  cases received body name with
  | none => rfl
  | some payload => exact if_neg hNot

/-- Only rendering changes what the sections show. -/
theorem step_shown {p q : Page V} {event : Frontend.Event V} (hStep : p.step ⟨event, []⟩ = some q)
    (hEvent : isRendering event = false) : q.shown = p.shown := by
  obtain ⟨state, hState, hStep⟩ := Option.bind_eq_some_iff.mp hStep
  have hIdle : ∀ next : Page V,
      (if p.state.bodies.length < state.bodies.length then p.begin state
        else { p with state := state }) = next →
      next.shown = p.shown := by
    rintro next rfl
    split_ifs <;> rfl
  cases event with
  | tick interval => exact hIdle q (Option.some.inj hStep)
  | click => exact hIdle q (Option.some.inj hStep)
  | settle i j answer =>
      obtain ⟨body, hBody, hStep⟩ := Option.bind_eq_some_iff.mp hStep
      obtain ⟨request, hRequest, hStep⟩ := Option.bind_eq_some_iff.mp hStep
      obtain rfl := Option.some.inj hStep
      rfl
  | proceed i rendering => cases hEvent

/-- What a section brought in the last refresh. -/
def payloadOf (p : Page V) (name : String) : Option V :=
  (p.answers name).bind fun answer => (fetchSection name answer).1

theorem received_eq_payloadOf {p : Page V} {body : Body V} (h : Underway p body)
    (hSettled : body.settled = true) {name : String} (hName : name ∈ body.phase.sections) :
    received body name = payloadOf p name := by
  obtain ⟨answer, hAnswer, hLookup⟩ := h.answered hSettled hName
  simp [received, payloadOf, hAnswer, hLookup]

/-- The first half of the last refresh has been rendered. -/
def FastRendered (p : Page V) : Prop := ∀ body, p.state.bodies = [body] → body.phase = .slow

/-- An interval that is due, or a click, leaves a refresh as it is. -/
theorem fastRendered_of_idle {p : Page V} {state : Frontend.State V} {event : Frontend.Event V}
    (h : PageInv p) (hState : Frontend.step p.state event = some state)
    (hSame : ∀ body, state.bodies = [body] → body.phase = .slow)
    (hEvent : event = .click ∨ ∃ interval, event = .tick interval) : FastRendered p := by
  intro body hBodies
  rcases h.loop with hCounting | hRefreshing
  · rw [hCounting.bodies] at hBodies
    cases hBodies
  · rcases hEvent with rfl | ⟨interval, rfl⟩
    · obtain rfl := Option.some.inj hState
      rw [hRefreshing.fetchOverview] at hSame
      exact hSame body hBodies
    · obtain ⟨hDue, -⟩ := Option.ite_none_right_eq_some.mp hState
      simp [hRefreshing.intervals] at hDue

/-- A refresh begins with no payload, and its first half keeps its payloads once it has been
rendered. -/
theorem step_payloadOf {p q : Page V} {event : Frontend.Event V} (h : PageInv p)
    (hStep : p.step ⟨event, []⟩ = some q) (hEvent : isRendering event = false)
    (hNext : FastRendered q) :
    (∀ name, payloadOf q name = none) ∨
      FastRendered p ∧ ∀ name ∈ fastSections, payloadOf q name = payloadOf p name := by
  obtain ⟨state, hState, hStep⟩ := Option.bind_eq_some_iff.mp hStep
  have hIdle : (event = .click ∨ ∃ interval, event = .tick interval) →
      (if p.state.bodies.length < state.bodies.length then p.begin state
        else { p with state := state }) = q →
      (∀ name, payloadOf q name = none) ∨
        FastRendered p ∧ ∀ name ∈ fastSections, payloadOf q name = payloadOf p name := by
    rintro hKind rfl
    split_ifs at hNext ⊢
    · exact .inl fun _ => rfl
    · exact .inr ⟨fastRendered_of_idle h hState hNext hKind, fun _ _ => rfl⟩
  cases event with
  | tick interval => exact hIdle (.inr ⟨interval, rfl⟩) (Option.some.inj hStep)
  | click => exact hIdle (.inl rfl) (Option.some.inj hStep)
  | proceed i rendering => cases hEvent
  | settle i j answer =>
      obtain ⟨body, hBody, hStep⟩ := Option.bind_eq_some_iff.mp hStep
      obtain ⟨⟨name, result⟩, hRequest, hStep⟩ := Option.bind_eq_some_iff.mp hStep
      obtain rfl := Option.some.inj hStep
      obtain ⟨hBodies, rfl⟩ := bodies_eq_of_getElem? h.loop hBody
      obtain ⟨other, hOther, hState⟩ := Option.bind_eq_some_iff.mp hState
      obtain rfl := Option.some.inj (hBody.symm.trans hOther)
      rw [hRequest] at hState
      cases result with
      | some result => cases hState
      | none =>
          obtain rfl := Option.some.inj hState
          have hPhase : body.phase = .slow :=
            hNext (body.settle j name answer) (by simp [Page.settle, hBodies])
          have hName := (h.underway body hBodies).mem_sections hRequest
          rw [hPhase] at hName
          refine .inr ⟨fun other hOther => ?_, fun other hFast => ?_⟩
          · obtain rfl : body = other := by simpa using hBodies.symm.trans hOther
            exact hPhase
          · simp [payloadOf, Page.settle, fast_ne_slow hFast hName]

end Pages

section Runs

variable [JsNumber F]

/-- What a region holds: the markup of the payload that its section shows, if there is one. -/
def Draws (reader : Reader V F) (region : Region) (html : String) : Option (Nat × V) → Prop
  | none => html = indexHtml region
  | some shown => markup reader region shown.2 = some html

theorem draws_some {reader : Reader V F} {region : Region} {html : String} {shown : Nat × V} :
    Draws reader region html (some shown) ↔ markup reader region shown.2 = some html := .rfl

/-- The board, for what the sections that it is made of show. -/
def Posted (reader : Reader V F) (browser : Renderers.Browser) (s : State V F) : Prop :=
  ∃ r, Kept browser r s.view.board ∧
    r.nodes = (s.page.shown "cluster_nodes").map (fun shown => reader.clusterNodes shown.2) ∧
    r.ssh = (s.page.shown "kubernetes").map (fun shown => (reader.kubernetes shown.2).sshInfo) ∧
    r.procs = (s.page.shown "processes").map fun shown => reader.processes shown.2

/-- The page holds the markup of what its sections show. -/
structure Inv (reader : Reader V F) (browser : Renderers.Browser) (s : State V F) : Prop where
  page : PageInv s.page
  drawn :
      ∀ region ∈ single, Draws reader region (s.view.innerHTML region)
        (s.page.shown (sectionName region))
  nodeBar : FastRendered s.page → ∀ node, payloadOf s.page "node" = some node →
    s.view.innerHTML .nodeBar =
      Renderers.renderNodeBar (reader.node node) ((payloadOf s.page "hardware").map reader.hardware)
  posted : Posted reader browser s

variable {reader : Reader V F} {browser : Renderers.Browser}

theorem Inv.loaded (theme : String) : Inv reader browser (loaded theme) where
  page := .loaded
  drawn _ _ := rfl
  nodeBar _ _ hNode := by cases hNode
  posted := ⟨View.received theme [], View.kept_page browser theme [], rfl, rfl, rfl⟩

theorem Inv.browse {s t : State V F} {event : Frontend.Event V} (h : Inv reader browser s)
    (hStep : step reader browser s (.browser event) = some t) : Inv reader browser t := by
  obtain ⟨hEvent, hStep⟩ := Option.ite_none_left_eq_some.mp hStep
  obtain ⟨page, hPage, rfl⟩ := Option.map_eq_some_iff.mp hStep
  have hShown := step_shown hPage (by simpa using hEvent)
  refine ⟨h.page.step hPage, fun region hRegion => ?_, fun hNext node hNode => ?_, ?_⟩
  · rw [hShown]
    exact h.drawn region hRegion
  · rcases step_payloadOf h.page hPage (by simpa using hEvent) hNext with hNone | ⟨hBefore, hSame⟩
    · rw [hNone] at hNode
      cases hNode
    · rw [hSame "node" (by decide)] at hNode
      rw [hSame "hardware" (by decide)]
      exact h.nodeBar hBefore node hNode
  · unfold Posted
    rw [hShown]
    exact h.posted

/-- The renderers draw what the sections show from now on. -/
theorem Inv.draw {s : State V F} {body : Body V} (h : Inv reader browser s)
    (hNames : body.requests.map Prod.fst = body.phase.sections) (state : Frontend.State V)
    {region : Region} (hRegion : region ∈ single) :
    Draws reader region ((s.view.step browser (reader.rendering body)).innerHTML region)
      ((s.page.render state body ⟨reader.thrown body, none⟩ []).shown (sectionName region)) := by
  have hOld := h.drawn region hRegion
  rw [View.State.step_section _ _ (single_notMem_composed region hRegion),
    written_rendering reader hNames hRegion, render_shown]
  cases hReceived : received body (sectionName region) with
  | none => exact hOld
  | some payload =>
      have hThrown := mem_thrown_iff reader hRegion hReceived
      rw [Option.bind_some]
      cases hHtml : markup reader region payload with
      | none =>
          simpa [hThrown.mpr hHtml] using hOld
      | some html =>
          have hNot : sectionName region ∉ reader.thrown body := fun hMem => by
            rw [hThrown.mp hMem] at hHtml
            cases hHtml
          simp [Draws, hNot, hHtml]

theorem Inv.drawNodeBar {s : State V F} {body : Body V} (h : Inv reader browser s)
    (hBodies : s.page.state.bodies = [body]) (hSettled : body.settled = true) {node : V}
    (hNode : payloadOf s.page "node" = some node) :
    (s.view.step browser (reader.rendering body)).innerHTML .nodeBar =
      Renderers.renderNodeBar (reader.node node)
        ((payloadOf s.page "hardware").map reader.hardware) := by
  have hUnderway := h.page.underway body hBodies
  rw [View.State.step_section _ _ (by decide), written_nodeBar reader hUnderway.names]
  cases hPhase : body.phase with
  | fast =>
      have hFast :
          ∀ name ∈ fastSections, received body name = payloadOf s.page name := fun name hName =>
        received_eq_payloadOf hUnderway hSettled (by rw [hPhase]; exact hName)
      rw [hFast "node" (by decide), hFast "hardware" (by decide), hNode]
      rfl
  | slow =>
      have hNone : received body "node" = none :=
        received_eq_none hUnderway.names (by rw [hPhase]; decide)
      have hBefore : FastRendered s.page := fun other hOther => by
        obtain rfl : body = other := by simpa using hBodies.symm.trans hOther
        exact hPhase
      rw [hNone]
      exact h.nodeBar hBefore node hNode

theorem Inv.post {s : State V F} {body : Body V} (h : Inv reader browser s)
    (hNames : body.requests.map Prod.fst = body.phase.sections) (state : Frontend.State V) :
    Posted reader browser { page := s.page.render state body ⟨reader.thrown body, none⟩ []
                            view := s.view.step browser (reader.rendering body) } := by
  obtain ⟨r, hKept, hNodes, hSsh, hProcs⟩ := h.posted
  refine ⟨r.add (reader.rendering body), ?_, ?_, ?_, ?_⟩
  · rw [View.State.step_board]
    exact hKept.step _
  · rw [render_unthrown reader _ _ _ (by decide), Option.map_or, Option.map_map]
    exact congrArg₂ Option.or (nodes_rendering reader hNames) hNodes
  · rw [render_unthrown reader _ _ _ (by decide), Option.map_or, Option.map_map]
    exact congrArg₂ Option.or (ssh_rendering reader hNames) hSsh
  · rw [render_unthrown reader _ _ _ (by decide), Option.map_or, Option.map_map]
    exact congrArg₂ Option.or (procs_rendering reader hNames) hProcs

theorem Inv.render {s t : State V F} {i : Nat} (h : Inv reader browser s)
    (hStep : step reader browser s (.render i) = some t) : Inv reader browser t := by
  obtain ⟨body, hBody, hStep⟩ := Option.bind_eq_some_iff.mp hStep
  obtain ⟨page, hPage, hStep⟩ := Option.bind_eq_some_iff.mp hStep
  obtain rfl := Option.some.inj hStep
  have hNext := h.page.step hPage
  have hBodies := (bodies_eq_of_getElem? h.page.loop hBody).1
  have hNames := (h.page.underway body hBodies).names
  obtain ⟨state, hState, hPage⟩ := Option.bind_eq_some_iff.mp hPage
  obtain ⟨other, hOther, hPage⟩ := Option.bind_eq_some_iff.mp hPage
  obtain rfl := Option.some.inj (hBody.symm.trans hOther)
  obtain rfl := Option.some.inj hPage
  obtain ⟨same, hSame, hState⟩ := Option.bind_eq_some_iff.mp hState
  obtain rfl := Option.some.inj (hBody.symm.trans hSame)
  have hSettled := (Option.ite_none_right_eq_some.mp hState).1
  exact ⟨hNext, fun region => h.draw hNames state, fun _ _ => h.drawNodeBar hBodies hSettled,
    h.post hNames state⟩

/-- The input brings no payload. -/
theorem Inv.input {s t : State V F} {event : View.Event F} (h : Inv reader browser s)
    (hStep : step reader browser s (.input event) = some t) : Inv reader browser t := by
  obtain ⟨hInput, hStep⟩ := Option.ite_none_right_eq_some.mp hStep
  obtain rfl := Option.some.inj hStep
  obtain ⟨hWritten, hNodes, hSsh, hProcs⟩ := input_brings_none hInput
  refine ⟨h.page, fun region hRegion => ?_, fun hBefore node hNode => ?_, ?_⟩
  · rw [View.State.step_section _ _ (single_notMem_composed region hRegion), hWritten]
    exact h.drawn region hRegion
  · rw [View.State.step_section _ _ (by decide), hWritten]
    exact h.nodeBar hBefore node hNode
  · obtain ⟨r, hKept, hShown⟩ := h.posted
    refine ⟨r.add event, ?_, ?_⟩
    · rw [View.State.step_board]
      exact hKept.step event
    · rw [View.Received.add, hNodes, hSsh, hProcs]
      exact hShown

theorem Inv.step {s t : State V F} {event : Event V F} (h : Inv reader browser s)
    (hStep : Rendered.step reader browser s event = some t) : Inv reader browser t := by
  cases event with
  | browser event => exact h.browse hStep
  | render i => exact h.render hStep
  | input event => exact h.input hStep

theorem inv_of_runs {theme : String} {events : List (Event V F)} {s : State V F}
    (run : Runs (Rendered.step reader browser) (Rendered.loaded theme) events s) :
    Inv reader browser s :=
  run.invariant (.loaded theme) fun _ _ _ hInv _ hStep => hInv.step hStep

/-- The section brought this payload in the last refresh. -/
def Brought (s : State V F) (name : String) (item : V) : Prop :=
  s.page.answers name = some (.body (some item) [])

omit [JsNumber F] in
theorem Brought.payloadOf_eq {s : State V F} {name : String} {item : V} (h : Brought s name item) :
    payloadOf s.page name = some item :=
  congrArg (fun answer => Option.bind answer fun answer => (fetchSection name answer).1) h

/-- All sections were answered in the last refresh, and the page holds the markup of these answers:
the sections of one payload as they are, the processes in the order that was clicked last, and
the bar over the nodes that match the search box. -/
structure Fresh (reader : Reader V F) (browser : Renderers.Browser) (s : State V F) : Prop where
  answered : ∀ name ∈ sections, ∃ payload, s.page.answers name = some (.body payload [])
  drawn : ∀ region ∈ single, ∀ item, Brought s (sectionName region) item →
    markup reader region item = some (s.view.innerHTML region)
  nodeBar : ∀ node hardware, Brought s "node" node → Brought s "hardware" hardware →
    s.view.innerHTML .nodeBar = Renderers.renderNodeBar (reader.node node)
      (some (reader.hardware hardware))
  processes : ∀ item, Brought s "processes" item →
    s.view.innerHTML .processes = Renderers.renderProcesses s.view.processSort
      (reader.processes item)
  sshInfo : ∀ item, Brought s "kubernetes" item → s.view.sshInfo = (reader.kubernetes item).sshInfo
  hidden : ∀ item, Brought s "cluster_nodes" item → reader.clusterNodes item = [] →
      s.view.clusterHidden = true
  cluster : ∀ item, Brought s "cluster_nodes" item → reader.clusterNodes item ≠ [] →
    s.view.clusterHidden = false ∧
      s.view.clusterCount = View.State.countText (F := F) (reader.clusterNodes item) ∧
      s.view.innerHTML .clusterCurrent =
        View.State.currentOf (F := F) (reader.clusterNodes item) s.view.sshInfo ∧
      ∃ theme, s.view.innerHTML .clusterList =
        Renderers.renderClusterList F browser (reader.clusterNodes item) s.view.sshInfo theme
          (browser.toLowerCase s.view.search)

/-- When a refresh has left no error bar, nothing on the page is older than it, in every interleaving of
answers, renderings, clicks and key presses. -/
theorem freshMarkup {theme : String} {events : List (Event V F)} {s : State V F}
    (run : Runs (step reader browser) (loaded theme) events s) (hIdle : s.page.state.bodies = [])
    (hBar : s.page.state.errorBar = none) : Fresh reader browser s := by
  have inv := inv_of_runs run
  have hLeft := inv.page.left hIdle
  have hClean := hLeft.bar.mp hBar
  have hShown : ∀ name ∈ sections, ∀ item, Brought s name item →
      s.page.shown name = some (s.page.refresh, item) :=
    fun name hName item => hLeft.shown hClean name hName item []
  obtain ⟨r, hKept, hNodes, hSsh, hProcs⟩ := inv.posted
  have hSame :
      ∀ item, Brought s "cluster_nodes" item → s.view.board.nodes = reader.clusterNodes item ∧
      r.nodes = some (reader.clusterNodes item) := by
    intro item hBrought
    rw [hShown _ (by decide) item hBrought] at hNodes
    rw [hKept.nodes, hNodes]
    exact ⟨rfl, rfl⟩
  refine ⟨hClean.answered, fun region hRegion item hBrought =>
    ?_, fun node hardware hNode hHardware => ?_,
    fun item hBrought => ?_, fun item hBrought => ?_, fun item hBrought hEmpty =>
      ?_, fun item hBrought hSome => ?_⟩
  · have hDrawn := inv.drawn region hRegion
    rw [hShown _ (sectionName_mem region hRegion) item hBrought, draws_some] at hDrawn
    exact hDrawn
  · have hRendered : FastRendered s.page := fun body hBodies => by
      rw [hIdle] at hBodies
      cases hBodies
    have hNodeBar := inv.nodeBar hRendered node hNode.payloadOf_eq
    rw [hHardware.payloadOf_eq] at hNodeBar
    exact hNodeBar
  · have hProcesses := hKept.processes
    rw [hKept.procs, hProcs, hShown _ (by decide) item hBrought] at hProcesses
    exact hProcesses
  · have hInfo := hKept.ssh
    rw [hSsh, hShown _ (by decide) item hBrought] at hInfo
    exact hInfo
  · exact hKept.hidden (hEmpty ▸ (hSame item hBrought).2)
  · have hBoard := (hSame item hBrought).1
    have hListed := hKept.listed (hBoard ▸ hSome)
    obtain ⟨chosen, -, hList⟩ := hListed.list
    have hCount := hListed.count
    have hCurrent := hListed.current
    rw [hBoard] at hCount hCurrent hList
    exact ⟨hListed.hidden, hCount, hCurrent, chosen, hList⟩

/-- A node of a small cluster, with a full disk and two processes. -/
def exampleReader : Reader Unit Int where
  node _ :=
    { hostname := "worker-1", osName := "Talos", kernelVersion := "6.12.0",
      uptimeHuman := "3d", load1m := 1
      cpuModel := "", cpuCores := 4, cpuThreads := 8, ramTotalGb := 16, ipAddresses := [] }
  hardware _ := { cpu := none, memory := none }
  warnings _ := [{ severity := "warning", source := "disk", message := "/var is 91% full" }]
  containers _ := {}
  clusterNodes _ :=
    [{ name := "worker-1", ip := "192.0.2.11", ready := true, current := true },
      { name := "control-1", ip := "192.0.2.10", role := "control-plane", ready := true }]
  kubernetes _ := {}
  talos _ := {}
  storage _ := {}
  system _ := { efi := {} }
  network _ := { interfaces := [], connectivity := none }
  processes _ :=
    { totalCount := 2
      processes := [{ pid := 41, cpuPercent := 1, memPercent := 9, command := "kubelet" },
        { pid := 42, cpuPercent := 70, memPercent := 3, command := "stress" }] }

/-- A refresh in which every section is answered, with a click on a sort button in between. -/
def allAnswered : List (Event Unit Int) :=
  (List.range 5).map (fun j => .browser (.settle 0 j (.body (some ()) []))) ++
    [.render 0, .input (.sort .cpu)] ++
    (List.range 6).map (fun j => .browser (.settle 0 j (.body (some ()) []))) ++ [.render 0]

/-- The bar is shown for the two nodes, and the processes are sorted as they were clicked. -/
theorem freshMarkup_allAnswered : ∃ s : State Unit Int,
    Runs (step exampleReader View.exampleBrowser) (loaded "auto") allAnswered s ∧
      Fresh exampleReader View.exampleBrowser s ∧ s.view.clusterHidden = false ∧
      s.view.innerHTML .processes =
        Renderers.renderProcesses .cpu (exampleReader.processes ()) := by
  have hRun : Runs (step exampleReader View.exampleBrowser) (loaded "auto") allAnswered
      ((execute (step exampleReader View.exampleBrowser) (loaded "auto") allAnswered).get
        (by decide +kernel)) :=
    runs_of_execute (Option.some_get _).symm
  have hFresh := freshMarkup hRun (by decide +kernel) (by decide +kernel)
  obtain ⟨hShown, -⟩ := hFresh.cluster () rfl (by decide)
  exact ⟨_, hRun, hFresh, hShown, hFresh.processes () rfl⟩

end Runs

end NodeDebugDashboard.Frontend.Rendered
