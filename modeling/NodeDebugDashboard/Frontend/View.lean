import NodeDebugDashboard.Frontend.PageMarkup
import NodeDebugDashboard.Library.History

/-! What the page of app/static/app.js shows over its whole life: the regions of index.html, the
variables that the renderers keep, and the events that call them. -/
namespace NodeDebugDashboard.Frontend.View

open Library Library.Html Library.JavaScript Models Renderers

/-- The elements whose `innerHTML` is set. -/
inductive Region where
  | headerNode
  | nodeBar
  | clusterCurrent
  | clusterList
  | warnings
  | hardware
  | storage
  | system
  | network
  | kubernetes
  | talos
  | containers
  | processes
  deriving DecidableEq

/-- The payloads of the fast sections that a refresh received. -/
structure Fast (F : Type) where
  node : Option (Payload.NodeInfo F) := none
  hardware : Option (Payload.HardwareOverview F) := none
  warnings : Option (List NodeWarning) := none
  containers : Option (ContainersOverview F) := none
  clusterNodes : Option (List Payload.ClusterNode) := none

/-- The payloads of the slow sections that it received. -/
structure Slow (F : Type) where
  kubernetes : Option (Payload.KubernetesOverview F) := none
  talos : Option TalosOverview := none
  storage : Option StorageOverview := none
  system : Option Payload.SystemOverview := none
  network : Option Payload.NetworkOverview := none
  processes : Option (ProcessesOverview F) := none

/-- What calls the renderers: the two halves of a refresh, and what is clicked and typed. -/
inductive Event (F : Type) where
  | fast (data : Fast F)
  | slow (data : Slow F)
  | sort (order : ProcessSort)
  /-- The list of nodes is opened. -/
  | openList
  | search (value : String)
  | applyTheme (theme : String)

structure State (F : Type) where
  innerHTML : Region → String
  /-- `className` of the warnings -/
  warningsClass : String
  /-- `style.display` of the cluster bar is `none` -/
  clusterHidden : Bool
  /-- `textContent` of `cluster-count` -/
  clusterCount : String
  /-- The value of `cluster-search` -/
  search : String
  theme : String
  nodeRole : Option String
  clusterNodes : List Payload.ClusterNode
  sshInfo : Payload.SSHInfo
  processSort : ProcessSort
  lastProcs : Option (ProcessesOverview F)
  /-- `data.node` of the refresh under way -/
  node : Option (Payload.NodeInfo F)

/-- The regions as index.html has them. -/
def indexHtml : Region → String
  | .headerNode => "Loading..."
  | .nodeBar =>
      "\n        <div class=\"loading\"><span class=\"spinner\"></span>Loading node info...</div>\n    "
  | .warnings =>
      "\n            <div class=\"loading\"><span class=\"spinner\"></span>Loading...</div>\n        "
  | _ => ""

variable {F : Type}

/-- The page when it is loaded. -/
def initial (theme : String) : State F where
  innerHTML := indexHtml
  warningsClass := "warnings-banner all-ok"
  clusterHidden := false
  clusterCount := ""
  search := ""
  theme := theme
  nodeRole := none
  clusterNodes := []
  sshInfo := {}
  processSort := .mem
  lastProcs := none
  node := none

namespace State

def set (s : State F) (region : Region) (html : String) : State F :=
  { s with innerHTML := Function.update s.innerHTML region html }

/-- `if (payload) render(...)` -/
def given {A : Type} (s : State F) (payload : Option A) (render : State F → A → State F) :
    State F :=
  match payload with
  | some payload => render s payload
  | none => s

variable [JsNumber F] (browser : Browser)

def renderClusterList (s : State F) (query : String) : State F :=
  s.set .clusterList (Renderers.renderClusterList F browser s.clusterNodes s.sshInfo s.theme query)

/-- `${readyCount}/${clusterNodes.length} nodes` -/
def countText (nodes : List Payload.ClusterNode) : String :=
  template ["", "/", " nodes"]
    [JsNumber.stringOf F (nodes.countP Payload.ClusterNode.ready), JsNumber.stringOf F nodes.length]

/-- The markup for the node that serves the page, if it is in the list. -/
def currentOf (nodes : List Payload.ClusterNode) (ssh : Payload.SSHInfo) : String :=
  ((nodes.find? Payload.ClusterNode.current).map (currentHtml F ssh)).getD ""

def renderClusterBar (s : State F) (nodes : List Payload.ClusterNode)
    (ssh : Option Payload.SSHInfo) : State F :=
  let s := { s with clusterNodes := nodes, sshInfo := ssh.getD s.sshInfo }
  if nodes.isEmpty then { s with clusterHidden := true }
  else
    renderClusterList browser
      ({ s with clusterHidden := false, clusterCount := countText (F := F) nodes }.set
        .clusterCurrent
        (currentOf (F := F) nodes s.sshInfo))
      (browser.toLowerCase s.search)

def renderProcesses (s : State F) (procs : ProcessesOverview F) : State F :=
  { s with lastProcs := some procs }.set .processes (Renderers.renderProcesses s.processSort procs)

def renderWarnings (s : State F) (warnings : List NodeWarning) : State F :=
  { s with warningsClass := Renderers.warningsClass warnings }.set .warnings
    (Renderers.renderWarnings F warnings)

/-- An exception of the renderer leaves the section as it is. -/
def renderHardware (s : State F) (hw : Payload.HardwareOverview F) : State F :=
  s.given (Renderers.renderHardware hw) fun s html => s.set .hardware html

def renderHeader (s : State F) (node : Payload.NodeInfo F) : State F :=
  s.set .headerNode (Renderers.renderHeader s.nodeRole node)

/-- The role of the node that serves the page, if the list has one. -/
def roleIn (nodes : Option (List Payload.ClusterNode)) : Option String :=
  ((nodes.bind fun nodes =>
    nodes.find? Payload.ClusterNode.current).map Payload.ClusterNode.role).filter (· ≠ "")

/-- The node of the refresh, and the role if there is one. -/
def remember (s : State F) (role : Option String) (node : Option (Payload.NodeInfo F)) : State F :=
  { s with nodeRole := role.or s.nodeRole, node := node }

/-- The first half of a refresh, up to `renderHeader`. -/
def fast (s : State F) (data : Fast F) : State F :=
  let s := s.given data.clusterNodes fun s nodes => s.renderClusterBar browser nodes none
  let s := s.given data.node fun s node => s.set .nodeBar (renderNodeBar node data.hardware)
  let s := s.given data.warnings renderWarnings
  let s := s.given data.hardware renderHardware
  let s := s.given data.containers fun s ct => s.set .containers (renderContainers ct)
  let s := s.remember (roleIn data.clusterNodes) data.node
  s.given data.node renderHeader

/-- The role that the labels of a node say. -/
def roleOf (labels : List (String × String)) : String :=
  if "node-role.kubernetes.io/control-plane" ∈ labels.map Prod.fst then
    "control-plane" else "worker"

/-- The second half. -/
def slow (s : State F) (data : Slow F) : State F :=
  let s := s.given data.kubernetes fun s k8s =>
    (s.set .kubernetes (renderKubernetes k8s)).renderClusterBar browser s.clusterNodes
      (some k8s.sshInfo)
  let s := s.given data.talos fun s talos => s.set .talos (renderTalos F talos)
  let s :=
    s.given data.storage fun s storage => s.set .storage (Storage.renderStorage (numbers F) storage)
  let s := s.given data.system fun s sys => s.set .system (renderSystem F sys)
  let s := s.given data.network fun s net => s.set .network (renderNetwork F net)
  let s := s.given data.processes renderProcesses
  s.given s.node fun s node => s.given data.kubernetes fun s k8s =>
    (s.remember (some (roleOf k8s.nodeInfo.labels)) s.node).renderHeader node

def step (s : State F) : Event F → State F
  | .fast data => s.fast browser data
  | .slow data => s.slow browser data
  | .sort order =>
      let s := { s with processSort := order }
      s.given s.lastProcs renderProcesses
  | .openList => { s with search := "" }.renderClusterList browser ""
  | .search value =>
      { s with search := value }.renderClusterList browser (browser.toLowerCase value)
  | .applyTheme theme => { s with theme := theme }

end State

/-- The page after some events. -/
def page [JsNumber F] (browser : Browser) (theme : String) (events : List (Event F)) : State F :=
  events.foldl (State.step browser) (initial theme)

section Markup

variable {trusted : Region → Prop} {s : State F}

@[simp] theorem State.set_innerHTML (s : State F) (region other : Region) (html : String) :
    (s.set region html).innerHTML other = if other = region then html else s.innerHTML other :=
  Function.update_apply ..

/-- The regions of a kind hold nothing but markup of the page's own. -/
def State.Clean (s : State F) (trusted : Region → Prop) : Prop :=
  ∀ region, trusted region → Sound (s.innerHTML region)

theorem State.Clean.set (h : s.Clean trusted) {region : Region} {html : String}
    (hHtml : trusted region → Sound html) :
    (s.set region html).Clean trusted := by
  intro other hOther
  rw [State.set_innerHTML]
  split_ifs with hSame
  · exact hHtml (hSame ▸ hOther)
  · exact h other hOther

theorem State.Clean.given {A : Type} {payload : Option A} {render : State F → A → State F}
    (h : s.Clean trusted) (hRender : ∀ item, payload = some item → ∀ s : State F, s.Clean trusted →
      (render s item).Clean trusted) :
    (s.given payload render).Clean trusted := by
  cases payload with
  | none => exact h
  | some item => exact hRender item rfl s h

/-- A section whose renderer writes sound markup for whatever it gets. -/
theorem State.Clean.section {A : Type} {payload : Option A} {region : Region} {html : A → String}
    (h : s.Clean trusted) (hHtml : ∀ item, Sound (html item)) :
    (s.given payload fun s item => s.set region (html item)).Clean trusted :=
  h.given fun item _ _ hClean => hClean.set fun _ => hHtml item

variable [JsNumber F] {browser : Browser}

theorem State.Clean.renderClusterList (h : s.Clean trusted) (query : String) :
    (s.renderClusterList browser query).Clean trusted := h.set fun _ => sound_renderClusterList ..

theorem State.sound_currentOf (nodes : List Payload.ClusterNode) (ssh : Payload.SSHInfo) :
    Sound (State.currentOf (F := F) nodes ssh) := by
  unfold State.currentOf
  cases nodes.find? Payload.ClusterNode.current with
  | none => exact .empty
  | some current => exact sound_currentHtml ssh current

theorem State.Clean.renderClusterBar (h : s.Clean trusted) (nodes : List Payload.ClusterNode)
    (ssh : Option Payload.SSHInfo) : (s.renderClusterBar browser nodes ssh).Clean trusted := by
  unfold State.renderClusterBar
  split_ifs
  · exact h
  · apply State.Clean.renderClusterList
    apply State.Clean.set
    · exact h
    · exact fun _ => State.sound_currentOf ..

theorem State.Clean.renderProcesses (h : s.Clean trusted) (procs : ProcessesOverview F) :
    (s.renderProcesses procs).Clean trusted := by
  apply State.Clean.set
  · exact h
  · exact fun _ => sound_renderProcesses ..

theorem State.Clean.renderWarnings (h : s.Clean trusted) (warnings : List NodeWarning) :
    (s.renderWarnings warnings).Clean trusted := by
  apply State.Clean.set
  · exact h
  · exact fun _ => sound_renderWarnings ..

theorem State.Clean.renderHardware (h : s.Clean trusted) (hw : Payload.HardwareOverview F) :
    (s.renderHardware hw).Clean trusted :=
  h.given fun _ hHtml _ hClean => hClean.set fun _ => sound_renderHardware hHtml

omit [JsNumber F] in
theorem State.Clean.renderHeader (h : s.Clean trusted) (node : Payload.NodeInfo F) :
    (s.renderHeader node).Clean trusted := h.set fun _ => sound_renderHeader ..

omit [JsNumber F] in
theorem State.Clean.remember (h : s.Clean trusted) (role : Option String)
    (node : Option (Payload.NodeInfo F)) :
    (s.remember role node).Clean trusted := h

theorem State.Clean.fast (h : s.Clean trusted) (data : Fast F) :
    (s.fast browser data).Clean trusted := by
  unfold State.fast
  refine State.Clean.given ?_ fun node _ _ hClean => hClean.renderHeader node
  refine State.Clean.remember (State.Clean.section ?_ sound_renderContainers) _ _
  refine State.Clean.given ?_ fun hw _ _ hClean => hClean.renderHardware hw
  refine State.Clean.given ?_ fun warnings _ _ hClean => hClean.renderWarnings warnings
  refine State.Clean.section ?_ fun node => sound_renderNodeBar node data.hardware
  exact h.given fun nodes _ _ hClean => hClean.renderClusterBar nodes none

/-- No device of a storage payload closes the value it is put into. -/
def Event.Unquoted : Event F → Prop
  | .slow data => ∀ storage, data.storage = some storage → Storage.Unquoted storage
  | _ => True

theorem State.Clean.slow (h : s.Clean trusted) {data : Slow F}
    (hStorage : trusted .storage → (Event.slow data).Unquoted) :
    (s.slow browser data).Clean trusted := by
  unfold State.slow
  refine State.Clean.given ?_ fun node _ _ hClean =>
    hClean.given fun k8s _ _ hClean => (hClean.remember _ _).renderHeader node
  refine State.Clean.given ?_ fun procs _ _ hClean => hClean.renderProcesses procs
  refine State.Clean.section ?_ sound_renderNetwork
  refine State.Clean.section ?_ sound_renderSystem
  refine State.Clean.given ?_ fun storage hSome _ hClean =>
    hClean.set fun hTrusted => sound_renderStorage _ (hStorage hTrusted storage hSome)
  refine State.Clean.section ?_ sound_renderTalos
  exact h.given fun k8s _ _ hClean =>
    (hClean.set fun _ => sound_renderKubernetes k8s).renderClusterBar _ _

theorem State.Clean.step (h : s.Clean trusted) {event : Event F}
    (hStorage : trusted .storage → event.Unquoted) :
    (s.step browser event).Clean trusted := by
  cases event with
  | fast data => exact h.fast data
  | slow data => exact h.slow hStorage
  | sort order => exact State.Clean.given h fun procs _ _ hClean => hClean.renderProcesses procs
  | openList => exact State.Clean.renderClusterList h ""
  | search value => exact State.Clean.renderClusterList h _
  | applyTheme theme => exact h

theorem sound_indexHtml (region : Region) : Sound (indexHtml region) := by
  cases region with
  | headerNode => exact .text (by decide)
  | nodeBar => exact .literal (by decide +kernel)
  | warnings => exact .literal (by decide +kernel)
  | _ => exact .empty

theorem page_append (browser : Browser) (theme : String) (events : List (Event F))
    (event : Event F) :
    page browser theme (events ++ [event]) = (page browser theme events).step browser event :=
      List.foldl_concat ..

theorem clean_page (browser : Browser) (theme : String) {events : List (Event F)}
    (hStorage : trusted .storage → ∀ event ∈ events, event.Unquoted) :
    (page browser theme events).Clean trusted := by
  induction events using List.reverseRecOn with
  | nil => exact fun region _ => sound_indexHtml region
  | append_singleton events event ih =>
      rw [page_append]
      have hBefore :
          trusted .storage → ∀ earlier ∈ events, earlier.Unquoted := fun hTrusted earlier hMem =>
        hStorage hTrusted earlier (List.mem_append_left _ hMem)
      exact (ih hBefore).step fun hTrusted => hStorage hTrusted event (by simp)

/-- No tag of the page is a script, and none of its attributes is run as one. -/
theorem repertoire_harmless : ∀ tag ∈ repertoire.tags,
    tag.name ≠ "script".toList ∧ ∀ attr ∈ tag.attrs, ¬"on".toList <+: attr := by decide +kernel

end Markup

/-- Whatever the strings of the payloads are, and whatever is clicked and typed in between, every
region of the page holds markup that ends in text, whose tags and attributes are among those that
the code itself writes, and that closes what it opens. The storage section does as long as no
device closes the value it is put into. -/
theorem pageMarkup [JsNumber F] (browser : Browser) (theme : String) (events : List (Event F))
    (region : Region) (h : region = .storage → ∀ event ∈ events, event.Unquoted) :
    let html := (page browser theme events).innerHTML region
    Complete html ∧ repertoire.nest [] (tagsOf html) = some [] ∧
      ∀ tag ∈ tagsOf html, tag ∈ repertoire.tags ∧ tag.name ≠ "script".toList ∧
        ∀ attr ∈ tag.attrs, ¬"on".toList <+: attr := by
  have hClean : (page browser theme events).Clean (· = region) :=
    clean_page browser theme fun hSame => h hSame.symm
  have hSound := hClean region rfl
  refine ⟨hSound.complete, hSound.nested [], fun tag hMem => ?_⟩
  have hAllowed := hSound.allowed tag hMem
  exact ⟨hAllowed, repertoire_harmless tag hAllowed⟩

/-- A browser that served the page over plain HTTP. -/
def exampleBrowser : Browser where
  protocol := "http:"
  port := "8080"
  toLowerCase s := s
  toLowerCase_empty := rfl

/-- One drive with an attribute. -/
theorem pageMarkup_oneReport :
    let html := (page (F := Int) exampleBrowser "auto"
      [.slow { storage := some (Storage.oneReport "/dev/sda") }]).innerHTML .storage
    Complete html ∧ repertoire.nest [] (tagsOf html) = some [] ∧
      ∀ tag ∈ tagsOf html, tag ∈ repertoire.tags ∧ tag.name ≠ "script".toList ∧
        ∀ attr ∈ tag.attrs, ¬"on".toList <+: attr := by
  apply pageMarkup exampleBrowser
  intro _ event hMem
  rw [List.mem_singleton.mp hMem]
  intro storage hSome
  cases hSome
  simp [Storage.Unquoted, Storage.oneReport]

end NodeDebugDashboard.Frontend.View
