import NodeDebugDashboard.Frontend.View

/-! Of which payloads the page shows what: app/static/app.js over its whole life. -/
namespace NodeDebugDashboard.Frontend.View

open Library Library.History Library.JavaScript Models Renderers

variable {F : Type}

namespace Event

/-- The list of nodes that an event brings. -/
def nodes : Event F → Option (List Payload.ClusterNode)
  | fast data => data.clusterNodes
  | _ => none

/-- The SSH settings that an event brings. -/
def ssh : Event F → Option Payload.SSHInfo
  | slow data => data.kubernetes.map Payload.KubernetesOverview.sshInfo
  | _ => none

/-- The processes that an event brings. -/
def procs : Event F → Option (ProcessesOverview F)
  | slow data => data.processes
  | _ => none

/-- The order that is clicked in an event. -/
def order : Event F → Option ProcessSort
  | sort order => some order
  | _ => none

/-- What is in the search box behind an event. -/
def typed : Event F → Option String
  | openList => some ""
  | search value => some value
  | _ => none

/-- The theme that is chosen in an event. -/
def chosenTheme : Event F → Option String
  | applyTheme theme => some theme
  | _ => none

end Event

/-- The regions that more than a payload goes into. -/
def composed : List Region := [.headerNode, .clusterCurrent, .clusterList, .processes]

section Sections

variable [JsNumber F]

/-- What an event writes into the other regions. -/
def written : Region → Event F → Option String
  | .nodeBar, .fast data => data.node.map fun node => renderNodeBar node data.hardware
  | .warnings, .fast data => data.warnings.map (Renderers.renderWarnings F)
  | .hardware, .fast data => data.hardware.bind Renderers.renderHardware
  | .containers, .fast data => data.containers.map renderContainers
  | .storage, .slow data => data.storage.map (Storage.renderStorage (numbers F))
  | .system, .slow data => data.system.map (renderSystem F)
  | .network, .slow data => data.network.map (renderNetwork F)
  | .kubernetes, .slow data => data.kubernetes.map renderKubernetes
  | .talos, .slow data => data.talos.map (renderTalos F)
  | _, _ => none

variable {browser : Browser}

omit [JsNumber F] in
theorem State.given_innerHTML {A : Type} (s : State F) (payload : Option A)
    (render : State F → A → State F) (region : Region) : (s.given payload render).innerHTML region =
      (payload.map fun item => (render s item).innerHTML region).getD (s.innerHTML region) := by
  cases payload <;> rfl

/-- The bar is written into its own two regions. -/
theorem State.renderClusterBar_innerHTML (s : State F) (nodes : List Payload.ClusterNode)
    (ssh : Option Payload.SSHInfo) {region : Region} (hCurrent : region ≠ .clusterCurrent)
    (hList : region ≠ .clusterList) :
    (s.renderClusterBar browser nodes ssh).innerHTML region = s.innerHTML region := by
  unfold State.renderClusterBar State.renderClusterList
  split_ifs
  · rfl
  · rw [State.set_innerHTML, if_neg hList, State.set_innerHTML, if_neg hCurrent]

theorem getD_map_const {A B : Type*} (payload : Option A) (value : B) :
    (payload.map fun _ => value).getD value = value := by
  cases payload <;> rfl

theorem getD_map_getD {A B : Type*} (payload : Option A) (html : A → Option B) (value : B) :
    (payload.map fun item => (html item).getD value).getD value =
      (payload.bind html).getD value := by
  cases payload <;> rfl

/-- Each of the other regions holds what the first half of a refresh writes into it. -/
theorem State.fast_section (s : State F) (data : Fast F) {region : Region} (h : region ∉ composed) :
    (s.fast browser data).innerHTML region =
      (written region (.fast data)).getD (s.innerHTML region) := by
  unfold State.fast State.renderHeader State.remember State.renderWarnings State.renderHardware
  -- One renderer writes into the region, which `written` names; the others leave it as it is.
  cases region <;>
    simp_all [composed, written, State.given_innerHTML, State.renderClusterBar_innerHTML,
      getD_map_const, getD_map_getD]

theorem State.slow_section (s : State F) (data : Slow F) {region : Region} (h : region ∉ composed) :
    (s.slow browser data).innerHTML region =
      (written region (.slow data)).getD (s.innerHTML region) := by
  unfold State.slow State.renderHeader State.remember State.renderProcesses
  cases region <;>
    simp_all [composed, written, State.given_innerHTML, State.renderClusterBar_innerHTML,
      getD_map_const]

/-- A region of one payload changes with its payload, and with nothing else. -/
theorem State.step_section (s : State F) (event : Event F) {region : Region}
    (h : region ∉ composed) :
    (s.step browser event).innerHTML region = (written region event).getD (s.innerHTML region) := by
  cases event with
  | fast data => exact s.fast_section data h
  | slow data => exact s.slow_section data h
  | sort order =>
      have hProcesses : region ≠ .processes := (ne_of_mem_of_not_mem (by decide) h).symm
      cases region <;>
        simp_all [State.step, State.renderProcesses, State.given_innerHTML, written, getD_map_const]
  | openList =>
      have hList : region ≠ .clusterList := (ne_of_mem_of_not_mem (by decide) h).symm
      cases region <;> simp_all [State.step, State.renderClusterList, written]
  | search value =>
      have hList : region ≠ .clusterList := (ne_of_mem_of_not_mem (by decide) h).symm
      cases region <;> simp_all [State.step, State.renderClusterList, written]
  | applyTheme theme => cases region <;> rfl

end Sections

/-- The cluster bar and the processes, with what their renderers read. -/
structure Board (F : Type) where
  nodes : List Payload.ClusterNode := []
  ssh : Payload.SSHInfo := {}
  search : String := ""
  theme : String
  order : ProcessSort := .mem
  procs : Option (ProcessesOverview F) := none
  hidden : Bool := false
  count : String := ""
  current : String := ""
  list : String := ""
  processes : String := ""

namespace Board

/-- A renderer is called when there is a payload for it. -/
def given {A : Type} (b : Board F) (payload : Option A) (render : Board F → A → Board F) :
    Board F :=
  match payload with
  | some payload => render b payload
  | none => b

variable [JsNumber F] (browser : Browser)

def renderClusterList (b : Board F) (query : String) : Board F :=
  { b with list := Renderers.renderClusterList F browser b.nodes b.ssh b.theme query }

/-- The bar over the nodes: their count, the one that serves the page, and the list. -/
def renderClusterBar (b : Board F) (nodes : List Payload.ClusterNode)
    (ssh : Option Payload.SSHInfo) : Board F :=
  let b := { b with nodes := nodes, ssh := ssh.getD b.ssh }
  if nodes.isEmpty then { b with hidden := true }
  else
    { b with
      hidden := false
      count := State.countText (F := F) nodes
      current :=
        State.currentOf (F := F) nodes b.ssh }.renderClusterList browser
          (browser.toLowerCase b.search)

def renderProcesses (b : Board F) (procs : ProcessesOverview F) : Board F :=
  { b with procs := some procs, processes := Renderers.renderProcesses b.order procs }

/-- What an event does to the board, apart from the rest of the page. -/
def step (b : Board F) : Event F → Board F
  | .fast data => b.given data.clusterNodes fun b nodes => b.renderClusterBar browser nodes none
  | .slow data =>
      (b.given data.kubernetes fun b k8s => b.renderClusterBar browser b.nodes
        (some k8s.sshInfo)).given data.processes
        renderProcesses
  | .sort order =>
      let b := { b with order := order }
      b.given b.procs renderProcesses
  | .openList => { b with search := "" }.renderClusterList browser ""
  | .search value =>
      { b with search := value }.renderClusterList browser (browser.toLowerCase value)
  | .applyTheme theme => { b with theme := theme }

end Board

/-- The part of the page that several payloads and clicks go into. -/
def State.board (s : State F) : Board F where
  nodes := s.clusterNodes
  ssh := s.sshInfo
  search := s.search
  theme := s.theme
  order := s.processSort
  procs := s.lastProcs
  hidden := s.clusterHidden
  count := s.clusterCount
  current := s.innerHTML .clusterCurrent
  list := s.innerHTML .clusterList
  processes := s.innerHTML .processes

section Simulation

/-- The other regions are no part of the board. -/
theorem State.set_board (s : State F) {region : Region}
    (h : region ∉ [Region.clusterCurrent, .clusterList, .processes]) (html : String) :
    (s.set region html).board = s.board := by
  have hOther : ∀ other ∈ [Region.clusterCurrent, .clusterList, .processes],
      (s.set region html).innerHTML other = s.innerHTML other := by
    intro other hMem
    rw [State.set_innerHTML, if_neg]
    rintro rfl
    exact h hMem
  unfold State.board
  rw [hOther .clusterCurrent (by decide), hOther .clusterList (by decide),
    hOther .processes (by decide)]
  rfl

/-- A renderer acts on the board as its counterpart does, called or not. -/
theorem State.given_board {A : Type} {payload : Option A} {render : State F → A → State F}
    (counterpart : Board F → A → Board F)
    (h : ∀ s item, (render s item).board = counterpart s.board item) (s : State F) :
    (s.given payload render).board = s.board.given payload counterpart := by
  cases payload with
  | none => rfl
  | some item => exact h s item

/-- A renderer of another region. -/
theorem State.given_elsewhere {A : Type} {payload : Option A} {render : State F → A → State F}
    (h : ∀ s item, (render s item).board = s.board) (s : State F) :
    (s.given payload render).board = s.board := by
  cases payload with
  | none => rfl
  | some item => exact h s item

variable [JsNumber F] {browser : Browser}

theorem State.renderClusterList_board (s : State F) (query : String) :
    (s.renderClusterList browser query).board = s.board.renderClusterList browser query := by
  unfold State.renderClusterList State.board
  simp only [State.set_innerHTML]
  rfl

/-- The bar of the page is that of the board. -/
theorem State.renderClusterBar_board (s : State F) (nodes : List Payload.ClusterNode)
    (ssh : Option Payload.SSHInfo) :
    (s.renderClusterBar browser nodes ssh).board = s.board.renderClusterBar browser nodes ssh := by
  unfold State.renderClusterBar Board.renderClusterBar
  simp only
  split_ifs
  · rfl
  · rw [State.renderClusterList_board]
    unfold State.board
    simp only [State.set_innerHTML]
    rfl

theorem State.renderProcesses_board (s : State F) (procs : ProcessesOverview F) :
    (s.renderProcesses procs).board = s.board.renderProcesses procs := by
  unfold State.renderProcesses State.board
  simp only [State.set_innerHTML]
  rfl

omit [JsNumber F] in
theorem State.remember_board (s : State F) (role : Option String)
    (node : Option (Payload.NodeInfo F)) :
    (s.remember role node).board = s.board := rfl

omit [JsNumber F] in
theorem State.renderHeader_board (s : State F) (node : Payload.NodeInfo F) :
    (s.renderHeader node).board = s.board :=
  s.set_board (by decide) _

theorem State.renderWarnings_board (s : State F) (warnings : List NodeWarning) :
    (s.renderWarnings warnings).board = s.board := State.set_board _ (by decide) _

theorem State.renderHardware_board (s : State F) (hw : Payload.HardwareOverview F) :
    (s.renderHardware hw).board = s.board :=
      State.given_elsewhere (fun s html => s.set_board (by decide) html) s

/-- The first half of a refresh acts on the board as it does on the page. -/
theorem State.fast_board (s : State F) (data : Fast F) :
    (s.fast browser data).board = s.board.step browser (.fast data) := by
  have hBar : ∀ (s : State F) nodes, (s.renderClusterBar browser nodes none).board =
      s.board.renderClusterBar browser nodes none :=
        fun s nodes => s.renderClusterBar_board nodes none
  unfold State.fast
  refine (State.given_elsewhere State.renderHeader_board _).trans ?_
  refine (State.given_elsewhere (fun s ct => s.set_board (by decide) _) _).trans ?_
  refine (State.given_elsewhere State.renderHardware_board _).trans ?_
  refine (State.given_elsewhere State.renderWarnings_board _).trans ?_
  refine (State.given_elsewhere (fun s node => s.set_board (by decide) _) _).trans ?_
  exact State.given_board (fun b nodes => b.renderClusterBar browser nodes none) hBar s

/-- The second half of a refresh acts on the board as it does on the page. -/
theorem State.slow_board (s : State F) (data : Slow F) :
    (s.slow browser data).board = s.board.step browser (.slow data) := by
  have hBar : ∀ (s : State F) (k8s : Payload.KubernetesOverview F),
      ((s.set .kubernetes (renderKubernetes k8s)).renderClusterBar browser s.clusterNodes
        (some k8s.sshInfo)).board =
        s.board.renderClusterBar browser s.board.nodes (some k8s.sshInfo) := by
    intro s k8s
    rw [State.renderClusterBar_board, State.set_board s (by decide)]
    rfl
  have hHeader : ∀ (s : State F) (node : Payload.NodeInfo F),
      (s.given data.kubernetes fun s k8s =>
        (s.remember (some (roleOf k8s.nodeInfo.labels)) s.node).renderHeader node).board =
          s.board :=
    fun s node => State.given_elsewhere
      (fun s _ => (State.renderHeader_board _ node).trans (s.remember_board _ s.node)) s
  unfold State.slow
  refine (State.given_elsewhere hHeader _).trans ?_
  refine (State.given_board Board.renderProcesses State.renderProcesses_board _).trans ?_
  refine congrArg (fun b => Board.given b data.processes Board.renderProcesses) ?_
  refine (State.given_elsewhere (fun s net => s.set_board (by decide) _) _).trans ?_
  refine (State.given_elsewhere (fun s sys => s.set_board (by decide) _) _).trans ?_
  refine (State.given_elsewhere (fun s storage => s.set_board (by decide) _) _).trans ?_
  refine (State.given_elsewhere (fun s talos => s.set_board (by decide) _) _).trans ?_
  exact State.given_board (fun b (k8s : Payload.KubernetesOverview F) =>
    b.renderClusterBar browser b.nodes (some k8s.sshInfo)) hBar s

/-- The board follows the page, event by event. -/
theorem State.step_board (s : State F) (event : Event F) :
    (s.step browser event).board = s.board.step browser event := by
  cases event with
  | fast data => exact s.fast_board data
  | slow data => exact s.slow_board data
  | sort order => exact State.given_board Board.renderProcesses State.renderProcesses_board _
  | openList => exact State.renderClusterList_board _ ""
  | search value => exact State.renderClusterList_board _ _
  | applyTheme theme => rfl

end Simulation

/-- What the events of a run brought last, of each kind, and the themes that were in force. -/
structure Received (F : Type) where
  nodes : Option (List Payload.ClusterNode) := none
  ssh : Option Payload.SSHInfo := none
  typed : Option String := none
  order : Option ProcessSort := none
  procs : Option (ProcessesOverview F) := none
  themes : List String

/-- An event replaces what it brings, and leaves the rest. -/
def Received.add (r : Received F) (event : Event F) : Received F where
  nodes := event.nodes.or r.nodes
  ssh := event.ssh.or r.ssh
  typed := event.typed.or r.typed
  order := event.order.or r.order
  procs := event.procs.or r.procs
  themes := r.themes ++ event.chosenTheme.toList

section Add

variable (r : Received F)

theorem Received.add_fast (data : Fast F) :
    r.add (.fast data) = { r with nodes := data.clusterNodes.or r.nodes } := by
  simp [add, Event.nodes, Event.ssh, Event.typed, Event.order, Event.procs, Event.chosenTheme]

theorem Received.add_slow (data : Slow F) : r.add (.slow data) = { r with
    ssh := (data.kubernetes.map Payload.KubernetesOverview.sshInfo).or r.ssh
    procs := data.processes.or r.procs } := by
  simp [add, Event.nodes, Event.ssh, Event.typed, Event.order, Event.procs, Event.chosenTheme]

theorem Received.add_sort (order : ProcessSort) :
    r.add (.sort order) = { r with order := some order } := by
  simp [add, Event.nodes, Event.ssh, Event.typed, Event.order, Event.procs, Event.chosenTheme]

theorem Received.add_openList : r.add .openList = { r with typed := some "" } := by
  simp [add, Event.nodes, Event.ssh, Event.typed, Event.order, Event.procs, Event.chosenTheme]

theorem Received.add_search (value : String) :
    r.add (.search value) = { r with typed := some value } := by
  simp [add, Event.nodes, Event.ssh, Event.typed, Event.order, Event.procs, Event.chosenTheme]

theorem Received.add_applyTheme (theme : String) :
    r.add (.applyTheme theme) = { r with themes := r.themes ++ [theme] } := by
  simp [add, Event.nodes, Event.ssh, Event.typed, Event.order, Event.procs, Event.chosenTheme]

end Add

/-- What has come last of everything, after a run. -/
def received (theme : String) (events : List (Event F)) : Received F where
  nodes := latest Event.nodes events
  ssh := latest Event.ssh events
  typed := latest Event.typed events
  order := latest Event.order events
  procs := latest Event.procs events
  themes := theme :: events.filterMap Event.chosenTheme

/-- One more event is added to what was received. -/
theorem received_append_singleton (theme : String) (events : List (Event F)) (event : Event F) :
    received theme (events ++ [event]) = (received theme events).add event := by
  have hThemes : [event].filterMap Event.chosenTheme = event.chosenTheme.toList := by
    cases h : event.chosenTheme <;> simp [h]
  simp [received, Received.add, latest_append_singleton, List.filterMap_append, hThemes]

section Runs

variable [JsNumber F] {browser : Browser}

/-- The bar over some nodes: what it says of them, and the list of those that match the search
box, with links in one of the themes. -/
structure Listed (browser : Browser) (themes : List String) (b : Board F) : Prop where
  hidden : b.hidden = false
  count : b.count = State.countText (F := F) b.nodes
  current : b.current = State.currentOf (F := F) b.nodes b.ssh
  list : ∃ theme ∈ themes,
    b.list = Renderers.renderClusterList F browser b.nodes b.ssh theme
      (browser.toLowerCase b.search)

/-- The board shows what was received last. -/
structure Kept (browser : Browser) (r : Received F) (b : Board F) : Prop where
  nodes : b.nodes = r.nodes.getD []
  ssh : b.ssh = r.ssh.getD {}
  search : b.search = r.typed.getD ""
  order : b.order = r.order.getD .mem
  procs : b.procs = r.procs
  theme : b.theme ∈ r.themes
  processes : b.processes = (b.procs.map (Renderers.renderProcesses b.order)).getD ""
  listed : b.nodes ≠ [] → Listed browser r.themes b
  hidden : r.nodes = some [] → b.hidden = true

variable {r : Received F} {b : Board F}

/-- Drawing the bar keeps the board up to date with the nodes and the SSH settings. -/
theorem Kept.renderClusterBar (h : Kept browser r b) (nodes : List Payload.ClusterNode)
    (ssh : Option Payload.SSHInfo) :
    Kept browser { r with nodes := some nodes, ssh := ssh.or r.ssh }
      (b.renderClusterBar browser nodes ssh) := by
  have hSsh : ssh.getD b.ssh = (ssh.or r.ssh).getD {} := by
    cases ssh with
    | none => exact h.ssh
    | some ssh => rfl
  unfold Board.renderClusterBar
  cases hEmpty : nodes.isEmpty with
  | true =>
      have hNone : nodes = [] := List.isEmpty_iff.mp hEmpty
      exact ⟨rfl, hSsh, h.search, h.order, h.procs, h.theme, h.processes, fun hSome =>
        absurd hNone hSome, fun _ => rfl⟩
  | false =>
      have hSome : nodes ≠ [] := by
        rintro rfl
        cases hEmpty
      exact ⟨rfl, hSsh, h.search, h.order, h.procs, h.theme, h.processes,
        fun _ => ⟨rfl, rfl, rfl, b.theme, h.theme, rfl⟩, fun hNone =>
          absurd (Option.some.inj hNone) hSome⟩

/-- The bar over the nodes that it had. -/
theorem Kept.again (h : Kept browser r b) (ssh : Payload.SSHInfo) :
    Kept browser { r with ssh := some ssh } (b.renderClusterBar browser b.nodes (some ssh)) := by
  have hBar := h.renderClusterBar b.nodes (some ssh)
  have hNodes := h.nodes
  cases hSome : r.nodes with
  | some nodes =>
      rw [hSome, Option.getD_some] at hNodes
      rw [hNodes] at hBar ⊢
      simpa [hSome] using hBar
  | none =>
      rw [hSome, Option.getD_none] at hNodes
      rw [hNodes] at hBar ⊢
      refine { hBar with nodes := ?_, hidden := ?_ }
      · simpa [hSome] using hBar.nodes
      · simp

/-- What the bar says is no matter of the processes. -/
theorem Listed.resort {themes : List String} (h : Listed browser themes b) (order : ProcessSort)
    (procs : Option (ProcessesOverview F)) (html : String) :
    Listed browser themes { b with order := order, procs := procs, processes := html } :=
  ⟨h.hidden, h.count, h.current, h.list⟩

theorem Kept.renderProcesses (h : Kept browser r b) (procs : ProcessesOverview F) :
    Kept browser { r with procs := some procs } (b.renderProcesses procs) where
  nodes := h.nodes
  ssh := h.ssh
  search := h.search
  order := h.order
  procs := rfl
  theme := h.theme
  processes := rfl
  listed hNodes := (h.listed hNodes).resort ..
  hidden := h.hidden

theorem Kept.fast (h : Kept browser r b) (data : Fast F) :
    Kept browser (r.add (.fast data)) (b.step browser (.fast data)) := by
  rw [Received.add_fast]
  cases hNodes : data.clusterNodes with
  | none => simpa [Board.step, Board.given, hNodes] using h
  | some nodes => simpa [Board.step, Board.given, hNodes] using h.renderClusterBar nodes none

theorem Kept.slow (h : Kept browser r b) (data : Slow F) :
    Kept browser (r.add (.slow data)) (b.step browser (.slow data)) := by
  have hBar :
      Kept browser
        { r with ssh := (data.kubernetes.map Payload.KubernetesOverview.sshInfo).or r.ssh }
      (b.given data.kubernetes fun b k8s => b.renderClusterBar browser b.nodes
        (some k8s.sshInfo)) := by
    cases data.kubernetes with
    | none => exact h
    | some k8s => exact h.again k8s.sshInfo
  rw [Received.add_slow]
  cases hProcs : data.processes with
  | none => simpa [Board.step, Board.given, hProcs] using hBar
  | some procs => simpa [Board.step, Board.given, hProcs] using hBar.renderProcesses procs

theorem Kept.sort (h : Kept browser r b) (order : ProcessSort) :
    Kept browser (r.add (.sort order)) (b.step browser (.sort order)) := by
  rw [Received.add_sort]
  cases hProcs : b.procs with
  | none =>
      -- Nothing has been rendered yet, so that nothing is rendered again.
      have hStep : b.step browser (.sort order) = { b with order := order } := by
        simp [Board.step, Board.given, hProcs]
      have hProcesses := h.processes
      rw [hProcs] at hProcesses
      rw [hStep]
      exact ⟨h.nodes, h.ssh, h.search, rfl, h.procs, h.theme, by simpa [hProcs] using hProcesses,
        fun hNodes => (h.listed hNodes).resort .., h.hidden⟩
  | some procs =>
      have hStep :
          b.step browser (.sort order) = { b with order := order }.renderProcesses procs := by
        simp [Board.step, Board.given, hProcs]
      rw [hStep]
      exact ⟨h.nodes, h.ssh, h.search, rfl, hProcs.symm.trans h.procs, h.theme, rfl,
        fun hNodes => (h.listed hNodes).resort .., h.hidden⟩

/-- A search is drawn over the nodes that are there. -/
theorem Kept.typed (h : Kept browser r b) (value : String) :
    Kept browser { r with typed := some value }
    ({ b with search := value }.renderClusterList browser (browser.toLowerCase value)) where
  nodes := h.nodes
  ssh := h.ssh
  search := rfl
  order := h.order
  procs := h.procs
  theme := h.theme
  processes := h.processes
  listed hNodes :=
    have hListed := h.listed hNodes
    ⟨hListed.hidden, hListed.count, hListed.current, b.theme, h.theme, rfl⟩
  hidden := h.hidden

theorem Kept.applyTheme (h : Kept browser r b) (theme : String) :
    Kept browser { r with themes := r.themes ++ [theme] } { b with theme := theme } where
  nodes := h.nodes
  ssh := h.ssh
  search := h.search
  order := h.order
  procs := h.procs
  theme := by simp
  processes := h.processes
  listed hNodes := by
    have hListed := h.listed hNodes
    obtain ⟨earlier, hMem, hList⟩ := hListed.list
    exact ⟨hListed.hidden, hListed.count, hListed.current, earlier, List.mem_append_left _ hMem,
      hList⟩
  hidden := h.hidden

/-- Every event keeps the board up to date with what was received. -/
theorem Kept.step (h : Kept browser r b) (event : Event F) :
    Kept browser (r.add event) (b.step browser event) := by
  cases event with
  | fast data => exact h.fast data
  | slow data => exact h.slow data
  | sort order => exact h.sort order
  | openList =>
      have hEmpty := h.typed ""
      rw [browser.toLowerCase_empty] at hEmpty
      simpa [Received.add_openList, Board.step] using hEmpty
  | search value => simpa [Received.add_search, Board.step] using h.typed value
  | applyTheme theme => simpa [Received.add_applyTheme, Board.step] using h.applyTheme theme

/-- After any run the board shows what was received. -/
theorem kept_page (browser : Browser) (theme : String) (events : List (Event F)) :
    Kept browser (received theme events) (page browser theme events).board := by
  induction events using List.reverseRecOn with
  | nil => exact ⟨rfl, rfl, rfl, rfl, rfl, List.mem_singleton_self theme, rfl, fun hNodes =>
      absurd rfl hNodes, fun hNone => by cases hNone⟩
  | append_singleton events event ih =>
      rw [page_append, State.step_board, received_append_singleton]
      exact ih.step event

/-- After any run a region of one payload holds its last markup, or what the page came with. -/
theorem section_page (browser : Browser) (theme : String) (events : List (Event F))
    {region : Region} (h : region ∉ composed) :
    (page browser theme events).innerHTML region = (latest (written region) events).getD
      (indexHtml region) := by
  induction events using List.reverseRecOn with
  | nil => rfl
  | append_singleton events event ih =>
      rw [page_append, State.step_section _ _ h, ih, latest_append_singleton]
      cases written region event <;> rfl

/-- After any run each section of the page shows the last payload for it whose renderer returned,
whatever became of the others in the meantime. The processes are in the order that was clicked
last. The bar is hidden for an empty list of nodes; over any other it shows the node that serves
the page, and the list of those that match what is in the search box, with the SSH settings that
came last. -/
theorem pageShows (browser : Browser) (theme : String) (events : List (Event F)) :
    let s := page browser theme events
    let r := received theme events
    (∀ region, region ∉ composed →
      s.innerHTML region = (latest (written region) events).getD (indexHtml region)) ∧
    s.innerHTML .processes = (r.procs.map (Renderers.renderProcesses (r.order.getD .mem))).getD "" ∧
    ∀ nodes, r.nodes = some nodes →
      if nodes = [] then s.clusterHidden = true
      else s.clusterHidden = false ∧ s.clusterCount = State.countText (F := F) nodes ∧
        s.innerHTML .clusterCurrent = State.currentOf (F := F) nodes (r.ssh.getD {}) ∧
        ∃ chosen ∈ r.themes, s.innerHTML .clusterList = Renderers.renderClusterList F browser nodes
          (r.ssh.getD {})
          chosen (browser.toLowerCase (r.typed.getD "")) := by
  have hKept := kept_page browser theme events
  refine ⟨fun region => section_page browser theme events, ?_, fun nodes hNodes => ?_⟩
  · have hProcesses := hKept.processes
    rw [hKept.procs, hKept.order] at hProcesses
    exact hProcesses
  · have hSame : (page browser theme events).board.nodes = nodes := by
      rw [hKept.nodes, hNodes, Option.getD_some]
    split_ifs with hEmpty
    · exact hKept.hidden (hEmpty ▸ hNodes)
    · have hListed := hKept.listed (hSame ▸ hEmpty)
      obtain ⟨chosen, hMem, hList⟩ := hListed.list
      rw [hSame, hKept.ssh, hKept.search] at hList
      refine ⟨hListed.hidden, ?_, ?_, chosen, hMem, hList⟩
      · exact hListed.count.trans (congrArg _ hSame)
      · have hCurrent := hListed.current
        rw [hSame, hKept.ssh] at hCurrent
        exact hCurrent

end Runs

end NodeDebugDashboard.Frontend.View
