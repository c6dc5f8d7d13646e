import NodeDebugDashboard.Library.Json

/-! `get_section` of app/routers/sections.py, `get_overview` of app/routers/overview.py and
`get_hardware` of app/routers/hardware.py over the outcomes of their collectors, with
`gather_sections`, `dump` and `dump_list` of app/routers/degrade.py. -/
namespace NodeDebugDashboard.Routers.Sections

open Library Library.Python

variable {F : Type}

/-- The collectors behind the sections. -/
inductive Collector where
  | node
  | cpu
  | memory
  | pci
  | usb
  | nics
  | sensors
  | gpus
  | storage
  | efi
  | connectivity
  | kubernetes
  | talos
  | containers
  | processes
  | warnings
  | clusterNodes
  deriving DecidableEq

/-- What `model_dump` makes of a collector's result: a dictionary, in which no model has a
field `errors`, or a list. -/
structure Dump (F : Type) where
  json : Json F
  shape : (∃ fields, json = .obj fields ∧ Json.field? "errors" fields = none) ∨ ∃ items,
      json = .arr items

/-- A result that is a list. -/
def Dump.list {F : Type} (items : List (Json F)) : Dump F := ⟨.arr items, .inr ⟨items, rfl⟩⟩

/-- What the collectors of a request end with. -/
abbrev Collected (F : Type) := Collector → Outcome (Dump F)

/-- `gather_sections`: the results by name, and the names that failed. The first exception
that is not an `Exception` is raised again. -/
def gather :
    List (String × Outcome (Dump F)) → Outcome (List (String × Option (Dump F)) × List String)
  | [] => .ok ([], [])
  | (name, .ok value) :: rest => (gather rest).map fun r => ((name, some value) :: r.1, r.2)
  | (name, .error (.exception _)) :: rest =>
      (gather rest).map fun r => ((name, none) :: r.1, name :: r.2)
  | (_, .error (.baseException text)) :: _ => .error (.baseException text)

/-- `dump(r[name])` -/
def dump (r : List (String × Option (Dump F))) (name : String) : Json F :=
  match r.lookup name with
  | some (some value) => value.json
  | _ => .null

/-- `dump_list(r[name])` -/
def dumpList (r : List (String × Option (Dump F))) (name : String) : Json F :=
  match r.lookup name with
  | some (some value) => value.json
  | _ => .arr []

def names (failed : List String) : Json F := .arr (failed.map .str)

def hardwareParts (c : Collected F) : List (String × Outcome (Dump F)) :=
  [("cpu", c .cpu), ("memory", c .memory), ("pci", c .pci), ("usb", c .usb), ("nics", c .nics),
    ("sensors", c .sensors), ("gpus", c .gpus)]

/-- `_collect_hardware` -/
def collectHardware (c : Collected F) : Outcome (Json F) := do
  let (r, failed) ← gather (hardwareParts c)
  return .obj [("cpu", dump r "cpu"), ("memory", dump r "memory"),
    ("pci_devices", dumpList r "pci"), ("usb_devices", dumpList r "usb"),
    ("nics", dumpList r "nics"), ("sensors", dumpList r "sensors"),
    ("gpus", dumpList r "gpus"), ("errors", names failed)]

/-- `_collect_system` -/
def collectSystem (c : Collected F) : Outcome (Json F) := do
  let efi ← c .efi
  return .obj [("efi", efi.json)]

inductive Response (F : Type) where
  | body (json : Json F)
  | httpException (statusCode : Nat) (detail : String)

/-- `SECTION_MAP.get(section_name)`, called -/
def sectionMap (c : Collected F) : String → Option (Outcome (Json F))
  | "node" => some ((c .node).map Dump.json)
  | "hardware" => some (collectHardware c)
  | "storage" => some ((c .storage).map Dump.json)
  | "system" => some (collectSystem c)
  | "kubernetes" => some ((c .kubernetes).map Dump.json)
  | "talos" => some ((c .talos).map Dump.json)
  | "containers" => some ((c .containers).map Dump.json)
  | "processes" => some ((c .processes).map Dump.json)
  | "warnings" => some ((c .warnings).map Dump.json)
  | "cluster_nodes" => some ((c .clusterNodes).map Dump.json)
  | _ => none

def networkParts (c : Collected F) : List (String × Outcome (Dump F)) :=
  [("nics", c .nics), ("connectivity", c .connectivity)]

/-- `get_section` -/
def getSection (c : Collected F) (sectionName : String) : Outcome (Response F) :=
  if sectionName = "network" then do
    let (r, failed) ← gather (networkParts c)
    return .body (.obj [("interfaces", dumpList r "nics"), ("connectivity", dump r "connectivity"),
      ("errors", names failed)])
  else
    match sectionMap c sectionName with
    | none => .ok (.httpException 404 ("Unknown section: " ++ sectionName))
    | some (.ok result) => .ok (.body result)
    | some (.error (.exception _)) =>
        .ok (.httpException 503 ("Section " ++ sectionName ++ " could not be collected"))
    | some (.error (.baseException text)) => .error (.baseException text)

def overviewParts (c : Collected F) : List (String × Outcome (Dump F)) :=
  [("node", c .node), ("cpu", c .cpu), ("memory", c .memory), ("pci", c .pci), ("usb", c .usb),
    ("nics", c .nics), ("sensors", c .sensors), ("gpus", c .gpus), ("storage", c .storage),
    ("efi", c .efi), ("connectivity", c .connectivity), ("k8s", c .kubernetes), ("talos", c .talos),
    ("containers", c .containers), ("processes", c .processes), ("warnings", c .warnings)]

/-- `get_overview` -/
def getOverview (c : Collected F) : Outcome (Json F) := do
  let (r, failed) ← gather (overviewParts c)
  return .obj [("node", dump r "node"),
    ("hardware", .obj [("cpu", dump r "cpu"), ("memory", dump r "memory"),
      ("pci_devices", dumpList r "pci"), ("usb_devices", dumpList r "usb"),
      ("nics", dumpList r "nics"), ("sensors", dumpList r "sensors"), ("gpus", dumpList r "gpus")]),
    ("storage", dump r "storage"), ("system", .obj [("efi", dump r "efi")]),
    ("network", .obj [("interfaces", dumpList r "nics"), ("connectivity", dump r "connectivity")]),
    ("kubernetes", dump r "k8s"), ("talos", dump r "talos"), ("containers", dump r "containers"),
    ("processes", dump r "processes"), ("warnings", dumpList r "warnings"),
    ("errors", names failed)]

/-- The fields of `HardwareOverview`. -/
def modelParts (c : Collected F) : List (String × Outcome (Dump F)) :=
  [("cpu", c .cpu), ("memory", c .memory), ("pci_devices", c .pci), ("usb_devices", c .usb),
    ("nics", c .nics), ("sensors", c .sensors), ("gpus", c .gpus)]

/-- `get_hardware` -/
def getHardware (c : Collected F) : Outcome (Response F) := do
  let (r, failed) ← gather (modelParts c)
  match r.lookup "cpu", r.lookup "memory" with
  | some (some _), some (some _) =>
      return .body (.obj (r.map fun part => (part.1, dumpList r part.1)))
  | _, _ => return .httpException 503 ("Could not collect: " ++ ", ".intercalate failed)

/-- Every collector's result is there under its name, and the names of those that raised are
listed, in their order. -/
theorem gather_spec {parts : List (String × Outcome (Dump F))} {r : List (String × Option (Dump F))}
    {failed : List String} (h : gather parts = .ok (r, failed)) :
    r = parts.map (fun part => (part.1, part.2.toOption)) ∧
      failed = (parts.filter fun part => part.2.toOption.isNone).map Prod.fst := by
  induction parts generalizing r failed with
  | nil =>
      cases h
      exact ⟨rfl, rfl⟩
  | cons part rest ih =>
      obtain ⟨name, outcome⟩ := part
      cases outcome with
      | ok value =>
          obtain ⟨⟨out, others⟩, hRest, hSame⟩ := map_eq_ok.mp h
          obtain ⟨rfl, rfl⟩ := Prod.mk.inj hSame
          obtain ⟨hOut, hFailed⟩ := ih hRest
          exact ⟨by simp [hOut, Except.toOption], by simp [hFailed, Except.toOption]⟩
      | error raised =>
          cases raised with
          | baseException text => cases h
          | exception text =>
              obtain ⟨⟨out, others⟩, hRest, hSame⟩ := map_eq_ok.mp h
              obtain ⟨rfl, rfl⟩ := Prod.mk.inj hSame
              obtain ⟨hOut, hFailed⟩ := ih hRest
              exact ⟨by simp [hOut, Except.toOption], by simp [hFailed, Except.toOption]⟩

/-- The gathering goes through unless something other than an `Exception` was raised. -/
theorem exists_gather {parts : List (String × Outcome (Dump F))}
    (h : ∀ name text, (name, .error (.baseException text)) ∉ parts) :
    ∃ result, gather parts = .ok result := by
  induction parts with
  | nil => exact ⟨_, rfl⟩
  | cons part rest ih =>
      obtain ⟨result, hRest⟩ := ih fun name text hMem => h name text (List.mem_cons_of_mem _ hMem)
      obtain ⟨name, outcome⟩ := part
      cases outcome with
      | ok value => exact ⟨_, by rw [gather, hRest]; rfl⟩
      | error raised =>
          cases raised with
          | baseException text => exact absurd List.mem_cons_self (h name text)
          | exception text => exact ⟨_, by rw [gather, hRest]; rfl⟩

/-- What was gathered returned or raised an `Exception`. -/
theorem not_mem_of_gather {parts : List (String × Outcome (Dump F))}
    {r : List (String × Option (Dump F))} {failed : List String}
    (h : gather parts = .ok (r, failed)) (name text : String) :
    (name, .error (.baseException text)) ∉ parts := by
  induction parts generalizing r failed with
  | nil => simp
  | cons part rest ih =>
      obtain ⟨other, outcome⟩ := part
      rw [List.mem_cons, not_or]
      cases outcome with
      | ok value =>
          obtain ⟨result, hRest, -⟩ := map_eq_ok.mp h
          exact ⟨by simp, ih hRest⟩
      | error raised =>
          cases raised with
          | baseException text => cases h
          | exception text =>
              obtain ⟨result, hRest, -⟩ := map_eq_ok.mp h
              exact ⟨by simp, ih hRest⟩

theorem gather_error {parts : List (String × Outcome (Dump F))} {raised : Raised}
    (h : gather parts = .error raised) : ∃ text, raised = .baseException text := by
  induction parts with
  | nil => cases h
  | cons part rest ih =>
      obtain ⟨name, outcome⟩ := part
      have hMap : ∀ f : List (String × Option (Dump F)) × List String →
          List (String × Option (Dump F)) × List String,
          (gather rest).map f = .error raised → ∃ text, raised = .baseException text := by
        intro f hError
        cases hRest : gather rest with
        | ok result => simp [hRest, Except.map] at hError
        | error other =>
            obtain rfl : other = raised := by simpa [hRest, Except.map] using hError
            exact ih hRest
      cases outcome with
      | ok value => exact hMap _ h
      | error other =>
          cases other with
          | baseException text => exact ⟨text, by cases h; rfl⟩
          | exception text => exact hMap _ h

/-- The collectors of a section. -/
def collectorsOf : String → List Collector
  | "node" => [.node]
  | "hardware" => [.cpu, .memory, .pci, .usb, .nics, .sensors, .gpus]
  | "storage" => [.storage]
  | "system" => [.efi]
  | "network" => [.nics, .connectivity]
  | "kubernetes" => [.kubernetes]
  | "talos" => [.talos]
  | "containers" => [.containers]
  | "processes" => [.processes]
  | "warnings" => [.warnings]
  | "cluster_nodes" => [.clusterNodes]
  | _ => []

/-- The result, or what stands in its place. -/
def orNull : Outcome (Dump F) → Json F
  | .ok value => value.json
  | .error _ => .null

def orEmpty : Outcome (Dump F) → Json F
  | .ok value => value.json
  | .error _ => .arr []

/-- A part has its own result under its name. -/
theorem lookup_gather {parts : List (String × Outcome (Dump F))}
    {r : List (String × Option (Dump F))} {failed : List String}
    (h : gather parts = .ok (r, failed)) (hNodup : (parts.map Prod.fst).Nodup) {name : String}
    {outcome : Outcome (Dump F)} (hMem : (name, outcome) ∈ parts) :
    r.lookup name = some outcome.toOption := by
  rw [(gather_spec h).1]
  clear h
  induction parts with
  | nil => cases hMem
  | cons part rest ih =>
      obtain ⟨hFresh, hRest⟩ := List.nodup_cons.mp hNodup
      rcases List.mem_cons.mp hMem with rfl | hLater
      · simp
      · have hNe : name ≠ part.1 := by
          rintro rfl
          exact hFresh (List.mem_map.mpr ⟨_, hLater, rfl⟩)
        rw [List.map_cons, List.lookup_cons, beq_eq_false_iff_ne.mpr hNe]
        exact ih hRest hLater

theorem dump_gather {parts : List (String × Outcome (Dump F))} {r : List (String × Option (Dump F))}
    {failed : List String} (h : gather parts = .ok (r, failed))
    (hNodup : (parts.map Prod.fst).Nodup) {name : String} {outcome : Outcome (Dump F)}
    (hMem : (name, outcome) ∈ parts) :
    dump r name = orNull outcome ∧ dumpList r name = orEmpty outcome := by
  rw [dump, dumpList, lookup_gather h hNodup hMem]
  cases outcome <;> exact ⟨rfl, rfl⟩

/-- The fields that the hardware endpoints build. -/
def hardwareFields (c : Collected F) : List (String × Json F) :=
  [("cpu", orNull (c .cpu)), ("memory", orNull (c .memory)), ("pci_devices", orEmpty (c .pci)),
    ("usb_devices", orEmpty (c .usb)), ("nics", orEmpty (c .nics)),
    ("sensors", orEmpty (c .sensors)), ("gpus", orEmpty (c .gpus))]

def networkFields (c : Collected F) : List (String × Json F) :=
  [("interfaces", orEmpty (c .nics)), ("connectivity", orNull (c .connectivity))]

/-- The names of the parts whose collectors raised. -/
def failedParts (parts : List (String × Outcome (Dump F))) : List String :=
  (parts.filter fun part => part.2.toOption.isNone).map Prod.fst

theorem gather_hardware {c : Collected F} {r : List (String × Option (Dump F))}
    {failed : List String} (h : gather (hardwareParts c) = .ok (r, failed)) :
    collectHardware c = .ok (.obj (hardwareFields c ++ [("errors", names failed)])) := by
  have hDump : ∀ part ∈ hardwareParts c, dump r part.1 = orNull part.2 ∧
      dumpList r part.1 = orEmpty part.2 :=
    fun part hMem => dump_gather h (by simp [hardwareParts]) hMem
  simp only [hardwareParts, List.forall_mem_cons] at hDump
  simp [collectHardware, h, hDump, hardwareFields, bind, Except.bind, pure, Except.pure]

theorem gather_network {c : Collected F} {r : List (String × Option (Dump F))}
    {failed : List String} (h : gather (networkParts c) = .ok (r, failed)) :
    getSection c "network" =
      .ok (.body (.obj (networkFields c ++ [("errors", names failed)]))) := by
  have hDump :
      ∀ part ∈ networkParts c, dump r part.1 = orNull part.2 ∧ dumpList r part.1 = orEmpty part.2 :=
    fun part hMem => dump_gather h (by simp [networkParts]) hMem
  simp only [networkParts, List.forall_mem_cons] at hDump
  simp [getSection, h, hDump, networkFields, bind, Except.bind, pure, Except.pure]

/-- The overview by the outcomes of its collectors. -/
theorem gather_overview {c : Collected F} {r : List (String × Option (Dump F))}
    {failed : List String} (h : gather (overviewParts c) = .ok (r, failed)) :
    getOverview c = .ok (.obj [("node", orNull (c .node)), ("hardware", .obj (hardwareFields c)),
      ("storage", orNull (c .storage)), ("system", .obj [("efi", orNull (c .efi))]),
      ("network", .obj (networkFields c)), ("kubernetes", orNull (c .kubernetes)),
      ("talos", orNull (c .talos)), ("containers", orNull (c .containers)),
      ("processes", orNull (c .processes)), ("warnings", orEmpty (c .warnings)),
      ("errors", names failed)]) := by
  have hDump : ∀ part ∈ overviewParts c, dump r part.1 = orNull part.2 ∧
      dumpList r part.1 = orEmpty part.2 :=
    fun part hMem => dump_gather h (by simp [overviewParts]) hMem
  simp only [overviewParts, List.forall_mem_cons] at hDump
  simp [getOverview, h, hDump, hardwareFields, networkFields, bind, Except.bind, pure, Except.pure]

/-- `get_hardware` has the same fields, and no answer without a processor or a memory. -/
theorem gather_model {c : Collected F} {r : List (String × Option (Dump F))} {failed : List String}
    (h : gather (modelParts c) = .ok (r, failed)) :
    ((c .cpu).toOption = none ∨ (c .memory).toOption = none →
      getHardware c = .ok (.httpException 503 ("Could not collect: " ++ ", ".intercalate failed))) ∧
      (¬((c .cpu).toOption = none ∨ (c .memory).toOption = none) →
        getHardware c = .ok (.body (.obj (hardwareFields c)))) := by
  have hNodup : ((modelParts c).map Prod.fst).Nodup := by simp [modelParts]
  have hDump :
      ∀ part ∈ modelParts c, dump r part.1 = orNull part.2 ∧ dumpList r part.1 = orEmpty part.2 :=
    fun part hMem => dump_gather h hNodup hMem
  simp only [modelParts, List.forall_mem_cons] at hDump
  have hCpu : r.lookup "cpu" = some (c .cpu).toOption :=
    lookup_gather h hNodup (by simp [modelParts])
  have hMemory : r.lookup "memory" = some (c .memory).toOption :=
    lookup_gather h hNodup (by simp [modelParts])
  have hNames :
      r.map Prod.fst =
        ["cpu", "memory", "pci_devices", "usb_devices", "nics", "sensors", "gpus"] := by
    rw [(gather_spec h).1]
    rfl
  have hFields : (r.map fun part => (part.1, dumpList r part.1)) =
      (r.map Prod.fst).map fun name => (name, dumpList r name) := by simp
  cases hFirst : c .cpu with
  | error raised =>
      simp [getHardware, h, hCpu, hFirst, Except.toOption, bind, Except.bind, pure, Except.pure]
  | ok cpu =>
      cases hSecond : c .memory with
      | error raised =>
          simp [getHardware, h, hCpu, hMemory, hFirst, hSecond, Except.toOption, bind, Except.bind,
            pure, Except.pure]
      | ok memory =>
          simp [getHardware, h, hCpu, hMemory, hFields, hNames, hDump, hardwareFields, hFirst,
            hSecond, orNull, orEmpty, Except.toOption, bind, Except.bind, pure, Except.pure]

/-- The overview lists a part as failed where its collector raised. -/
theorem mem_failedParts (c : Collected F) :
    ("cpu" ∈ failedParts (overviewParts c) ↔ (c .cpu).toOption = none) ∧
      ("memory" ∈ failedParts (overviewParts c) ↔ (c .memory).toOption = none) := by
  simp [failedParts, overviewParts]

/-- A section has this field as its body, or the field is blank and the section has none. -/
def Agrees (c : Collected F) (name : String) (field blank : Json F) : Prop :=
  getSection c name = .ok (.body field) ∨
    field = blank ∧
    getSection c name = .ok (.httpException 503 ("Section " ++ name ++ " could not be collected"))

/-- A section that is a single collector. -/
theorem agrees_single {c : Collected F} {name : String} {outcome : Outcome (Dump F)}
    {field blank : Json F} (wrap : Dump F → Json F) (hNetwork : name ≠ "network")
    (hMap : sectionMap c name = some (outcome.map wrap))
    (hException : ∀ text, outcome ≠ .error (.baseException text))
    (hValue : ∀ value, outcome = .ok value → field = wrap value)
    (hBlank : ∀ raised, outcome = .error raised → field = blank) : Agrees c name field blank := by
  have hSection : getSection c name = match outcome.map wrap with
      | .ok result => .ok (.body result)
      | .error (.exception _) =>
          .ok (.httpException 503 ("Section " ++ name ++ " could not be collected"))
      | .error (.baseException text) => .error (.baseException text) := by
    rw [getSection, if_neg hNetwork, hMap]
    cases outcome.map wrap with
    | ok result => rfl
    | error raised => cases raised <;> rfl
  cases outcome with
  | ok value =>
      left
      rw [hSection, hValue value rfl]
      rfl
  | error raised =>
      right
      refine ⟨hBlank raised rfl, ?_⟩
      cases raised with
      | exception text => exact hSection
      | baseException text => exact absurd rfl (hException text)

theorem agrees_orNull {c : Collected F} {name : String} {outcome : Outcome (Dump F)}
    (hNetwork : name ≠ "network") (hMap : sectionMap c name = some (outcome.map Dump.json))
    (hException : ∀ text, outcome ≠ .error (.baseException text)) :
    Agrees c name (orNull outcome) .null :=
  agrees_single Dump.json hNetwork hMap hException (fun _ hOk => by
    rw [hOk]; rfl) fun _ hError => by rw [hError]; rfl

theorem hardwareParts_sublist {c : Collected F} : (hardwareParts c).Sublist (overviewParts c) := by
  have hSame : ((overviewParts c).drop 1).take 7 = hardwareParts c := rfl
  rw [← hSame]
  exact (List.take_sublist _ _).trans (List.drop_sublist _ _)

theorem networkParts_sublist {c : Collected F} : (networkParts c).Sublist (overviewParts c) := by
  have hSame : (overviewParts c).filter (fun part => part.1 ∈ ["nics", "connectivity"]) =
      networkParts c := rfl
  rw [← hSame]
  exact List.filter_sublist

/-- The hardware endpoint gathers the same collectors under other names. -/
theorem modelParts_subset {c : Collected F} :
    ∀ part ∈ modelParts c, ∃ name, (name, part.2) ∈ overviewParts c := by
  simp only [modelParts, List.forall_mem_cons, List.not_mem_nil, false_imp_iff,
    implies_true, and_true]
  exact ⟨⟨"cpu", by simp [overviewParts]⟩, ⟨"memory", by simp [overviewParts]⟩,
    ⟨"pci", by simp [overviewParts]⟩, ⟨"usb", by simp [overviewParts]⟩,
    ⟨"nics", by simp [overviewParts]⟩, ⟨"sensors", by simp [overviewParts]⟩,
    ⟨"gpus", by simp [overviewParts]⟩⟩

theorem agrees_warnings {c : Collected F}
    (hException : ∀ text, c .warnings ≠ .error (.baseException text)) :
    Agrees c "warnings" (orEmpty (c .warnings)) (.arr []) := by
  refine agrees_single Dump.json (by decide) rfl hException ?_ ?_
  · intro value hOk
    rw [hOk, orEmpty]
  · intro raised hError
    rw [hError, orEmpty]

theorem agrees_system {c : Collected F}
    (hException : ∀ text, c .efi ≠ .error (.baseException text)) :
    Agrees c "system" (.obj [("efi", orNull (c .efi))]) (.obj [("efi", .null)]) := by
  refine agrees_single (fun efi => .obj [("efi", efi.json)]) (by decide) rfl hException ?_ ?_
  · intro value hOk
    rw [hOk, orNull]
  · intro raised hError
    rw [hError, orNull]

/-- The hardware endpoint, when the overview has an answer. -/
theorem getHardware_of_gather {c : Collected F} {r : List (String × Option (Dump F))}
    {failed : List String} (h : gather (overviewParts c) = .ok (r, failed)) :
    ("cpu" ∈ failed ∨ "memory" ∈ failed → getHardware c =
      .ok (.httpException 503 ("Could not collect: " ++
        ", ".intercalate (failedParts (modelParts c))))) ∧
    (¬("cpu" ∈ failed ∨ "memory" ∈ failed) →
      getHardware c = .ok (.body (.obj (hardwareFields c)))) := by
  have hFailed : failed = failedParts (overviewParts c) := (gather_spec h).2
  have hModel : ∀ name text, (name, .error (.baseException text)) ∉ modelParts c := by
    intro name text hMem
    obtain ⟨other, hOther⟩ := modelParts_subset _ hMem
    exact not_mem_of_gather h other text hOther
  obtain ⟨⟨own, others⟩, hOwn⟩ := exists_gather hModel
  obtain rfl := (gather_spec hOwn).2
  rw [hFailed, (mem_failedParts c).1, (mem_failedParts c).2]
  exact gather_model hOwn

/-- The endpoints agree. For the same outcomes of the collectors, a field of the overview is what
the endpoint of its section answers; where that has no answer, the field is blank. The
failures that the sections list are among those of the overview, which are the parts that
raised; and the hardware endpoint has the same fields, or no answer where the processor or the
memory failed. -/
theorem overviewAgrees {c : Collected F} {overview : Json F} (h : getOverview c = .ok overview) :
    ∃ fields failed, overview = .obj fields ∧ Json.look "errors" fields = names failed ∧
      failed = failedParts (overviewParts c) ∧
      (∀ name ∈ ["node", "storage", "kubernetes", "talos", "containers", "processes"],
        Agrees c name (Json.look name fields) .null) ∧
      Agrees c "warnings" (Json.look "warnings" fields) (.arr []) ∧
      Agrees c "system" (Json.look "system" fields) (.obj [("efi", .null)]) ∧
      (∀ name ∈ ["hardware", "network"], ∃ parts own, Json.look name fields = .obj parts ∧
        getSection c name = .ok (.body (.obj (parts ++ [("errors", names own)]))) ∧
        own.Sublist failed) ∧
      ("cpu" ∈ failed ∨ "memory" ∈ failed → getHardware c =
        .ok (.httpException 503 ("Could not collect: " ++
          ", ".intercalate (failedParts (modelParts c))))) ∧
      (¬("cpu" ∈ failed ∨ "memory" ∈ failed) →
        getHardware c = .ok (.body (Json.look "hardware" fields))) := by
  cases hGather : gather (overviewParts c) with
  | error raised => simp [getOverview, hGather, bind, Except.bind] at h
  | ok result =>
      obtain ⟨r, failed⟩ := result
      obtain rfl := Except.ok.inj ((gather_overview hGather).symm.trans h)
      have hFailed : failed = failedParts (overviewParts c) := (gather_spec hGather).2
      have hBase : ∀ name text, (name, .error (.baseException text)) ∉ overviewParts c :=
        not_mem_of_gather hGather
      have hSingle : ∀ name outcome, (name, outcome) ∈ overviewParts c →
          ∀ text, outcome ≠ .error (.baseException text) := by
        rintro name outcome hMem text rfl
        exact hBase name text hMem
      have hParts : ∀ {parts : List (String × Outcome (Dump F))}, parts.Sublist (overviewParts c) →
          ∃ r, gather parts = .ok (r, failedParts parts) ∧ (failedParts parts).Sublist failed := by
        intro parts hSublist
        obtain ⟨⟨own, others⟩, hOwn⟩ :=
          exists_gather fun name text hMem => hBase name text (hSublist.subset hMem)
        obtain rfl := (gather_spec hOwn).2
        exact ⟨own, hOwn, hFailed ▸ (hSublist.filter _).map _⟩
      refine ⟨_, failed, rfl, rfl, hFailed, ?_, ?_, ?_, ?_, ?_⟩
      · simp only [List.forall_mem_cons, List.not_mem_nil, false_imp_iff, implies_true, and_true]
        exact
          ⟨agrees_orNull (by decide) rfl (hSingle "node" _ (by simp [overviewParts])),
            agrees_orNull (by decide) rfl (hSingle "storage" _ (by simp [overviewParts])),
            agrees_orNull (by decide) rfl (hSingle "k8s" _ (by simp [overviewParts])),
            agrees_orNull (by decide) rfl (hSingle "talos" _ (by simp [overviewParts])),
            agrees_orNull (by decide) rfl (hSingle "containers" _ (by simp [overviewParts])),
            agrees_orNull (by decide) rfl (hSingle "processes" _ (by simp [overviewParts]))⟩
      · exact agrees_warnings (hSingle "warnings" _ (by simp [overviewParts]))
      · exact agrees_system (hSingle "efi" _ (by simp [overviewParts]))
      · simp only [List.forall_mem_cons, List.not_mem_nil, false_imp_iff, implies_true, and_true]
        constructor
        · obtain ⟨own, hOwn, hSublist⟩ := hParts hardwareParts_sublist
          refine ⟨hardwareFields c, _, rfl, ?_, hSublist⟩
          simp [getSection, sectionMap, gather_hardware hOwn]
        · obtain ⟨own, hOwn, hSublist⟩ := hParts networkParts_sublist
          exact ⟨networkFields c, _, rfl, gather_network hOwn, hSublist⟩
      · exact getHardware_of_gather hGather

/-- The sensors raise, and the other collectors find nothing. -/
def noSensors : Collected Int := fun k =>
  if k = .sensors then .error (.exception "") else .ok (.list [])

/-- The overview names the sensors, the node section has its field, and the hardware endpoint
answers with its hardware. -/
theorem overviewAgrees_noSensors : ∃ fields,
    getOverview noSensors = .ok (.obj fields) ∧ Json.look "errors" fields = names ["sensors"] ∧
      getSection noSensors "node" = .ok (.body (Json.look "node" fields)) ∧
      getHardware noSensors = .ok (.body (Json.look "hardware" fields)) := by
  have hOverview : getOverview noSensors = .ok _ := rfl
  obtain ⟨fields, failed, hFields, hErrors, hFailed, hSections, _, _, _, _, hHardware⟩ :=
    overviewAgrees hOverview
  have hSensors : failed = ["sensors"] := hFailed
  subst hSensors
  refine ⟨fields, hFields ▸ hOverview, hErrors, ?_, hHardware (by decide)⟩
  rcases hSections "node" (by decide) with hNode | ⟨_, hNone⟩
  · exact hNode
  · cases hNone

end NodeDebugDashboard.Routers.Sections
