import NodeDebugDashboard.HttpClient.RotationSteps

/-! What a rotation of the certificates leads to: a call that begins after it returns a
client from after it, and no client is lost before `close_clients`. -/
namespace NodeDebugDashboard.HttpClient

open Library

/-- The client is in the table; or it is retired and this module has not closed it; or
it was closed when another one took its place. -/
def Held (s : State) (id : Nat) : Prop :=
  (∃ key client, s.tables.clients.get? key = some client ∧ client.id = id) ∨
    ((∃ client ∈ s.tables.retired, client.id = id) ∧ id ∉ s.closedHere) ∨ id ∈ s.replacedClosed

/-- Every client since the last `close_clients` is accounted for. -/
structure Accounted (s : State) : Prop where
  stored : ∀ key client, s.tables.clients.get? key = some client → client.id < s.tables.nextId
  retired : ∀ client ∈ s.tables.retired, client.id < s.tables.nextId
  closing : ∀ rest, s.closing = some rest → ∀ client ∈ rest, client.id < s.tables.nextId
  closedHere : ∀ id ∈ s.closedHere, id < s.tables.nextId
  closedBefore : s.closing = none → ∀ id ∈ s.closedHere, id < s.firstId
  held : s.closing = none → ∀ id, s.firstId ≤ id → id < s.tables.nextId → Held s id

theorem Accounted.initial (mtime : String → Int) : Accounted (.initial mtime) where
  stored := fun _ _ h => by cases h
  retired := fun _ h => by cases h
  closing := fun _ h => by cases h
  closedHere := fun _ h => by cases h
  closedBefore := fun _ _ h => by cases h
  held := fun _ _ _ h => by cases h

/-- What `_client` does to the tables: nothing, or a new client under the key. -/
theorem client_cases (hostRoot : String) (t : Tables) (key : ClientKey) :
    (t.client hostRoot key).2 = t ∨
      (t.client hostRoot key).2 = ((t.retire (t.clients.get? key)).create hostRoot key).2 := by
  unfold Tables.client Tables.retire
  split
  · split_ifs
    · exact .inr rfl
    · exact .inl rfl
  · exact .inr rfl

@[simp] theorem retire_clients (t : Tables) (found : Option Client) :
    (t.retire found).clients = t.clients := by
  unfold Tables.retire
  split
  · split <;> rfl
  · rfl

@[simp] theorem retire_nextId (t : Tables) (found : Option Client) :
    (t.retire found).nextId = t.nextId := by
  unfold Tables.retire
  split
  · split <;> rfl
  · rfl

@[simp] theorem retire_stamps (t : Tables) (found : Option Client) :
    (t.retire found).stamps = t.stamps := by
  unfold Tables.retire
  split
  · split <;> rfl
  · rfl

section Install

variable (hostRoot : String) (t : Tables) (key : ClientKey) (stamp : List Int)
    (found : Option Client)

theorem install_id : (t.install hostRoot key stamp found).1.id = t.nextId := by
  simp [Tables.install, Tables.create]

theorem install_nextId : (t.install hostRoot key stamp found).2.nextId = t.nextId + 1 := by
  simp [Tables.install, Tables.create]

theorem install_clients (other : ClientKey) :
    (t.install hostRoot key stamp found).2.clients.get? other =
    if other = key then some (t.install hostRoot key stamp found).1 else t.clients.get? other := by
  simp [Tables.install, Tables.create, Dict.get?_set]

theorem install_stamps (other : ClientKey) :
    (t.install hostRoot key stamp found).2.stamps.get? other =
    if other = key then some stamp else t.stamps.get? other := by
  simp [Tables.install, Tables.create, Dict.get?_set]

end Install

theorem mem_retire {t : Tables} {found : Option Client} {client : Client} :
    client ∈ (t.retire found).retired ↔
      client ∈ t.retired ∨ found = some client ∧ t.isClosed client = false := by
  unfold Tables.retire
  split
  · next other =>
    split_ifs with hClosed
    · constructor
      · exact .inl
      · rintro (hOld | ⟨hSame, hOpen⟩)
        · exact hOld
        · cases hSame
          rw [hClosed] at hOpen
          cases hOpen
    · constructor
      · intro hMem
        rcases List.mem_append.mp hMem with hOld | hNew
        · exact .inl hOld
        · cases List.mem_singleton.mp hNew
          exact .inr ⟨rfl, Bool.eq_false_iff.mpr hClosed⟩
      · rintro (hOld | ⟨hSame, _⟩)
        · exact List.mem_append_left _ hOld
        · cases hSame
          exact List.mem_append_right _ (List.mem_singleton_self _)
  · simp

/-- A new client takes the place of the one under its key, and none is lost. -/
theorem Accounted.replace (hostRoot : String) {s t : State} (inv : Accounted s) {key : ClientKey}
    (hTables : t.tables.clients =
        (((s.tables.retire (s.tables.clients.get? key)).create hostRoot key).2).clients ∧
      t.tables.retired = (s.tables.retire (s.tables.clients.get? key)).retired ∧
      t.tables.nextId = s.tables.nextId + 1)
    (hClosing : t.closing = s.closing) (hClosedHere : t.closedHere = s.closedHere)
    (hFirst : t.firstId = s.firstId)
    (hReplaced : t.replacedClosed = s.replacedBy (s.tables.clients.get? key) ++ s.replacedClosed) :
    Accounted t := by
  obtain ⟨hClients, hRetired, hNext⟩ := hTables
  have hGet : ∀ other, t.tables.clients.get? other =
      if other = key then some { id := s.tables.nextId, verify := key.verify hostRoot }
      else s.tables.clients.get? other := by
    intro other
    rw [hClients]
    simp only [Tables.create, retire_clients, retire_nextId, Dict.get?_set]
  refine ⟨?_, ?_, ?_, ?_, ?_, ?_⟩
  · intro other client hClient
    rw [hGet] at hClient
    split_ifs at hClient with hKey
    · cases hClient
      exact hNext ▸ Nat.lt_succ_self _
    · have := inv.stored other client hClient
      omega
  · intro client hClient
    rw [hRetired, mem_retire] at hClient
    rcases hClient with hOld | ⟨hFound, _⟩
    · have := inv.retired client hOld
      omega
    · have := inv.stored key client hFound
      omega
  · intro rest hRest client hClient
    have := inv.closing rest (hClosing ▸ hRest) client hClient
    omega
  · intro id hId
    have := inv.closedHere id (hClosedHere ▸ hId)
    omega
  · intro hNone id hId
    rw [hFirst]
    exact inv.closedBefore (hClosing ▸ hNone) id (hClosedHere ▸ hId)
  · intro hNone id hFrom hBelow
    rw [hFirst] at hFrom
    by_cases hNew : id = s.tables.nextId
    · exact .inl ⟨key, _, by rw [hGet, if_pos rfl], hNew.symm⟩
    · have hOld := inv.held (hClosing ▸ hNone) id hFrom (by omega)
      have hOpen : id ∉ t.closedHere := by
        intro hMem
        have := inv.closedBefore (hClosing ▸ hNone) id (hClosedHere ▸ hMem)
        omega
      rcases hOld with ⟨other, client, hClient, hId⟩ | ⟨⟨client, hClient, hId⟩, _⟩ | hMem
      · by_cases hKey : other = key
        · subst hKey
          cases hClosed : s.tables.isClosed client with
          | false =>
              refine .inr (.inl ⟨⟨client, ?_, hId⟩, hOpen⟩)
              rw [hRetired, mem_retire]
              exact .inr ⟨hClient, hClosed⟩
          | true =>
              refine .inr (.inr ?_)
              rw [hReplaced, hClient]
              simp [State.replacedBy, hClosed, hId]
        · exact .inl ⟨other, client, by rw [hGet, if_neg hKey, hClient], hId⟩
      · refine .inr (.inl ⟨⟨client, ?_, hId⟩, hOpen⟩)
        rw [hRetired, mem_retire]
        exact .inl hClient
      · refine .inr (.inr ?_)
        rw [hReplaced]
        exact List.mem_append_right _ hMem

/-- What leaves the tables of the module alone keeps the account. -/
theorem Accounted.frame {s t : State} (inv : Accounted s)
    (hClients : t.tables.clients = s.tables.clients)
    (hRetired : t.tables.retired = s.tables.retired) (hNext : t.tables.nextId = s.tables.nextId)
    (hClosing : t.closing = s.closing) (hClosedHere : t.closedHere = s.closedHere)
    (hFirst : t.firstId = s.firstId) (hReplaced : s.replacedClosed ⊆ t.replacedClosed) :
    Accounted t where
  stored := by rw [hClients, hNext]; exact inv.stored
  retired := by rw [hRetired, hNext]; exact inv.retired
  closing := by rw [hClosing, hNext]; exact inv.closing
  closedHere := by rw [hClosedHere, hNext]; exact inv.closedHere
  closedBefore := by rw [hClosing, hClosedHere, hFirst]; exact inv.closedBefore
  held := by
    intro hNone id hFrom hBelow
    rw [hClosing] at hNone
    rw [hFirst] at hFrom
    rw [hNext] at hBelow
    unfold Held
    rw [hClients, hRetired, hClosedHere]
    rcases inv.held hNone id hFrom hBelow with hStored | hRetired | hMem
    · exact .inl hStored
    · exact .inr (.inl hRetired)
    · exact .inr (.inr (hReplaced hMem))

theorem Accounted.acts {hostRoot : String} {s t : State} (inv : Accounted s) (hSteady : Steady s)
    (h : Acts hostRoot s t) : Accounted t := by
  cases h with
  | beginReplacement => exact inv.frame rfl rfl rfl rfl rfl rfl (List.Subset.refl _)
  | touch => exact inv.frame rfl rfl rfl rfl rfl rfl (List.Subset.refl _)
  | endReplacement => exact inv.frame rfl rfl rfl rfl rfl rfl (List.Subset.refl _)
  | enter => exact inv.frame rfl rfl rfl rfl rfl rfl (List.Subset.refl _)
  | fail => exact inv.frame rfl rfl rfl rfl rfl rfl (List.Subset.refl _)
  | stat => exact inv.frame rfl rfl rfl rfl rfl rfl (List.Subset.refl _)
  | hit => exact inv.frame rfl rfl rfl rfl rfl rfl (List.Subset.refl _)
  | miss => exact inv.frame rfl rfl rfl rfl rfl rfl (List.Subset.refl _)
  | build => exact inv.frame rfl rfl rfl rfl rfl rfl (List.Subset.refl _)
  | @update call stamp found build hCall hPhase =>
      have hFound := hSteady.found call hCall found (by rw [hPhase]; rfl)
      subst hFound
      exact inv.replace hostRoot
        ⟨rfl, rfl, by simp [State.installed, State.leave, Tables.install, Tables.create]⟩
        rfl rfl rfl rfl
  | @client key =>
      rcases client_cases hostRoot s.tables key with hSame | hNew
      · refine inv.frame ?_ ?_ ?_ rfl rfl rfl (List.subset_append_right _ _)
        · exact congrArg Tables.clients hSame
        · exact congrArg Tables.retired hSame
        · exact congrArg Tables.nextId hSame
      · refine inv.replace hostRoot ?_ rfl rfl rfl rfl
        have hRetired := congrArg Tables.retired hNew
        have hNext := congrArg Tables.nextId hNew
        exact ⟨congrArg Tables.clients hNew, hRetired, by simpa [Tables.create] using hNext⟩
  | close => exact inv.frame rfl rfl rfl rfl rfl rfl (List.Subset.refl _)
  | beginClosing =>
      refine ⟨inv.stored, inv.retired, ?_, inv.closedHere, (fun hNone => by cases hNone),
        (fun hNone => by cases hNone)⟩
      intro rest hRest client hClient
      cases hRest
      rcases List.mem_append.mp hClient with hStored | hRetired
      · obtain ⟨⟨key, _⟩, hEntry, rfl⟩ := List.mem_map.mp hStored
        exact inv.stored key _ ((s.tables.clients.get?_eq_some_iff key _).mpr hEntry)
      · exact inv.retired client hRetired
  | @skipClosed client rest _ hClosing =>
      refine ⟨inv.stored, inv.retired, ?_, inv.closedHere, (fun hNone => by cases hNone),
        (fun hNone => by cases hNone)⟩
      intro later hLater other hOther
      cases hLater
      exact inv.closing _ hClosing other (List.mem_cons_of_mem _ hOther)
  | @closeNext client rest _ hClosing =>
      refine ⟨inv.stored, inv.retired, ?_, ?_, (fun hNone => by cases hNone), (fun hNone => by
        cases hNone)⟩
      · intro later hLater other hOther
        cases hLater
        exact inv.closing _ hClosing other (List.mem_cons_of_mem _ hOther)
      · intro id hId
        rcases List.mem_cons.mp hId with rfl | hOld
        · exact inv.closing _ hClosing client List.mem_cons_self
        · exact inv.closedHere id hOld
  | abortClosing =>
      refine ⟨inv.stored, inv.retired, (fun _ hRest => by cases hRest), inv.closedHere, fun _ =>
        inv.closedHere, ?_⟩
      exact fun _ id hFrom hBelow => absurd hBelow (Nat.not_lt.mpr hFrom)
  | endClosing =>
      refine ⟨(fun _ _ hStored => by cases hStored), (fun _ hMem => by cases hMem),
        (fun _ hRest => by cases hRest), inv.closedHere, fun _ => inv.closedHere, ?_⟩
      exact fun _ id hFrom hBelow => absurd hBelow (Nat.not_lt.mpr hFrom)

/-- The files had these times, and no later ones up to that step. -/
def StampBefore (s : State) (files : List String) (stamp : List Int) (limit : Nat) : Prop :=
  ∀ (i : Nat) file mtime, files[i]? = some file → stamp[i]? = some mtime →
    mtime ∈ (s.history file).map Prod.fst ∧ ∀ time, (mtime, time) ∈ s.history file → time ≤ limit

/-- The times are from after every replacement that was over at that step. -/
def StampSince (s : State) (files : List String) (stamp : List Int) (began : Nat) : Prop :=
  ∀ (i : Nat) file mtime, files[i]? = some file → stamp[i]? = some mtime →
    ∀ r ∈ s.replacements, r.file = file → ∀ e, r.ended = some e → e < began →
      ∃ time, (mtime, time) ∈ s.history file ∧ r.began ≤ time

/-- Every replacement of one of the files that was over at that step began before the
context was built. -/
def BuiltSince (s : State) (files : List String) (began : Nat) (build : Build) : Prop :=
  ∀ r ∈ s.replacements, r.file ∈ files → ∀ e, r.ended = some e → e < began → r.began ≤ build.began

/-- How the files go on: a time that a file gets is new to it, and a replacement that
is over stays as it is. -/
structure FilesLater (s t : State) : Prop where
  kept : ∀ file entry, entry ∈ s.history file → entry ∈ t.history file
  new : ∀ file entry, entry ∈ t.history file →
    entry ∈ s.history file ∨ entry.1 ∉ (s.history file).map Prod.fst
  ended : ∀ r ∈ t.replacements, ∀ e, r.ended = some e → e < s.clock →
    ∃ old ∈ s.replacements, old.file = r.file ∧ old.began = r.began ∧ old.ended = some e

theorem FilesLater.refl {s t : State} (hHistory : t.history = s.history)
    (hReplacements : t.replacements = s.replacements) : FilesLater s t where
  kept := fun _ _ h => by rw [hHistory]; exact h
  new := fun _ _ h => .inl (by rw [hHistory] at h; exact h)
  ended := fun r hMem e hEnded _ => ⟨r, hReplacements ▸ hMem, rfl, rfl, hEnded⟩

theorem StampBefore.later {s t : State} (hLater : FilesLater s t) {files : List String}
    {stamp : List Int} {limit : Nat} (h : StampBefore s files stamp limit) :
    StampBefore t files stamp limit := by
  intro i file mtime hFile hStamp
  obtain ⟨hKnown, hLimit⟩ := h i file mtime hFile hStamp
  constructor
  · obtain ⟨entry, hEntry, rfl⟩ := List.mem_map.mp hKnown
    exact List.mem_map_of_mem (hLater.kept file entry hEntry)
  · intro time hTime
    rcases hLater.new file _ hTime with hOld | hNew
    · exact hLimit time hOld
    · exact absurd hKnown hNew

theorem StampSince.later {s t : State} (hLater : FilesLater s t) {files : List String}
    {stamp : List Int} {began : Nat} (hBegan : began ≤ s.clock)
    (h : StampSince s files stamp began) :
    StampSince t files stamp began := by
  intro i file mtime hFile hStamp r hMem hOf e hEnded hBefore
  obtain ⟨old, hOld, hSame, hOldBegan, hOldEnded⟩ := hLater.ended r hMem e hEnded (by omega)
  obtain ⟨time, hTime, hAfter⟩ :=
    h i file mtime hFile hStamp old hOld (hSame.trans hOf) e hOldEnded hBefore
  exact ⟨time, hLater.kept file _ hTime, hOldBegan ▸ hAfter⟩

theorem BuiltSince.later {s t : State} (hLater : FilesLater s t) {files : List String} {began : Nat}
    {build : Build} (hBegan : began ≤ s.clock) (h : BuiltSince s files began build) :
    BuiltSince t files began build := by
  intro r hMem hFile e hEnded hBefore
  obtain ⟨old, hOld, hSame, hOldBegan, hOldEnded⟩ := hLater.ended r hMem e hEnded (by omega)
  exact hOldBegan ▸ h old hOld (hSame ▸ hFile) e hOldEnded hBefore

/-- What the call in progress knows of the files. -/
def CallKnows (hostRoot : String) (s : State) (call : Call) : Phase → Prop
  | .stats stamp => StampBefore s (call.key.files hostRoot) stamp s.clock ∧
      StampSince s (call.key.files hostRoot) stamp call.began
  | .building stamp _ began => StampBefore s (call.key.files hostRoot) stamp began ∧
      call.began ≤ began ∧ began ≤ s.clock
  | .built stamp _ build => StampBefore s (call.key.files hostRoot) stamp build.began ∧
      call.began ≤ build.began ∧ build.began ≤ build.ended

/-- The client came from a build that the stored times do not run ahead of. -/
def StoredFrom (hostRoot : String) (s : State) (key : ClientKey) (client : Client)
    (stamp : List Int) : Prop :=
  ∃ build, s.builds client.id = some build ∧ build.began ≤ build.ended ∧
    StampBefore s (key.files hostRoot) stamp build.began

/-- The context of the client is not from before a replacement that was over when the
call began. -/
def Returned.Current (hostRoot : String) (s : State) (ret : Returned) : Prop :=
  ∀ client, ret.result = some client → client.id < s.tables.nextId ∧
    ∃ build, s.builds client.id = some build ∧ build.began ≤ build.ended ∧
      BuiltSince s (ret.key.files hostRoot) ret.began build

/-- What the files have gone through. -/
structure FilesKnown (s : State) : Prop where
  time : ∀ file entry, entry ∈ s.history file → entry.2 < s.clock
  order : ∀ file, (s.history file).Pairwise fun newer older => older.2 ≤ newer.2
  touched : ∀ r ∈ s.replacements, r.touched = true → ∃ entry ∈ s.history r.file, r.began ≤ entry.2
  began : ∀ r ∈ s.replacements, r.began < s.clock
  ended : ∀ r ∈ s.replacements, ∀ e, r.ended = some e → r.touched = true ∧ r.began ≤ e

/-- How the stored times and the calls hang together with the files. -/
structure Current (hostRoot : String) (s : State) : Prop where
  call : ∀ call, s.call = some call →
    call.began < s.clock ∧ call.key.files hostRoot ≠ [] ∧ CallKnows hostRoot s call call.phase
  stamped : ∀ key stamp, s.tables.stamps.get? key = some stamp → key.files hostRoot ≠ []
  stored : ∀ key client stamp, s.tables.clients.get? key = some client →
    s.tables.stamps.get? key = some stamp → client.id < s.tables.nextId ∧
    StoredFrom hostRoot s key client stamp
  returned : ∀ ret ∈ s.returned, ret.began < s.clock ∧ ret.Current hostRoot s

theorem FilesKnown.initial (mtime : String → Int) : FilesKnown (.initial mtime) where
  time := by
    intro file entry hEntry
    cases List.mem_singleton.mp hEntry
    exact Nat.zero_lt_one
  order := fun _ => List.pairwise_singleton ..
  touched := nofun
  began := nofun
  ended := nofun

theorem FilesKnown.frame {s t : State} (inv : FilesKnown s) (hHistory : t.history = s.history)
    (hReplacements : t.replacements = s.replacements) (hClock : t.clock = s.clock) :
    FilesKnown t.tick where
  time := by
    intro file entry hEntry
    have := inv.time file entry (hHistory ▸ hEntry)
    simp only [State.tick]
    omega
  order := fun file => by simpa only [State.tick, hHistory] using inv.order file
  touched := by simpa only [State.tick, hHistory, hReplacements] using inv.touched
  began := by
    intro r hMem
    have := inv.began r (hReplacements ▸ hMem)
    simp only [State.tick]
    omega
  ended := by simpa only [State.tick, hReplacements] using inv.ended

theorem FilesKnown.beginReplacement {s : State} (inv : FilesKnown s) (file : String) :
    FilesKnown
      (State.tick { s with replacements := s.replacements ++ [{ file := file, began := s.clock }] })
        where
  time := fun other entry hEntry => Nat.lt_succ_of_lt (inv.time other entry hEntry)
  order := inv.order
  touched := by
    intro r hMem hTouched
    rcases List.mem_append.mp hMem with hOld | hNew
    · exact inv.touched r hOld hTouched
    · cases List.mem_singleton.mp hNew
      cases hTouched
  began := by
    intro r hMem
    rcases List.mem_append.mp hMem with hOld | hNew
    · exact Nat.lt_succ_of_lt (inv.began r hOld)
    · cases List.mem_singleton.mp hNew
      exact Nat.lt_succ_self _
  ended := by
    intro r hMem e hEnded
    rcases List.mem_append.mp hMem with hOld | hNew
    · exact inv.ended r hOld e hEnded
    · cases List.mem_singleton.mp hNew
      cases hEnded

theorem FilesKnown.touch {s : State} (inv : FilesKnown s) {i : Nat}
    {replacement : Replacement} {mtime : Int} (hReplacement : s.replacements[i]? = some replacement)
    (hOpen : replacement.ended = none) :
    FilesKnown (State.tick { s with
      history :=
        Function.update s.history replacement.file ((mtime, s.clock) :: s.history replacement.file)
      replacements := s.replacements.set i { replacement with touched := true } }) where
  time := by
    intro file entry hEntry
    by_cases hFile : file = replacement.file
    · subst hFile
      simp only [State.tick, Function.update_self, List.mem_cons] at hEntry
      rcases hEntry with rfl | hOld
      · exact Nat.lt_succ_self _
      · exact Nat.lt_succ_of_lt (inv.time _ entry hOld)
    · simp only [State.tick, Function.update_of_ne hFile] at hEntry
      exact Nat.lt_succ_of_lt (inv.time file entry hEntry)
  order := by
    intro file
    by_cases hFile : file = replacement.file
    · subst hFile
      simp only [State.tick, Function.update_self, List.pairwise_cons]
      exact ⟨fun entry hEntry => Nat.le_of_lt (inv.time _ entry hEntry), inv.order _⟩
    · simpa only [State.tick, Function.update_of_ne hFile] using inv.order file
  touched := by
    intro r hMem hTouched
    rcases List.mem_or_eq_of_mem_set hMem with hOld | rfl
    · obtain ⟨entry, hEntry, hAfter⟩ := inv.touched r hOld hTouched
      refine ⟨entry, ?_, hAfter⟩
      by_cases hFile : r.file = replacement.file
      · simpa [State.tick, hFile] using .inr (hFile ▸ hEntry)
      · simpa [State.tick, Function.update_of_ne hFile] using hEntry
    · refine ⟨(mtime, s.clock), by simp [State.tick], ?_⟩
      exact Nat.le_of_lt (inv.began replacement (List.mem_of_getElem? hReplacement))
  began := by
    intro r hMem
    rcases List.mem_or_eq_of_mem_set hMem with hOld | rfl
    · exact Nat.lt_succ_of_lt (inv.began r hOld)
    · exact Nat.lt_succ_of_lt (inv.began replacement (List.mem_of_getElem? hReplacement))
  ended := by
    intro r hMem e hEnded
    rcases List.mem_or_eq_of_mem_set hMem with hOld | rfl
    · exact inv.ended r hOld e hEnded
    · rw [hOpen] at hEnded
      cases hEnded

theorem FilesKnown.endReplacement {s : State} (inv : FilesKnown s) {i : Nat}
    {replacement : Replacement} (hReplacement : s.replacements[i]? = some replacement)
    (hTouched : replacement.touched = true) :
    FilesKnown (State.tick { s with
      replacements := s.replacements.set i { replacement with ended := some s.clock } }) where
  time := fun other entry hEntry => Nat.lt_succ_of_lt (inv.time other entry hEntry)
  order := inv.order
  touched := by
    intro r hMem hSet
    rcases List.mem_or_eq_of_mem_set hMem with hOld | rfl
    · exact inv.touched r hOld hSet
    · exact inv.touched replacement (List.mem_of_getElem? hReplacement) hTouched
  began := by
    intro r hMem
    rcases List.mem_or_eq_of_mem_set hMem with hOld | rfl
    · exact Nat.lt_succ_of_lt (inv.began r hOld)
    · exact Nat.lt_succ_of_lt (inv.began replacement (List.mem_of_getElem? hReplacement))
  ended := by
    intro r hMem e hEnded
    rcases List.mem_or_eq_of_mem_set hMem with hOld | rfl
    · exact inv.ended r hOld e hEnded
    · cases hEnded
      exact ⟨hTouched, Nat.le_of_lt (inv.began replacement (List.mem_of_getElem? hReplacement))⟩

theorem FilesKnown.acts {hostRoot : String} {s t : State} (inv : FilesKnown s)
    (h : Acts hostRoot s t) :
    FilesKnown t.tick := by
  cases h with
  | beginReplacement file => exact inv.beginReplacement file
  | touch hReplacement hOpen => exact inv.touch hReplacement hOpen
  | endReplacement hReplacement hTouched => exact inv.endReplacement hReplacement hTouched
  | _ => exact inv.frame rfl rfl rfl

theorem filesLater_of_acts {hostRoot : String} {s t : State} (h : Acts hostRoot s t) :
    FilesLater s t.tick := by
  cases h with
  | beginReplacement file =>
      refine ⟨fun _ _ h => h, fun _ _ h => .inl h, fun r hMem e hEnded _ => ?_⟩
      rcases List.mem_append.mp hMem with hOld | hNew
      · exact ⟨r, hOld, rfl, rfl, hEnded⟩
      · cases List.mem_singleton.mp hNew
        cases hEnded
  | @touch i replacement mtime hReplacement hOpen hNew =>
      refine ⟨?_, ?_, ?_⟩
      · intro file entry hEntry
        by_cases hFile : file = replacement.file
        · subst hFile
          simpa [State.tick] using .inr hEntry
        · simpa [State.tick, Function.update_of_ne hFile] using hEntry
      · intro file entry hEntry
        by_cases hFile : file = replacement.file
        · subst hFile
          simp only [State.tick, Function.update_self, List.mem_cons] at hEntry
          rcases hEntry with rfl | hOld
          · exact .inr hNew
          · exact .inl hOld
        · simp only [State.tick, Function.update_of_ne hFile] at hEntry
          exact .inl hEntry
      · intro r hMem e hEnded _
        rcases List.mem_or_eq_of_mem_set hMem with hOld | rfl
        · exact ⟨r, hOld, rfl, rfl, hEnded⟩
        · rw [hOpen] at hEnded
          cases hEnded
  | @endReplacement i replacement =>
      refine ⟨fun _ _ h => h, fun _ _ h => .inl h, fun r hMem e hEnded hBefore => ?_⟩
      rcases List.mem_or_eq_of_mem_set hMem with hOld | rfl
      · exact ⟨r, hOld, rfl, rfl, hEnded⟩
      · cases hEnded
        exact absurd hBefore (Nat.lt_irrefl _)
  | _ => exact .refl rfl rfl

section Steps

variable {hostRoot : String} {s t : State}

theorem StampBefore.mono {files : List String} {stamp : List Int} {limit limit' : Nat}
    (h : StampBefore s files stamp limit) (hLimit : limit ≤ limit') :
    StampBefore s files stamp limit' := by
  intro i file mtime hFile hStamp
  obtain ⟨hKnown, hTimes⟩ := h i file mtime hFile hStamp
  exact ⟨hKnown, fun time hTime => (hTimes time hTime).trans hLimit⟩

theorem CallKnows.later (hLater : FilesLater s t) (hClock : s.clock ≤ t.clock) {call : Call}
    (hBegan : call.began < s.clock) {phase : Phase} (h : CallKnows hostRoot s call phase) :
    CallKnows hostRoot t call phase := by
  cases phase with
  | stats stamp => exact ⟨(h.1.later hLater).mono hClock, h.2.later hLater (Nat.le_of_lt hBegan)⟩
  | building stamp found began => exact ⟨h.1.later hLater, h.2.1, h.2.2.trans hClock⟩
  | built stamp found build => exact ⟨h.1.later hLater, h.2⟩

theorem StoredFrom.later (hLater : FilesLater s t) {key : ClientKey} {client : Client}
    {stamp : List Int} (hBuild : t.builds client.id = s.builds client.id)
    (h : StoredFrom hostRoot s key client stamp) :
    StoredFrom hostRoot t key client stamp := by
  obtain ⟨build, hBuilt, hOrder, hStamp⟩ := h
  exact ⟨build, hBuild.trans hBuilt, hOrder, hStamp.later hLater⟩

theorem Returned.Current.later (hLater : FilesLater s t) {ret : Returned}
    (hBegan : ret.began < s.clock) (hBuilds : ∀ id < s.tables.nextId, t.builds id = s.builds id)
    (hNext : s.tables.nextId ≤ t.tables.nextId) (h : ret.Current hostRoot s) :
    ret.Current hostRoot t := by
  intro client hResult
  obtain ⟨hId, build, hBuilt, hOrder, hSince⟩ := h client hResult
  exact ⟨hId.trans_le hNext, build, (hBuilds _ hId).trans hBuilt, hOrder,
    hSince.later hLater (Nat.le_of_lt hBegan)⟩

/-- What a step has to show for the clients, the calls and the returns that are new. -/
theorem Current.go (inv : Current hostRoot s) (hLater : FilesLater s t) (hClock : s.clock ≤ t.clock)
    (hBuilds : ∀ id < s.tables.nextId, t.builds id = s.builds id)
    (hNext : s.tables.nextId ≤ t.tables.nextId)
    (hCall : ∀ call, t.call = some call → s.call = some call ∨
      call.began < t.clock ∧ call.key.files hostRoot ≠ [] ∧ CallKnows hostRoot t call call.phase)
    (hStamped : ∀ key stamp, t.tables.stamps.get? key = some stamp →
      s.tables.stamps.get? key = some stamp ∨ key.files hostRoot ≠ [])
    (hStored : ∀ key client stamp, t.tables.clients.get? key = some client →
      t.tables.stamps.get? key = some stamp →
      s.tables.clients.get? key = some client ∧ s.tables.stamps.get? key = some stamp ∨
        client.id < t.tables.nextId ∧ StoredFrom hostRoot t key client stamp)
    (hReturned : ∀ ret ∈ t.returned, ret ∈ s.returned ∨ ret.began < t.clock ∧
      ret.Current hostRoot t) :
    Current hostRoot t where
  call := by
    intro call hMem
    rcases hCall call hMem with hOld | hNew
    · obtain ⟨hBegan, hFiles, hKnows⟩ := inv.call call hOld
      exact ⟨hBegan.trans_le hClock, hFiles, hKnows.later hLater hClock hBegan⟩
    · exact hNew
  stamped := by
    intro key stamp hStamp
    rcases hStamped key stamp hStamp with hOld | hNew
    · exact inv.stamped key stamp hOld
    · exact hNew
  stored := by
    intro key client stamp hClient hStamp
    rcases hStored key client stamp hClient hStamp with ⟨hOldClient, hOldStamp⟩ | hNew
    · obtain ⟨hId, hFrom⟩ := inv.stored key client stamp hOldClient hOldStamp
      exact ⟨hId.trans_le hNext, hFrom.later hLater (hBuilds _ hId)⟩
    · exact hNew
  returned := by
    intro ret hRet
    rcases hReturned ret hRet with hOld | hNew
    · obtain ⟨hBegan, hCurrent⟩ := inv.returned ret hOld
      exact ⟨hBegan.trans_le hClock, hCurrent.later hLater hBegan hBuilds hNext⟩
    · exact hNew

/-- A step that touches neither the calls nor the tables, but perhaps the files. -/
theorem Current.frame (inv : Current hostRoot s) (hLater : FilesLater s t)
    (hClock : s.clock ≤ t.clock) (hBuilds : t.builds = s.builds)
    (hClients : t.tables.clients = s.tables.clients) (hStamps : t.tables.stamps = s.tables.stamps)
    (hNext : t.tables.nextId = s.tables.nextId) (hCall : t.call = s.call)
    (hReturned : t.returned = s.returned) : Current hostRoot t := by
  apply inv.go hLater hClock (fun id _ => congrFun hBuilds id) (Nat.le_of_eq hNext.symm)
  · intro call h
    exact .inl (hCall ▸ h)
  · intro key stamp h
    exact .inl (hStamps ▸ h)
  · intro key client stamp h h'
    exact .inl ⟨hClients ▸ h, hStamps ▸ h'⟩
  · intro ret h
    exact .inl (hReturned ▸ h)

/-- The call in progress goes on, or a call is made. -/
theorem Current.phase (inv : Current hostRoot s) {call : Call} (hBegan : call.began ≤ s.clock)
    (hFiles : call.key.files hostRoot ≠ [])
    (hKnows : CallKnows hostRoot (State.tick { s with call := some call }) call call.phase) :
    Current hostRoot (State.tick { s with call := some call }) := by
  refine inv.go (.refl rfl rfl) (Nat.le_succ _) (fun _ _ => rfl) (Nat.le_refl _) ?_ ?_ ?_ ?_
  · intro other hOther
    cases hOther
    exact .inr ⟨Nat.lt_succ_of_le hBegan, hFiles, hKnows⟩
  · intro key stamp h
    exact .inl h
  · intro key client stamp h h'
    exact .inl ⟨h, h'⟩
  · intro ret h
    exact .inl h

/-- The call in progress returns, and the tables stay as they are. -/
theorem Current.leave (inv : Current hostRoot s) {call : Call} {result : Option Client}
    (hBegan : call.began < s.clock)
    (hCurrent : ∀ after : Tables, Returned.Current hostRoot (State.tick s)
      ⟨call.key, call.began, call.before, after, result⟩) :
    Current hostRoot (State.tick (s.leave call s.tables result)) := by
  refine inv.go (.refl rfl rfl) (Nat.le_succ _) (fun _ _ => rfl) (Nat.le_refl _) ?_ ?_ ?_ ?_
  · intro other hOther
    cases hOther
  · intro key stamp h
    exact .inl h
  · intro key client stamp h h'
    exact .inl ⟨h, h'⟩
  · intro ret hRet
    rcases List.mem_append.mp hRet with hOld | hNew
    · exact .inl hOld
    · cases List.mem_singleton.mp hNew
      exact .inr ⟨Nat.lt_succ_of_lt hBegan, hCurrent s.tables⟩

/-- A call that finds its times stored returns a client that is current. -/
theorem current_of_hit (inv : Current hostRoot s) {call : Call} {stamp : List Int} {client : Client}
    {after : Tables} (hCall : s.call = some call) (hPhase : call.phase = .stats stamp)
    (hLength : stamp.length = (call.key.files hostRoot).length)
    (hCurrent : s.tables.current? call.key stamp = some client) :
    Returned.Current hostRoot s ⟨call.key, call.began, call.before, after, some client⟩ := by
  intro other hOther
  cases hOther
  obtain ⟨hClient, hStamp⟩ := Tables.get?_of_current? hCurrent
  obtain ⟨hId, build, hBuilt, hOrder, hBefore⟩ := inv.stored call.key client stamp hClient hStamp
  refine ⟨hId, build, hBuilt, hOrder, fun r hMem hFile e hEnded hOver => ?_⟩
  have hKnows := (inv.call call hCall).2.2
  rw [hPhase] at hKnows
  obtain ⟨i, hIndex, hSame⟩ := List.getElem_of_mem hFile
  have hFileAt : (call.key.files hostRoot)[i]? = some r.file := by
    rw [List.getElem?_eq_getElem hIndex, hSame]
  have hInside : i < stamp.length := hLength ▸ hIndex
  have hTimeAt : stamp[i]? = some stamp[i] := List.getElem?_eq_getElem hInside
  -- the file had its time after the replacement began, and before the build did
  obtain ⟨time, hTime, hAfter⟩ := hKnows.2 i r.file _ hFileAt hTimeAt r hMem rfl e hEnded hOver
  exact hAfter.trans ((hBefore i r.file _ hFileAt hTimeAt).2 time hTime)

/-- The call has looked at one more file. -/
theorem knows_of_stat (inv : Current hostRoot s) (hFiles : FilesKnown s) {call : Call}
    {stamp : List Int} {file : String} {mtime : Int × Nat} (hCall : s.call = some call)
    (hPhase : call.phase = .stats stamp)
    (hFile : (call.key.files hostRoot)[stamp.length]? = some file)
    (hTime : (s.history file).head? = some mtime) :
    CallKnows hostRoot s call (.stats (stamp ++ [mtime.1])) := by
  have hKnows := (inv.call call hCall).2.2
  rw [hPhase] at hKnows
  obtain ⟨older, hHistory⟩ := List.head?_eq_some_iff.mp hTime
  have hHere : mtime ∈ s.history file := by rw [hHistory]; exact List.mem_cons_self
  constructor
  · intro i other time hOther hStamp
    rcases Nat.lt_trichotomy i stamp.length with hOld | hNew | hBeyond
    · rw [List.getElem?_append_left hOld] at hStamp
      exact hKnows.1 i other time hOther hStamp
    · subst hNew
      rw [List.getElem?_concat_length] at hStamp
      cases hStamp
      cases hOther.symm.trans hFile
      exact ⟨List.mem_map_of_mem hHere, fun time hTime => Nat.le_of_lt (hFiles.time file _ hTime)⟩
    · rw [List.getElem?_eq_none (by simp; omega)] at hStamp
      cases hStamp
  · intro i other time hOther hStamp r hMem hOf e hEnded hOver
    rcases Nat.lt_trichotomy i stamp.length with hOld | hNew | hBeyond
    · rw [List.getElem?_append_left hOld] at hStamp
      exact hKnows.2 i other time hOther hStamp r hMem hOf e hEnded hOver
    · subst hNew
      rw [List.getElem?_concat_length] at hStamp
      cases hStamp
      cases hOther.symm.trans hFile
      -- the replacement has touched the file, and no later time is older
      obtain ⟨entry, hEntry, hAfter⟩ := hFiles.touched r hMem (hFiles.ended r hMem e hEnded).1
      rw [hOf, hHistory] at hEntry
      refine ⟨mtime.2, hHere, ?_⟩
      rcases List.mem_cons.mp hEntry with rfl | hOlder
      · exact hAfter
      · have hOrder := hFiles.order file
        rw [hHistory] at hOrder
        exact hAfter.trans (List.rel_of_pairwise_cons hOrder hOlder)
    · rw [List.getElem?_eq_none (by simp; omega)] at hStamp
      cases hStamp

/-- The end of a call that has built a context. -/
theorem Current.update (inv : Current hostRoot s) (hFiles : FilesKnown s) {call : Call}
    {stamp : List Int} {found : Option Client} {build : Build} (hCall : s.call = some call)
    (hPhase : call.phase = .built stamp found build) :
    Current hostRoot (State.tick (s.installed hostRoot call stamp found build)) := by
  obtain ⟨hBegan, hKeyFiles, hKnows⟩ := inv.call call hCall
  rw [hPhase] at hKnows
  obtain ⟨hBefore, hAfter, hOrder⟩ := hKnows
  let made := s.tables.install hostRoot call.key stamp found
  have hId : made.1.id = s.tables.nextId := install_id ..
  have hNext : made.2.nextId = s.tables.nextId + 1 := install_nextId ..
  have hBelow : made.1.id < made.2.nextId := hNext.symm ▸ hId.symm ▸ Nat.lt_succ_self _
  have hBuilt : Function.update s.builds made.1.id (some build) made.1.id = some build :=
    Function.update_self ..
  have hLater : FilesLater s (State.tick (s.installed hostRoot call stamp found build)) :=
    .refl rfl rfl
  refine inv.go hLater (Nat.le_succ _) ?_ ?_ ?_ ?_ ?_ ?_
  · intro id hOld
    have hOther : id ≠ made.1.id := hId.symm ▸ Nat.ne_of_lt hOld
    exact Function.update_of_ne hOther ..
  · exact hNext ▸ Nat.le_succ _
  · intro other hOther
    cases hOther
  · intro key other hStamp
    have hGet : made.2.stamps.get? key = some other := hStamp
    rw [install_stamps] at hGet
    split_ifs at hGet with hKey
    · exact .inr (hKey ▸ hKeyFiles)
    · exact .inl hGet
  · intro key client other hClient hStamp
    have hGet : made.2.clients.get? key = some client := hClient
    have hGet' : made.2.stamps.get? key = some other := hStamp
    rw [install_clients] at hGet
    rw [install_stamps] at hGet'
    split_ifs at hGet hGet' with hKey
    · cases hGet
      cases hGet'
      exact .inr ⟨hBelow, build, hBuilt, hOrder, hKey ▸ hBefore.later hLater⟩
    · exact .inl ⟨hGet, hGet'⟩
  · intro ret hRet
    rcases List.mem_append.mp hRet with hOld | hNew
    · exact .inl hOld
    · cases List.mem_singleton.mp hNew
      refine .inr ⟨Nat.lt_succ_of_lt hBegan, fun client hClient => ?_⟩
      cases hClient
      refine ⟨hBelow, build, hBuilt, hOrder, fun r hMem _ e hEnded hOver => ?_⟩
      exact (hFiles.ended r hMem e hEnded).2.trans (Nat.le_of_lt (hOver.trans_le hAfter))

/-- A client without certificate files. -/
theorem Current.client (inv : Current hostRoot s) {key : ClientKey}
    (hNone : key.files hostRoot = []) (replaced : List Nat) :
    Current hostRoot (State.tick
      { s with tables := (s.tables.client hostRoot key).2, replacedClosed := replaced }) := by
  rcases client_cases hostRoot s.tables key with hSame | hNew
  · rw [hSame]
    exact inv.frame (.refl rfl rfl) (Nat.le_succ _) rfl rfl rfl rfl rfl rfl
  · rw [hNew]
    refine inv.go (.refl rfl rfl) (Nat.le_succ _) (fun _ _ => rfl) ?_ ?_ ?_ ?_ fun ret hRet =>
      .inl hRet
    · simp [State.tick, Tables.create]
    · intro call hCall
      exact .inl hCall
    · intro other stamp hStamp
      left
      simpa [State.tick, Tables.create] using hStamp
    · intro other client stamp hClient hStamp
      left
      simp only [State.tick, Tables.create, retire_clients, retire_nextId, retire_stamps,
        Dict.get?_set] at hClient hStamp
      split_ifs at hClient with hKey
      · exact absurd (hKey ▸ hNone) (inv.stamped other stamp hStamp)
      · exact ⟨hClient, hStamp⟩

theorem Current.acts (inv : Current hostRoot s) (hFiles : FilesKnown s) (h : Acts hostRoot s t) :
    Current hostRoot t.tick := by
  have hLater := filesLater_of_acts h
  cases h with
  | enter hIdle hKeyFiles =>
      refine inv.phase (Nat.le_refl _) hKeyFiles ?_
      refine ⟨?_, ?_⟩ <;> · intro i file mtime _ hStamp; cases hStamp
  | @fail call hCall => exact inv.leave (inv.call call hCall).1 fun _ _ hResult => by cases hResult
  | @stat call stamp file mtime hCall hPhase hFile hTime =>
      obtain ⟨hBegan, hKeyFiles, _⟩ := inv.call call hCall
      refine inv.phase (Nat.le_of_lt hBegan) hKeyFiles ?_
      exact (knows_of_stat inv hFiles hCall hPhase hFile hTime).later hLater (Nat.le_succ _) hBegan
  | @hit call stamp client hCall hPhase hLength hCurrent =>
      have hBegan := (inv.call call hCall).1
      have hTick : FilesLater s s.tick := .refl rfl rfl
      refine inv.leave hBegan fun after => ?_
      exact (current_of_hit inv hCall hPhase hLength hCurrent).later hTick hBegan (fun _ _ => rfl)
        (Nat.le_refl _)
  | @miss call stamp hCall hPhase =>
      obtain ⟨hBegan, hKeyFiles, hKnows⟩ := inv.call call hCall
      rw [hPhase] at hKnows
      refine inv.phase (Nat.le_of_lt hBegan) hKeyFiles ?_
      exact ⟨hKnows.1.later (.refl rfl rfl), Nat.le_of_lt hBegan, Nat.le_succ _⟩
  | @build call stamp found began hCall hPhase =>
      obtain ⟨hBegan, hKeyFiles, hKnows⟩ := inv.call call hCall
      rw [hPhase] at hKnows
      refine inv.phase (Nat.le_of_lt hBegan) hKeyFiles ?_
      exact ⟨hKnows.1.later (.refl rfl rfl), hKnows.2.1, hKnows.2.2⟩
  | update hCall hPhase => exact inv.update hFiles hCall hPhase
  | client _ hNone => exact inv.client hNone _
  | endClosing hIdle =>
      refine inv.go hLater (Nat.le_succ _) (fun _ _ => rfl)
          (Nat.le_refl _) ?_ nofun nofun fun ret hRet =>
        .inl hRet
      exact fun call hCall => .inl hCall
  | _ => exact inv.frame hLater (Nat.le_succ _) rfl rfl rfl rfl rfl rfl

end Steps

theorem Current.initial (hostRoot : String) (mtime : String → Int) :
    Current hostRoot (.initial mtime) where
  call := nofun
  stamped := nofun
  stored := nofun
  returned := nofun

/-- Everything that holds in a run. -/
structure Safe (hostRoot : String) (s : State) : Prop where
  files : FilesKnown s
  current : Current hostRoot s
  steady : Steady s
  accounted : Accounted s

theorem Safe.step {hostRoot : String} {s t : State} {action : Action} (inv : Safe hostRoot s)
    (h : step hostRoot s action = some t) : Safe hostRoot t := by
  obtain ⟨middle, hAct, rfl⟩ := step_cases h
  have hAccounted := inv.accounted.acts inv.steady hAct
  exact ⟨inv.files.acts hAct, inv.current.acts inv.files hAct, inv.steady.step h,
    hAccounted.frame rfl rfl rfl rfl rfl rfl (List.Subset.refl _)⟩

theorem safe_of_runs {hostRoot : String} {mtime : String → Int} {actions : List Action} {s : State}
    (h : Runs (step hostRoot) (.initial mtime) actions s) : Safe hostRoot s :=
  h.invariant ⟨.initial mtime, .initial hostRoot mtime, .initial mtime, .initial mtime⟩
    fun _ _ _ inv _ hStep => inv.step hStep

/-- However the certificate files are replaced and clients are closed while
`_cert_client` runs: a call that begins after a replacement of one of its files never
returns a client whose context was built before that replacement began; a call that
returns no client leaves the tables as they were; and until `close_clients` every
client is in the table, or retired and not closed by this module, or was closed
already when it was replaced. -/
theorem certClientRotation {hostRoot : String} {mtime : String → Int}
    {actions : List Action} {s : State} (h : Runs (step hostRoot) (.initial mtime) actions s) :
    (∀ ret ∈ s.returned, ∀ client, ret.result = some client →
      ∃ build, s.builds client.id = some build ∧ ∀ r ∈ s.replacements,
        r.file ∈ ret.key.files hostRoot →
        ∀ e, r.ended = some e → e < ret.began → ¬build.ended < r.began) ∧
      (∀ ret ∈ s.returned, ret.result = none → SameTables ret.before ret.after) ∧
      (s.closing = none → ∀ id, s.firstId ≤ id → id < s.tables.nextId → Held s id) := by
  have hSafe := safe_of_runs h
  refine ⟨fun ret hRet client hResult => ?_, hSafe.steady.unchanged, hSafe.accounted.held⟩
  obtain ⟨_, build, hBuilt, hOrder, hSince⟩ := (hSafe.current.returned ret hRet).2 client hResult
  refine ⟨build, hBuilt, fun r hMem hFile e hEnded hOver => ?_⟩
  exact Nat.not_lt.mpr ((hSince r hMem hFile e hEnded hOver).trans hOrder)

/-- A call, a rotation of the certificate, and another call. -/
def rotateOnce : List Action :=
  [.enter .kubernetes, .stat false, .look, .build false, .update, .beginReplacement saCaPath,
    .touch 0 7, .endReplacement 0, .enter .kubernetes, .stat false, .look, .build false, .update]

theorem execute_rotateOnce :
    (execute (step "/host") (.initial fun _ => 1) rotateOnce).map
      (fun s =>
        (s.returned.map fun ret => ret.result.map Client.id, s.tables.retired.map Client.id)) =
        some ([some 0, some 1], [0]) := by
  decide +kernel

/-- The second call returns another client, and the first one is retired. -/
theorem certClientRotation_rotateOnce :
    ∃ s, Runs (step "/host") (.initial fun _ => 1) rotateOnce s ∧
      s.returned.map (fun ret => ret.result.map Client.id) = [some 0, some 1] ∧
      (∀ ret ∈ s.returned, ∀ client, ret.result = some client →
        ∃ build, s.builds client.id = some build ∧ ∀ r ∈ s.replacements,
          r.file ∈ ret.key.files "/host" →
          ∀ e, r.ended = some e → e < ret.began → ¬build.ended < r.began) := by
  obtain ⟨s, hExecute, hResult⟩ := Option.map_eq_some_iff.mp execute_rotateOnce
  have hRun := runs_of_execute hExecute
  exact ⟨s, hRun, congrArg Prod.fst hResult, (certClientRotation hRun).1⟩

end NodeDebugDashboard.HttpClient
