import NodeDebugDashboard.HttpClient.Rotation

/-! Everything that a step can do, what it leaves of the files and of the tables, and
that a call that returns no client changes nothing. -/
namespace NodeDebugDashboard.HttpClient

open Library

/-- The outcomes of an action. -/
inductive Acts (hostRoot : String) (s : State) : State → Prop
  | beginReplacement (file : String) :
      Acts hostRoot s { s with replacements := s.replacements ++
        [{ file := file, began := s.clock }] }
  | touch {i : Nat} {replacement : Replacement} {mtime : Int}
      (hReplacement : s.replacements[i]? = some replacement) (hOpen : replacement.ended = none)
      (hNew : mtime ∉ (s.history replacement.file).map Prod.fst) :
      Acts hostRoot s { s with
        history := Function.update s.history replacement.file
          ((mtime, s.clock) :: s.history replacement.file)
        replacements := s.replacements.set i { replacement with touched := true } }
  | endReplacement {i : Nat} {replacement : Replacement}
      (hReplacement : s.replacements[i]? = some replacement)
        (hTouched : replacement.touched = true) :
      Acts hostRoot s { s with
        replacements := s.replacements.set i { replacement with ended := some s.clock } }
  | enter {key : ClientKey} (hIdle : s.call = none) (hFiles : key.files hostRoot ≠ []) :
      Acts hostRoot s
        { s with
          call := some { key := key, began := s.clock, before := s.tables, phase := .stats [] } }
  | fail {call : Call} (hCall : s.call = some call) : Acts hostRoot s (s.leave call s.tables none)
  | stat {call : Call} {stamp : List Int} {file : String} {mtime : Int × Nat}
      (hCall : s.call = some call) (hPhase : call.phase = .stats stamp)
      (hFile : (call.key.files hostRoot)[stamp.length]? = some file)
      (hTime : (s.history file).head? = some mtime) :
      Acts hostRoot s { s with call := some { call with phase := .stats (stamp ++ [mtime.1]) } }
  | hit {call : Call} {stamp : List Int} {client : Client} (hCall : s.call = some call)
      (hPhase : call.phase = .stats stamp)
        (hLength : stamp.length = (call.key.files hostRoot).length)
      (hCurrent : s.tables.current? call.key stamp = some client) :
      Acts hostRoot s (s.leave call s.tables (some client))
  | miss {call : Call} {stamp : List Int} (hCall : s.call = some call)
      (hPhase : call.phase = .stats stamp) :
      Acts hostRoot s { s with
        call :=
          some { call with phase := .building stamp (s.tables.clients.get? call.key) s.clock } }
  | build {call : Call} {stamp : List Int} {found : Option Client} {began : Nat}
      (hCall : s.call = some call) (hPhase : call.phase = .building stamp found began) :
      Acts hostRoot s
        { s with call := some { call with phase := .built stamp found ⟨began, s.clock⟩ } }
  | update {call : Call} {stamp : List Int} {found : Option Client} {build : Build}
      (hCall : s.call = some call) (hPhase : call.phase = .built stamp found build) :
      Acts hostRoot s (s.installed hostRoot call stamp found build)
  | client {key : ClientKey} (hIdle : s.call = none) (hFiles : key.files hostRoot = []) :
      Acts hostRoot s { s with
        tables := (s.tables.client hostRoot key).2
        replacedClosed := s.replacedBy (s.tables.clients.get? key) ++ s.replacedClosed }
  | close {id : Nat} :
      Acts hostRoot s { s with tables := { s.tables with closed := id :: s.tables.closed } }
  | beginClosing (hIdle : s.call = none) (hClosing : s.closing = none) :
      Acts hostRoot s { s with
        closing := some (s.tables.clients.entries.map Prod.snd ++ s.tables.retired) }
  | skipClosed {client : Client} {rest : List Client} (hIdle : s.call = none)
      (hClosing : s.closing = some (client :: rest)) : Acts hostRoot s
        { s with closing := some rest }
  | closeNext {client : Client} {rest : List Client} (hIdle : s.call = none)
      (hClosing : s.closing = some (client :: rest)) :
      Acts hostRoot s { s with
        tables := { s.tables with closed := client.id :: s.tables.closed }
        closedHere := client.id :: s.closedHere
        closing := some rest }
  | abortClosing (hIdle : s.call = none) :
      Acts hostRoot s { s with closing := none, firstId := s.tables.nextId }
  | endClosing (hIdle : s.call = none) :
      Acts hostRoot s { s with
        tables := { s.tables with clients := .empty, stamps := .empty, retired := [] }
        closing := none
        firstId := s.tables.nextId }

theorem act_cases {hostRoot : String} {s t : State} {action : Action}
    (h : act hostRoot s action = some t) :
    Acts hostRoot s t := by
  cases action with
  | beginReplacement file =>
      cases h
      exact .beginReplacement file
  | touch i mtime =>
      simp only [act, Option.bind_eq_bind, Option.bind_eq_some_iff, Option.ite_none_right_eq_some,
        Option.some.injEq] at h
      obtain ⟨replacement, hReplacement, ⟨hOpen, hNew⟩, rfl⟩ := h
      exact .touch hReplacement hOpen hNew
  | endReplacement i =>
      simp only [act, Option.bind_eq_bind, Option.bind_eq_some_iff, Option.ite_none_right_eq_some,
        Option.some.injEq] at h
      obtain ⟨replacement, hReplacement, ⟨_, hTouched⟩, rfl⟩ := h
      exact .endReplacement hReplacement hTouched
  | enter key =>
      simp only [act, Option.ite_none_right_eq_some, Option.isNone_iff_eq_none,
        Option.some.injEq] at h
      obtain ⟨⟨hIdle, hFiles⟩, rfl⟩ := h
      exact .enter hIdle hFiles
  | stat fails =>
      simp only [act] at h
      split at h
      · next call hCall =>
        split at h
        · next stamp hPhase =>
          obtain ⟨file, hFile, hRest⟩ := Option.bind_eq_some_iff.mp h
          split_ifs at hRest
          · cases hRest
            exact .fail hCall
          · obtain ⟨mtime, hTime, hNext⟩ := Option.bind_eq_some_iff.mp hRest
            cases hNext
            exact .stat hCall hPhase hFile hTime
        · cases h
      · cases h
  | look =>
      simp only [act] at h
      split at h
      · next call hCall =>
        split at h
        · next stamp hPhase =>
          simp only [Option.ite_none_right_eq_some, Option.some.injEq] at h
          obtain ⟨hLength, rfl⟩ := h
          unfold State.lookUp
          split
          · next client hCurrent => exact .hit hCall hPhase hLength hCurrent
          · exact .miss hCall hPhase
        · cases h
      · cases h
  | build fails =>
      simp only [act] at h
      split at h
      · next call hCall =>
        split at h
        · next stamp found began hPhase =>
          split_ifs at h
          · cases h
            exact .fail hCall
          · cases h
            exact .build hCall hPhase
        · cases h
      · cases h
  | update =>
      simp only [act] at h
      split at h
      · next call hCall =>
        split at h
        · next stamp found build hPhase =>
          cases h
          exact .update hCall hPhase
        · cases h
      · cases h
  | client key =>
      simp only [act, Option.ite_none_right_eq_some, Option.isNone_iff_eq_none,
        Option.some.injEq] at h
      obtain ⟨⟨hIdle, hFiles⟩, rfl⟩ := h
      exact .client hIdle hFiles
  | close id =>
      simp only [act, Option.ite_none_right_eq_some, Option.some.injEq] at h
      obtain ⟨_, rfl⟩ := h
      exact .close
  | beginClosing =>
      simp only [act, Option.ite_none_right_eq_some, Option.isNone_iff_eq_none,
        Option.some.injEq] at h
      obtain ⟨⟨hIdle, hClosing⟩, rfl⟩ := h
      exact .beginClosing hIdle hClosing
  | closeNext =>
      simp only [act] at h
      split at h
      · next client rest hIdle hClosing =>
        split_ifs at h
        · cases h
          exact .skipClosed hIdle hClosing
        · cases h
          exact .closeNext hIdle hClosing
      · cases h
  | endClosing raised =>
      simp only [act] at h
      split at h
      · next rest hIdle hClosing =>
        split_ifs at h
        · cases h
          exact .abortClosing hIdle
        · cases h
          exact .endClosing hIdle
      · cases h

/-- A step is an action and a tick. -/
theorem step_cases {hostRoot : String} {s t : State} {action : Action}
    (h : step hostRoot s action = some t) : ∃ middle, Acts hostRoot s middle ∧ t = middle.tick := by
  obtain ⟨middle, hAct, hTick⟩ := Option.map_eq_some_iff.mp h
  exact ⟨middle, act_cases hAct, hTick.symm⟩

/-- The tables of the module are the same; which clients are closed may differ. -/
structure SameTables (t t' : Tables) : Prop where
  clients : t.clients = t'.clients
  stamps : t.stamps = t'.stamps
  retired : t.retired = t'.retired

/-- The client that the call has found under its key, once it has looked. -/
def Phase.found : Phase → Option (Option Client)
  | .stats _ => none
  | .building _ found _ => some found
  | .built _ found _ => some found

/-- Nobody else changes the tables while a call is in progress. -/
structure Steady (s : State) : Prop where
  tables : ∀ call, s.call = some call → SameTables call.before s.tables
  found : ∀ call, s.call = some call → ∀ found, call.phase.found = some found →
    found = s.tables.clients.get? call.key
  unchanged : ∀ ret ∈ s.returned, ret.result = none → SameTables ret.before ret.after

theorem Steady.initial (mtime : String → Int) : Steady (.initial mtime) where
  tables := fun _ h => by cases h
  found := fun _ h => by cases h
  unchanged := fun _ h => by cases h

/-- The call in progress goes on to its next phase. -/
theorem Steady.phase {s : State} (inv : Steady s) {call : Call} {phase : Phase}
    (hCall : s.call = some call)
    (hFound : ∀ found, phase.found = some found → found = s.tables.clients.get? call.key) :
    Steady { s with call := some { call with phase := phase } } where
  tables := by
    intro other hOther
    cases hOther
    exact inv.tables call hCall
  found := by
    intro other hOther
    cases hOther
    exact hFound
  unchanged := inv.unchanged

/-- The call in progress returns, without a client if the tables are as they were. -/
theorem Steady.leave {s : State} (inv : Steady s) {call : Call} {tables : Tables}
    {result : Option Client} (hNone : result = none → SameTables call.before tables) :
    Steady (s.leave call tables result) where
  tables := fun _ h => by cases h
  found := fun _ h => by cases h
  unchanged := by
    intro ret hRet
    rcases List.mem_append.mp hRet with hOld | hNew
    · exact inv.unchanged ret hOld
    · cases List.mem_singleton.mp hNew
      exact hNone

/-- What is not about calls changes while there is no call. -/
theorem Steady.idle {s t : State} (inv : Steady s) (hIdle : t.call = none)
    (hReturned : t.returned = s.returned) : Steady t where
  tables := fun _ h => by rw [hIdle] at h; cases h
  found := fun _ h => by rw [hIdle] at h; cases h
  unchanged := hReturned ▸ inv.unchanged

theorem Steady.acts {hostRoot : String} {s t : State} (inv : Steady s) (h : Acts hostRoot s t) :
    Steady t := by
  cases h with
  | beginReplacement => exact ⟨inv.tables, inv.found, inv.unchanged⟩
  | touch => exact ⟨inv.tables, inv.found, inv.unchanged⟩
  | endReplacement => exact ⟨inv.tables, inv.found, inv.unchanged⟩
  | @enter key hIdle =>
      refine ⟨?_, ?_, inv.unchanged⟩
      · intro call hCall
        cases hCall
        exact ⟨rfl, rfl, rfl⟩
      · intro call hCall found hFound
        cases hCall
        cases hFound
  | fail hCall => exact inv.leave fun _ => inv.tables _ hCall
  | stat hCall => exact inv.phase hCall fun _ hFound => by cases hFound
  | hit hCall => exact inv.leave fun hNone => by cases hNone
  | miss hCall =>
      apply inv.phase hCall
      intro found hFound
      cases hFound
      rfl
  | @build call stamp found began hCall hPhase =>
      apply inv.phase hCall
      intro other hFound
      cases hFound
      exact inv.found call hCall found (by rw [hPhase]; rfl)
  | @update call stamp found build hCall =>
      let made := s.tables.install hostRoot call.key stamp found
      have hLeave : Steady (s.leave call made.2 (some made.1)) :=
        inv.leave fun hNone => by cases hNone
      exact ⟨hLeave.tables, hLeave.found, hLeave.unchanged⟩
  | client hIdle => exact inv.idle hIdle rfl
  | close =>
      refine ⟨fun call hCall => ?_, inv.found, inv.unchanged⟩
      obtain ⟨hClients, hStamps, hRetired⟩ := inv.tables call hCall
      exact ⟨hClients, hStamps, hRetired⟩
  | beginClosing hIdle => exact inv.idle hIdle rfl
  | skipClosed hIdle => exact inv.idle hIdle rfl
  | closeNext hIdle => exact inv.idle hIdle rfl
  | abortClosing hIdle => exact inv.idle hIdle rfl
  | endClosing hIdle => exact inv.idle hIdle rfl

theorem Steady.step {hostRoot : String} {s t : State} {action : Action} (inv : Steady s)
    (h : step hostRoot s action = some t) : Steady t := by
  obtain ⟨middle, hAct, rfl⟩ := step_cases h
  obtain ⟨hTables, hFound, hUnchanged⟩ := inv.acts hAct
  exact ⟨hTables, hFound, hUnchanged⟩

end NodeDebugDashboard.HttpClient
