import Mathlib.Data.List.Basic
import NodeDebugDashboard.HttpClient.Clients
import NodeDebugDashboard.Library.Runs

/-! `_cert_client` step by step, while the certificate files are replaced and clients
are closed. The calls of the module's functions run one at a time: none of them awaits
anything but `close_clients`, which awaits the end of each client. -/
namespace NodeDebugDashboard.HttpClient

open Library

/-- A replacement of a file. -/
structure Replacement where
  file : String
  began : Nat
  /-- The file has a time from this replacement. -/
  touched : Bool := false
  ended : Option Nat := none

/-- When the SSL context of a client was built. -/
structure Build where
  began : Nat
  ended : Nat

/-- How far a call of `_cert_client` is. -/
inductive Phase where
  /-- It has the times of the first files. -/
  | stats (stamp : List Int)
  | building (stamp : List Int) (found : Option Client) (began : Nat)
  | built (stamp : List Int) (found : Option Client) (build : Build)

structure Call where
  key : ClientKey
  began : Nat
  before : Tables
  phase : Phase

/-- A call that has returned. -/
structure Returned where
  key : ClientKey
  began : Nat
  before : Tables
  after : Tables
  result : Option Client

/-- The tables and the files. What the clients' contexts, the replaced clients and the
clients closed by `close_clients` are is kept for the record only. -/
structure State where
  clock : Nat
  tables : Tables
  /-- The times that a file has had, the last one first, each with the step it came at. -/
  history : String → List (Int × Nat)
  replacements : List Replacement
  call : Option Call
  returned : List Returned
  builds : Nat → Option Build
  closedHere : List Nat
  replacedClosed : List Nat
  /-- The clients that `close_clients` has still to look at. -/
  closing : Option (List Client)
  /-- The clients from this one on were stored after the last `close_clients`. -/
  firstId : Nat

inductive Action where
  | beginReplacement (file : String)
  | touch (replacement : Nat) (mtime : Int)
  | endReplacement (replacement : Nat)
  | enter (key : ClientKey)
  | stat (fails : Bool)
  | look
  | build (fails : Bool)
  | update
  /-- `_client` -/
  | client (key : ClientKey)
  /-- Someone else closes a client. -/
  | close (id : Nat)
  | beginClosing
  | closeNext
  /-- `close_clients` has come to its end, or has been ended by an exception. -/
  | endClosing (raised : Bool)

namespace State

def initial (mtime : String → Int) : State where
  clock := 1
  tables := .empty
  history := fun file => [(mtime file, 0)]
  replacements := []
  call := none
  returned := []
  builds := fun _ => none
  closedHere := []
  replacedClosed := []
  closing := none
  firstId := 0

/-- The call in progress returns. -/
def leave (s : State) (call : Call) (tables : Tables) (result : Option Client) : State :=
  { s with
    tables := tables
    call := none
    returned := s.returned ++ [⟨call.key, call.began, call.before, tables, result⟩] }

/-- The client that another one takes the place of, if it is closed. -/
def replacedBy (s : State) : Option Client → List Nat
  | some client => if s.tables.isClosed client then [client.id] else []
  | none => []

/-- What the call in progress does when it has looked at all its files. -/
def lookUp (s : State) (call : Call) (stamp : List Int) : State :=
  match s.tables.current? call.key stamp with
  | some client => s.leave call s.tables (some client)
  | none =>
      let found := s.tables.clients.get? call.key
      { s with call := some { call with phase := .building stamp found s.clock } }

/-- The end of the call in progress: the tables get the new client. -/
def installed (s : State) (hostRoot : String) (call : Call) (stamp : List Int)
    (found : Option Client) (build : Build) : State :=
  let made := s.tables.install hostRoot call.key stamp found
  { s.leave call made.2 (some made.1) with
    builds := Function.update s.builds made.1.id (some build)
    replacedClosed := s.replacedBy found ++ s.replacedClosed }

def tick (s : State) : State := { s with clock := s.clock + 1 }

end State

/-- What an action does. -/
def act (hostRoot : String) (s : State) : Action → Option State
  | .beginReplacement file =>
      some { s with replacements := s.replacements ++ [{ file := file, began := s.clock }] }
  | .touch i mtime => do
      let replacement ← s.replacements[i]?
      if replacement.ended = none ∧ mtime ∉ (s.history replacement.file).map Prod.fst then
        some { s with
          history := Function.update s.history replacement.file
            ((mtime, s.clock) :: s.history replacement.file)
          replacements := s.replacements.set i { replacement with touched := true } }
      else none
  | .endReplacement i => do
      let replacement ← s.replacements[i]?
      if replacement.ended = none ∧ replacement.touched then
        some
          { s with replacements := s.replacements.set i { replacement with ended := some s.clock } }
      else none
  | .enter key =>
      if s.call.isNone ∧ key.files hostRoot ≠ [] then
        some { s with
          call := some { key := key, began := s.clock, before := s.tables, phase := .stats [] } }
      else none
  | .stat fails =>
      match s.call with
      | some call =>
          match call.phase with
          | .stats stamp => do
              let file ← (call.key.files hostRoot)[stamp.length]?
              if fails then some (s.leave call s.tables none)
              else do
                let mtime ← (s.history file).head?
                some { s with call := some { call with phase := .stats (stamp ++ [mtime.1]) } }
          | _ => none
      | none => none
  | .look =>
      match s.call with
      | some call =>
          match call.phase with
          | .stats stamp =>
              if stamp.length = (call.key.files hostRoot).length then
                some (s.lookUp call stamp) else none
          | _ => none
      | none => none
  | .build fails =>
      match s.call with
      | some call =>
          match call.phase with
          | .building stamp found began =>
              if fails then some (s.leave call s.tables none)
              else some
                { s with call := some { call with phase := .built stamp found ⟨began, s.clock⟩ } }
          | _ => none
      | none => none
  | .update =>
      match s.call with
      | some call =>
          match call.phase with
          | .built stamp found build => some (s.installed hostRoot call stamp found build)
          | _ => none
      | none => none
  | .client key =>
      if s.call.isNone ∧ key.files hostRoot = [] then
        some { s with
          tables := (s.tables.client hostRoot key).2
          replacedClosed := s.replacedBy (s.tables.clients.get? key) ++ s.replacedClosed }
      else none
  | .close id =>
      if id < s.tables.nextId then
        some { s with tables := { s.tables with closed := id :: s.tables.closed } }
      else none
  | .beginClosing =>
      if s.call.isNone ∧ s.closing.isNone then
        some { s with closing := some (s.tables.clients.entries.map Prod.snd ++ s.tables.retired) }
      else none
  | .closeNext =>
      match s.call, s.closing with
      | none, some (client :: rest) =>
          some (if s.tables.isClosed client then { s with closing := some rest }
            else { s with
              tables := { s.tables with closed := client.id :: s.tables.closed }
              closedHere := client.id :: s.closedHere
              closing := some rest })
      | _, _ => none
  | .endClosing raised =>
      match s.call, s.closing with
      | none, some rest =>
          if raised then some { s with closing := none, firstId := s.tables.nextId }
          else if rest = [] then
            some { s with
              tables := { s.tables with clients := .empty, stamps := .empty, retired := [] }
              closing := none
              firstId := s.tables.nextId }
          else none
      | _, _ => none

def step (hostRoot : String) (s : State) (action : Action) : Option State :=
  (act hostRoot s action).map State.tick

end NodeDebugDashboard.HttpClient
