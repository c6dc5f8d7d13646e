import NodeDebugDashboard.Collectors.TtlCache
import NodeDebugDashboard.Library.Async

/-! Tasks of the event loop that run collectors, some of them behind `ttl_cache`.
One action is what a task does between two await points; the clock readings it makes
on the way are part of the action. -/
namespace NodeDebugDashboard.Collectors.Tasks

open Library Library.Async TtlCache

/-- The collectors under consideration, and what answers their effects. -/
structure System (S : Signature) (Store Env Entry : Type) where
  cfg : (f : S.Fn) → Config (S.Val (S.kind f))
  /-- the function that is wrapped -/
  body : (f : S.Fn) → Program S (S.kind f)
  handle : (effect : S.Effect) → ℚ → Env → Store → S.Answer effect × Store
  entry : Entry → (r : S.Kind) × Program S r

/-- A task, with the wrapped functions it is inside of. -/
inductive Task (S : Signature) : S.Kind → Type
  | run {r : S.Kind} (program : Program S r) : Task S r
  /-- The task awaits the lock of a wrapper. -/
  | queued {r : S.Kind} (f : S.Fn) (c : CallId) (next : Stamped (S.Val (S.kind f)) → Program S r) :
      Task S r
  | inside {r : S.Kind} (f : S.Fn) (c : CallId) (began : ℚ) (body : Task S (S.kind f))
      (next : Stamped (S.Val (S.kind f)) → Program S r) : Task S r
  | join {r : S.Kind} (n : Nat) (kinds : Fin n → S.Kind) (child : (i : Fin n) → Task S (kinds i))
      (next : ((i : Fin n) → S.Val (kinds i)) → Program S r) : Task S r

abbrev Root (S : Signature) := (r : S.Kind) × Task S r

/-- A result that a call of a wrapped function returned, and when. -/
structure Return (S : Signature) where
  f : S.Fn
  result : Stamped (S.Val (S.kind f))
  time : ℚ

/-- What the tasks share. -/
structure Shared (S : Signature) (Store : Type) where
  clock : ℚ
  cache : (f : S.Fn) → TtlCache.State Unit (Stamped (S.Val (S.kind f))) S.Error
  store : Store
  nextCall : CallId
  returned : List (Return S)

structure State (S : Signature) (Store : Type) where
  shared : Shared S Store
  roots : List (Root S)

inductive Act (Env : Type) where
  | ask (env : Env) (now : ℚ)
  | arrive (t₀ t₁ t₂ : ℚ)
  | resume (now : ℚ)
  | leave (now : ℚ)
  | spawn
  | join
  /-- A child of `asyncio.gather` raised. -/
  | fail (i : Nat)

/-- A new task is started, or one is moved; the path says which child of each
`asyncio.gather` on the way. -/
inductive Action (Env Entry : Type) where
  | begin (entry : Entry)
  | act (root : Nat) (path : List Nat) (act : Act Env)

variable {S : Signature} {Store Env Entry : Type}

def Task.result? {r : S.Kind} : Task S r → Option (Except S.Error (S.Val r))
  | .run (.done value) => some (.ok value)
  | .run (.raise error) => some (.error error)
  | _ => none

def Task.value? {r : S.Kind} (task : Task S r) : Option (S.Val r) :=
  task.result?.bind Except.toOption

/-- The configuration of the wrapper, for results with their times. -/
def stampedCfg (sys : System S Store Env Entry) (f : S.Fn) :
    Config (Stamped (S.Val (S.kind f))) where
  seconds := (sys.cfg f).seconds
  maxsize := (sys.cfg f).maxsize
  cacheIf := (sys.cfg f).cacheIf.map fun keep result => keep result.value
  retryAfter := (sys.cfg f).retryAfter

namespace Shared

def initial (clock : ℚ) (store : Store) : Shared S Store where
  clock := clock
  cache := fun _ => .initial clock
  store := store
  nextCall := 0
  returned := []

def tick (s : Shared S Store) (now : ℚ) : Shared S Store := { s with clock := now }

def logReturn (s : Shared S Store) (f : S.Fn) (result : Stamped (S.Val (S.kind f))) (time : ℚ) :
    Shared S Store :=
  { s with returned := s.returned ++ [⟨f, result, time⟩] }

/-- How a call of a wrapper goes on after it has looked into the tables. -/
def continueCall (sys : System S Store Env Entry) (s : Shared S Store) {r : S.Kind} (f : S.Fn)
    (c : CallId) (next : Stamped (S.Val (S.kind f)) → Program S r) :
    Option (Task S r × Shared S Store) :=
  match (s.cache f).call c with
  | .ended _ _ (.hit result now) => some (.run (next result), s.logReturn f result now)
  | .ended _ _ (.shared failure _) => some (.run (.raise failure.error), s)
  | .queued _ _ _ => some (.queued f c next, s)
  | .running _ _ _ => some (.inside f c s.clock (.run (sys.body f)) next, s)
  | _ => none

end Shared

variable [DecidableEq S.Fn]

namespace Shared

def setCache (s : Shared S Store) (f : S.Fn)
    (cache : TtlCache.State Unit (Stamped (S.Val (S.kind f))) S.Error) : Shared S Store :=
  { s with cache := Function.update s.cache f cache }

/-- A wrapped function has ended: the wrapper stores its result or its exception. -/
def leaveCall (sys : System S Store Env Entry) (s : Shared S Store) {r : S.Kind} (f : S.Fn)
    (c : CallId) (began now : ℚ) (next : Stamped (S.Val (S.kind f)) → Program S r) :
    Except S.Error (S.Val (S.kind f)) → Option (Task S r × Shared S Store)
  | .ok value => do
      let cache ← TtlCache.step (stampedCfg sys f) (s.cache f)
          (.complete c (.value ⟨value, began, now⟩) now)
      some (.run (next ⟨value, began, now⟩),
        ((s.tick now).setCache f cache).logReturn f ⟨value, began, now⟩ now)
  | .error error => do
      let cache ← TtlCache.step (stampedCfg sys f) (s.cache f) (.complete c (.exception error) now)
      some (.run (.raise error), (s.tick now).setCache f cache)

end Shared

/-- What a task does at its own place: how it goes on, and which tasks go on without
it. -/
def Task.move (sys : System S Store Env Entry) (s : Shared S Store) {r : S.Kind} :
    Task S r → Act Env → Option (Task S r × Shared S Store × List (Root S))
  | .run (.ask effect next), .ask env now =>
      if s.clock ≤ now then
        let answered := sys.handle effect now env s.store
        some (.run (next answered.1), { s.tick now with store := answered.2 }, [])
      else none
  | .run (.call f next), .arrive t₀ t₁ t₂ =>
      if s.clock ≤ t₀ then do
        let cache ← TtlCache.step (stampedCfg sys f) (s.cache f) (.arrive s.nextCall () t₀ t₁ t₂)
        let moved ← { (s.tick t₂).setCache f cache with
          nextCall := s.nextCall + 1 }.continueCall sys f s.nextCall next
        some (moved.1, moved.2, [])
      else none
  | .queued f c next, .resume now =>
      if s.clock ≤ now then do
        let cache ← TtlCache.step (stampedCfg sys f) (s.cache f) (.resume c now)
        let moved ← ((s.tick now).setCache f cache).continueCall sys f c next
        some (moved.1, moved.2, [])
      else none
  | .inside f c began body next, .leave now =>
      if s.clock ≤ now then do
        let result ← body.result?
        let moved ← s.leaveCall sys f c began now next result
        some (moved.1, moved.2, [])
      else none
  | .run (.gather n kinds child next), .spawn =>
      some (.join n kinds (fun i => .run (child i)) next, s, [])
  | .join n _ child next, .join =>
      if h : ∀ i : Fin n, (child i).value?.isSome then
        some (.run (next fun i => (child i).value?.get (h i)), s, [])
      else none
  | .join n kinds child _, .fail i =>
      if h : i < n then
        match (child ⟨i, h⟩).result? with
        | some (.error error) => some (.run (.raise error), s,
            ((List.finRange n).filter (· ≠ ⟨i, h⟩)).map fun j => ⟨kinds j, child j⟩)
        | _ => none
      else none
  | _, _ => none

/-- What a task does at the place that the path leads to. -/
def Task.step (sys : System S Store Env Entry) (s : Shared S Store) {r : S.Kind} :
    Task S r → List Nat → Act Env → Option (Task S r × Shared S Store × List (Root S))
  | .inside f c began body next, path, act =>
      if body.result?.isSome then
        if path = [] then (Task.inside f c began body next).move sys s act else none
      else (body.step sys s path act).map fun moved => (.inside f c began moved.1 next, moved.2)
  | .join n kinds child next, i :: path, act =>
      if h : i < n then
        ((child ⟨i, h⟩).step sys s path act).map fun moved =>
          (.join n kinds (Function.update child ⟨i, h⟩ moved.1) next, moved.2)
      else none
  | task, [], act => task.move sys s act
  | _, _, _ => none

def State.initial (clock : ℚ) (store : Store) : State S Store where
  shared := .initial clock store
  roots := []

/-- One step of the event loop; `none` when the action is not possible. -/
def step (sys : System S Store Env Entry) (s : State S Store) :
    Action Env Entry → Option (State S Store)
  | .begin entry =>
      some { s with roots := s.roots ++ [⟨(sys.entry entry).1, .run (sys.entry entry).2⟩] }
  | .act root path act =>
      match s.roots[root]? with
      | some ⟨r, task⟩ => (task.step sys s.shared path act).map fun moved =>
          { shared := moved.2.1, roots := s.roots.set root ⟨r, moved.1⟩ ++ moved.2.2 }
      | none => none

end NodeDebugDashboard.Collectors.Tasks
