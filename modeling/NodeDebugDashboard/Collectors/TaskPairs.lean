import NodeDebugDashboard.Collectors.TaskRules
import NodeDebugDashboard.Collectors.TtlCacheResults

/-! Two runs of the same tasks by the same actions, with effects that are answered
differently: they do the same as long as related effects get related answers, even where
what they keep in their tables is not the same. -/
namespace Library

variable {A B C D : Type*} {rel : A → B → Prop}

theorem rel_map {rel' : C → D → Prop} {f : A → C} {g : B → D} {a : Option A} {b : Option B}
    (h : Option.Rel rel a b) (hMap : ∀ x y, rel x y → rel' (f x) (g y)) :
    Option.Rel rel' (a.map f) (b.map g) := by
  cases h with
  | none => exact .none
  | some h => exact .some (hMap _ _ h)

/-- Two optional values are related where a function makes the same of them. -/
theorem rel_of_map_eq {f : A → C} {g : B → C} {a : Option A} {b : Option B}
    (h : a.map f = b.map g) :
    Option.Rel (fun x y => f x = g y) a b := by
  cases a with
  | none =>
      cases b with
      | none => exact .none
      | some => cases h
  | some =>
      cases b with
      | none => cases h
      | some => exact .some (Option.some.inj h)

theorem rel_isSome {a : Option A} {b : Option B} (h : Option.Rel rel a b) :
    a.isSome = b.isSome := by
  cases h <;> rfl

/-- Related optional values have related values. -/
theorem rel_get {a : Option A} {b : Option B} (h : Option.Rel rel a b) (hLeft : a.isSome)
    (hRight : b.isSome) :
    rel (a.get hLeft) (b.get hRight) := by
  cases h with
  | none => cases hLeft
  | some h => exact h

theorem rel_getElem? {as : List A} {bs : List B} (h : List.Forall₂ rel as bs) (i : Nat) :
    Option.Rel rel as[i]? bs[i]? := by
  induction h generalizing i with
  | nil => exact .none
  | cons hHead _ ih =>
      cases i with
      | zero => exact .some hHead
      | succ i => exact ih i

theorem forall₂_set {as : List A} {bs : List B} (h : List.Forall₂ rel as bs) (i : Nat)
    {a : A} {b : B} (hNew : rel a b) : List.Forall₂ rel (as.set i a) (bs.set i b) := by
  induction h generalizing i with
  | nil => exact .nil
  | cons hHead hTail ih =>
      cases i with
      | zero => exact .cons hNew hTail
      | succ i => exact .cons hHead (ih i)

end Library

namespace NodeDebugDashboard.Collectors.Tasks

open Library Library.Async TtlCache

variable {S : Signature} {Store Env Entry : Type}

/-- Tasks at the same place that go on alike. -/
inductive TaskAlike (R : Relation S) :
    {r : S.Kind} → (S.Val r → S.Val r → Prop) → Task S r → Task S r → Prop
  | run {r : S.Kind} {Results : S.Val r → S.Val r → Prop} {program program' : Program S r}
      (hProgram : R.Alike Results program program') : TaskAlike R Results (.run program)
        (.run program')
  | queued {r : S.Kind} {Results : S.Val r → S.Val r → Prop} {f : S.Fn} {c : CallId}
      {next next' : Stamped (S.Val (S.kind f)) → Program S r}
      (hNext : ∀ result result', R.Alike Results (next result) (next' result')) :
      TaskAlike R Results (.queued f c next) (.queued f c next')
  | inside {r : S.Kind} {Results : S.Val r → S.Val r → Prop} {f : S.Fn} {c : CallId} {began : ℚ}
      {body body' : Task S (S.kind f)} {next next' : Stamped (S.Val (S.kind f)) → Program S r}
      (hBody : TaskAlike R (fun _ _ => True) body body')
      (hNext : ∀ result result', R.Alike Results (next result) (next' result')) :
      TaskAlike R Results (.inside f c began body next) (.inside f c began body' next')
  | join {r : S.Kind} {Results : S.Val r → S.Val r → Prop} {n : Nat} {kinds : Fin n → S.Kind}
      {child child' : (i : Fin n) → Task S (kinds i)}
      {next next' : ((i : Fin n) → S.Val (kinds i)) → Program S r}
      (Each : (i : Fin n) → S.Val (kinds i) → S.Val (kinds i) → Prop)
      (hChild : ∀ i, TaskAlike R (Each i) (child i) (child' i))
      (hNext : ∀ values values', (∀ i, Each i (values i) (values' i)) →
        R.Alike Results (next values) (next' values')) :
      TaskAlike R Results (.join n kinds child next) (.join n kinds child' next')

inductive RootAlike (R : Relation S) : Root S → Root S → Prop
  | mk {r : S.Kind} {Results : S.Val r → S.Val r → Prop} {task task' : Task S r}
      (hTask : TaskAlike R Results task task') : RootAlike R ⟨r, task⟩ ⟨r, task'⟩

/-- What is kept behind `ttl_cache`, but for the results and the exceptions. -/
abbrev erased {V E : Type} (cache : TtlCache.State Unit V E) : TtlCache.State Unit Unit Unit :=
  cache.map (fun _ => ()) (fun _ => ())

/-- The same tables but for the results in them, over related stores. -/
structure SharedAlike (Stores : Store → Store → Prop) (s s' : Shared S Store) : Prop where
  clock : s'.clock = s.clock
  cache : ∀ f, erased (s'.cache f) = erased (s.cache f)
  nextCall : s'.nextCall = s.nextCall
  store : Stores s.store s'.store

/-- How one task goes on in the two runs. -/
structure MovedAlike (R : Relation S) (Stores : Store → Store → Prop) {r : S.Kind}
    (Results : S.Val r → S.Val r → Prop)
    (moved moved' : Task S r × Shared S Store × List (Root S)) : Prop where
  task : TaskAlike R Results moved.1 moved'.1
  shared : SharedAlike Stores moved.2.1 moved'.2.1
  detached : List.Forall₂ (RootAlike R) moved.2.2 moved'.2.2

/-- Two handlers answer related effects alike, and the programs of the system do not
tell them apart. Results are kept equally long whatever they are. -/
structure Twins (R : Relation S) (Stores : Store → Store → Prop) (sys : System S Store Env Entry)
    (handle' : (effect : S.Effect) → ℚ → Env → Store → S.Answer effect × Store) : Prop where
  body : ∀ f, R.Alike (fun _ _ => True) (sys.body f) (sys.body f)
  entry : ∀ entry, R.Alike (fun _ _ => True) (sys.entry entry).2 (sys.entry entry).2
  cacheIf : ∀ f, (sys.cfg f).cacheIf = none
  handle : ∀ effect effect' now env store store', R.effect effect effect' → Stores store store' →
    R.answer effect effect' (sys.handle effect now env store).1 (handle' effect' now env store').1 ∧
      Stores (sys.handle effect now env store).2 (handle' effect' now env store').2

variable {R : Relation S} {Stores : Store → Store → Prop} {sys : System S Store Env Entry}
  {handle' : (effect : S.Effect) → ℚ → Env → Store → S.Answer effect × Store}

/-- No collector says which of its results are kept. -/
theorem Twins.uniform (hTwins : Twins R Stores sys handle') (f : S.Fn) :
    (stampedCfg sys f).cacheIf = none := by
  simp [stampedCfg, hTwins.cacheIf f]

/-- How two tasks end alike: both with an exception, or with related results. -/
inductive EndAlike {E V : Type} (Results : V → V → Prop) : Except E V → Except E V → Prop
  | ok {value value' : V} (hValue : Results value value') :
      EndAlike Results (.ok value) (.ok value')
  | error (error error' : E) : EndAlike Results (.error error) (.error error')

theorem TaskAlike.result {r : S.Kind} {Results : S.Val r → S.Val r → Prop} {task task' : Task S r}
    (h : TaskAlike R Results task task') :
    Option.Rel (EndAlike Results) task.result? task'.result? := by
  cases h with
  | run hProgram =>
      cases hProgram with
      | done hValue => exact .some (.ok hValue)
      | raise error error' => exact .some (.error error error')
      | ask => exact .none
      | call => exact .none
      | gather => exact .none
  | queued => exact .none
  | inside => exact .none
  | join => exact .none

theorem TaskAlike.value {r : S.Kind} {Results : S.Val r → S.Val r → Prop} {task task' : Task S r}
    (h : TaskAlike R Results task task') : Option.Rel Results task.value? task'.value? := by
  have hResult := h.result
  unfold Task.value?
  generalize task.result? = result, task'.result? = result' at hResult
  cases hResult with
  | none => exact .none
  | some hEnd =>
      cases hEnd with
      | ok hValue => exact .some hValue
      | error => exact .none

/-- A step of `ttl_cache` is the same in both runs. -/
theorem cacheStep_alike {V E : Type} {cfg : Config V} (hUniform : cfg.cacheIf = none)
    {s s' : TtlCache.State Unit V E} (h : erased s' = erased s)
    (action action' : TtlCache.Action Unit V E)
    (hAction : action'.map (fun _ => ()) (fun _ => ()) = action.map (fun _ => ()) (fun _ => ())) :
    Option.Rel (fun t t' => erased t = erased t') (TtlCache.step cfg s action)
      (TtlCache.step cfg s' action') := by
  have hKeeps : cfg.KeepsAlike (fun _ => ()) { seconds := cfg.seconds, maxsize := cfg.maxsize } :=
    ⟨rfl, fun _ => by simp [Config.ttl, hUniform]⟩
  have hSame : s'.map (fun _ => ()) (fun _ => ()) = s.map (fun _ => ()) (fun _ => ()) := h
  apply rel_of_map_eq
  rw [← step_map _ (fun _ => ()) hKeeps s action, ← step_map _ (fun _ => ()) hKeeps s' action',
    hSame, hAction]

/-- What follows a step of `ttl_cache` in both runs. -/
theorem cacheBind_alike {V E : Type} {A B : Type*} {cfg : Config V} (hUniform : cfg.cacheIf = none)
    {s s' : TtlCache.State Unit V E} (h : erased s' = erased s)
    {action action' : TtlCache.Action Unit V E}
    (hAction : action'.map (fun _ => ()) (fun _ => ()) = action.map (fun _ => ()) (fun _ => ()))
    {P : A → B → Prop} {next : TtlCache.State Unit V E → Option A}
    {next' : TtlCache.State Unit V E → Option B}
    (hNext : ∀ t t', erased t = erased t' → Option.Rel P (next t) (next' t')) :
    Option.Rel P ((TtlCache.step cfg s action).bind next)
      ((TtlCache.step cfg s' action').bind next') := by
  have hStep := cacheStep_alike hUniform h action action' hAction
  generalize TtlCache.step cfg s action = moved, TtlCache.step cfg s' action' = moved' at hStep ⊢
  cases hStep with
  | none => exact .none
  | some hCache => exact hNext _ _ hCache

/-- Where a call is, but for its result. -/
theorem call_alike {V E : Type} {s s' : TtlCache.State Unit V E} (h : erased s' = erased s)
    (c : CallId) :
    (s'.call c).map (fun _ => ()) (fun _ => ()) = (s.call c).map (fun _ => ()) (fun _ => ()) :=
  congrFun (congrArg TtlCache.State.call h) c

theorem continueCall_alike (hTwins : Twins R Stores sys handle') {s s' : Shared S Store}
    (hShared : SharedAlike Stores s s') {r : S.Kind} {Results : S.Val r → S.Val r → Prop}
    (f : S.Fn) (c : CallId) {next next' : Stamped (S.Val (S.kind f)) → Program S r}
    (hNext : ∀ result result', R.Alike Results (next result) (next' result')) :
    Option.Rel (fun moved moved' => TaskAlike R Results moved.1 moved'.1 ∧
      SharedAlike Stores moved.2 moved'.2)
      (s.continueCall sys f c next) (s'.continueCall { sys with handle := handle' } f c next') := by
  have hCall := call_alike (hShared.cache f) c
  unfold Shared.continueCall
  cases hPhase : (s.cache f).call c with
  | absent =>
      cases hPhase' : (s'.cache f).call c <;> simp [hPhase, hPhase', Phase.map] at hCall
      exact .none
  | queued key l arrived =>
      cases hPhase' : (s'.cache f).call c <;> simp [hPhase, hPhase', Phase.map] at hCall
      exact .some ⟨.queued hNext, hShared⟩
  | running key l arrived =>
      cases hPhase' : (s'.cache f).call c <;> simp [hPhase, hPhase', Phase.map] at hCall
      simp only [hShared.clock]
      exact .some ⟨.inside (.run (hTwins.body f)) hNext, hShared⟩
  | ended key arrived result =>
      cases hPhase' : (s'.cache f).call c <;> simp [hPhase, hPhase', Phase.map] at hCall
      rename_i result'
      have hResult := hCall.2
      cases result with
      | hit value now =>
          cases result' <;> simp [Result.map] at hResult
          exact .some
            ⟨.run (hNext _ _), ⟨hShared.clock, hShared.cache, hShared.nextCall, hShared.store⟩⟩
      | shared failure failedAt =>
          cases result' <;> simp [Result.map] at hResult
          exact .some ⟨.run (.raise _ _), hShared⟩
      | _ =>
          cases result' <;> simp [Result.map] at hResult
          exact .none

/-- A pair of optional moves, taken out of the pair of optional results they are made of. -/
theorem rel_moved {r : S.Kind} {Results : S.Val r → S.Val r → Prop}
    {moved moved' : Option (Task S r × Shared S Store)}
    (h : Option.Rel (fun moved moved' => TaskAlike R Results moved.1 moved'.1 ∧
      SharedAlike Stores moved.2 moved'.2)
      moved moved') :
    Option.Rel (MovedAlike R Stores Results) (moved.bind fun moved => some (moved.1, moved.2, []))
      (moved'.bind fun moved => some (moved.1, moved.2, [])) := by
  cases h with
  | none => exact .none
  | some h => exact .some ⟨h.1, h.2, .nil⟩

/-- The children of a `gather` have all returned in both runs, or in none. -/
theorem join_alike {n : Nat} {kinds : Fin n → S.Kind}
    {child child' : (i : Fin n) → Task S (kinds i)}
    {Each : (i : Fin n) → S.Val (kinds i) → S.Val (kinds i) → Prop}
    (hChild : ∀ i, TaskAlike R (Each i) (child i) (child' i)) :
    ((∀ i, (child i).value?.isSome) ↔ ∀ i, (child' i).value?.isSome) ∧
      ∀ (h : ∀ i, (child i).value?.isSome) (h' : ∀ i, (child' i).value?.isSome) i,
        Each i ((child i).value?.get (h i)) ((child' i).value?.get (h' i)) := by
  have hSome : ∀ i, (child i).value?.isSome = (child' i).value?.isSome :=
    fun i => rel_isSome (hChild i).value
  exact ⟨by simp [hSome], fun h h' i => rel_get (hChild i).value (h i) (h' i)⟩

variable [DecidableEq S.Fn]

theorem SharedAlike.setCache {s s' : Shared S Store} (h : SharedAlike Stores s s')
    (now : ℚ) (f : S.Fn) {cache cache' : TtlCache.State Unit (Stamped (S.Val (S.kind f))) S.Error}
    (hCache : erased cache = erased cache') :
    SharedAlike Stores ((s.tick now).setCache f cache) ((s'.tick now).setCache f cache') where
  clock := rfl
  cache := by
    intro other
    simp only [Shared.setCache, Shared.tick]
    by_cases hSame : other = f
    · subst hSame
      simpa using hCache.symm
    · simpa [Function.update_of_ne hSame] using h.cache other
  nextCall := h.nextCall
  store := h.store

theorem leaveCall_alike (hTwins : Twins R Stores sys handle') {s s' : Shared S Store}
    (hShared : SharedAlike Stores s s') {r : S.Kind} {Results : S.Val r → S.Val r → Prop} (f : S.Fn)
    (c : CallId) (began now : ℚ) {next next' : Stamped (S.Val (S.kind f)) → Program S r}
    (hNext : ∀ result result', R.Alike Results (next result) (next' result'))
    {result result' : Except S.Error (S.Val (S.kind f))}
    (hEnd : EndAlike (fun _ _ => True) result result') :
    Option.Rel (fun moved moved' => TaskAlike R Results moved.1 moved'.1 ∧
      SharedAlike Stores moved.2 moved'.2)
      (s.leaveCall sys f c began now next result)
      (s'.leaveCall { sys with handle := handle' } f c began now next' result') := by
  cases hEnd with
  | ok =>
      simp only [Shared.leaveCall, Option.bind_eq_bind]
      apply cacheBind_alike (hTwins.uniform f) (hShared.cache f)
      · rfl
      · intro cache cache' hCache
        have hSet := hShared.setCache now f hCache
        exact .some ⟨.run (hNext _ _), ⟨hSet.clock, hSet.cache, hSet.nextCall, hSet.store⟩⟩
  | error =>
      simp only [Shared.leaveCall, Option.bind_eq_bind]
      apply cacheBind_alike (hTwins.uniform f) (hShared.cache f)
      · rfl
      · intro cache cache' hCache
        exact .some ⟨.run (.raise _ _), hShared.setCache now f hCache⟩

section Moves

variable (hTwins : Twins R Stores sys handle') {s s' : Shared S Store}
  (hShared : SharedAlike Stores s s') {r : S.Kind} {Results : S.Val r → S.Val r → Prop}

include hTwins hShared

theorem moveProgram_alike {program program' : Program S r} (h : R.Alike Results program program')
    (act : Act Env) :
    Option.Rel (MovedAlike R Stores Results) ((Task.run program).move sys s act)
      ((Task.run program').move { sys with handle := handle' } s' act) := by
  cases h with
  | done => cases act <;> exact .none
  | raise => cases act <;> exact .none
  | @ask _ _ effect effect' next next' hEffect hNext =>
      cases act with
      | ask env now =>
          simp only [Task.move, hShared.clock]
          split
          · obtain ⟨hAnswer, hStore⟩ :=
              hTwins.handle effect effect' now env s.store s'.store hEffect hShared.store
            exact .some
              ⟨.run (hNext _ _ hAnswer), ⟨rfl, hShared.cache, hShared.nextCall, hStore⟩, .nil⟩
          · exact .none
      | _ => exact .none
  | @call _ _ f next next' hNext =>
      cases act with
      | arrive t₀ t₁ t₂ =>
          simp only [Task.move, hShared.clock, hShared.nextCall, Option.bind_eq_bind]
          split
          · apply cacheBind_alike (hTwins.uniform f) (hShared.cache f) rfl
            intro cache cache' hCache
            have hSet := hShared.setCache t₂ f hCache
            have hCalled : SharedAlike Stores
                { (s.tick t₂).setCache f cache with nextCall := s.nextCall + 1 }
                { (s'.tick t₂).setCache f cache' with nextCall := s.nextCall + 1 } :=
              ⟨hSet.clock, hSet.cache, rfl, hSet.store⟩
            exact rel_moved (continueCall_alike hTwins hCalled f _ hNext)
          · exact .none
      | _ => exact .none
  | gather Each hChild hNext =>
      cases act with
      | spawn => exact .some ⟨.join Each (fun i => .run (hChild i)) hNext, hShared, .nil⟩
      | _ => exact .none

omit hTwins in
theorem moveJoin_alike {n : Nat} {kinds : Fin n → S.Kind}
    {child child' : (i : Fin n) → Task S (kinds i)}
    {next next' : ((i : Fin n) → S.Val (kinds i)) → Program S r}
    (Each : (i : Fin n) → S.Val (kinds i) → S.Val (kinds i) → Prop)
    (hChild : ∀ i, TaskAlike R (Each i) (child i) (child' i))
    (hNext : ∀ values values', (∀ i, Each i (values i) (values' i)) →
      R.Alike Results (next values) (next' values')) (act : Act Env) :
    Option.Rel (MovedAlike R Stores Results) ((Task.join n kinds child next).move sys s act)
      ((Task.join n kinds child' next').move { sys with handle := handle' } s' act) := by
  cases act with
  | join =>
      obtain ⟨hAll, hValues⟩ := join_alike hChild
      by_cases hDone : ∀ i, (child i).value?.isSome
      · simp only [Task.move, dif_pos hDone, dif_pos (hAll.mp hDone)]
        exact .some ⟨.run (hNext _ _ (hValues hDone (hAll.mp hDone))), hShared, .nil⟩
      · simp only [Task.move, dif_neg hDone, dif_neg (mt hAll.mpr hDone)]
        exact .none
  | fail i =>
      by_cases hIndex : i < n
      · have hResult := (hChild ⟨i, hIndex⟩).result
        simp only [Task.move, dif_pos hIndex]
        generalize (child ⟨i, hIndex⟩).result? = result, (child' ⟨i, hIndex⟩).result? =
          result' at hResult ⊢
        cases hResult with
        | none => exact .none
        | some hEnd =>
            cases hEnd with
            | ok => exact .none
            | error error error' =>
                refine .some ⟨.run (.raise error error'), hShared, ?_⟩
                exact List.forall₂_map_left_iff.mpr (List.forall₂_map_right_iff.mpr
                  (List.forall₂_same.mpr fun j _ => .mk (hChild j)))
      · simp only [Task.move, dif_neg hIndex]
        exact .none
  | _ => exact .none

/-- What a task does at its own place, it does in both runs. -/
theorem move_alike {task task' : Task S r} (h : TaskAlike R Results task task') (act : Act Env) :
    Option.Rel (MovedAlike R Stores Results) (task.move sys s act)
      (task'.move { sys with handle := handle' } s' act) := by
  cases h with
  | run hProgram => exact moveProgram_alike hTwins hShared hProgram act
  | @queued _ _ f c next next' hNext =>
      cases act with
      | resume now =>
          simp only [Task.move, hShared.clock, Option.bind_eq_bind]
          split
          · apply cacheBind_alike (hTwins.uniform f) (hShared.cache f) rfl
            intro cache cache' hCache
            exact rel_moved (continueCall_alike hTwins (hShared.setCache now f hCache) f c hNext)
          · exact .none
      | _ => exact .none
  | @inside _ _ f c began body body' next next' hBody hNext =>
      cases act with
      | leave now =>
          have hResult := hBody.result
          simp only [Task.move, hShared.clock, Option.bind_eq_bind]
          split
          · generalize body.result? = result, body'.result? = result' at hResult ⊢
            cases hResult with
            | none => exact .none
            | some hEnd => exact rel_moved (leaveCall_alike hTwins hShared f c began now hNext hEnd)
          · exact .none
      | _ => exact .none
  | join Each hChild hNext => exact moveJoin_alike hShared Each hChild hNext act

end Moves

/-- What a task does, it does in both runs. The induction follows the path into the
two tasks. -/
theorem taskStep_alike (hTwins : Twins R Stores sys handle') {s s' : Shared S Store}
    (hShared : SharedAlike Stores s s') {r : S.Kind} {Results : S.Val r → S.Val r → Prop}
    {task task' : Task S r} (h : TaskAlike R Results task task') (path : List Nat) (act : Act Env) :
    Option.Rel (MovedAlike R Stores Results) (task.step sys s path act)
      (task'.step { sys with handle := handle' } s' path act) := by
  induction h generalizing path with
  | run hProgram =>
      cases path with
      | nil => exact move_alike hTwins hShared (.run hProgram) act
      | cons => exact .none
  | queued hNext =>
      cases path with
      | nil => exact move_alike hTwins hShared (.queued hNext) act
      | cons => exact .none
  | @inside _ _ f c began body body' next next' hBody hNext ih =>
      have hSome : body'.result?.isSome = body.result?.isSome := (rel_isSome hBody.result).symm
      by_cases hResult : body.result?.isSome
      · cases path with
        | nil =>
            simp only [Task.step, hSome, hResult, if_true]
            exact move_alike hTwins hShared (.inside hBody hNext) act
        | cons =>
            simp only [Task.step, hSome, hResult, if_true]
            exact .none
      · simp only [Task.step, hSome, hResult]
        exact rel_map (ih path) fun _ _ hMoved =>
          ⟨.inside hMoved.task hNext, hMoved.shared, hMoved.detached⟩
  | @join _ _ n kinds child child' next next' Each hChild hNext ih =>
      cases path with
      | nil => exact move_alike hTwins hShared (.join Each hChild hNext) act
      | cons i path =>
          by_cases hIndex : i < n
          · simp only [Task.step, dif_pos hIndex]
            refine rel_map (ih ⟨i, hIndex⟩ path) fun moved moved' hMoved => ?_
            refine ⟨.join Each (fun j => ?_) hNext, hMoved.shared, hMoved.detached⟩
            by_cases hSame : j = ⟨i, hIndex⟩
            · subst hSame
              simpa using hMoved.task
            · simp only [Function.update_of_ne hSame]
              exact hChild j
          · simp only [Task.step, dif_neg hIndex]
            exact .none

/-- The event loops of two runs that have done the same so far. -/
structure StateAlike (R : Relation S) (Stores : Store → Store → Prop)
    (s s' : State S Store) : Prop where
  shared : SharedAlike Stores s.shared s'.shared
  roots : List.Forall₂ (RootAlike R) s.roots s'.roots

theorem step_alike (hTwins : Twins R Stores sys handle') {s s' : State S Store}
    (h : StateAlike R Stores s s') (action : Action Env Entry) :
    Option.Rel (StateAlike R Stores) (step sys s action)
      (step { sys with handle := handle' } s' action) := by
  cases action with
  | begin entry =>
      refine .some ⟨h.shared, ?_⟩
      exact List.rel_append h.roots (.cons (.mk (.run (hTwins.entry entry))) .nil)
  | act root path act =>
      simp only [step]
      have hRoot := rel_getElem? h.roots root
      generalize s.roots[root]? = found, s'.roots[root]? = found' at hRoot
      cases hRoot with
      | none => exact .none
      | some hAlike =>
          cases hAlike with
          | mk hTask =>
              refine rel_map (taskStep_alike hTwins h.shared hTask path act) fun _ _ hMoved => ?_
              refine ⟨hMoved.shared, ?_⟩
              exact List.rel_append (forall₂_set h.roots root (.mk hMoved.task)) hMoved.detached

/-- Whatever one run does, the other does by the same actions. -/
theorem runs_alike (hTwins : Twins R Stores sys handle') {s₀ s₀' s : State S Store}
    {actions : List (Action Env Entry)} (h : Runs (step sys) s₀ actions s)
    (hStart : StateAlike R Stores s₀ s₀') :
    ∃ s', Runs (step { sys with handle := handle' }) s₀' actions s' ∧ StateAlike R Stores s s' := by
  induction h with
  | zero => exact ⟨s₀', .zero _, hStart⟩
  | @succ t u actions action prior meets last ih =>
      obtain ⟨t', hRun, hAlike⟩ := ih
      have hStep := step_alike hTwins hAlike action
      rw [last] at hStep
      generalize hLast : step { sys with handle := handle' } t' action = moved at hStep
      cases hStep with
      | some hAlike' => exact ⟨_, .succ hRun trivial hLast, hAlike'⟩

end NodeDebugDashboard.Collectors.Tasks
