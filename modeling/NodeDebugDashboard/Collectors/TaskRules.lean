import NodeDebugDashboard.Collectors.Tasks
import NodeDebugDashboard.Collectors.TtlCacheTable
import NodeDebugDashboard.Library.Runs

/-! What holds in every run of tasks: each result that a wrapped function returns
comes from an execution that ended within its time to live. -/
namespace NodeDebugDashboard.Collectors.TtlCache

open Library

variable {K V E : Type} [DecidableEq K]

/-- An entry was there before the step, or is the one that the step stores. -/
theorem entry_of_step {cfg : Config V} {s t : State K V E} {action : Action K V E}
    (h : step cfg s action = some t) {key : K} {entry : V × ℚ}
    (hEntry : t.cache.get? key = some entry) :
    s.cache.get? key = some entry ∨
      ∃ c value now, action = .complete c (.value value) now ∧
      entry = (value, now + cfg.ttl value) := by
  have hTable : (checkedTable cfg s action).get? key = some entry := by
    rcases (step_cases h).cache_eq with hCache | hCache
    · rwa [hCache] at hEntry
    · rw [hCache] at hEntry
      exact get?_pop hEntry
  unfold checkedTable at hTable
  split at hTable
  · next c value now =>
    split at hTable
    · rw [Dict.get?_set] at hTable
      split_ifs at hTable with hKey
      · cases hTable
        exact .inr ⟨c, value, now, rfl, rfl⟩
      · exact .inl hTable
    · exact .inl hTable
  · exact .inl hTable

/-- A call that arrives and hits has read a fresh entry. -/
theorem hit_of_arrive {cfg : Config V} {s t : State K V E} {c : CallId} {key key' : K}
    {t₀ t₁ t₂ arrived now : ℚ} {value : V} (h : step cfg s (.arrive c key t₀ t₁ t₂) = some t)
    (hCall : t.call c = .ended key' arrived (.hit value now)) :
    s.fresh key now = some value ∧ t₀ ≤ now ∧ now ≤ t₂ := by
  cases step_cases h with
  | hit _ hTime hFresh =>
      simp only [State.setCall_call, Function.update_self, Phase.ended.injEq,
        Result.hit.injEq] at hCall
      obtain ⟨rfl, _, rfl, rfl⟩ := hCall
      exact ⟨hFresh, le_refl _, hTime.2.1.trans hTime.2.2⟩
  | acquire _ hTime _ _ _ hEntered =>
      obtain ⟨rfl, rfl, hFresh⟩ := hEntered.hit_fresh hCall
      have hSame : ((s.tick now).setdefaultLock key').fresh key' now = s.fresh key' now := by
        simp [State.fresh]
      rw [hSame] at hFresh
      exact ⟨hFresh, hTime.2.1.trans hTime.2.2 |>.trans' (le_refl _), le_refl _⟩
  | wait => simp [State.enqueue] at hCall

/-- A call that was queued and hits has read a fresh entry. -/
theorem hit_of_resume {cfg : Config V} {s t : State K V E} {c : CallId} {key : K}
    {now arrived time : ℚ} {value : V} (h : step cfg s (.resume c now) = some t)
    (hCall : t.call c = .ended key arrived (.hit value time)) :
    s.fresh key time = some value ∧ time = now := by
  cases step_cases h with
  | resume _ _ _ _ hEntered =>
      obtain ⟨rfl, rfl, hFresh⟩ := hEntered.hit_fresh hCall
      exact ⟨hFresh, rfl⟩

theorem entry_of_fresh {s : State K V E} {key : K} {now : ℚ} {value : V}
    (h : s.fresh key now = some value) :
    ∃ expires, s.cache.get? key = some (value, expires) ∧ now < expires := by
  unfold State.fresh at h
  cases hEntry : s.cache.get? key with
  | none => simp [hEntry] at h
  | some found =>
      simp only [hEntry, Option.ite_none_right_eq_some, Option.some.injEq] at h
      exact ⟨found.2, by rw [← h.2], h.1⟩

theorem arrive_time {cfg : Config V} {s t : State K V E} {c : CallId} {key : K} {t₀ t₁ t₂ : ℚ}
    (h : step cfg s (.arrive c key t₀ t₁ t₂) = some t) : s.clock ≤ t₀ ∧ t₀ ≤ t₁ ∧ t₁ ≤ t₂ := by
  cases step_cases h with
  | hit _ hTime => exact hTime
  | acquire _ hTime => exact hTime
  | wait _ hTime => exact hTime

end NodeDebugDashboard.Collectors.TtlCache

namespace NodeDebugDashboard.Collectors.Tasks

open Library Library.Async TtlCache

variable {S : Signature} {Store Env Entry : Type}

theorem Task.eq_of_value {r : S.Kind} {task : Task S r} {value : S.Val r}
    (h : task.value? = some value) : task = .run (.done value) := by
  cases task with
  | run program =>
      cases program with
      | done value' =>
          cases h
          rfl
      | raise => cases h
      | ask => cases h
      | call => cases h
      | gather => cases h
  | queued => cases h
  | inside => cases h
  | join => cases h

/-- What a task ensures from this time on. -/
def TaskEnsures (C : Contract S) {r : S.Kind} :
    Task S r → (Post : S.Val r → ℚ → Prop) → ℚ → Prop
  | .run program, Post, now => C.Ensures program Post now
  | .queued f _ next, Post, now => C.Ensures (.call f next) Post now
  | .inside f _ began body next, Post, now => began ≤ now ∧
      TaskEnsures C body (fun value ended => C.Stored f began ended value) now ∧
        C.Ensures (.call f next) Post now
  | .join n kinds child next, Post, now => ∃ Posts : (i : Fin n) → S.Val (kinds i) → ℚ → Prop,
      (∀ i, TaskEnsures C (child i) (Posts i) now) ∧ ∀ later values, now ≤ later →
        C.Joins n kinds values → (∀ i, Posts i (values i) later) →
        C.Ensures (next values) Post later

theorem TaskEnsures.later {C : Contract S} {r : S.Kind} {task : Task S r}
    {Post : S.Val r → ℚ → Prop} {now later : ℚ} (h : TaskEnsures C task Post now)
    (hTime : now ≤ later) : TaskEnsures C task Post later := by
  induction task with
  | run => exact Contract.Ensures.later h hTime
  | queued => exact Contract.Ensures.later h hTime
  | inside f c began body next ih =>
      exact ⟨h.1.trans hTime, ih h.2.1, Contract.Ensures.later h.2.2 hTime⟩
  | join n kinds child next ih =>
      obtain ⟨Posts, hChild, hNext⟩ := h
      exact ⟨Posts, fun i => ih i (hChild i),
        fun other values hOther => hNext other values (hTime.trans hOther)⟩

/-- What holds of an entry of a table, with the time it expires. -/
structure Kept (C : Contract S) (f : S.Fn) (now : ℚ) (entry : Stamped (S.Val (S.kind f)) × ℚ) :
    Prop where
  stored : C.Stored f entry.1.began entry.1.ended entry.1.value
  began_le : entry.1.began ≤ entry.1.ended
  ended_le : entry.1.ended ≤ now
  expires : entry.2 = entry.1.ended + C.ttl f entry.1.value

theorem Kept.later {C : Contract S} {f : S.Fn} {entry : Stamped (S.Val (S.kind f)) × ℚ}
    {now later : ℚ} (h : Kept C f now entry) (hTime : now ≤ later) : Kept C f later entry :=
  { h with ended_le := h.ended_le.trans hTime }

/-- An entry that is fresh may be returned. -/
theorem Kept.returned {C : Contract S} {f : S.Fn} {entry : Stamped (S.Val (S.kind f)) × ℚ} {now : ℚ}
    (h : Kept C f now entry) (hFresh : now < entry.2) : C.Returned f now entry.1 where
  stored := h.stored
  began_le := h.began_le
  ended_le := h.ended_le
  kept := .inr (h.expires ▸ hFresh)

theorem stampedCfg_ttl (sys : System S Store Env Entry) (f : S.Fn)
    (result : Stamped (S.Val (S.kind f))) :
    (stampedCfg sys f).ttl result = (sys.cfg f).ttl result.value := by
  unfold Config.ttl stampedCfg
  cases (sys.cfg f).cacheIf <;> rfl

/-- What is assumed of the system: it keeps results as long as the contract says, the
wrapped functions and the entries do what is asked of them, and the effects are
answered as the contract wants. -/
structure Meets (sys : System S Store Env Entry) (C : Contract S) (Inv : Store → Prop) : Prop where
  ttl : ∀ f value, C.ttl f value = (sys.cfg f).ttl value
  body : ∀ f began, C.Ensures (sys.body f) (fun value ended => C.Stored f began ended value) began
  entry : ∀ entry now, C.Ensures (sys.entry entry).2 (fun _ _ => True) now
  handle : ∀ effect now env store, C.Allowed effect → Inv store →
    C.Rely effect now (sys.handle effect now env store).1 ∧ Inv (sys.handle effect now env store).2

/-- What the tables hold and what was returned from them. -/
structure Sound (C : Contract S) (Inv : Store → Prop) (s : Shared S Store) : Prop where
  store : Inv s.store
  entry : ∀ f entry, (s.cache f).cache.get? () = some entry → Kept C f s.clock entry
  returned : ∀ ret ∈ s.returned, C.Returned ret.f ret.time ret.result

theorem Sound.tick {C : Contract S} {Inv : Store → Prop} {s : Shared S Store}
    (inv : Sound C Inv s) {now : ℚ} (hTime : s.clock ≤ now) : Sound C Inv (s.tick now) where
  store := inv.store
  entry := fun f entry hEntry => (inv.entry f entry hEntry).later hTime
  returned := inv.returned

theorem Sound.logReturn {C : Contract S} {Inv : Store → Prop} {s : Shared S Store}
    (inv : Sound C Inv s) {f : S.Fn} {result : Stamped (S.Val (S.kind f))} {time : ℚ}
    (hResult : C.Returned f time result) :
    Sound C Inv (s.logReturn f result time) where
  store := inv.store
  entry := inv.entry
  returned := by
    intro ret hRet
    rcases List.mem_append.mp hRet with hOld | hNew
    · exact inv.returned ret hOld
    · cases List.mem_singleton.mp hNew
      exact hResult

/-- What is fresh in a table may be returned. -/
theorem Sound.returned_of_fresh {C : Contract S} {Inv : Store → Prop} {s : Shared S Store}
    (inv : Sound C Inv s) {f : S.Fn} {now : ℚ} {result : Stamped (S.Val (S.kind f))}
    (hTime : s.clock ≤ now) (hFresh : (s.cache f).fresh () now = some result) :
    C.Returned f now result := by
  obtain ⟨expires, hEntry, hLive⟩ := entry_of_fresh hFresh
  exact ((inv.entry f _ hEntry).later hTime).returned hLive

/-- What a step leaves behind: sound tables, a clock that has not gone back, and a task
that still ensures its postcondition. -/
structure Preserved (C : Contract S) (Inv : Store → Prop) (clock : ℚ) {r : S.Kind} (task : Task S r)
    (Post : S.Val r → ℚ → Prop) (shared : Shared S Store) : Prop where
  sound : Sound C Inv shared
  clock_le : clock ≤ shared.clock
  task : TaskEnsures C task Post shared.clock

/-- A call goes on after it has looked into the tables. -/
theorem preserved_of_continueCall {sys : System S Store Env Entry} {C : Contract S}
    {Inv : Store → Prop} {s shared : Shared S Store} {r : S.Kind} {f : S.Fn} {c : CallId}
    {next : Stamped (S.Val (S.kind f)) → Program S r} {task : Task S r} {Post : S.Val r → ℚ → Prop}
    {began : ℚ} (hMeets : Meets sys C Inv) (inv : Sound C Inv s)
    (hTask : C.Ensures (.call f next) Post began) (hTime : began ≤ s.clock)
    (hHit : ∀ arrived result now, (s.cache f).call c = .ended () arrived (.hit result now) →
      began ≤ now ∧ now ≤ s.clock ∧ C.Returned f now result)
    (hNext : s.continueCall sys f c next = some (task, shared)) :
    Preserved C Inv began task Post shared := by
  have hLater : C.Ensures (.call f next) Post s.clock := hTask.later hTime
  unfold Shared.continueCall at hNext
  split at hNext
  · next arrived result now hCall =>
    cases hNext
    obtain ⟨hBegan, hNow, hResult⟩ := hHit arrived result now hCall
    exact ⟨inv.logReturn hResult, hTime, (hTask now result hBegan hResult).later hNow⟩
  · cases hNext
    exact ⟨inv, hTime, trivial⟩
  · cases hNext
    exact ⟨inv, hTime, hLater⟩
  · cases hNext
    exact ⟨inv, hTime, le_refl _, hMeets.body f s.clock, hLater⟩
  · cases hNext

/-- A task that is through has met its postcondition. -/
theorem TaskEnsures.result {C : Contract S} {r : S.Kind} {task : Task S r}
    {Post : S.Val r → ℚ → Prop} {value : S.Val r} {now later : ℚ} (h : TaskEnsures C task Post now)
    (hResult : task.result? = some (.ok value)) (hTime : now ≤ later) : Post value later := by
  have hTask : task = .run (.done value) :=
    Task.eq_of_value (by simp [Task.value?, hResult, Except.toOption])
  subst hTask
  exact h later hTime

/-- Results that a step joins, if it joins any, may come together. -/
def Task.Joinable (C : Contract S) {r : S.Kind} : Task S r → List Nat → Act Env → Prop
  | .inside _ _ _ body _, path, act => body.Joinable C path act
  | .join n _ child _, i :: path, act => ∀ h : i < n, (child ⟨i, h⟩).Joinable C path act
  | .join n kinds child _, [], .join => ∀ values, (∀ i, child i = .run (.done (values i))) →
      C.Joins n kinds values
  | _, _, _ => True

/-- Only the end of an `asyncio.gather` joins results. -/
theorem Task.joinable {C : Contract S} {act : Act Env}
    (hJoins : act = .join → ∀ n kinds values, C.Joins n kinds values) {r : S.Kind} (task : Task S r)
    (path : List Nat) : task.Joinable C path act := by
  induction task generalizing path with
  | run => exact trivial
  | queued => exact trivial
  | inside f c began body next ih => exact ih path
  | join n kinds child next ih =>
      cases path with
      | cons i path => exact fun hIndex => ih ⟨i, hIndex⟩ path
      | nil =>
          cases act with
          | join => exact fun values _ => hJoins rfl n kinds values
          | _ => exact trivial

/-- A task ensures something. -/
def RootEnsures (C : Contract S) (now : ℚ) (root : Root S) : Prop :=
  ∃ Post, TaskEnsures C root.2 Post now

variable [DecidableEq S.Fn]

/-- Everything that a task can do at its own place. -/
inductive Moved (sys : System S Store Env Entry) (s : Shared S Store) :
    {r : S.Kind} → Task S r → Act Env → Task S r → Shared S Store → List (Root S) → Prop
  | ask {r : S.Kind} {effect : S.Effect} {next : S.Answer effect → Program S r}
      {env : Env} {now : ℚ} (hTime : s.clock ≤ now) :
      Moved sys s (.run (.ask effect next)) (.ask env now)
        (.run (next (sys.handle effect now env s.store).1))
        { s.tick now with store := (sys.handle effect now env s.store).2 } []
  | arrive {r : S.Kind} {f : S.Fn} {next : Stamped (S.Val (S.kind f)) → Program S r} {t₀ t₁ t₂ : ℚ}
      {cache : TtlCache.State Unit (Stamped (S.Val (S.kind f))) S.Error} {task : Task S r}
      {shared : Shared S Store} (hTime : s.clock ≤ t₀)
      (hStep : TtlCache.step (stampedCfg sys f) (s.cache f) (.arrive s.nextCall () t₀ t₁ t₂) =
        some cache)
      (hNext : { (s.tick t₂).setCache f cache with nextCall := s.nextCall + 1 }.continueCall sys f
        s.nextCall next = some (task, shared)) :
      Moved sys s (.run (.call f next)) (.arrive t₀ t₁ t₂) task shared []
  | resume {r : S.Kind} {f : S.Fn} {c : CallId} {next : Stamped (S.Val (S.kind f)) →
      Program S r} {now : ℚ}
      {cache : TtlCache.State Unit (Stamped (S.Val (S.kind f))) S.Error} {task : Task S r}
      {shared : Shared S Store} (hTime : s.clock ≤ now)
      (hStep : TtlCache.step (stampedCfg sys f) (s.cache f) (.resume c now) = some cache)
      (hNext : ((s.tick now).setCache f cache).continueCall sys f c next = some (task, shared)) :
      Moved sys s (.queued f c next) (.resume now) task shared []
  | leave {r : S.Kind} {f : S.Fn} {c : CallId} {began now : ℚ} {body : Task S (S.kind f)}
      {next : Stamped (S.Val (S.kind f)) → Program S r} {result : Except S.Error (S.Val (S.kind f))}
      {task : Task S r} {shared : Shared S Store} (hTime : s.clock ≤ now)
      (hResult : body.result? = some result)
      (hNext : s.leaveCall sys f c began now next result = some (task, shared)) :
      Moved sys s (.inside f c began body next) (.leave now) task shared []
  | spawn {r : S.Kind} {n : Nat} {kinds : Fin n → S.Kind} {child : (i : Fin n) →
      Program S (kinds i)}
      {next : ((i : Fin n) → S.Val (kinds i)) → Program S r} :
      Moved sys s (.run (.gather n kinds child next)) .spawn
        (.join n kinds (fun i => .run (child i)) next) s []
  | join {r : S.Kind} {n : Nat} {kinds : Fin n → S.Kind} {child : (i : Fin n) → Task S (kinds i)}
      {next : ((i : Fin n) → S.Val (kinds i)) → Program S r} (values : (i : Fin n) →
        S.Val (kinds i))
      (hValues : ∀ i, child i = .run (.done (values i))) :
      Moved sys s (.join n kinds child next) .join (.run (next values)) s []
  | fail {r : S.Kind} {n : Nat} {kinds : Fin n → S.Kind} {child : (i : Fin n) → Task S (kinds i)}
      {next : ((i : Fin n) → S.Val (kinds i)) → Program S r} {i : Nat}
        {error : S.Error} (h : i < n) :
      Moved sys s (.join n kinds child next) (.fail i) (.run (.raise error)) s
        (((List.finRange n).filter (· ≠ ⟨i, h⟩)).map fun j => ⟨kinds j, child j⟩)

theorem move_cases {sys : System S Store Env Entry} {s shared : Shared S Store} {r : S.Kind}
    {task task' : Task S r} {act : Act Env} {detached : List (Root S)}
    (h : task.move sys s act = some (task', shared, detached)) :
    Moved sys s task act task' shared detached := by
  unfold Task.move at h
  split at h
  · simp only [Option.ite_none_right_eq_some, Option.some.injEq, Prod.mk.injEq] at h
    obtain ⟨hTime, rfl, rfl, rfl⟩ := h
    exact .ask hTime
  · simp only [Option.ite_none_right_eq_some, Option.bind_eq_bind, Option.bind_eq_some_iff,
      Option.some.injEq, Prod.mk.injEq] at h
    obtain ⟨hTime, cache, hStep, moved, hNext, rfl, rfl, rfl⟩ := h
    exact .arrive hTime hStep hNext
  · simp only [Option.ite_none_right_eq_some, Option.bind_eq_bind, Option.bind_eq_some_iff,
      Option.some.injEq, Prod.mk.injEq] at h
    obtain ⟨hTime, cache, hStep, moved, hNext, rfl, rfl, rfl⟩ := h
    exact .resume hTime hStep hNext
  · simp only [Option.ite_none_right_eq_some, Option.bind_eq_bind, Option.bind_eq_some_iff,
      Option.some.injEq, Prod.mk.injEq] at h
    obtain ⟨hTime, result, hResult, moved, hNext, rfl, rfl, rfl⟩ := h
    exact .leave hTime hResult hNext
  · cases h
    exact .spawn
  · next n kinds child next =>
    simp only [Option.dite_none_right_eq_some, Option.some.injEq, Prod.mk.injEq] at h
    obtain ⟨hAll, rfl, rfl, rfl⟩ := h
    have hChild : ∀ i, child i = .run (.done ((child i).value?.get (hAll i))) :=
      fun i => Task.eq_of_value (Option.some_get (hAll i)).symm
    apply Moved.join
    exact hChild
  · split_ifs at h with hIndex
    split at h
    · cases h
      exact Moved.fail hIndex
    · cases h
  · cases h

section Steps

variable {sys : System S Store Env Entry} {C : Contract S} {Inv : Store → Prop}

/-- A step of one cache keeps the tables sound if what it stores is. -/
theorem Sound.setCache {s : Shared S Store} (inv : Sound C Inv s)
    (hMeets : Meets sys C Inv) {f : S.Fn}
    {cache : TtlCache.State Unit (Stamped (S.Val (S.kind f))) S.Error}
    {action : TtlCache.Action Unit (Stamped (S.Val (S.kind f))) S.Error}
    (hStep : TtlCache.step (stampedCfg sys f) (s.cache f) action = some cache)
    (hStored : ∀ c result now, action = .complete c (.value result) now →
      Kept C f s.clock (result, now + C.ttl f result.value)) : Sound C Inv
        (s.setCache f cache) where
  store := inv.store
  entry := by
    intro g entry hEntry
    by_cases hSame : g = f
    · subst hSame
      simp only [Shared.setCache, Function.update_self] at hEntry
      rcases entry_of_step hStep hEntry with hOld | ⟨c, result, now, hAction, rfl⟩
      · exact inv.entry g entry hOld
      · rw [stampedCfg_ttl, ← hMeets.ttl]
        exact hStored c result now hAction
    · simp only [Shared.setCache, Function.update_of_ne hSame] at hEntry
      exact inv.entry g entry hEntry
  returned := inv.returned

theorem preserved_of_leaveCall {s shared : Shared S Store} {r : S.Kind} {f : S.Fn} {c : CallId}
    {began now : ℚ} {next : Stamped (S.Val (S.kind f)) → Program S r}
    {result : Except S.Error (S.Val (S.kind f))} {task : Task S r} {Post : S.Val r → ℚ → Prop}
    (hMeets : Meets sys C Inv) (inv : Sound C Inv s) (hTime : s.clock ≤ now)
    (hBegan : began ≤ s.clock) (hTask : C.Ensures (.call f next) Post s.clock)
    (hResult : ∀ value, result = .ok value → C.Stored f began now value)
    (hNext : s.leaveCall sys f c began now next result = some (task, shared)) :
    Preserved C Inv s.clock task Post shared := by
  cases result with
  | ok value =>
      simp only [Shared.leaveCall, Option.bind_eq_bind, Option.bind_eq_some_iff, Option.some.injEq,
        Prod.mk.injEq] at hNext
      obtain ⟨cache, hStep, rfl, rfl⟩ := hNext
      have hReturned : C.Returned f now ⟨value, began, now⟩ :=
        ⟨hResult value rfl, hBegan.trans hTime, le_refl _, .inl rfl⟩
      have hSet : Sound C Inv ((s.tick now).setCache f cache) := by
        apply (inv.tick hTime).setCache hMeets hStep
        intro c' stored time hAction
        cases hAction
        exact ⟨hReturned.stored, hReturned.began_le, le_refl _, rfl⟩
      exact ⟨hSet.logReturn hReturned, hTime, hTask now _ hTime hReturned⟩
  | error error =>
      simp only [Shared.leaveCall, Option.bind_eq_bind, Option.bind_eq_some_iff, Option.some.injEq,
        Prod.mk.injEq] at hNext
      obtain ⟨cache, hStep, rfl, rfl⟩ := hNext
      refine ⟨(inv.tick hTime).setCache hMeets hStep ?_, hTime, trivial⟩
      intro c' stored time hAction
      cases hAction

/-- What a task does at its own place keeps all that holds. -/
theorem preserved_of_moved {s shared : Shared S Store} {r : S.Kind} {task task' : Task S r}
    {act : Act Env} {detached : List (Root S)} {Post : S.Val r → ℚ → Prop}
    (hMeets : Meets sys C Inv) (inv : Sound C Inv s) (hTask : TaskEnsures C task Post s.clock)
    (hJoin : task.Joinable C [] act) (h : Moved sys s task act task' shared detached) :
    Preserved C Inv s.clock task' Post shared ∧ ∀ root ∈ detached,
    RootEnsures C shared.clock root := by
  cases h with
  | @ask effect next env now hTime =>
      obtain ⟨hRely, hStore⟩ := hMeets.handle effect now env s.store hTask.1 inv.store
      refine ⟨⟨⟨hStore, ?_, inv.returned⟩, hTime, hTask.2 now _ hTime hRely⟩, by simp⟩
      exact (inv.tick hTime).entry
  | @arrive f next t₀ t₁ t₂ cache _ _ hTime hStep hNext =>
      obtain ⟨_, hOrder₁, hOrder₂⟩ := arrive_time hStep
      have hClock : s.clock ≤ t₂ := hTime.trans (hOrder₁.trans hOrder₂)
      have hSet : Sound C Inv ((s.tick t₂).setCache f cache) :=
        (inv.tick hClock).setCache hMeets hStep (by intro _ _ _ hAction; cases hAction)
      have hNumbered :
          Sound C Inv { (s.tick t₂).setCache f cache with nextCall := s.nextCall + 1 } :=
        ⟨hSet.store, hSet.entry, hSet.returned⟩
      refine ⟨preserved_of_continueCall hMeets hNumbered hTask hClock ?_ hNext, by simp⟩
      intro arrived result now hCall
      simp only [Shared.setCache, Function.update_self] at hCall
      obtain ⟨hFresh, hAfter, hBefore⟩ := hit_of_arrive hStep hCall
      exact ⟨hTime.trans hAfter, hBefore, inv.returned_of_fresh (hTime.trans hAfter) hFresh⟩
  | @resume f c next now cache _ _ hTime hStep hNext =>
      have hSet : Sound C Inv ((s.tick now).setCache f cache) :=
        (inv.tick hTime).setCache hMeets hStep (by intro _ _ _ hAction; cases hAction)
      refine ⟨preserved_of_continueCall hMeets hSet hTask hTime ?_ hNext, by simp⟩
      intro arrived result time hCall
      simp only [Shared.setCache, Function.update_self] at hCall
      obtain ⟨hFresh, rfl⟩ := hit_of_resume hStep hCall
      exact ⟨hTime, le_refl _, inv.returned_of_fresh hTime hFresh⟩
  | @leave f c began now body next result _ _ hTime hResult hNext =>
      obtain ⟨hBegan, hBody, hAfter⟩ := hTask
      refine ⟨preserved_of_leaveCall hMeets inv hTime hBegan hAfter ?_ hNext, by simp⟩
      intro value hValue
      exact hBody.result (hValue ▸ hResult) hTime
  | spawn => exact ⟨⟨inv, le_refl _, hTask⟩, by simp⟩
  | join values hValues =>
      obtain ⟨Posts, hChild, hNext⟩ := hTask
      refine ⟨⟨inv, le_refl _, hNext _ values (le_refl _) (hJoin values hValues) fun i => ?_⟩,
        by simp⟩
      exact (hChild i).result (by rw [hValues i]; rfl) (le_refl _)
  | fail hIndex =>
      refine ⟨⟨inv, le_refl _, trivial⟩, ?_⟩
      intro root hRoot
      obtain ⟨j, _, rfl⟩ := List.mem_map.mp hRoot
      obtain ⟨Posts, hChild, _⟩ := hTask
      exact ⟨Posts j, hChild j⟩

/-- What a task does keeps all that holds. The induction follows the path into the task. -/
theorem preserved_of_step {s shared : Shared S Store} {r : S.Kind} {task task' : Task S r}
    {path : List Nat} {act : Act Env} {detached : List (Root S)} {Post : S.Val r → ℚ → Prop}
    (hMeets : Meets sys C Inv) (inv : Sound C Inv s) (hTask : TaskEnsures C task Post s.clock)
    (hJoin : task.Joinable C path act)
    (h : task.step sys s path act = some (task', shared, detached)) :
    Preserved C Inv s.clock task' Post shared ∧ ∀ root ∈ detached,
    RootEnsures C shared.clock root := by
  induction task generalizing path with
  | run program =>
      cases path with
      | nil => exact preserved_of_moved hMeets inv hTask hJoin (move_cases h)
      | cons => cases h
  | queued f c next =>
      cases path with
      | nil => exact preserved_of_moved hMeets inv hTask hJoin (move_cases h)
      | cons => cases h
  | inside f c began body next ih =>
      unfold Task.step at h
      split_ifs at h with hResult hPath
      · subst hPath
        exact preserved_of_moved hMeets inv hTask hJoin (move_cases h)
      · obtain ⟨⟨moved, shared', detached'⟩, hStep, hMoved⟩ := Option.map_eq_some_iff.mp h
        cases hMoved
        obtain ⟨hBegan, hBody, hAfter⟩ := hTask
        obtain ⟨hPreserved, hDetached⟩ := ih hBody hJoin hStep
        have hClock := hPreserved.clock_le
        exact ⟨⟨hPreserved.sound, hClock, hBegan.trans hClock, hPreserved.task,
          hAfter.later hClock⟩, hDetached⟩
  | join n kinds child next ih =>
      cases path with
      | nil => exact preserved_of_moved hMeets inv hTask hJoin (move_cases h)
      | cons i path =>
          unfold Task.step at h
          split_ifs at h with hIndex
          obtain ⟨⟨moved, shared', detached'⟩, hStep, hMoved⟩ := Option.map_eq_some_iff.mp h
          cases hMoved
          obtain ⟨Posts, hChild, hNext⟩ := hTask
          obtain ⟨hPreserved, hDetached⟩ := ih ⟨i, hIndex⟩ (hChild ⟨i, hIndex⟩) (hJoin hIndex) hStep
          refine ⟨⟨hPreserved.sound, hPreserved.clock_le, Posts, ?_, ?_⟩, hDetached⟩
          · intro j
            by_cases hSame : j = ⟨i, hIndex⟩
            · subst hSame
              simpa using hPreserved.task
            · rw [Function.update_of_ne hSame]
              exact (hChild j).later hPreserved.clock_le
          · exact fun later values hLater => hNext later values (hPreserved.clock_le.trans hLater)

end Steps

/-- An action of a task moves that task only. -/
theorem act_cases {sys : System S Store Env Entry} {s t : State S Store} {root : Nat}
    {path : List Nat} {act : Act Env} (h : step sys s (.act root path act) = some t) :
    ∃ (r : S.Kind) (task task' : Task S r) (shared : Shared S Store) (detached : List (Root S)),
      s.roots[root]? = some ⟨r, task⟩ ∧
        task.step sys s.shared path act = some (task', shared, detached) ∧
        t = { shared := shared, roots := s.roots.set root ⟨r, task'⟩ ++ detached } := by
  simp only [step] at h
  split at h
  · next r task hPlace =>
    obtain ⟨⟨task', shared, detached⟩, hStep, rfl⟩ := Option.map_eq_some_iff.mp h
    exact ⟨r, task, task', shared, detached, hPlace, hStep, rfl⟩
  · cases h

/-- What holds of the event loop: sound tables, and tasks that do what is asked of
them. -/
structure Invariant (C : Contract S) (Inv : Store → Prop) (s : State S Store) : Prop where
  sound : Sound C Inv s.shared
  root : ∀ root ∈ s.roots, RootEnsures C s.shared.clock root

/-- Results that the step joins may come together. -/
def Joinable (C : Contract S) (s : State S Store) : Action Env Entry → Prop
  | .begin _ => True
  | .act root path act => ∀ r task, s.roots[root]? = some ⟨r, task⟩ → task.Joinable C path act

omit [DecidableEq S.Fn] in
theorem Invariant.initial {C : Contract S} {Inv : Store → Prop} {clock : ℚ} {store : Store}
    (hStore : Inv store) : Invariant C Inv (State.initial clock store : State S Store) where
  sound :=
    { store := hStore
      entry := fun _ _ hEntry => by cases hEntry
      returned := fun _ hRet => by cases hRet }
  root := fun _ hRoot => by cases hRoot

theorem Invariant.step {sys : System S Store Env Entry} {C : Contract S} {Inv : Store → Prop}
    {s t : State S Store} {action : Action Env Entry} (inv : Invariant C Inv s)
    (hMeets : Meets sys C Inv) (hJoin : Joinable C s action) (h : step sys s action = some t) :
    Invariant C Inv t := by
  cases action with
  | begin entry =>
      cases h
      refine ⟨inv.sound, fun root hRoot => ?_⟩
      rcases List.mem_append.mp hRoot with hOld | hNew
      · exact inv.root root hOld
      · cases List.mem_singleton.mp hNew
        exact ⟨_, hMeets.entry entry _⟩
  | act place path act =>
      obtain ⟨r, task, task', shared, detached, hPlace, hStep, rfl⟩ := act_cases h
      obtain ⟨Post, hTask⟩ := inv.root ⟨r, task⟩ (List.mem_of_getElem? hPlace)
      obtain ⟨hPreserved, hDetached⟩ :=
        preserved_of_step hMeets inv.sound hTask (hJoin r task hPlace) hStep
      refine ⟨hPreserved.sound, fun root hRoot => ?_⟩
      rcases List.mem_append.mp hRoot with hSet | hNew
      · rcases List.mem_or_eq_of_mem_set hSet with hOld | rfl
        · obtain ⟨Post', hOther⟩ := inv.root root hOld
          exact ⟨Post', hOther.later hPreserved.clock_le⟩
        · exact ⟨Post, hPreserved.task⟩
      · exact hDetached root hNew

/-- In every run in which only results come together that may, the tables are sound. -/
theorem invariant_of_runs {sys : System S Store Env Entry} {C : Contract S} {Inv : Store → Prop}
    (hMeets : Meets sys C Inv) {clock : ℚ} {store : Store} (hStore : Inv store)
    {actions : List (Action Env Entry)} {s : State S Store}
    (h : RunsWhere (step sys) (Joinable C) (.initial clock store) actions s) : Invariant C Inv s :=
  h.invariant (.initial hStore) fun _ _ _ inv hJoin hStep => inv.step hMeets hJoin hStep

/-- Where any results may come together, this holds in every run. -/
theorem invariant_of_joins {sys : System S Store Env Entry} {C : Contract S} {Inv : Store → Prop}
    (hMeets : Meets sys C Inv) (hJoins : ∀ n kinds values, C.Joins n kinds values) {clock : ℚ}
    {store : Store} (hStore : Inv store) {actions : List (Action Env Entry)} {s : State S Store}
    (h : Runs (step sys) (.initial clock store) actions s) : Invariant C Inv s := by
  refine h.invariant (.initial hStore) fun t action u inv _ hStep => inv.step hMeets ?_ hStep
  cases action with
  | begin => trivial
  | act root path act => exact fun _ task _ => task.joinable (fun _ => hJoins) path

end NodeDebugDashboard.Collectors.Tasks
