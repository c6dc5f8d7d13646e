import NodeDebugDashboard.Collectors.TtlCacheSharing

/-! How often a cached collector does its work. A value is not computed again before its
lifetime is over, however many callers there are. -/
namespace NodeDebugDashboard.Collectors.TtlCache

open Library

variable {K V E : Type} [DecidableEq K]

/-- Readings of a clock that are some time apart from one another fit into a span only so often. -/
theorem length_mul_le_of_pairwise {times : List ℚ} {gap first last : ℚ}
    (h : times.Pairwise fun a b => a + gap ≤ b) (hFirst : ∀ time ∈ times, first ≤ time)
    (hLast : ∀ time ∈ times, time ≤ last) (hSpan : first ≤ last) (hGap : 0 ≤ gap) :
    times.length * gap ≤ last - first + gap := by
  induction times generalizing first with
  | nil =>
      simp only [List.length_nil, Nat.cast_zero, zero_mul]
      linarith
  | cons time times ih =>
      rw [List.pairwise_cons] at h
      rw [List.forall_mem_cons] at hFirst hLast
      cases times with
      | nil =>
          simp only [List.length_singleton, Nat.cast_one, one_mul]
          linarith
      | cons next times =>
          have hNext : time + gap ≤ last :=
            (h.1 next List.mem_cons_self).trans (hLast.2 next List.mem_cons_self)
          have hRest := ih h.2 h.1 hLast.2 hNext
          rw [List.length_cons, Nat.cast_succ, add_mul, one_mul]
          linarith [hFirst.1]

/-- The values that executions return, with the times at which they are stored. -/
def stores (actions : List (Action K V E)) : List (V × ℚ) :=
  actions.filterMap fun
    | .complete _ (.value value) now => some (value, now)
    | _ => none

omit [DecidableEq K] in
theorem stores_append (actions : List (Action K V E)) (action : Action K V E) :
    stores (actions ++ [action]) = stores actions ++ stores [action] :=
  List.filterMap_append

/-- When the lifetime of a stored value ends. -/
def Config.expires (cfg : Config V) (stored : V × ℚ) : ℚ := stored.2 + cfg.ttl stored.1

/-- A stored value is the one in the table, or its lifetime is over, as it is while the
wrapped function executes. -/
structure RateInv (cfg : Config V) (k : K) (clock : ℚ) (actions : List (Action K V E))
    (s : State K V E) : Prop where
  spent : ∀ stored ∈ stores actions,
    cfg.expires stored ≤ s.clock ∨ s.cache.get? k = some (stored.1, cfg.expires stored)
  idle : ∀ {c key l arrived}, s.call c = .running key l arrived →
    ∀ stored ∈ stores actions, cfg.expires stored ≤ s.clock
  apart : (stores actions).Pairwise fun earlier later => cfg.expires earlier ≤ later.2
  times : ∀ stored ∈ stores actions, clock ≤ stored.2 ∧ stored.2 ≤ s.clock
  started : clock ≤ s.clock

theorem RateInv.initial (cfg : Config V) (k : K) (clock : ℚ) :
    RateInv cfg k clock ([] : List (Action K V E)) (.initial clock) where
  spent := by simp [stores]
  idle := by simp [State.initial]
  apart := by simp [stores]
  times := by simp [stores]
  started := le_refl _

/-- With room for one entry, a value that is stored for the only key stays in the table. -/
theorem SharingInv.victim_eq_none {cfg : Config V} {k : K} {s : State K V E} (inv : SharingInv k s)
    (table : TableInv cfg s) (hRoom : 1 ≤ cfg.maxsize) (entry : V × ℚ) :
    State.victim cfg (s.cache.set k entry) = none := by
  have hSize : (s.cache.set k entry).size ≤ 1 := by
    refine Dict.size_le_one _ (fun stored kept hEntry => (?_ : stored = k))
    rw [Dict.get?_set] at hEntry
    split_ifs at hEntry with hStored
    · exact hStored
    · obtain ⟨_, _, ⟨d, since, hOver⟩, _⟩ := table.entry hEntry
      exact inv.keyed (c := d) (by simp [hOver, Phase.key])
  rw [State.victim, if_neg (not_lt.mpr (hSize.trans hRoom))]

/-- A step that stores nothing leaves the table alone. -/
theorem Step.cache_of_stores_nil {cfg : Config V} {s t : State K V E} {action : Action K V E}
    (h : Step cfg s action t) (hNone : stores [action] = []) : t.cache = s.cache := by
  cases h with
  | hit => rfl
  | acquire _ _ _ _ _ hEntered => exact hEntered.frame.1.trans (State.setdefaultLock_cache _ _)
  | @wait c key _ _ t₂ => exact State.setdefaultLock_cache (s.tick t₂) key
  | resume _ _ _ _ hEntered => exact hEntered.frame.1
  | @complete _ _ _ _ _ outcome =>
      cases outcome with
      | value => simp [stores] at hNone
      | exception => rfl
      | cancelled => rfl
  | cancel => rfl

theorem RateInv.stay {cfg : Config V} {k : K} {clock : ℚ} {actions : List (Action K V E)}
    {s t : State K V E} {action : Action K V E} (rate : RateInv cfg k clock actions s)
    (inv : SharingInv k t) (h : Step cfg s action t) (hNone : stores [action] = []) :
    RateInv cfg k clock (actions ++ [action]) t := by
  have hStores : stores (actions ++ [action]) = stores actions := by
    rw [stores_append, hNone, List.append_nil]
  have hCache := h.cache_of_stores_nil hNone
  exact {
    spent := by
      rw [hStores, hCache]
      exact fun stored hMem => (rate.spent stored hMem).imp_left fun hOver => hOver.trans h.clock_le
    idle := by
      intro c key l arrived hRunning stored hMem
      rw [hStores] at hMem
      obtain rfl : key = k := inv.keyed (c := c) (by simp [hRunning, Phase.key])
      rcases rate.spent stored hMem with hOver | hEntry
      · exact hOver.trans h.clock_le
      · exact inv.stale hRunning _ (hCache ▸ hEntry)
    apart := by
      rw [hStores]
      exact rate.apart
    times := by
      rw [hStores]
      exact fun stored hMem =>
        ⟨(rate.times stored hMem).1, (rate.times stored hMem).2.trans h.clock_le⟩
    started := rate.started.trans h.clock_le }

/-- A value is stored when all before it have expired, and no other execution is in progress. -/
theorem RateInv.store {cfg : Config V} {k : K} {clock : ℚ} {actions : List (Action K V E)}
    {s : State K V E} (rate : RateInv cfg k clock actions s) (inv : SharingInv k s)
    (table : TableInv cfg s) (hRoom : 1 ≤ cfg.maxsize) {c : CallId} {key : K} {l : LockId}
    {arrived now : ℚ} {value : V} (hCall : s.call c = .running key l arrived)
    (hTime : s.clock ≤ now) (h : Step cfg s (.complete c (.value value) now)
      (((s.tick now).finish cfg c key arrived (.value value) now).release l)) :
    RateInv cfg k clock (actions ++ [.complete c (.value value) now])
      (((s.tick now).finish cfg c key arrived (.value value) now).release l) := by
  obtain rfl : key = k := inv.keyed (c := c) (by simp [hCall, Phase.key])
  have hKept := inv.victim_eq_none table hRoom (value, now + cfg.ttl value)
  have hClock :
      (((s.tick now).finish cfg c key arrived (.value value) now).release l).clock = now := rfl
  have hMem : ∀ {stored : V × ℚ}, stored ∈ stores (actions ++ [.complete c (.value value) now]) ↔
      stored ∈ stores actions ∨ stored = (value, now) := by
    intro stored
    rw [stores_append, List.mem_append]
    simp [stores]
  have hOver : ∀ stored ∈ stores actions, cfg.expires stored ≤ now :=
    fun stored hStored => (rate.idle hCall stored hStored).trans hTime
  exact {
    spent := by
      intro stored hStored
      rcases hMem.mp hStored with hOld | rfl
      · exact .inl (hOver stored hOld)
      · right
        simp [State.finish, State.release, State.store, hKept, State.pop, Config.expires]
    idle := by
      intro d key' m since hRunning
      have hOther : d ≠ c := by
        rintro rfl
        simp [State.finish, State.release] at hRunning
      rw [h.call_other hOther] at hRunning
      obtain rfl : key' = key := inv.keyed (c := d) (by simp [hRunning, Phase.key])
      exact absurd (inv.locks.singleFlight _ d c ⟨m, since, hRunning⟩ ⟨l, arrived, hCall⟩) hOther
    apart := by
      rw [stores_append, List.pairwise_append]
      refine ⟨rate.apart, List.pairwise_singleton _ _, fun stored hStored later hLater => ?_⟩
      obtain rfl : later = (value, now) := by simpa [stores] using hLater
      exact hOver stored hStored
    times := by
      intro stored hStored
      rcases hMem.mp hStored with hOld | rfl
      · exact ⟨(rate.times stored hOld).1, (rate.times stored hOld).2.trans hTime⟩
      · exact ⟨rate.started.trans hTime, le_refl _⟩
    started := rate.started.trans hTime }

theorem RateInv.step {cfg : Config V} {k : K} {clock : ℚ} {actions : List (Action K V E)}
    {s t : State K V E} {action : Action K V E} (rate : RateInv cfg k clock actions s)
    (inv : SharingInv k s) (invAfter : SharingInv k t) (table : TableInv cfg s)
    (hRoom : 1 ≤ cfg.maxsize) (h : Step cfg s action t) :
    RateInv cfg k clock (actions ++ [action]) t := by
  by_cases hNone : stores [action] = []
  · exact rate.stay invAfter h hNone
  · cases h with
    | @complete c key l arrived now outcome hCall hTime =>
        cases outcome with
        | value value => exact rate.store inv table hRoom hCall hTime (.complete hCall hTime)
        | exception => simp [stores] at hNone
        | cancelled => simp [stores] at hNone
    | _ => simp [stores] at hNone

theorem RateInv.run {cfg : Config V} {k : K} {clock : ℚ} {actions : List (Action K V E)}
    {s : State K V E} (hRoom : 1 ≤ cfg.maxsize)
    (run : RunsWhere (TtlCache.step cfg) (OneKey cfg k) (.initial clock) actions s) :
    SharingInv k s ∧ TableInv cfg s ∧ RateInv cfg k clock actions s := by
  induction run with
  | zero => exact ⟨.initial k clock, .initial cfg clock, .initial cfg k clock⟩
  | succ prior meets last ih =>
      obtain ⟨inv, table, rate⟩ := ih
      have invAfter := inv.step meets last
      exact ⟨invAfter, table.step last, rate.step inv invAfter table hRoom (step_cases last)⟩

/-- A collector does its work once per lifetime. In every run of calls for one key, with room
for an entry, an execution starts only after the lifetimes of all values stored so far, so that
values are stored at least their lifetimes apart; and where no lifetime is shorter than
`gap`, a run of some length holds at most one value more than times the gap fits into it. -/
theorem oncePerLifetime {cfg : Config V} {k : K} {clock : ℚ} {actions : List (Action K V E)}
    {s : State K V E} (hRoom : 1 ≤ cfg.maxsize)
    (run : RunsWhere (step cfg) (fun _ action => action.UsesKey k) (.initial clock) actions s) :
    (∀ action t c key l arrived, action.UsesKey k → step cfg s action = some t →
      t.call c = .running key l arrived → ∀ stored ∈ stores actions, cfg.expires stored ≤ t.clock) ∧
      ((stores actions).Pairwise fun earlier later => cfg.expires earlier ≤ later.2) ∧
      ∀ gap : ℚ, 0 ≤ gap → (∀ stored ∈ stores actions, gap ≤ cfg.ttl stored.1) →
        (stores actions).length * gap ≤ s.clock - clock + gap := by
  have hRun := oneKey_of_maxsize_pos hRoom run
  obtain ⟨inv, table, rate⟩ := RateInv.run hRoom hRun
  refine ⟨?_, rate.apart, ?_⟩
  · intro action t c key l arrived hKey hStep hRunning stored hStored
    have hNext := oneKey_of_maxsize_pos hRoom (run.succ hKey hStep)
    obtain ⟨_, _, rateAfter⟩ := RateInv.run hRoom hNext
    exact rateAfter.idle hRunning stored
      (by rw [stores_append]; exact List.mem_append_left _ hStored)
  · intro gap hGap hLong
    have hApart : ((stores actions).map Prod.snd).Pairwise fun a b => a + gap ≤ b := by
      rw [List.pairwise_map]
      refine rate.apart.imp_of_mem fun {earlier later} hEarlier _ hExpired => ?_
      have hLifetime := hLong earlier hEarlier
      unfold Config.expires at hExpired
      linarith
    have hCount := length_mul_le_of_pairwise hApart
      (fun time hMem => by
        obtain ⟨stored, hStored, rfl⟩ := List.mem_map.mp hMem
        exact (rate.times stored hStored).1)
      (fun time hMem => by
        obtain ⟨stored, hStored, rfl⟩ := List.mem_map.mp hMem
        exact (rate.times stored hStored).2) rate.started hGap
    simpa using hCount

/-- Callers come every second, and the second value is stored after the lifetime of the first. -/
def everySecond : List (Action Nat Nat Nat) :=
  [.arrive 0 7 0 0 0, .complete 0 (.value 1) 1, .arrive 1 7 2 2 2, .arrive 2 7 11 11 11,
    .complete 2 (.value 2) 12]

theorem oncePerLifetime_everySecond : ∃ s : State Nat Nat Nat,
    execute (step {}) (.initial 0) everySecond = some s ∧
    (stores everySecond).length * 10 ≤ s.clock + 10 := by
  obtain ⟨s, hRun⟩ : ∃ s : State Nat Nat Nat, execute (step {}) (.initial 0) everySecond = some s :=
    Option.isSome_iff_exists.mp (by decide +kernel)
  have run : RunsWhere (step {}) (fun _ action => action.UsesKey 7) (.initial 0) everySecond s :=
    runsWhere_of_execute hRun (by simp [everySecond, Action.UsesKey])
  obtain ⟨-, -, hCount⟩ := oncePerLifetime (by decide) run
  have hBound := hCount 10 (by norm_num) (by simp [everySecond, stores, Config.ttl])
  exact ⟨s, hRun, by linarith⟩

end NodeDebugDashboard.Collectors.TtlCache
