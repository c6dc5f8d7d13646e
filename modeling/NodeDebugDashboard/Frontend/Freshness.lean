import Mathlib.Data.List.Infix
import Mathlib.Logic.Function.Basic
import NodeDebugDashboard.Frontend.Refresh

/-! What a section of the page shows, and of which refresh it is: `fetchOverview` of
app/static/app.js with its renderers and `reportFailures`. -/
namespace NodeDebugDashboard.Frontend

open Library

variable {V : Type*}

def Phase.sections : Phase → List String
  | fast => fastSections
  | slow => slowSections

def sections : List String := fastSections ++ slowSections

/-- The page, and what happened in its last refresh. -/
structure Page (V : Type*) where
  state : State V
  /-- How many refreshes have begun. -/
  refresh : Nat
  /-- The answers to the section requests of the refresh, for the record. -/
  answers : String → Option (Answer V)
  /-- The sections whose renderers threw, for the record. -/
  thrown : List String
  /-- Whether an exception has left the body, for the record. -/
  escaped : Bool
  /-- The payload that a section shows, and its refresh. -/
  shown : String → Option (Nat × V)

/-- An event, and the sections that were rendered when an exception leaves the body. -/
structure Action (V : Type*) where
  event : Event V
  reached : List String := []

namespace Page

def begin (p : Page V) (state : State V) : Page V where
  state := state
  refresh := p.refresh + 1
  answers := fun _ => none
  thrown := []
  escaped := false
  shown := p.shown

/-- The page before its first refresh begins with `DOMContentLoaded`. -/
def loaded : Page V :=
  Page.begin ⟨.initial, 0, fun _ => none, [], false, fun _ => none⟩ .loaded

def settle (p : Page V) (state : State V) (name : String) (answer : Answer V) : Page V :=
  { p with state := state, answers := Function.update p.answers name (some answer) }

/-- The sections of a body that are rendered without an exception show its payloads. -/
def render (p : Page V) (state : State V) (body : Body V) (rendering : Rendering)
    (reached : List String) :
    Page V :=
  { p with
    state := state
    thrown := p.thrown ++ rendering.raised
    escaped := p.escaped || rendering.escaped.isSome
    shown := fun name =>
      match body.requests.lookup name with
      | some (some (some payload)) =>
          if name ∈ rendering.raised ∨ rendering.escaped.isSome ∧ name ∉ reached then p.shown name
          else some (p.refresh, payload)
      | _ => p.shown name }

def step (p : Page V) (action : Action V) : Option (Page V) := do
  let state ← Frontend.step p.state action.event
  match action.event with
  | .settle i j answer =>
      let body ← p.state.bodies[i]?
      let request ← body.requests[j]?
      return p.settle state request.1 answer
  | .proceed i rendering =>
      let body ← p.state.bodies[i]?
      return p.render state body rendering action.reached
  | _ => return if p.state.bodies.length < state.bodies.length then p.begin state
        else { p with state := state }

/-- Every section was answered without an error, and every renderer returned. -/
structure Clean (p : Page V) : Prop where
  answered : ∀ name ∈ sections, ∃ payload, p.answers name = some (.body payload [])
  rendered : p.thrown = []
  returned : p.escaped = false

/-- A failure of the refresh: of a request, of one of its collectors, or of a renderer. -/
def Fails (p : Page V) (failure : Failure) : Prop :=
  (∃ name answer, p.answers name = some answer ∧ failure ∈ (fetchSection name answer).2) ∨
    ∃ name ∈ p.thrown, failure = ⟨name, .renderError⟩

end Page

/-- How `reportFailures` puts a failure. -/
def Failure.text (failure : Failure) : String := failure.name ++ " (" ++ failure.status.text ++ ")"

theorem fetchSection_eq_nil_iff {name : String} {answer : Answer V} :
    (fetchSection name answer).2 = [] ↔ ∃ payload, answer = .body payload [] := by
  cases answer with
  | refused code => simp [fetchSection]
  | body payload errors => cases errors <;> simp [fetchSection]
  | raised errors aborted => simp [fetchSection]

theorem infix_intercalate {α : Type*} {separator text : List α} {texts : List (List α)}
    (h : text ∈ texts) :
    text <:+: separator.intercalate texts := by
  induction texts with
  | nil => cases h
  | cons first rest ih =>
      cases rest with
      | nil => simp [List.mem_singleton.mp h]
      | cons second rest =>
          rw [List.intercalate_cons_cons]
          rcases List.mem_cons.mp h with rfl | hRest
          · exact ((List.prefix_append text separator).trans (List.prefix_append _ _)).isInfix
          · exact (ih hRest).trans (List.suffix_append _ _).isInfix

/-- The bar of a refresh is there exactly when something failed. -/
theorem State.reportFailures_eq_none_iff {s : State V} {failures : List Failure} {gotData : Bool} :
    (s.reportFailures failures gotData).errorBar = none ↔ failures = [] := by
  unfold State.reportFailures
  split_ifs with hNone
  · simp [List.isEmpty_iff.mp hNone]
  all_goals simp_all [State.showError]

/-- Unless the browser has to sign in, the bar names all failures. -/
theorem State.reportFailures_names {s : State V} {failures : List Failure} {gotData : Bool}
    {failure : Failure} (hMem : failure ∈ failures)
    (hSigned : ∀ other ∈ failures, other.status.isUnauthorized = false) :
    ∃ bar, (s.reportFailures failures gotData).errorBar = some bar ∧
    failure.text.toList <:+: bar.toList := by
  have hSome : ¬failures.isEmpty = true := by
    rw [List.isEmpty_iff]
    exact List.ne_nil_of_mem hMem
  have hNone : ¬(failures.any fun f => f.status.isUnauthorized) = true := by simpa using hSigned
  have hList : failure.text.toList <:+: (", ".intercalate (failures.map Failure.text)).toList := by
    rw [String.toList_intercalate]
    exact infix_intercalate (List.mem_map_of_mem (List.mem_map_of_mem hMem))
  simp only [reportFailures, if_neg hSome, if_neg hNone]
  refine ⟨_, rfl, hList.trans ?_⟩
  rw [String.toList_append]
  refine List.IsInfix.trans ?_ (List.suffix_append _ _).isInfix
  split_ifs <;> rw [String.toList_append] <;> exact (List.suffix_append _ _).isInfix

/-- A body that has not returned, among what is on record of its refresh. -/
structure Underway (p : Page V) (body : Body V) : Prop where
  names : body.requests.map Prod.fst = body.phase.sections
  results : ∀ (k : Nat) (name : String) (result : Option (Option V)),
    body.requests[k]? = some (name, result) →
      result = (p.answers name).map fun answer => (fetchSection name answer).1
  only : ∀ name answer, p.answers name = some answer → name ∈ sections
  ahead : body.phase = .fast → ∀ name ∈ slowSections, p.answers name = none
  behind : body.phase = .slow → ∀ name ∈ fastSections, ∃ answer, p.answers name = some answer
  failures : ∀ failure, failure ∈ body.failures ↔ p.Fails failure
  returned : p.escaped = false
  shown : body.phase = .slow → ∀ name ∈ fastSections, ∀ payload errors,
    p.answers name = some (.body (some payload) errors) → name ∉ p.thrown →
    p.shown name = some (p.refresh, payload)

/-- What a refresh leaves behind. -/
structure Left (p : Page V) : Prop where
  bar : p.state.errorBar = none ↔ p.Clean
  shown : p.Clean → ∀ name ∈ sections, ∀ payload errors,
    p.answers name = some (.body (some payload) errors) → p.shown name = some (p.refresh, payload)
  named : p.escaped = false → (∀ failure, p.Fails failure → failure.status.isUnauthorized = false) →
    ∀ failure, p.Fails failure → ∃ bar, p.state.errorBar = some bar ∧
    failure.text.toList <:+: bar.toList

structure PageInv (p : Page V) : Prop where
  loop : Counting p.state ∨ Refreshing p.state
  underway : ∀ body, p.state.bodies = [body] → Underway p body
  left : p.state.bodies = [] → Left p

theorem Underway.begin (p : Page V) (state : State V) : Underway (p.begin state) .start where
  names := rfl
  results := by simp [Body.start, Body.begin, Page.begin]
  only := by simp [Page.begin]
  ahead := by simp [Page.begin]
  behind := nofun
  failures := by simp [Page.Fails, Page.begin, Body.start]
  returned := rfl
  shown := nofun

theorem nodup_sections (phase : Phase) : phase.sections.Nodup := by cases phase <;> decide

theorem mem_sections_of_phase {phase : Phase} {name : String} (h : name ∈ phase.sections) :
    name ∈ sections := by
  cases phase with
  | fast => exact List.mem_append_left _ h
  | slow => exact List.mem_append_right _ h

theorem fast_ne_slow {first second : String} (hFast : first ∈ fastSections)
    (hSlow : second ∈ slowSections) :
    first ≠ second := by
  rintro rfl
  have hDisjoint : ∀ name ∈ fastSections, name ∉ slowSections := by decide
  exact hDisjoint first hFast hSlow

theorem Underway.mem_sections {p : Page V} {body : Body V} (h : Underway p body) {k : Nat}
    {name : String} {result : Option (Option V)}
    (hRequest : body.requests[k]? = some (name, result)) :
    name ∈ body.phase.sections := by
  rw [← h.names]
  exact List.mem_map_of_mem (List.mem_of_getElem? hRequest)

/-- A section is asked for once. -/
theorem Underway.index_unique {p : Page V} {body : Body V} (h : Underway p body) {j k : Nat}
    {name : String} {first second : Option (Option V)}
    (hFirst : body.requests[j]? = some (name, first))
    (hSecond : body.requests[k]? = some (name, second)) : j = k := by
  have hNodup : (body.requests.map Prod.fst).Nodup := h.names ▸ nodup_sections body.phase
  have hSame : (body.requests.map Prod.fst)[j]? = (body.requests.map Prod.fst)[k]? := by
    rw [List.getElem?_map, List.getElem?_map, hFirst, hSecond]
    rfl
  have hLength : j < (body.requests.map Prod.fst).length := by
    rw [List.length_map]
    exact (List.getElem?_eq_some_iff.mp hFirst).1
  exact (List.getElem?_inj hLength hNodup).mp hSame

theorem map_set_eq {α β : Type*} {f : α → β} {l : List α} {j : Nat} {old new : α}
    (h : l[j]? = some old) (hSame : f new = f old) : (l.set j new).map f = l.map f := by
  induction l generalizing j with
  | nil => rfl
  | cons first rest ih =>
      cases j with
      | zero =>
          obtain rfl : first = old := by simpa using h
          simp [hSame]
      | succ j => simp [ih (by simpa using h)]

/-- A request that was in flight is answered. -/
theorem Underway.settle {p : Page V} {body : Body V} (h : Underway p body) {j : Nat} {name : String}
    (hRequest : body.requests[j]? = some (name, none)) (answer : Answer V) (state : State V) :
    Underway (p.settle state name answer) (body.settle j name answer) := by
  have hOpen : p.answers name = none := by simpa using (h.results j name none hRequest).symm
  have hName := h.mem_sections hRequest
  have hNames : (body.settle j name answer).requests.map Prod.fst = body.requests.map Prod.fst :=
    map_set_eq hRequest rfl
  refine ⟨hNames.trans h.names, ?_, ?_, ?_, ?_, ?_, h.returned, ?_⟩
  · intro k other result hOther
    by_cases hSame : k = j
    · subst hSame
      have hLength := (List.getElem?_eq_some_iff.mp hRequest).1
      obtain ⟨rfl, rfl⟩ : name = other ∧ some (fetchSection name answer).1 = result := by
        simpa [Body.settle, hLength] using hOther
      simp [Page.settle]
    · have hOld : body.requests[k]? = some (other, result) := by
        simpa [Body.settle, List.getElem?_set_ne (Ne.symm hSame)] using hOther
      have hNe : other ≠ name := by
        rintro rfl
        exact hSame (h.index_unique hOld hRequest)
      simpa [Page.settle, hNe] using h.results k other result hOld
  · intro other old hOther
    by_cases hSame : other = name
    · exact mem_sections_of_phase (hSame ▸ hName)
    · exact h.only other old (by simpa [Page.settle, hSame] using hOther)
  · intro hFast other hOther
    have hNe := (fast_ne_slow
      (by simpa [show body.phase = .fast from hFast, Phase.sections] using hName) hOther).symm
    simpa [Page.settle, hNe] using h.ahead hFast other hOther
  · intro hSlow other hOther
    obtain ⟨old, hOld⟩ := h.behind hSlow other hOther
    have hNe :=
      fast_ne_slow hOther (by simpa [show body.phase = .slow from hSlow, Phase.sections]
        using hName)
    exact ⟨old, by simpa [Page.settle, hNe] using hOld⟩
  · intro failure
    rw [Body.settle, List.mem_append, h.failures failure]
    constructor
    · rintro ((⟨other, old, hOld, hMem⟩ | hThrown) | hNew)
      · have hNe : other ≠ name := by
          rintro rfl
          simp [hOpen] at hOld
        exact .inl ⟨other, old, by simpa [Page.settle, hNe] using hOld, hMem⟩
      · exact .inr hThrown
      · exact .inl ⟨name, answer, by simp [Page.settle], hNew⟩
    · rintro (⟨other, old, hOld, hMem⟩ | hThrown)
      · by_cases hSame : other = name
        · subst hSame
          obtain rfl : answer = old := by simpa [Page.settle] using hOld
          exact .inr hMem
        · exact .inl (.inl ⟨other, old, by simpa [Page.settle, hSame] using hOld, hMem⟩)
      · exact .inl (.inr hThrown)
  · intro hSlow other hOther payload errors hAnswer hThrown
    have hNe := fast_ne_slow hOther
      (by simpa [show body.phase = .slow from hSlow, Phase.sections] using hName)
    exact h.shown hSlow other hOther payload errors
      (by simpa [Page.settle, hNe] using hAnswer) hThrown

/-- When the requests of a body are settled, its sections are answered. -/
theorem Underway.answered {p : Page V} {body : Body V} (h : Underway p body)
    (hSettled : body.settled = true) {name : String} (hName : name ∈ body.phase.sections) :
    ∃ answer, p.answers name = some answer ∧
      body.requests.lookup name = some (some (fetchSection name answer).1) := by
  rw [← h.names] at hName
  cases hLookup : body.requests.lookup name with
  | none =>
      obtain ⟨request, hRequest, rfl⟩ := List.mem_map.mp hName
      have hNone := List.lookup_eq_none_iff.mp hLookup request hRequest
      simp at hNone
  | some result =>
      obtain ⟨before, after, hRequests, -⟩ := List.lookup_eq_some_iff.mp hLookup
      have hMem : (name, result) ∈ body.requests := by simp [hRequests]
      obtain ⟨k, hIndex⟩ := List.mem_iff_getElem?.mp hMem
      have hResult := h.results k name result hIndex
      have hSome : result.isSome = true := List.all_eq_true.mp hSettled (name, result) hMem
      cases hAnswer : p.answers name with
      | none => simp [hAnswer] at hResult; simp [hResult] at hSome
      | some answer => exact ⟨answer, rfl, by simp [hResult, hAnswer]⟩

/-- A section that was rendered without an exception shows the payload of this refresh. -/
theorem Underway.render_shown {p : Page V} {body : Body V} (h : Underway p body)
    (hSettled : body.settled = true) {rendering : Rendering} (hReturns : rendering.escaped = none)
    (state : State V) (reached : List String) {name : String} (hName : name ∈ body.phase.sections)
    {payload : V} {errors : List String}
    (hAnswer : p.answers name = some (.body (some payload) errors))
    (hThrown : name ∉ rendering.raised) :
    (p.render state body rendering reached).shown name = some (p.refresh, payload) := by
  obtain ⟨answer, hSame, hLookup⟩ := h.answered hSettled hName
  obtain rfl := Option.some.inj (hAnswer.symm.trans hSame)
  simp [Page.render, hLookup, fetchSection, hThrown, hReturns]

theorem Body.lookup_eq_none {body : Body V}
    (hNames : body.requests.map Prod.fst = body.phase.sections) {name : String}
    (hName : name ∉ body.phase.sections) : body.requests.lookup name = none := by
  refine List.lookup_eq_none_iff.mpr fun request hMem => ?_
  rw [← hNames] at hName
  have hNe : name ≠ request.1 := fun hSame => hName (hSame ▸ List.mem_map_of_mem hMem)
  simpa using hNe

/-- Rendering leaves what a section shows that the body did not ask for. -/
theorem Underway.render_other {p : Page V} {body : Body V} (h : Underway p body) {name : String}
    (hName : name ∉ body.phase.sections) (state : State V) (rendering : Rendering)
    (reached : List String) :
    (p.render state body rendering reached).shown name = p.shown name := by
  simp [Page.render, Body.lookup_eq_none h.names hName]

theorem Underway.render_fails {p : Page V} {body : Body V} (h : Underway p body)
    (rendering : Rendering) (state : State V) (reached : List String) (failure : Failure) :
    failure ∈ (body.rendered rendering).failures ↔
    (p.render state body rendering reached).Fails failure := by
  rw [Body.rendered, List.mem_append, h.failures failure]
  simp only [Page.Fails, Page.render, List.mem_map, List.mem_append]
  grind

theorem Underway.proceed {p : Page V} {body : Body V} (h : Underway p body)
    (hSettled : body.settled = true) (hFast : body.phase = .fast) {rendering : Rendering}
    (hReturns : rendering.escaped = none) (state : State V) (reached : List String) :
    Underway (p.render state body rendering reached)
      { body.rendered rendering with phase := .slow, requests := Body.begin slowSections } where
  names := by simp [Body.begin, Phase.sections, Function.comp_def]
  results := by
    intro k name result hRequest
    obtain ⟨other, hOther, hSame⟩ := List.mem_map.mp (List.mem_of_getElem? hRequest)
    obtain ⟨rfl, rfl⟩ := Prod.mk.inj hSame
    simp [Page.render, h.ahead hFast other hOther]
  only := h.only
  ahead := nofun
  behind _ name hName := by
    obtain ⟨answer, hAnswer, -⟩ :=
      h.answered hSettled (by simpa [hFast, Phase.sections] using hName)
    exact ⟨answer, hAnswer⟩
  failures := h.render_fails rendering state reached
  returned := by simp [Page.render, h.returned, hReturns]
  shown _ name hName payload errors hAnswer hThrown := by
    have hSection : name ∈ body.phase.sections := by simpa [hFast, Phase.sections] using hName
    refine h.render_shown hSettled hReturns state reached hSection hAnswer fun hRaised => ?_
    exact hThrown (List.mem_append_right _ hRaised)

/-- Where all sections are answered and no exception got away, clean means that nothing
failed. -/
theorem Page.clean_iff {p : Page V}
    (hAnswered : ∀ name ∈ sections, ∃ answer, p.answers name = some answer)
    (hOnly : ∀ name answer, p.answers name = some answer → name ∈ sections)
    (hReturned : p.escaped = false) :
    p.Clean ↔ ∀ failure, ¬p.Fails failure := by
  constructor
  · rintro hClean failure (⟨name, answer, hAnswer, hMem⟩ | ⟨name, hThrown, -⟩)
    · obtain ⟨payload, hBody⟩ := hClean.answered name (hOnly name answer hAnswer)
      obtain rfl := Option.some.inj (hBody.symm.trans hAnswer)
      simp [fetchSection] at hMem
    · simp [hClean.rendered] at hThrown
  · intro hNone
    refine ⟨fun name hName => ?_, ?_, hReturned⟩
    · obtain ⟨answer, hAnswer⟩ := hAnswered name hName
      have hSilent : (fetchSection name answer).2 = [] :=
        List.eq_nil_iff_forall_not_mem.mpr fun failure hMem =>
          hNone failure (.inl ⟨name, answer, hAnswer, hMem⟩)
      obtain ⟨payload, rfl⟩ := fetchSection_eq_nil_iff.mp hSilent
      exact ⟨payload, hAnswer⟩
    · exact List.eq_nil_iff_forall_not_mem.mpr fun name hMem => hNone _ (.inr ⟨name, hMem, rfl⟩)

theorem State.leave_errorBar (s : State V) (i : Nat) : (s.leave i).errorBar = s.errorBar := by
  unfold State.leave State.resetCountdown
  dsimp only
  split <;> rfl

theorem State.leave_bodies (s : State V) (i : Nat) : (s.leave i).bodies = s.bodies.eraseIdx i := by
  unfold State.leave State.resetCountdown
  dsimp only
  split <;> rfl

theorem State.reportFailures_bodies (s : State V) (failures : List Failure) (gotData : Bool) :
    (s.reportFailures failures gotData).bodies = s.bodies := by
  unfold State.reportFailures
  split_ifs <;> rfl

/-- The end of a refresh whose last rendering returned. -/
theorem Underway.leave {p : Page V} {body : Body V} (h : Underway p body)
    (hSettled : body.settled = true) (hSlow : body.phase = .slow) {rendering : Rendering}
    (hReturns : rendering.escaped = none) (i : Nat) (gotData : Bool) (reached : List String) :
    Left (p.render ((p.state.reportFailures (body.rendered rendering).failures gotData).leave i)
      body rendering
      reached) := by
  generalize hState :
    (p.state.reportFailures (body.rendered rendering).failures gotData).leave i = state
  have hBar :
      state.errorBar =
        (p.state.reportFailures (body.rendered rendering).failures gotData).errorBar := by
    rw [← hState, State.leave_errorBar]
  have hFails := h.render_fails rendering state reached
  have hReturned : (p.render state body rendering reached).escaped = false := by
    simp [Page.render, h.returned, hReturns]
  have hAnswered : ∀ name ∈ sections, ∃ answer, p.answers name = some answer := by
    intro name hName
    rcases List.mem_append.mp hName with hFast | hLast
    · exact h.behind hSlow name hFast
    · obtain ⟨answer, hAnswer, -⟩ :=
        h.answered hSettled (by simpa [hSlow, Phase.sections] using hLast)
      exact ⟨answer, hAnswer⟩
  refine ⟨?_, ?_, ?_⟩
  · rw [Page.clean_iff (p := p.render state body rendering reached) hAnswered h.only hReturned]
    change state.errorBar = none ↔ _
    rw [hBar, State.reportFailures_eq_none_iff, List.eq_nil_iff_forall_not_mem]
    exact forall_congr' fun failure => not_congr (hFails failure)
  · intro hClean name hName payload errors hAnswer
    obtain ⟨hThrown, hRaised⟩ := List.append_eq_nil_iff.mp hClean.rendered
    by_cases hOwn : name ∈ body.phase.sections
    · exact h.render_shown hSettled hReturns state reached hOwn hAnswer (by simp [hRaised])
    · rw [h.render_other hOwn]
      have hFast : name ∈ fastSections := by
        refine (List.mem_append.mp hName).resolve_right fun hLast => hOwn ?_
        simpa [hSlow, Phase.sections] using hLast
      exact h.shown hSlow name hFast payload errors hAnswer (by simp [hThrown])
  · intro _ hSigned failure hFailure
    have hNamed :
        ∃ bar, (p.state.reportFailures (body.rendered rendering).failures gotData).errorBar =
          some bar ∧
        failure.text.toList <:+: bar.toList :=
      State.reportFailures_names ((hFails failure).mpr hFailure) fun other hOther =>
        hSigned other ((hFails other).mp hOther)
    obtain ⟨bar, hSome, hText⟩ := hNamed
    exact ⟨bar, hBar.trans hSome, hText⟩

/-- The end of a refresh through an exception. -/
theorem Underway.escape {p : Page V} {body : Body V} {rendering : Rendering} {message : String}
    (hEscaped : rendering.escaped = some message) (i : Nat) (reached : List String) :
    Left (p.render ((p.state.showError message).leave i) body rendering reached) := by
  have hTrue :
      (p.render ((p.state.showError message).leave i) body rendering reached).escaped = true := by
    simp [Page.render, hEscaped]
  have hUnclean :
      ¬(p.render ((p.state.showError message).leave i) body rendering reached).Clean := by
    intro hClean
    simp [hClean.returned] at hTrue
  refine ⟨⟨fun hBar => ?_, fun hClean => absurd hClean hUnclean⟩, fun hClean =>
    absurd hClean hUnclean, ?_⟩
  · change ((p.state.showError message).leave i).errorBar = none at hBar
    rw [State.leave_errorBar] at hBar
    cases hBar
  · intro hFalse
    simp [hFalse] at hTrue

/-- Nothing but a refresh changes the bar. -/
theorem Left.idle {p : Page V} (h : Left p) {state : State V}
    (hBar : state.errorBar = p.state.errorBar) :
    Left { p with state := state } where
  bar := by
    change state.errorBar = none ↔ _
    rw [hBar, h.bar]
    exact ⟨fun hClean => ⟨hClean.1, hClean.2, hClean.3⟩, fun hClean =>
      ⟨hClean.1, hClean.2, hClean.3⟩⟩
  shown hClean := h.shown ⟨hClean.1, hClean.2, hClean.3⟩
  named hReturned hSigned failure hFails := by
    obtain ⟨bar, hSome, hText⟩ := h.named hReturned hSigned failure hFails
    exact ⟨bar, hBar.trans hSome, hText⟩

theorem Counting.fetchOverview_bodies {s : State V} (h : Counting s) :
    s.fetchOverview.bodies = [.start] := by
  simp [State.fetchOverview, h.refreshing, h.bodies]

/-- A tick begins a refresh or leaves everything but the countdown as it is. -/
theorem Counting.tick_bodies {s : State V} (h : Counting s) :
    s.tick.bodies = [.start] ∨ s.tick.bodies = [] ∧ s.tick.errorBar = s.errorBar := by
  by_cases hLast : s.countdown - 1 ≤ 0
  · left
    simp [State.tick, hLast, State.fetchOverview, State.clearInterval, h.refreshing, h.bodies]
  · right
    simp [State.tick, hLast, h.bodies]

theorem loaded_bodies : (State.loaded : State V).bodies = [.start] := rfl

theorem PageInv.loaded : PageInv (Page.loaded : Page V) where
  loop := .inr loaded_refreshing
  underway body hBodies := by
    obtain rfl := (List.singleton_inj.mp (loaded_bodies.symm.trans hBodies)).symm
    exact .begin _ _
  left hNone := absurd (loaded_bodies.symm.trans hNone) (List.cons_ne_nil _ _)

/-- There is one body at most. -/
theorem bodies_eq_of_getElem? {s : State V} (h : Counting s ∨ Refreshing s) {i : Nat}
    {body : Body V} (hBody : s.bodies[i]? = some body) : s.bodies = [body] ∧ i = 0 := by
  rcases h with h | h
  · simp [h.bodies] at hBody
  · obtain ⟨only, hOnly⟩ := h.bodies
    rw [hOnly] at hBody ⊢
    cases i with
    | zero => simpa using hBody
    | succ i => simp at hBody

/-- An interval or the button. -/
theorem PageInv.idle {p : Page V} {state : State V} (h : PageInv p)
    (hLoop : Counting state ∨ Refreshing state)
    (hBegins : p.state.bodies = [] ∧ state.bodies = [.start] ∨
      p.state.bodies = [] ∧ state.bodies = [] ∧ state.errorBar = p.state.errorBar ∨
      state = p.state) :
    PageInv (if p.state.bodies.length < state.bodies.length then p.begin state
      else { p with state := state }) := by
  rcases hBegins with ⟨hIdle, hStarted⟩ | ⟨hIdle, hStill, hBar⟩ | rfl
  · rw [if_pos (by simp [hIdle, hStarted])]
    refine ⟨hLoop, fun body hBodies => ?_, fun hNone => ?_⟩
    · obtain rfl : Body.start = body := by simpa [Page.begin, hStarted] using hBodies
      exact .begin p state
    · simp [Page.begin, hStarted] at hNone
  · rw [if_neg (by simp [hStill])]
    exact ⟨hLoop, fun body hBodies => by
      simp [hStill] at hBodies, fun _ => (h.left hIdle).idle hBar⟩
  · rw [if_neg (lt_irrefl _)]
    exact h

/-- A body goes on or returns. -/
theorem PageInv.proceed {p : Page V} {body : Body V} {rendering : Rendering} {reached : List String}
    (h : PageInv p)
    (hLoop : Counting (p.state.proceed 0 body rendering) ∨
      Refreshing (p.state.proceed 0 body rendering))
    (hBodies : p.state.bodies = [body]) (hSettled : body.settled = true) :
    PageInv (p.render (p.state.proceed 0 body rendering) body rendering reached) := by
  have hUnderway := h.underway body hBodies
  cases hEscaped : rendering.escaped with
  | some message =>
      have hState : p.state.proceed 0 body rendering = (p.state.showError message).leave 0 := by
        simp [State.proceed, hEscaped]
      have hNone : ((p.state.showError message).leave 0).bodies = [] := by
        rw [State.leave_bodies]
        simp [State.showError, hBodies]
      rw [hState] at hLoop ⊢
      refine ⟨hLoop, fun next hNext => ?_, fun _ => Underway.escape hEscaped 0 reached⟩
      exact absurd (hNone.symm.trans hNext) (List.cons_ne_nil _ _).symm
  | none =>
      cases hPhase : body.phase with
      | fast =>
          have hState : (p.state.proceed 0 body rendering).bodies = [{ body.rendered rendering with
              phase := .slow, requests := Body.begin slowSections }] := by
            simp [State.proceed, hEscaped, hPhase, hBodies]
          refine ⟨hLoop, fun next hNext => ?_, fun hNone => ?_⟩
          · obtain rfl := (List.singleton_inj.mp (hState.symm.trans hNext)).symm
            exact hUnderway.proceed hSettled hPhase hEscaped _ reached
          · exact absurd (hState.symm.trans hNone) (List.cons_ne_nil _ _)
      | slow =>
          have hState : p.state.proceed 0 body rendering =
              (p.state.reportFailures (body.rendered rendering).failures
                (body.received.size ≠ 0)).leave 0 := by
            simp [State.proceed, hEscaped, hPhase]
          have hNone : ((p.state.reportFailures (body.rendered rendering).failures
              (body.received.size ≠ 0)).leave 0).bodies = [] := by
            rw [State.leave_bodies, State.reportFailures_bodies]
            simp [hBodies]
          rw [hState] at hLoop ⊢
          refine ⟨hLoop, fun next hNext => ?_, fun _ =>
            hUnderway.leave hSettled hPhase hEscaped 0 _ reached⟩
          exact absurd (hNone.symm.trans hNext) (List.cons_ne_nil _ _).symm

theorem PageInv.step {p q : Page V} {action : Action V} (h : PageInv p)
    (hStep : p.step action = some q) :
    PageInv q := by
  obtain ⟨state, hState, hStep⟩ := Option.bind_eq_some_iff.mp hStep
  have hLoop := step_keeps h.loop hState
  obtain ⟨event, reached⟩ := action
  cases event with
  | tick interval =>
      obtain rfl := Option.some.inj hStep
      obtain ⟨hDue, hTick⟩ := Option.ite_none_right_eq_some.mp hState
      obtain rfl := Option.some.inj hTick
      refine h.idle hLoop ?_
      rcases h.loop with hCounting | hRefreshing
      · rcases hCounting.tick_bodies with hBegins | hStill
        · exact .inl ⟨hCounting.bodies, hBegins⟩
        · exact .inr (.inl ⟨hCounting.bodies, hStill⟩)
      · simp [hRefreshing.intervals] at hDue
  | click =>
      obtain rfl := Option.some.inj hStep
      obtain rfl := Option.some.inj hState
      refine h.idle hLoop ?_
      rcases h.loop with hCounting | hRefreshing
      · exact .inl ⟨hCounting.bodies, hCounting.fetchOverview_bodies⟩
      · exact .inr (.inr hRefreshing.fetchOverview)
  | settle i j answer =>
      obtain ⟨body, hBody, hStep⟩ := Option.bind_eq_some_iff.mp hStep
      obtain ⟨⟨name, result⟩, hRequest, hStep⟩ := Option.bind_eq_some_iff.mp hStep
      obtain rfl := Option.some.inj hStep
      obtain ⟨hBodies, rfl⟩ := bodies_eq_of_getElem? h.loop hBody
      obtain ⟨other, hOther, hState⟩ := Option.bind_eq_some_iff.mp hState
      obtain rfl := Option.some.inj (hBody.symm.trans hOther)
      rw [hRequest] at hState
      cases result with
      | some result => cases hState
      | none =>
          obtain rfl := Option.some.inj hState
          refine ⟨hLoop, fun next hNext => ?_, fun hNone => ?_⟩
          · obtain rfl : body.settle j name answer = next := by
              simpa [Page.settle, hBodies] using hNext
            exact (h.underway body hBodies).settle hRequest answer _
          · simp [Page.settle, hBodies] at hNone
  | proceed i rendering =>
      obtain ⟨body, hBody, hStep⟩ := Option.bind_eq_some_iff.mp hStep
      obtain rfl := Option.some.inj hStep
      obtain ⟨hBodies, rfl⟩ := bodies_eq_of_getElem? h.loop hBody
      obtain ⟨other, hOther, hState⟩ := Option.bind_eq_some_iff.mp hState
      obtain rfl := Option.some.inj (hBody.symm.trans hOther)
      obtain ⟨hSettled, hSame⟩ := Option.ite_none_right_eq_some.mp hState
      obtain rfl := Option.some.inj hSame
      exact h.proceed hLoop hBodies hSettled

/-- An answer is put on record for the section that was asked for, which had none. -/
theorem PageInv.step_settle {p q : Page V} {i j : Nat} {answer : Answer V} {reached : List String}
    (h : PageInv p) (hStep : p.step ⟨.settle i j answer, reached⟩ = some q) :
    ∃ body name, p.state.bodies[i]? = some body ∧ body.requests[j]? = some (name, none) ∧
      name ∈ sections ∧
      p.answers name = none ∧ q.answers = Function.update p.answers name (some answer) ∧
      q.refresh = p.refresh := by
  obtain ⟨state, hState, hStep⟩ := Option.bind_eq_some_iff.mp hStep
  obtain ⟨body, hBody, hStep⟩ := Option.bind_eq_some_iff.mp hStep
  obtain ⟨⟨name, result⟩, hRequest, hStep⟩ := Option.bind_eq_some_iff.mp hStep
  obtain rfl := Option.some.inj hStep
  obtain ⟨other, hOther, hState⟩ := Option.bind_eq_some_iff.mp hState
  obtain rfl := Option.some.inj (hBody.symm.trans hOther)
  rw [hRequest] at hState
  cases result with
  | some result => cases hState
  | none =>
      have hUnderway := h.underway body (bodies_eq_of_getElem? h.loop hBody).1
      have hName : name ∈ sections := mem_sections_of_phase (hUnderway.mem_sections hRequest)
      have hOpen : p.answers name = none := by
        simpa using (hUnderway.results j name none hRequest).symm
      exact ⟨body, name, hBody, hRequest, hName, hOpen, rfl, rfl⟩

/-- Nothing else changes the record, unless a refresh begins. -/
theorem Page.step_other {p q : Page V} {action : Action V} (hStep : p.step action = some q)
    (hOther : ∀ i j answer, action.event ≠ .settle i j answer) :
    (q.answers = fun _ => none) ∧ q.refresh = p.refresh + 1 ∨ q.answers = p.answers ∧
    q.refresh = p.refresh := by
  obtain ⟨state, hState, hStep⟩ := Option.bind_eq_some_iff.mp hStep
  obtain ⟨event, reached⟩ := action
  have hIdle : ∀ next : Page V,
      (if p.state.bodies.length < state.bodies.length then p.begin state
        else { p with state := state }) = next →
      (next.answers = fun _ => none) ∧ next.refresh = p.refresh + 1 ∨
        next.answers = p.answers ∧ next.refresh = p.refresh := by
    rintro next rfl
    split_ifs
    · exact .inl ⟨rfl, rfl⟩
    · exact .inr ⟨rfl, rfl⟩
  cases event with
  | tick interval => exact hIdle q (Option.some.inj hStep)
  | click => exact hIdle q (Option.some.inj hStep)
  | settle i j answer => exact absurd rfl (hOther i j answer)
  | proceed i rendering =>
      obtain ⟨body, hBody, hStep⟩ := Option.bind_eq_some_iff.mp hStep
      obtain rfl := Option.some.inj hStep
      exact .inr ⟨rfl, rfl⟩

theorem pageInv_of_runs {actions : List (Action V)} {p : Page V}
    (run : Runs Page.step .loaded actions p) :
    PageInv p :=
  run.invariant .loaded fun _ _ _ hInv _ hStep => hInv.step hStep

/-- Stale data is never presented as fresh. After every refresh the error bar is absent
exactly when all sections were answered and rendered without an error; then each section
shows the payload it got in this refresh. Otherwise the bar names every failed section,
collector and renderer, unless the browser has to sign in or an exception ended the
refresh. -/
theorem staleNeverFresh {actions : List (Action V)} {p : Page V}
    (run : Runs Page.step .loaded actions p) (hIdle : p.state.bodies = []) :
    (p.state.errorBar = none ↔ p.Clean) ∧
      (p.Clean → ∀ name ∈ sections, ∀ payload errors,
        p.answers name = some (.body (some payload) errors) →
        p.shown name = some (p.refresh, payload)) ∧
      (p.escaped = false → (∀ failure, p.Fails failure → failure.status.isUnauthorized = false) →
        ∀ failure, p.Fails failure →
          ∃ bar, p.state.errorBar = some bar ∧ failure.text.toList <:+: bar.toList) := by
  have hLeft := (pageInv_of_runs run).left hIdle
  exact ⟨hLeft.bar, hLeft.shown, hLeft.named⟩

/-- A refresh in which one collector fails, which is left with the bar. -/
def oneFailure : List (Action String) :=
  ((List.range 5).map fun j =>
    ⟨.settle 0 j (.body (some "new") (if j = 1 then ["cpu"] else [])), []⟩) ++
    [⟨.proceed 0 ⟨[], none⟩, []⟩] ++
    ((List.range 6).map fun j => ⟨.settle 0 j (.body (some "new") []), []⟩) ++
    [⟨.proceed 0 ⟨[], none⟩, []⟩]

theorem staleNeverFresh_oneFailure : ∃ p : Page String, Runs Page.step .loaded oneFailure p ∧
    ¬p.Clean ∧ p.state.errorBar.isSome ∧ p.shown "node" = some (1, "new") := by
  have hRun : Runs Page.step .loaded oneFailure
      ((execute Page.step .loaded oneFailure).get (by decide +kernel)) :=
    runs_of_execute (Option.some_get _).symm
  have hSome :
      ((execute Page.step .loaded oneFailure).get (by decide +kernel)).state.errorBar.isSome =
        true := by
    decide +kernel
  have hBar := (staleNeverFresh hRun (by decide +kernel)).1
  refine ⟨_, hRun, fun hClean => ?_, hSome, by decide +kernel⟩
  rw [hBar.mpr hClean] at hSome
  cases hSome

end NodeDebugDashboard.Frontend
