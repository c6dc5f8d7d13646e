import Mathlib.Algebra.GroupWithZero.Nat
import Mathlib.Algebra.Order.Ring.Rat

/-! Coroutines that await effects, memoised functions and one another, and two
ways to reason about them: what they ensure, and what two of them have in common. -/
namespace Library.Async

/-- What is gathered can be named by its place. -/
instance neZeroTwo : NeZero (2 : ℕ) := ⟨by decide⟩

instance neZeroThree : NeZero (3 : ℕ) := ⟨by decide⟩

/-- The memoised functions, the kinds of results and the effects of a system. -/
structure Signature where
  Fn : Type
  Kind : Type
  Val : Kind → Type
  kind : Fn → Kind
  Effect : Type
  Answer : Effect → Type
  Error : Type

/-- A result with the times at which the execution it comes from began and ended. -/
structure Stamped (V : Type) where
  value : V
  began : ℚ
  ended : ℚ

/-- A coroutine. -/
inductive Program (S : Signature) : S.Kind → Type
  | done {r : S.Kind} (value : S.Val r) : Program S r
  | raise {r : S.Kind} (error : S.Error) : Program S r
  | ask {r : S.Kind} (effect : S.Effect) (next : S.Answer effect → Program S r) : Program S r
  /-- `await` of a memoised function -/
  | call {r : S.Kind} (f : S.Fn) (next : Stamped (S.Val (S.kind f)) → Program S r) : Program S r
  /-- `asyncio.gather` -/
  | gather {r : S.Kind} (n : Nat) (kinds : Fin n → S.Kind) (child : (i : Fin n) →
      Program S (kinds i))
      (next : ((i : Fin n) → S.Val (kinds i)) → Program S r) : Program S r

variable {S : Signature}

/-- What is assumed of answers and results, and what has to hold of effects. -/
structure Contract (S : Signature) where
  /-- How long a result is kept. -/
  ttl : (f : S.Fn) → S.Val (S.kind f) → ℚ
  /-- The result of an execution that began and ended at these times. -/
  Stored : (f : S.Fn) → (began ended : ℚ) → S.Val (S.kind f) → Prop
  Allowed : S.Effect → Prop := fun _ => True
  Rely : (effect : S.Effect) → ℚ → S.Answer effect → Prop
  /-- Results that may come together in a `gather`. -/
  Joins : (n : Nat) → (kinds : Fin n → S.Kind) → ((i : Fin n) → S.Val (kinds i)) → Prop :=
    fun _ _ _ => True

namespace Contract

/-- What holds of a result that is returned at this time: it was just computed, or it
is kept still. -/
structure Returned (C : Contract S) (f : S.Fn) (now : ℚ) (result : Stamped (S.Val (S.kind f))) :
    Prop where
  stored : C.Stored f result.began result.ended result.value
  began_le : result.began ≤ result.ended
  ended_le : result.ended ≤ now
  kept : now = result.ended ∨ now < result.ended + C.ttl f result.value

/-- From this time on, the coroutine causes only effects that are allowed, and what
it returns meets the postcondition. -/
def Ensures (C : Contract S) {r : S.Kind} :
    Program S r → (Post : S.Val r → ℚ → Prop) → ℚ → Prop
  | .done value, Post, now => ∀ later, now ≤ later → Post value later
  | .raise _, _, _ => True
  | .ask effect next, Post, now => C.Allowed effect ∧ ∀ later answer, now ≤ later →
      C.Rely effect later answer → C.Ensures (next answer) Post later
  | .call f next, Post, now => ∀ later result, now ≤ later → C.Returned f later result →
      C.Ensures (next result) Post later
  | .gather n kinds child next, Post, now => ∃ Posts : (i : Fin n) → S.Val (kinds i) → ℚ → Prop,
      (∀ i, C.Ensures (child i) (Posts i) now) ∧ ∀ later values, now ≤ later →
        C.Joins n kinds values → (∀ i, Posts i (values i) later) →
        C.Ensures (next values) Post later

variable {C : Contract S}

theorem Ensures.later {r : S.Kind} {program : Program S r} {Post : S.Val r → ℚ → Prop}
    {now later : ℚ} (h : C.Ensures program Post now) (hTime : now ≤ later) :
    C.Ensures program Post later := by
  induction program generalizing now with
  | done => exact fun other hOther => h other (hTime.trans hOther)
  | raise => trivial
  | ask => exact ⟨h.1, fun other answer hOther => h.2 other answer (hTime.trans hOther)⟩
  | call => exact fun other result hOther => h other result (hTime.trans hOther)
  | gather n kinds child next ihChild =>
      obtain ⟨Posts, hChild, hNext⟩ := h
      exact ⟨Posts, fun i => ihChild i (hChild i) hTime,
        fun other values hOther => hNext other values (hTime.trans hOther)⟩

/-- What a coroutine is to ensure may be weakened. -/
theorem Ensures.mono {r : S.Kind} {program : Program S r} {Post Post' : S.Val r → ℚ → Prop}
    {now : ℚ} (h : C.Ensures program Post now)
    (hPost : ∀ value later, now ≤ later → Post value later → Post' value later) :
    C.Ensures program Post' now := by
  induction program generalizing now with
  | done value => exact fun later hLater => hPost value later hLater (h later hLater)
  | raise => trivial
  | ask effect next ih =>
      refine ⟨h.1, fun later answer hLater hRely => ?_⟩
      exact ih answer (h.2 later answer hLater hRely)
        fun value other hOther => hPost value other (hLater.trans hOther)
  | call f next ih =>
      intro later result hLater hResult
      exact ih result (h later result hLater hResult)
        fun value other hOther => hPost value other (hLater.trans hOther)
  | gather n kinds child next _ ihNext =>
      obtain ⟨Posts, hChild, hNext⟩ := h
      refine ⟨Posts, hChild, fun later values hLater hJoins hValues => ?_⟩
      exact ihNext values (hNext later values hLater hJoins hValues)
        fun value other hOther => hPost value other (hLater.trans hOther)

end Contract

/-- Effects and answers that two runs are to have in common. -/
structure Relation (S : Signature) where
  effect : S.Effect → S.Effect → Prop
  answer : (first second : S.Effect) → S.Answer first → S.Answer second → Prop

/-- Coroutines that cause related effects as long as they get related answers, and that
return related results if they return. What memoised functions give them may differ. -/
inductive Relation.Alike (R : Relation S) :
    {r : S.Kind} → (S.Val r → S.Val r → Prop) → Program S r → Program S r → Prop
  | done {r : S.Kind} {Results : S.Val r → S.Val r → Prop} {value value' : S.Val r}
      (hValue : Results value value') : R.Alike Results (.done value) (.done value')
  | raise {r : S.Kind} {Results : S.Val r → S.Val r → Prop} (error error' : S.Error) :
      R.Alike Results (.raise error) (.raise error')
  | ask {r : S.Kind} {Results : S.Val r → S.Val r → Prop} {effect effect' : S.Effect}
      {next : S.Answer effect → Program S r} {next' : S.Answer effect' → Program S r}
      (hEffect : R.effect effect effect')
      (hNext : ∀ answer answer', R.answer effect effect' answer answer' →
        R.Alike Results (next answer) (next' answer')) :
      R.Alike Results (.ask effect next) (.ask effect' next')
  | call {r : S.Kind} {Results : S.Val r → S.Val r → Prop} {f : S.Fn}
      {next next' : Stamped (S.Val (S.kind f)) → Program S r}
      (hNext : ∀ result result', R.Alike Results (next result) (next' result')) :
      R.Alike Results (.call f next) (.call f next')
  | gather {r : S.Kind} {Results : S.Val r → S.Val r → Prop} {n : Nat} {kinds : Fin n → S.Kind}
      {child child' : (i : Fin n) → Program S (kinds i)}
      {next next' : ((i : Fin n) → S.Val (kinds i)) → Program S r}
      (Each : (i : Fin n) → S.Val (kinds i) → S.Val (kinds i) → Prop)
      (hChild : ∀ i, R.Alike (Each i) (child i) (child' i))
      (hNext : ∀ values values', (∀ i, Each i (values i) (values' i)) →
        R.Alike Results (next values) (next' values')) :
      R.Alike Results (.gather n kinds child next) (.gather n kinds child' next')

end Library.Async
