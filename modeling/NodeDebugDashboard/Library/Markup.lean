import NodeDebugDashboard.Library.Html

/-! Template literals that build markup: which values leave the tags to the
literals, and what follows for the markup as a whole. -/
namespace Library.Html

/-- A template literal: its strings, with the values between them. -/
def template : List String → List String → String
  | first :: strings, value :: values => first ++ value ++ template strings values
  | last :: _, [] => last
  | [], _ => ""

/-- The characters of a literal, which are found by reading the proof. -/
def letters (s : String) {text : List Char} (_ : s = .ofList text) : List Char := text

/-- The tags that markup may have, and the names of those that have no end tag. -/
structure Repertoire where
  tags : List Tag
  voids : List (List Char)

namespace Repertoire

variable (r : Repertoire)

/-- The open elements behind a tag, innermost first; `none` if an end tag does
not close the innermost one. -/
def enter (stack : List (List Char)) (tag : Tag) : Option (List (List Char)) :=
  if r.voids.contains tag.name then some stack
  else if tag.closing then
    match stack with
    | [] => none
    | top :: below => if top = tag.name then some below else none
  else some (tag.name :: stack)

def nest (stack : List (List Char)) (tags : List Tag) : Option (List (List Char)) :=
  tags.foldlM r.enter stack

/-- Markup that starts and ends in text, has no other tags than those of the
repertoire, and closes what it opens. -/
structure Sound (html : String) : Prop where
  complete : Complete html
  allowed : ∀ tag ∈ tagsOf html, tag ∈ r.tags
  nested : ∀ stack, r.nest stack (tagsOf html) = some stack

/-- What a value of a template literal is: text, the value of an attribute, or markup. -/
inductive Kind where
  | text
  | value
  | markup

/-- Where a value may stand: an attribute must have double quotes around it. -/
def Kind.fits : Kind → Mode → Bool
  | text, .data => true
  | markup, .data => true
  | value, .quoted _ quote => quote == '"'
  | _, _ => false

/-- The mode behind the strings of a template literal and their tags, if each
value stands where it may. -/
def scan : Mode → List (List Char) → List Kind → Option (Mode × List Tag)
  | mode, first :: texts, kind :: kinds =>
      if kind.fits (run mode first).1 then
        (scan (run mode first).1 texts kinds).map fun found =>
          (found.1, (run mode first).2 ++ found.2)
      else none
  | mode, [last], [] => some (run mode last)
  | _, _, _ => none

/-- Whether a template literal is sound with values of these kinds. -/
def accepts (texts : List (List Char)) (kinds : List Kind) : Bool :=
  match scan .data texts kinds with
  | some (.data, tags) => tags.all (fun tag => tag ∈ r.tags) && r.nest [] tags == some []
  | _ => false

/-- The characters of the strings of a template literal, the kinds of its values,
and the values themselves. -/
inductive Filled : List (List Char) → List Kind → List String → List String → Prop where
  | last {text : List Char} : Filled [text] [] [.ofList text] []
  | text {text : List Char} {texts : List (List Char)} {kinds : List Kind}
      {strings values : List String} {value : String} (plain : '<' ∉ value.toList)
        (rest : Filled texts kinds strings values) :
      Filled (text :: texts) (.text :: kinds) (.ofList text :: strings) (value :: values)
  | value {text : List Char} {texts : List (List Char)} {kinds : List Kind}
      {strings values : List String} {value : String} (unquoted : '"' ∉ value.toList)
        (rest : Filled texts kinds strings values) :
      Filled (text :: texts) (.value :: kinds) (.ofList text :: strings) (value :: values)
  | markup {text : List Char} {texts : List (List Char)} {kinds : List Kind}
      {strings values : List String} {value : String} (sound : r.Sound value)
        (rest : Filled texts kinds strings values) :
      Filled (text :: texts) (.markup :: kinds) (.ofList text :: strings) (value :: values)

theorem nest_append (stack : List (List Char)) (first second : List Tag) :
    r.nest stack (first ++ second) = (r.nest stack first).bind fun behind => r.nest behind second :=
  List.foldlM_append

theorem enter_below {stack behind : List (List Char)} {tag : Tag}
    (h : r.enter stack tag = some behind) (below : List (List Char)) :
    r.enter (stack ++ below) tag = some (behind ++ below) := by
  unfold enter at h ⊢
  split_ifs at h ⊢
  · cases h
    rfl
  · cases stack with
    | nil => cases h
    | cons top stack =>
        simp only [List.cons_append] at h ⊢
        split_ifs at h ⊢
        cases h
        rfl
  · cases h
    rfl

/-- What was open before stays open. -/
theorem nest_below {stack behind : List (List Char)} {tags : List Tag}
    (h : r.nest stack tags = some behind) (below : List (List Char)) :
    r.nest (stack ++ below) tags = some (behind ++ below) := by
  unfold nest at h ⊢
  induction tags generalizing stack with
  | nil =>
      cases h
      rfl
  | cons tag rest ih =>
      rw [List.foldlM_cons] at h ⊢
      obtain ⟨next, hNext, hRest⟩ := Option.bind_eq_some_iff.mp h
      exact Option.bind_eq_some_iff.mpr ⟨next ++ below, enter_below r hNext below, ih hRest⟩

variable {r}

theorem Sound.append {first second : String} (left : r.Sound first) (right : r.Sound second) :
    r.Sound (first ++ second) where
  complete := left.complete.append right.complete
  allowed := by
    rw [left.complete.tagsOf_append]
    intro tag hMem
    exact (List.mem_append.mp hMem).elim (left.allowed tag) (right.allowed tag)
  nested := fun stack => by
    rw [left.complete.tagsOf_append, nest_append, left.nested, Option.bind_some, right.nested]

theorem Sound.text {text : String} (h : '<' ∉ text.toList) : r.Sound text where
  complete := complete_of_notMem h
  allowed := by simp [tagsOf_of_notMem h]
  nested := fun stack => by rw [tagsOf_of_notMem h]; rfl

@[simp] theorem Sound.empty : r.Sound "" := .text (by simp)

theorem Sound.join {pieces : List String} (h : ∀ piece ∈ pieces, r.Sound piece) :
    r.Sound (.join pieces) := by
  induction pieces with
  | nil => exact .empty
  | cons piece rest ih =>
      rw [List.forall_mem_cons] at h
      rw [String.join_cons]
      exact h.1.append (ih h.2)

theorem Sound.intercalate {separator : String} (hSeparator : r.Sound separator)
    {pieces : List String} (h : ∀ piece ∈ pieces, r.Sound piece) :
    r.Sound (separator.intercalate pieces) := by
  induction pieces with
  | nil => simp
  | cons piece rest ih =>
      rw [List.forall_mem_cons] at h
      cases rest with
      | nil => simpa using h.1
      | cons =>
          rw [String.intercalate_cons_cons]
          exact (h.1.append hSeparator).append (ih h.2)

theorem scan_cons {mode last : Mode} {first : List Char} {texts : List (List Char)} {kind : Kind}
    {kinds : List Kind} {tags : List Tag}
    (h : scan mode (first :: texts) (kind :: kinds) = some (last, tags)) :
    ∃ later, kind.fits (run mode first).1 = true ∧
      scan (run mode first).1 texts kinds = some (last, later) ∧
      tags = (run mode first).2 ++ later := by
  rw [scan] at h
  split_ifs at h with hFits
  obtain ⟨found, hFound, hEq⟩ := Option.map_eq_some_iff.mp h
  cases hEq
  exact ⟨found.2, hFits, hFound, rfl⟩

/-- What a template literal adds to the tags of its strings. -/
structure Reads (r : Repertoire) (mode : Mode) (text : List Char) (last : Mode)
    (tags : List Tag) : Prop where
  behind : (run mode text).1 = last
  allowed : ∀ tag ∈ (run mode text).2, tag ∈ tags ∨ tag ∈ r.tags
  nested : ∀ stack, r.nest stack (run mode text).2 = r.nest stack tags

theorem Reads.refl (mode : Mode) (text : List Char) :
    Reads r mode text (run mode text).1 (run mode text).2 :=
  ⟨rfl, fun _ => .inl, fun _ => rfl⟩

theorem Reads.append {mode middle last : Mode} {first second : List Char} {early late : List Tag}
    (left : Reads r mode first middle early) (right : Reads r middle second last late) :
    Reads r mode (first ++ second) last (early ++ late) := by
  have hRun := run_append mode first second
  rw [left.behind] at hRun
  refine ⟨by rw [hRun]; exact right.behind, ?_, ?_⟩
  · rw [hRun]
    intro tag hMem
    rcases List.mem_append.mp hMem with hFirst | hSecond
    · exact (left.allowed tag hFirst).imp_left (List.mem_append_left late)
    · exact (right.allowed tag hSecond).imp_left (List.mem_append_right early)
  · intro stack
    rw [hRun, nest_append, nest_append, left.nested]
    exact congrArg _ (funext right.nested)

/-- A string, and a value that stands where it may. -/
theorem Reads.hole {mode last : Mode} {text value rest : List Char} {kind : Kind} {tags : List Tag}
    (hFits : kind.fits (run mode text).1 = true)
    (hValue : ∀ m, kind.fits m = true → Reads r m value m [])
    (hRest : Reads r (run mode text).1 rest last tags) :
    Reads r mode (text ++ value ++ rest) last ((run mode text).2 ++ tags) := by
  have hFront := (Reads.refl (r := r) mode text).append (hValue _ hFits)
  rw [List.append_nil] at hFront
  exact hFront.append hRest

theorem Reads.text {value : List Char} (h : '<' ∉ value) (m : Mode)
    (hFits : Kind.text.fits m = true) :
    Reads r m value m [] := by
  cases m <;> simp only [Kind.fits, Bool.false_eq_true] at hFits
  simpa [run_data h] using Reads.refl (r := r) .data value

theorem Reads.value {value : List Char} (h : '"' ∉ value) (m : Mode)
    (hFits : Kind.value.fits m = true) :
    Reads r m value m [] := by
  cases m <;> simp only [Kind.fits, Bool.false_eq_true, beq_iff_eq] at hFits
  subst hFits
  simpa [run_quoted _ h] using Reads.refl (r := r) (.quoted _ '"') value

theorem Sound.reads {html : String} (h : r.Sound html) (m : Mode)
    (hFits : Kind.markup.fits m = true) :
    Reads r m html.toList m [] := by
  cases m <;> simp only [Kind.fits, Bool.false_eq_true] at hFits
  exact ⟨h.complete, fun tag hMem => .inr (h.allowed tag hMem), h.nested⟩

/-- The tags of the values come in between, and nest like none. -/
theorem Filled.reads {texts : List (List Char)} {kinds : List Kind} {strings values : List String}
    (h : r.Filled texts kinds strings values) {mode last : Mode} {tags : List Tag}
    (hScan : scan mode texts kinds = some (last, tags)) :
    Reads r mode (template strings values).toList last tags := by
  induction h generalizing mode tags with
  | @last text =>
      rw [scan, Option.some_inj] at hScan
      rw [template, String.toList_ofList]
      simpa [hScan] using Reads.refl (r := r) mode text
  | text plain _ ih =>
      obtain ⟨later, hFits, hLater, rfl⟩ := scan_cons hScan
      rw [template, String.toList_append, String.toList_append, String.toList_ofList]
      exact .hole hFits (Reads.text plain) (ih hLater)
  | value unquoted _ ih =>
      obtain ⟨later, hFits, hLater, rfl⟩ := scan_cons hScan
      rw [template, String.toList_append, String.toList_append, String.toList_ofList]
      exact .hole hFits (Reads.value unquoted) (ih hLater)
  | markup sound _ ih =>
      obtain ⟨later, hFits, hLater, rfl⟩ := scan_cons hScan
      rw [template, String.toList_append, String.toList_append, String.toList_ofList]
      exact .hole hFits sound.reads (ih hLater)

/-- A template literal that is accepted is sound with all values of these kinds. -/
theorem Filled.sound {texts : List (List Char)} {kinds : List Kind} {strings values : List String}
    (h : r.Filled texts kinds strings values) (hAccepts : r.accepts texts kinds = true) :
    r.Sound (template strings values) := by
  unfold accepts at hAccepts
  split at hAccepts
  case h_2 => cases hAccepts
  case h_1 tags hScan =>
    simp only [Bool.and_eq_true, List.all_eq_true, decide_eq_true_eq, beq_iff_eq] at hAccepts
    have hReads := h.reads hScan
    refine ⟨hReads.behind, fun tag hMem => (hReads.allowed tag hMem).elim (hAccepts.1 tag) id,
      fun stack => ?_⟩
    rw [tagsOf, hReads.nested]
    exact nest_below r hAccepts.2 stack

/-- Markup without a value. -/
theorem Sound.literal {text : List Char} (h : r.accepts [text] [] = true) :
    r.Sound (.ofList text) :=
  Filled.sound .last h

end Repertoire

end Library.Html
