import Mathlib.Algebra.GroupWithZero.Nat
import Mathlib.Data.String.Basic

/-! The tokenizer of HTML, as far as tags and the names of their attributes go.
Raw text (after `script`, `style` and their like) and foreign content are read
like any other. -/
namespace Library.Html

/-- A start or end tag: its name and the names of its attributes, in order and
without the repeated ones, which are dropped. -/
structure Tag where
  closing : Bool
  name : List Char
  attrs : List (List Char) := []
  deriving DecidableEq

def Tag.addAttr (tag : Tag) (name : List Char) : Tag :=
  if name ∈ tag.attrs then tag else { tag with attrs := tag.attrs ++ [name] }

/-- The states of the tokenizer. Within a tag they hold what has been read of
it, and within an attribute its name; a value is not kept. -/
inductive Mode where
  | data
  | tagOpen
  | endTagOpen
  | tagName (tag : Tag)
  | beforeName (tag : Tag)
  | attrName (tag : Tag) (name : List Char)
  | afterName (tag : Tag)
  | beforeValue (tag : Tag)
  | quoted (tag : Tag) (quote : Char)
  | unquoted (tag : Tag)
  | afterValue (tag : Tag)
  | selfClosing (tag : Tag)
  | bogusComment
  | declaration
  | declarationDash
  | commentStart
  | commentStartDash
  | comment
  | commentEndDash
  | commentEnd
  | commentEndBang
  deriving DecidableEq

/-- White space between attributes, with the carriage return that is read as a
line feed. -/
def isBlank (c : Char) : Bool := c ∈ ['\t', '\n', '\x0c', '\r', ' ']

namespace Mode

def afterNameStep (tag : Tag) (c : Char) : Mode × Option Tag :=
  if isBlank c then (afterName tag, none)
  else if c = '/' then (selfClosing tag, none)
  else if c = '=' then (beforeValue tag, none)
  else if c = '>' then (data, some tag)
  else (attrName tag [c.toLower], none)

/-- An `=` before any name starts one. -/
def beforeNameStep (tag : Tag) (c : Char) : Mode × Option Tag :=
  if isBlank c then (beforeName tag, none)
  else if c = '/' ∨ c = '>' then afterNameStep tag c
  else (attrName tag [c.toLower], none)

def attrNameStep (tag : Tag) (name : List Char) (c : Char) : Mode × Option Tag :=
  if isBlank c ∨ c = '/' ∨ c = '>' then afterNameStep (tag.addAttr name) c
  else if c = '=' then (beforeValue (tag.addAttr name), none)
  else (attrName tag (name ++ [c.toLower]), none)

def unquotedStep (tag : Tag) (c : Char) : Mode × Option Tag :=
  if isBlank c then (beforeName tag, none)
  else if c = '>' then (data, some tag)
  else (unquoted tag, none)

def dataStep (c : Char) : Mode := if c = '<' then tagOpen else data

def bogusStep (c : Char) : Mode := if c = '>' then data else bogusComment

/-- The next state, and the tag that the character ends. -/
def step : Mode → Char → Mode × Option Tag
  | data, c => (dataStep c, none)
  | tagOpen, c =>
      if c.isAlpha then (tagName { closing := false, name := [c.toLower] }, none)
      else if c = '/' then (endTagOpen, none)
      else if c = '!' then (declaration, none)
      else if c = '?' then (bogusComment, none)
      else (dataStep c, none)
  | endTagOpen, c =>
      if c.isAlpha then (tagName { closing := true, name := [c.toLower] }, none)
      else (bogusStep c, none)
  | tagName tag, c =>
      if isBlank c then (beforeName tag, none)
      else if c = '/' then (selfClosing tag, none)
      else if c = '>' then (data, some tag)
      else (tagName { tag with name := tag.name ++ [c.toLower] }, none)
  | beforeName tag, c => beforeNameStep tag c
  | attrName tag name, c => attrNameStep tag name c
  | afterName tag, c => afterNameStep tag c
  | beforeValue tag, c =>
      if isBlank c then (beforeValue tag, none)
      else if c = '"' ∨ c = '\'' then (quoted tag c, none)
      else unquotedStep tag c
  | quoted tag quote, c => (if c = quote then afterValue tag else quoted tag quote, none)
  | unquoted tag, c => unquotedStep tag c
  | afterValue tag, c =>
      if c = '/' then (selfClosing tag, none)
      else if c = '>' then (data, some tag)
      else beforeNameStep tag c
  | selfClosing tag, c => if c = '>' then (data, some tag) else beforeNameStep tag c
  | bogusComment, c => (bogusStep c, none)
  -- A document type ends like a bogus comment, at the first `>`.
  | declaration, c => (if c = '-' then declarationDash else bogusStep c, none)
  | declarationDash, c => (if c = '-' then commentStart else bogusStep c, none)
  | commentStart, c =>
      (if c = '-' then commentStartDash else if c = '>' then data else comment, none)
  | commentStartDash, c =>
      (if c = '-' then commentEnd else if c = '>' then data else comment, none)
  | comment, c => (if c = '-' then commentEndDash else comment, none)
  | commentEndDash, c => (if c = '-' then commentEnd else comment, none)
  | commentEnd, c =>
      (if c = '>' then data else if c = '!' then commentEndBang
        else if c = '-' then commentEnd else comment, none)
  | commentEndBang, c =>
      (if c = '-' then commentEndDash else if c = '>' then data else comment, none)

end Mode

/-- The state after a text, and the tags that ended in it. -/
def run : Mode → List Char → Mode × List Tag
  | mode, [] => (mode, [])
  | mode, c :: rest =>
      let (next, ended) := mode.step c
      let (last, tags) := run next rest
      (last, ended.toList ++ tags)

/-- The tags of a document. A tag that the text breaks off in does not count. -/
def tagsOf (html : String) : List Tag := (run .data html.toList).2

theorem run_append (mode : Mode) (first second : List Char) :
    run mode (first ++ second) = ((run (run mode first).1 second).1,
      (run mode first).2 ++ (run (run mode first).1 second).2) := by
  induction first generalizing mode with
  | nil => rfl
  | cons c rest ih => simp [run, ih]

/-- A literal is read as the list of its characters. -/
theorem run_literal {mode last : Mode} {text : List Char} (h : (run mode text).1 = last) :
    (run mode (String.ofList text).toList).1 = last := by
  rw [String.toList_ofList, h]

/-- Text without a `<` has no tags. -/
theorem run_data {text : List Char} (h : '<' ∉ text) : run .data text = (.data, []) := by
  induction text with
  | nil => rfl
  | cons c rest ih =>
      rw [List.mem_cons, not_or] at h
      simp [run, Mode.step, Mode.dataStep, Ne.symm h.1, ih h.2]

/-- A quoted value goes on up to its quote. -/
theorem run_quoted (tag : Tag) {quote : Char} {text : List Char} (h : quote ∉ text) :
    run (.quoted tag quote) text = (.quoted tag quote, []) := by
  induction text with
  | nil => rfl
  | cons c rest ih =>
      rw [List.mem_cons, not_or] at h
      simp [run, Mode.step, Ne.symm h.1, ih h.2]

/-- How many attributes the tags have together. -/
def attrCount (tags : List Tag) : Nat := (tags.map fun tag => tag.attrs.length).sum

theorem attrCount_append (first second : List Tag) :
    attrCount (first ++ second) = attrCount first + attrCount second := by
  simp [attrCount]

/-- A piece of markup that starts and ends in text. -/
def Complete (html : String) : Prop := (run .data html.toList).1 = .data

theorem Complete.append {first second : String} (left : Complete first) (right : Complete second) :
    Complete (first ++ second) := by
  rw [Complete, String.toList_append, run_append, left]
  exact right

theorem Complete.tagsOf_append {first : String} (left : Complete first) (second : String) :
    tagsOf (first ++ second) = tagsOf first ++ tagsOf second := by
  rw [tagsOf, String.toList_append, run_append, left]
  rfl

/-- Two complete pieces of which the first has so many attributes more. With
none more, they have the same tags. -/
structure Alike (more : Nat) (first second : String) : Prop where
  left : Complete first
  right : Complete second
  count : attrCount (tagsOf first) = attrCount (tagsOf second) + more
  tags : more = 0 → tagsOf first = tagsOf second

theorem Alike.refl {html : String} (h : Complete html) : Alike 0 html html :=
  ⟨h, h, rfl, fun _ => rfl⟩

theorem Alike.empty : Alike 0 "" "" := .refl rfl

theorem complete_of_notMem {text : String} (h : '<' ∉ text.toList) : Complete text :=
  congrArg Prod.fst (run_data h)

theorem tagsOf_of_notMem {text : String} (h : '<' ∉ text.toList) : tagsOf text = [] :=
  congrArg Prod.snd (run_data h)

/-- Texts without a `<` are alike. -/
theorem Alike.text {first second : String} (left : '<' ∉ first.toList)
    (right : '<' ∉ second.toList) : Alike 0 first second where
  left := complete_of_notMem left
  right := complete_of_notMem right
  count := by rw [tagsOf_of_notMem left, tagsOf_of_notMem right, add_zero]
  tags := fun _ => by rw [tagsOf_of_notMem left, tagsOf_of_notMem right]

theorem Alike.append {more further : Nat} {first second third fourth : String}
    (head : Alike more first second) (tail : Alike further third fourth) :
    Alike (more + further) (first ++ third) (second ++ fourth) where
  left := head.left.append tail.left
  right := head.right.append tail.right
  count := by
    have hHead := head.count
    have hTail := tail.count
    rw [head.left.tagsOf_append, head.right.tagsOf_append, attrCount_append, attrCount_append]
    omega
  tags := fun h => by
    rw [head.left.tagsOf_append, head.right.tagsOf_append, head.tags (by omega),
      tail.tags (by omega)]

theorem Alike.between {more : Nat} {start start' first second finish finish' : String}
    (hStart : Alike 0 start start') (h : Alike more first second)
    (hFinish : Alike 0 finish finish') :
    Alike more (start ++ first ++ finish) (start' ++ second ++ finish') := by
  simpa only [Nat.zero_add, Nat.add_zero] using (hStart.append h).append hFinish

/-- Pieces that are alike one by one are alike when joined. -/
theorem Alike.join {A : Type*} (more : A → Nat) (first second : A → String) {items : List A}
    (h : ∀ item ∈ items, Alike (more item) (first item) (second item)) :
    Alike (items.map more).sum (.join (items.map first)) (.join (items.map second)) := by
  induction items with
  | nil => exact .empty
  | cons item rest ih =>
      have hItem := h item List.mem_cons_self
      have hRest := ih fun other hOther => h other (List.mem_cons_of_mem item hOther)
      simpa [String.join_cons] using hItem.append hRest

/-- The same for two lists of pieces. -/
theorem Alike.joinAll {first second : List String} (h : List.Forall₂ (Alike 0) first second) :
    Alike 0 (.join first) (.join second) := by
  induction h with
  | nil => exact .empty
  | cons head _ ih => simpa [String.join_cons] using head.append ih

theorem Alike.intercalate {separator : String} (hSeparator : Complete separator)
    {first second : List String} (h : List.Forall₂ (Alike 0) first second) :
    Alike 0 (separator.intercalate first) (separator.intercalate second) := by
  induction h with
  | nil => exact .empty
  | @cons a b first second head tail ih =>
      cases tail with
      | nil => simpa using head
      | cons =>
          rw [String.intercalate_cons_cons, String.intercalate_cons_cons]
          exact (head.append (.refl hSeparator)).append ih

/-- A quoted value has no part in the tags: whatever it is, it ends at the
quote behind it. -/
theorem Alike.quoted {before after : List Char} {tag : Tag} {quote : Char} {first second : String}
    (hFirst : quote ∉ first.toList) (hSecond : quote ∉ second.toList)
    (hBefore : (run .data before).1 = .quoted tag quote)
    (hAfter : (run (.quoted tag quote) after).1 = .data) :
    Alike 0 (.ofList before ++ first ++ .ofList after) (.ofList before ++ second ++
      .ofList after) := by
  have hRun : ∀ value : String, quote ∉ value.toList →
      run .data (.ofList before ++ value ++ .ofList after : String).toList =
        (.data, (run .data before).2 ++ (run (.quoted tag quote) after).2) := by
    intro value hValue
    simp [run_append, hBefore, run_quoted tag hValue, hAfter]
  have hTags : tagsOf (.ofList before ++ first ++ .ofList after) =
      tagsOf (.ofList before ++ second ++ .ofList after) := by
    rw [tagsOf, tagsOf, hRun first hFirst, hRun second hSecond]
  exact {
    left := congrArg Prod.fst (hRun first hFirst)
    right := congrArg Prod.fst (hRun second hSecond)
    count := by rw [hTags, add_zero]
    tags := fun _ => hTags }

/-- A tag, or a character of the text. -/
inductive Token where
  | tag (tag : Tag)
  | char (c : Char)
  deriving DecidableEq

def Token.tag? : Token → Option Tag
  | .tag ended => some ended
  | .char _ => none

/-- The text that a character settles: itself, or a `<` that starts no tag. -/
def Mode.shown : Mode → Char → List Char
  | data, c => if c = '<' then [] else [c]
  | tagOpen, c =>
      if c.isAlpha ∨ c = '/' ∨ c = '!' ∨ c = '?' then [] else if c = '<' then ['<'] else ['<', c]
  | _, _ => []

/-- What a text shows. What it breaks off in does not count. -/
def tokens : Mode → List Char → List Token
  | _, [] => []
  | mode, c :: rest =>
      (mode.shown c).map .char ++ (mode.step c).2.toList.map .tag ++ tokens (mode.step c).1 rest

def tokensOf (html : String) : List Token := tokens .data html.toList

theorem filterMap_tokens (mode : Mode) (text : List Char) :
    (tokens mode text).filterMap Token.tag? = (run mode text).2 := by
  induction text generalizing mode with
  | nil => rfl
  | cons c rest ih =>
      have hText : ((mode.shown c).map Token.char).filterMap Token.tag? = [] := by
        rw [List.filterMap_map, List.filterMap_eq_nil_iff]
        exact fun _ _ => rfl
      have hTags :
          ((mode.step c).2.toList.map Token.tag).filterMap Token.tag? = (mode.step c).2.toList := by
        rw [List.filterMap_map]
        exact List.filterMap_some
      rw [tokens, List.filterMap_append, List.filterMap_append, hText, hTags, ih, List.nil_append]
      rfl

theorem tokens_append (mode : Mode) (first second : List Char) :
    tokens mode (first ++ second) = tokens mode first ++ tokens (run mode first).1 second := by
  induction first generalizing mode with
  | nil => rfl
  | cons c rest ih => simp [tokens, run, ih]

/-- Text without a `<` is shown as it is. -/
theorem tokens_data {text : List Char} (h : '<' ∉ text) : tokens .data text = text.map .char := by
  induction text with
  | nil => rfl
  | cons c rest ih =>
      rw [List.mem_cons, not_or] at h
      simp [tokens, Mode.shown, Mode.step, Mode.dataStep, Ne.symm h.1, ih h.2]

theorem Complete.tokensOf_append {first : String} (left : Complete first) (second : String) :
    tokensOf (first ++ second) = tokensOf first ++ tokensOf second := by
  rw [tokensOf, String.toList_append, tokens_append, left]
  rfl

theorem tokensOf_of_notMem {text : String} (h : '<' ∉ text.toList) :
    tokensOf text = text.toList.map .char :=
  tokens_data h

theorem Complete.join {pieces : List String} (h : ∀ piece ∈ pieces, Complete piece) :
    Complete (.join pieces) := by
  induction pieces with
  | nil => exact Alike.empty.left
  | cons piece rest ih =>
      rw [List.forall_mem_cons] at h
      rw [String.join_cons]
      exact h.1.append (ih h.2)

theorem tokensOf_join {pieces : List String} (h : ∀ piece ∈ pieces, Complete piece) :
    tokensOf (.join pieces) = pieces.flatMap tokensOf := by
  induction pieces with
  | nil => rfl
  | cons piece rest ih =>
      rw [List.forall_mem_cons] at h
      rw [String.join_cons, h.1.tokensOf_append, ih h.2, List.flatMap_cons]

/-- The text between each start tag of a name and the end tag behind it. -/
def contents (name : List Char) : Option (List Char) → List Token → List (List Char)
  | _, [] => []
  | inside, .tag tag :: rest =>
      if tag.name ≠ name then contents name inside rest
      else if tag.closing then inside.toList ++ contents name none rest
      else contents name (some []) rest
  | inside, .char c :: rest => contents name (inside.map (· ++ [c])) rest

/-- The five references that stand for the characters of the markup. -/
def decode : List Char → List Char
  | '&' :: 'a' :: 'm' :: 'p' :: ';' :: rest => '&' :: decode rest
  | '&' :: 'l' :: 't' :: ';' :: rest => '<' :: decode rest
  | '&' :: 'g' :: 't' :: ';' :: rest => '>' :: decode rest
  | '&' :: 'q' :: 'u' :: 'o' :: 't' :: ';' :: rest => '"' :: decode rest
  | '&' :: '#' :: '3' :: '9' :: ';' :: rest => '\'' :: decode rest
  | c :: rest => c :: decode rest
  | [] => []

theorem decode_cons {c : Char} (h : c ≠ '&') (rest : List Char) :
    decode (c :: rest) = c :: decode rest := by
  rw [decode.eq_6] <;> exact fun _ hEq => absurd hEq h

/-- The text of an element without tags in it, and what follows. -/
theorem contents_element (name text : List Char) (rest : List Token) :
    contents name none (.tag { closing := false, name := name } :: text.map Token.char ++
      .tag { closing := true, name := name } :: rest) = text :: contents name none rest := by
  have hText : ∀ before : List Char, contents name (some before) (text.map Token.char ++
      .tag { closing := true, name := name } :: rest) = (before ++
      text) :: contents name none rest := by
    induction text with
    | nil => intro before; simp [contents]
    | cons c text ih => intro before; simp [contents, ih]
  simpa [contents] using hText []

end Library.Html
