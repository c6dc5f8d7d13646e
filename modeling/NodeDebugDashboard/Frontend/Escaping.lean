import NodeDebugDashboard.Frontend.Storage

/-! `esc` and `table` of app/static/app.js: what a browser makes of the strings of a table. -/
namespace NodeDebugDashboard.Frontend.Storage

open Library.Html

/-- A string gives no character of the markup away, but for the ampersands of its entities. -/
theorem esc_free (s : String) : ∀ c ∈ (esc s).toList, c ∉ ['<', '>', '"', '\''] := by
  intro c hMem
  rw [esc, String.toList_ofList, List.mem_flatMap] at hMem
  obtain ⟨original, _, hMem⟩ := hMem
  unfold escapes at hMem
  split at hMem
  case h_6 hAmp hLt hGt hQuote hApostrophe =>
    obtain rfl : c = original := by simpa using hMem
    simp only [List.mem_cons, List.not_mem_nil, or_false, not_or]
    exact ⟨hLt, hGt, hQuote, hApostrophe⟩
  all_goals
    revert hMem
    revert c
    decide

theorem decode_escapes (c : Char) (rest : List Char) :
    decode ((escapes c).toList ++ rest) = c :: decode rest := by
  unfold escapes
  split
  case h_6 hAmp hLt hGt hQuote hApostrophe =>
    rw [String.toList_singleton, List.singleton_append]
    exact decode_cons hAmp rest
  all_goals simp [decode]

/-- Entities in the string, and ampersands next to them, come back as they were. -/
theorem decode_esc (s : String) : decode (esc s).toList = s.toList := by
  rw [esc, String.toList_ofList]
  induction s.toList with
  | nil => rfl
  | cons c rest ih => rw [List.flatMap_cons, decode_escapes, ih]

theorem esc_plain (s : String) : '<' ∉ (esc s).toList := fun hMem => esc_free s '<' hMem (by decide)

def startTag (name : String) : Tag := { closing := false, name := name.toList }

def endTag (name : String) : Tag := { closing := true, name := name.toList }

/-- A text between two tags. -/
def element (name : String) (text : String) : List Token :=
  .tag (startTag name) :: text.toList.map .char ++ [.tag (endTag name)]

/-- The tags of a row. -/
def rowTags (cells : Nat) : List Tag :=
  startTag "tr" :: (List.replicate cells [startTag "td", endTag "td"]).flatten ++ [endTag "tr"]

/-- The tags of a table with so many headers, and rows of so many cells. -/
def tableTags (headers : Nat) (rows : List Nat) : List Tag :=
  [startTag "table", startTag "thead", startTag "tr"] ++
    (List.replicate headers [startTag "th", endTag "th"]).flatten ++
    [endTag "tr", endTag "thead", startTag "tbody"] ++ rows.flatMap rowTags ++
    [endTag "tbody", endTag "table"]

/-- The tokens of a row of strings. -/
def rowTokens (row : List String) : List Token :=
  .tag (startTag "tr") :: row.flatMap (fun cell => element "td" (esc cell)) ++ [.tag (endTag "tr")]

def tableTokens (headers : List String) (rows : List (List String)) : List Token :=
  [startTag "table", startTag "thead", startTag "tr"].map .tag ++
    headers.flatMap (fun h => element "th" (esc h)) ++
    [endTag "tr", endTag "thead", startTag "tbody"].map .tag ++ rows.flatMap rowTokens ++
    [endTag "tbody", endTag "table"].map .tag

/-- A literal is read as the list of its characters. -/
theorem tokensOf_literal {text : List Char} {found : List Token} (h : tokens .data text = found) :
    tokensOf (String.ofList text) = found := by
  rw [tokensOf, String.toList_ofList, h]

section

variable {opening closing : String} {name text : String}

theorem complete_element (hOpening : Complete opening) (hClosing : Complete closing)
    (h : '<' ∉ text.toList) :
    Complete (opening ++ text ++ closing) :=
  (hOpening.append (complete_of_notMem h)).append hClosing

theorem tokensOf_element (hOpening : Complete opening)
    (hStart : tokensOf opening = [.tag (startTag name)])
    (hEnd : tokensOf closing = [.tag (endTag name)]) (h : '<' ∉ text.toList) :
    tokensOf (opening ++ text ++ closing) = element name text := by
  rw [(hOpening.append (complete_of_notMem h)).tokensOf_append, hOpening.tokensOf_append,
    tokensOf_of_notMem h, hStart, hEnd]
  rfl

end

theorem tokensOf_pieces {first second third fourth : String} (hFirst : Complete first)
    (hSecond : Complete second) (hThird : Complete third) (hFourth : Complete fourth)
    (last : String) :
    tokensOf (first ++ second ++ third ++ fourth ++ last) =
      tokensOf first ++ tokensOf second ++ tokensOf third ++ tokensOf fourth ++ tokensOf last := by
  rw [(((hFirst.append hSecond).append hThird).append hFourth).tokensOf_append,
    ((hFirst.append hSecond).append hThird).tokensOf_append,
    (hFirst.append hSecond).tokensOf_append, hFirst.tokensOf_append]

/-- The pieces of a row. -/
theorem row_spec (numbers : Numbers) (row : List String) :
    Complete ("<tr>" ++
      .join ((row.map Cell.text).map fun cell => "<td>" ++ cellHtml numbers cell ++ "</td>") ++
      "</tr>") ∧
      tokensOf ("<tr>" ++
        .join ((row.map Cell.text).map fun cell => "<td>" ++ cellHtml numbers cell ++ "</td>") ++
        "</tr>") = rowTokens row := by
  have hOpen : Complete "<tr>" := run_literal rfl
  have hClose : Complete "</tr>" := run_literal rfl
  have hCellOpen : Complete "<td>" := run_literal rfl
  have hCellClose : Complete "</td>" := run_literal rfl
  have hCells :
      ∀ piece ∈ (row.map Cell.text).map fun cell => "<td>" ++ cellHtml numbers cell ++ "</td>",
      Complete piece := by
    simp only [List.map_map, List.forall_mem_map]
    exact fun cell _ => complete_element hCellOpen hCellClose (esc_plain cell)
  have hJoin := Complete.join hCells
  refine ⟨(hOpen.append hJoin).append hClose, ?_⟩
  rw [(hOpen.append hJoin).tokensOf_append, hOpen.tokensOf_append, tokensOf_join hCells,
    List.flatMap_map, List.flatMap_map]
  have hStart : tokensOf "<tr>" = [.tag (startTag "tr")] := tokensOf_literal rfl
  have hEnd : tokensOf "</tr>" = [.tag (endTag "tr")] := tokensOf_literal rfl
  have hElement : ∀ cell : String, tokensOf ("<td>" ++ cellHtml numbers (.text cell) ++ "</td>") =
      element "td" (esc cell) := fun cell =>
    tokensOf_element hCellOpen (tokensOf_literal rfl) (tokensOf_literal rfl) (esc_plain cell)
  simp only [hStart, hEnd, hElement]
  rfl

theorem tokensOf_table (numbers : Numbers) (headers : List String) (rows : List (List String)) :
    tokensOf (table numbers headers (rows.map fun row => row.map Cell.text)) =
      tableTokens headers rows := by
  have hOpen : Complete "<table><thead><tr>" := run_literal rfl
  have hMiddle : Complete "</tr></thead><tbody>" := run_literal rfl
  have hHeadOpen : Complete "<th>" := run_literal rfl
  have hHeadClose : Complete "</th>" := run_literal rfl
  have hHeads : ∀ piece ∈ headers.map fun h => "<th>" ++ esc h ++ "</th>", Complete piece := by
    simp only [List.forall_mem_map]
    exact fun h _ => complete_element hHeadOpen hHeadClose (esc_plain h)
  have hRows : ∀ piece ∈ (rows.map fun row => row.map Cell.text).map fun row =>
      "<tr>" ++ .join (row.map fun cell => "<td>" ++ cellHtml numbers cell ++ "</td>") ++ "</tr>",
      Complete piece := by
    simp only [List.map_map, List.forall_mem_map]
    exact fun row _ => (row_spec numbers row).1
  have hPieces :=
    tokensOf_pieces hOpen (Complete.join hHeads) hMiddle (Complete.join hRows) "</tbody></table>"
  rw [tokensOf_join hHeads, tokensOf_join hRows, List.flatMap_map, List.flatMap_map,
    List.flatMap_map] at hPieces
  refine hPieces.trans ?_
  have hStart : tokensOf "<table><thead><tr>" =
      [startTag "table", startTag "thead", startTag "tr"].map .tag := by decide +kernel
  have hBetween : tokensOf "</tr></thead><tbody>" =
      [endTag "tr", endTag "thead", startTag "tbody"].map .tag := by decide +kernel
  have hEnd : tokensOf "</tbody></table>" = [endTag "tbody", endTag "table"].map .tag := by
    decide +kernel
  have hElement :
      ∀ h : String, tokensOf ("<th>" ++ esc h ++ "</th>") = element "th" (esc h) := fun h =>
    tokensOf_element hHeadOpen (tokensOf_literal rfl) (tokensOf_literal rfl) (esc_plain h)
  simp only [hStart, hBetween, hEnd, hElement, (row_spec numbers _).2]
  rfl

theorem tagsOf_eq (html : String) : tagsOf html = (tokensOf html).filterMap Token.tag? :=
  (filterMap_tokens .data html.toList).symm

theorem tags_element (name text : String) :
    (element name text).filterMap Token.tag? = [startTag name, endTag name] := by
  have hText : (text.toList.map Token.char).filterMap Token.tag? = [] := by
    rw [List.filterMap_map, List.filterMap_eq_nil_iff]
    exact fun _ _ => rfl
  have hStart : Token.tag? (.tag (startTag name)) = some (startTag name) := rfl
  rw [element, List.cons_append, List.filterMap_cons_some hStart, List.filterMap_append, hText]
  rfl

theorem tags_elements (name : String) (texts : List String) :
    (texts.flatMap fun text => element name (esc text)).filterMap Token.tag? =
      (List.replicate texts.length [startTag name, endTag name]).flatten := by
  induction texts with
  | nil => rfl
  | cons text rest ih =>
      rw [List.flatMap_cons, List.filterMap_append, tags_element, ih, List.length_cons,
        List.replicate_succ, List.flatten_cons]

theorem tags_row (row : List String) :
    (rowTokens row).filterMap Token.tag? = rowTags row.length := by
  have hStart : Token.tag? (.tag (startTag "tr")) = some (startTag "tr") := rfl
  rw [rowTokens, List.cons_append, List.filterMap_cons_some hStart, List.filterMap_append,
    tags_elements]
  rfl

theorem tags_table (headers : List String) (rows : List (List String)) :
    (tableTokens headers rows).filterMap Token.tag? =
      tableTags headers.length (rows.map List.length) := by
  have hRows :
      (rows.flatMap rowTokens).filterMap Token.tag? = (rows.map List.length).flatMap rowTags := by
    rw [List.flatMap_map]
    induction rows with
    | nil => rfl
    | cons row rest ih =>
        rw [List.flatMap_cons, List.filterMap_append, tags_row, ih, List.flatMap_cons]
  rw [tableTokens, List.filterMap_append, List.filterMap_append, List.filterMap_append,
    List.filterMap_append, tags_elements, hRows]
  rfl

/-- Outside of its elements, tokens that hold no tag of a name make no difference. -/
theorem contents_skip {name : List Char} {first : List Token}
    (h : ∀ token ∈ first, token.tag?.map Tag.name ≠ some name) (rest : List Token) :
    contents name none (first ++ rest) = contents name none rest := by
  induction first with
  | nil => rfl
  | cons token first ih =>
      rw [List.forall_mem_cons] at h
      have hRest := ih h.2
      cases token with
      | tag tag =>
          have hName : tag.name ≠ name := fun hEq => h.1 (congrArg some hEq)
          rw [List.cons_append, contents, if_pos hName, hRest]
      | char c => simpa [contents] using hRest

theorem contents_elements (name : String) (texts : List String) (rest : List Token) :
    contents name.toList none (texts.flatMap (fun text => element name (esc text)) ++ rest) =
      texts.map (fun text => (esc text).toList) ++ contents name.toList none rest := by
  induction texts with
  | nil => rfl
  | cons text texts ih =>
      have hElement := contents_element name.toList (esc text).toList
        (texts.flatMap (fun text => element name (esc text)) ++ rest)
      rw [ih] at hElement
      simpa [element, startTag, endTag] using hElement

theorem name_of_mem_elements {name : String} {texts : List String} {token : Token}
    (h : token ∈ texts.flatMap fun text => element name (esc text)) :
    token.tag?.map Tag.name = none ∨ token.tag?.map Tag.name = some name.toList := by
  obtain ⟨text, _, hMem⟩ := List.mem_flatMap.mp h
  simp only [element, List.mem_append, List.mem_cons, List.mem_map, List.not_mem_nil,
    or_false] at hMem
  rcases hMem with (rfl | ⟨c, _, rfl⟩) | rfl
  · exact Or.inr rfl
  · exact Or.inl rfl
  · exact Or.inr rfl

theorem name_of_mem_rows {rows : List (List String)} {token : Token}
    (h : token ∈ rows.flatMap rowTokens) :
    token.tag?.map Tag.name ≠ some "th".toList := by
  obtain ⟨row, _, hMem⟩ := List.mem_flatMap.mp h
  simp only [rowTokens, List.mem_append, List.mem_cons, List.not_mem_nil, or_false] at hMem
  rcases hMem with (rfl | hCell) | rfl
  · decide
  · rcases name_of_mem_elements hCell with hName | hName <;> rw [hName] <;> decide
  · decide

theorem contents_rows (rows : List (List String)) (rest : List Token) :
    contents "td".toList none (rows.flatMap rowTokens ++ rest) =
      rows.flatten.map (fun cell => (esc cell).toList) ++ contents "td".toList none rest := by
  induction rows with
  | nil => rfl
  | cons row rows ih =>
      have hStart :
          ∀ later : List Token, contents "td".toList none (.tag (startTag "tr") :: later) =
          contents "td".toList none later := fun later => if_pos (by decide)
      have hEnd : ∀ later : List Token, contents "td".toList none (.tag (endTag "tr") :: later) =
          contents "td".toList none later := fun later => if_pos (by decide)
      rw [List.flatMap_cons, List.append_assoc, rowTokens, List.append_assoc,
        List.cons_append, hStart,
        contents_elements, List.singleton_append, hEnd, ih, List.flatten_cons, List.map_append,
        List.append_assoc]

/-- The cells of a table are the texts between its cell tags. -/
theorem contents_table (headers : List String) (rows : List (List String)) :
    contents "td".toList none (tableTokens headers rows) =
      rows.flatten.map (fun cell => (esc cell).toList) ∧
      contents "th".toList none (tableTokens headers rows) =
        headers.map (fun h => (esc h).toList) := by
  have hHeads : ∀ token ∈ headers.flatMap fun h => element "th" (esc h),
      token.tag?.map Tag.name ≠ some "td".toList := by
    intro token hMem
    rcases name_of_mem_elements hMem with hName | hName <;> rw [hName] <;> decide
  simp only [tableTokens, List.append_assoc]
  constructor
  · rw [contents_skip (by decide), contents_skip hHeads, contents_skip (by decide), contents_rows,
      ← List.append_nil ([endTag "tbody", endTag "table"].map Token.tag), contents_skip (by decide)]
    simp [contents]
  · rw [contents_skip (by decide), contents_elements, contents_skip (by decide),
      contents_skip fun token => name_of_mem_rows,
      ← List.append_nil ([endTag "tbody", endTag "table"].map Token.tag), contents_skip (by decide)]
    simp [contents]

/-- Escaping loses nothing and lets no character of the markup through, and a table of strings
has the tags of its shape, with the strings between them. -/
theorem escapingExact (numbers : Numbers) :
    (∀ s, decode (esc s).toList = s.toList ∧ ∀ c ∈ (esc s).toList, c ∉ ['<', '>', '"', '\'']) ∧
      ∀ (headers : List String) (rows : List (List String)),
        let html := table numbers headers (rows.map fun row => row.map Cell.text)
        tagsOf html = tableTags headers.length (rows.map List.length) ∧
          (contents "td".toList none (tokensOf html)).map decode = rows.flatten.map String.toList ∧
          (contents "th".toList none (tokensOf html)).map decode = headers.map String.toList := by
  refine ⟨fun s => ⟨decode_esc s, esc_free s⟩, fun headers rows => ?_⟩
  have hTokens := tokensOf_table numbers headers rows
  have hDecode : ∀ texts : List String,
      (texts.map fun text => (esc text).toList).map decode = texts.map String.toList := by
    intro texts
    simp only [List.map_map, Function.comp_def, decode_esc]
  obtain ⟨hCells, hHeads⟩ := contents_table headers rows
  refine ⟨?_, ?_, ?_⟩
  · rw [tagsOf_eq, hTokens, tags_table]
  · rw [hTokens, hCells, hDecode]
  · rw [hTokens, hHeads, hDecode]

end NodeDebugDashboard.Frontend.Storage
