import NodeDebugDashboard.Collectors.Processes
import NodeDebugDashboard.Collectors.Smart
import NodeDebugDashboard.Library.Fields

/-! `/proc/<pid>/stat` as `_collect_processes_sync` of app/collectors/processes.py and
`_still_running` of app/collectors/storage.py read it, against the text that the kernel
writes. -/
namespace NodeDebugDashboard.Collectors.ProcStat

open Library Library.Python Library.Text Smart

/-- `stat_raw.rfind(")")`, for a text that has one. -/
def parenEnd (statRaw : List Char) : Nat := statRaw.length - 1 - statRaw.reverse.idxOf ')'

/-- `after_comm` -/
def afterComm (statRaw : List Char) : List (List Char) :=
  words (statRaw.drop (parenEnd statRaw + 2))

/-- What the collector takes from the file. -/
structure Stat where
  stateChar : List Char
  ppid : Int
  utime : Int
  stime : Int
  starttime : Int
  deriving DecidableEq

/-- The fields behind the name; `none` where the collector skips the process. -/
def readFields (fields : List (List Char)) : Option Stat :=
  if fields.length < 20 then none
  else do
    let ppid ← int? (fields.getD 1 [])
    let utime ← int? (fields.getD 11 [])
    let stime ← int? (fields.getD 12 [])
    let starttime ← int? (fields.getD 19 [])
    return {
      stateChar := fields.getD 0 [], ppid := ppid, utime := utime, stime := stime,
      starttime := starttime }

def parseStat (statRaw : List Char) : Option Stat :=
  if ')' ∈ statRaw then readFields (afterComm statRaw) else none

/-- What `_still_running` compares with `["Z"]`. -/
def stateOf (stat : String) : List (List Char) := (words (lastPart ')' stat).toList).take 1

/-- The fields behind the name, each behind a blank. -/
def tail (fields : List (List Char)) : List Char := fields.flatMap (' ' :: ·)

/-- The text of a process. -/
def statText (pid : Nat) (comm : List Char) (fields : List (List Char)) : List Char :=
  Nat.toDigits 10 pid ++ ' ' :: '(' :: (comm ++ ')' :: tail fields)

section

variable {fields : List (List Char)} {ending : List Char}

theorem tail_cons (field : List Char) (rest : List (List Char)) :
    tail (field :: rest) = ' ' :: (field ++ tail rest) := by
  simp [tail]

theorem words_blank (h : ∀ c ∈ ending, isSpace c = true) : words ending = [] := by
  induction ending with
  | nil => rfl
  | cons c rest ih =>
      rw [List.forall_mem_cons] at h
      have hSplit := words_append_cons h.1 [] rest
      rw [List.nil_append, words_nil, List.nil_append] at hSplit
      rw [hSplit, ih h.2]

/-- A word ends at the blanks behind it, or at the next field. -/
theorem words_word_append {word rest : List Char} (hWord : IsWord word)
    (h : ∀ c ∈ rest.head?, isSpace c = true) :
    words (word ++ rest) = word :: words rest := by
  cases rest with
  | nil => simp [words_of_isWord hWord]
  | cons c rest =>
      have hSpace : isSpace c = true := h c rfl
      have hRest := words_append_cons hSpace [] rest
      rw [List.nil_append, words_nil, List.nil_append] at hRest
      rw [words_append_cons hSpace, words_of_isWord hWord, hRest, List.singleton_append]

theorem words_tail (h : ∀ field ∈ fields, IsWord field) (hEnding : ∀ c ∈ ending, isSpace c = true) :
    words (tail fields ++ ending) = fields := by
  induction fields with
  | nil => exact words_blank hEnding
  | cons field rest ih =>
      rw [List.forall_mem_cons] at h
      have hNext : ∀ c ∈ (tail rest ++ ending).head?, isSpace c = true := by
        cases rest with
        | nil => exact fun c hHead => hEnding c (List.mem_of_mem_head? hHead)
        | cons next rest =>
            intro c hHead
            rw [tail_cons, List.cons_append, List.head?_cons, Option.mem_some_iff] at hHead
            rw [← hHead]
            decide
      have hBlank :=
        words_append_cons (show isSpace ' ' = true by decide) [] (field ++ (tail rest ++ ending))
      rw [List.nil_append, words_nil, List.nil_append] at hBlank
      rw [tail_cons, List.cons_append, List.append_assoc, hBlank, words_word_append h.1 hNext,
        ih h.2]

theorem not_mem_tail (hFields : ∀ field ∈ fields, ')' ∉ field)
    (hEnding : ∀ c ∈ ending, isSpace c = true) :
    ')' ∉ tail fields ++ ending := by
  intro hMem
  rcases List.mem_append.mp hMem with hTail | hEnd
  · obtain ⟨field, hField, hIn⟩ := List.mem_flatMap.mp hTail
    rcases List.mem_cons.mp hIn with hEq | hIn
    · exact absurd hEq (by decide)
    · exact hFields field hField hIn
  · exact absurd (hEnding ')' hEnd) (by decide)

end

/-- The last parenthesis is found from behind. -/
theorem parenEnd_append (front : List Char) {rest : List Char} (h : ')' ∉ rest) :
    parenEnd (front ++ ')' :: rest) = front.length := by
  have hBack : (front ++ ')' :: rest).reverse.idxOf ')' = rest.length := by
    rw [List.reverse_append, List.reverse_cons, List.append_assoc,
      List.idxOf_append_of_notMem (by simpa using h)]
    simp
  rw [parenEnd, hBack, List.length_append, List.length_cons]
  omega

theorem lastPart_append (front : List Char) {rest : List Char} (h : ')' ∉ rest) :
    lastPart ')' (String.ofList (front ++ ')' :: rest)) = String.ofList rest := by
  rw [lastPart, String.toList_ofList, List.splitOn_append_cons_self, List.splitOn_eq_singleton h]
  simp

/-- The name stands between the first and the last parenthesis. -/
theorem command_append [Unicode] {front rest : List Char} (comm : List Char) (hFront : '(' ∉ front)
    (h : ')' ∉ rest) :
    command [] (front ++ '(' :: (comm ++ ')' :: rest)) = '[' :: comm ++ [']'] := by
  have hStart : (front ++ '(' :: (comm ++ ')' :: rest)).idxOf '(' = front.length := by
    rw [List.idxOf_append_of_notMem hFront]
    simp
  have hText : front ++ '(' :: (comm ++ ')' :: rest) = (front ++ '(' :: comm) ++ ')' :: rest := by
    simp
  have hEnd : (front ++ '(' :: (comm ++ ')' :: rest)).length - 1 -
      (front ++ '(' :: (comm ++ ')' :: rest)).reverse.idxOf ')' =
        (front ++ '(' :: comm).length := by
    rw [hText]
    exact parenEnd_append _ h
  have hTake : (front ++ '(' :: (comm ++ ')' :: rest)).take (front ++ '(' :: comm).length = front ++
      '(' :: comm := by
    rw [hText, List.take_left]
  have hDrop : (front ++ '(' :: comm).drop (front.length + 1) = comm := by
    rw [← List.drop_drop, List.drop_left, List.drop_one, List.tail_cons]
  simp only [command, ne_eq, not_true_eq_false, if_false, hStart, hEnd, hTake, hDrop]
  rw [if_pos (by simp)]

theorem afterComm_append (front : List Char) {rest : List Char} (h : ')' ∉ rest) :
    afterComm (front ++ ')' :: ' ' :: rest) = words rest := by
  have hPlain : ')' ∉ ' ' :: rest := by simpa using h
  rw [afterComm, parenEnd_append front hPlain, ← List.drop_drop, List.drop_left]
  rfl

/-- The search for a running process stops at one that is no zombie. -/
theorem anyRunning_cons {F : Type} {host : Host F} {want procRoot pid argv stat : String}
    {rest : List String}
    (hArgv : host.openBytes? (procRoot ++ "/" ++ pid ++ "/cmdline") = some argv)
    (hWant : withoutNuls argv = want)
    (hStat : host.openText (procRoot ++ "/" ++ pid ++ "/stat") = .ok (some stat)) :
    anyRunning host want procRoot (pid :: rest) =
      if stateOf stat = [['Z']] then anyRunning host want procRoot rest else .ok true := by
  rw [anyRunning, hArgv, hStat]
  by_cases hZombie : stateOf stat = [['Z']]
  · rw [if_pos hZombie]
    exact (if_neg (not_not_intro hWant)).trans (if_pos hZombie)
  · rw [if_neg hZombie]
    exact (if_neg (not_not_intro hWant)).trans (if_neg hZombie)

theorem readFields_eq_some {fields : List (List Char)} {stat : Stat}
    (hLength : 20 ≤ fields.length) :
    readFields fields = some stat ↔
      stat.stateChar = fields.getD 0 [] ∧ int? (fields.getD 1 []) = some stat.ppid ∧
      int? (fields.getD 11 []) = some stat.utime ∧ int? (fields.getD 12 []) = some stat.stime ∧
      int? (fields.getD 19 []) = some stat.starttime := by
  obtain ⟨stateChar, ppid, utime, stime, starttime⟩ := stat
  rw [readFields, if_neg (by omega)]
  cases int? (fields.getD 1 []) <;> cases int? (fields.getD 11 []) <;>
    cases int? (fields.getD 12 []) <;>
    cases int? (fields.getD 19 []) <;> simp [eq_comm]

/-- Both readers find the name and the fields behind it, whatever the name. -/
theorem statRoundTrip {F : Type} [Unicode] (pid : Nat) (comm : List Char)
    {fields : List (List Char)} {ending : List Char}
    (hFields : ∀ field ∈ fields, IsWord field ∧ ')' ∉ field) (hLength : 20 ≤ fields.length)
    (hEnding : ∀ c ∈ ending, isSpace c = true) :
    command [] (statText pid comm fields ++ ending) = '[' :: comm ++ [']'] ∧
      afterComm (statText pid comm fields ++ ending) = fields ∧
      (∀ stat, parseStat (statText pid comm fields ++ ending) = some stat ↔
        stat.stateChar = fields.getD 0 [] ∧ int? (fields.getD 1 []) = some stat.ppid ∧
        int? (fields.getD 11 []) = some stat.utime ∧ int? (fields.getD 12 []) = some stat.stime ∧
        int? (fields.getD 19 []) = some stat.starttime) ∧
      stateOf (String.ofList (statText pid comm fields ++ ending)) = [fields.getD 0 []] ∧
      ∀ (host : Host F) (want procRoot name argv : String) (rest : List String),
        host.openBytes? (procRoot ++ "/" ++ name ++ "/cmdline") = some argv →
        withoutNuls argv = want → host.openText (procRoot ++ "/" ++ name ++ "/stat") =
          .ok (some (String.ofList (statText pid comm fields ++ ending))) →
        anyRunning host want procRoot (name :: rest) =
          if fields.getD 0 [] = ['Z'] then anyRunning host want procRoot rest else .ok true := by
  have hWords : words (tail fields ++ ending) = fields :=
    words_tail (fun field hMem => (hFields field hMem).1) hEnding
  have hPlain : ')' ∉ tail fields ++ ending :=
    not_mem_tail (fun field hMem => (hFields field hMem).2) hEnding
  obtain ⟨first, others, rfl⟩ := List.exists_cons_of_length_pos (show 0 < fields.length by omega)
  have hDigits : '(' ∉ Nat.toDigits 10 pid ++ [' '] := by
    intro hMem
    rcases List.mem_append.mp hMem with hIn | hIn
    · exact absurd (Nat.isDigit_of_mem_toDigits (by decide) (by decide) hIn) (by decide)
    · exact absurd hIn (by decide)
  have hCommand := command_append comm hDigits hPlain
  have hText : statText pid comm (first :: others) ++ ending =
      (Nat.toDigits 10 pid ++ ' ' :: '(' :: comm) ++ ')' :: (tail (first :: others) ++ ending) := by
    simp [statText]
  have hAfter : afterComm (statText pid comm (first :: others) ++ ending) = first :: others := by
    have hNext : ')' ∉ first ++ tail others ++ ending := by
      rw [tail_cons] at hPlain
      simpa using hPlain
    have hBlank :=
      words_append_cons (show isSpace ' ' = true by decide) [] (first ++ tail others ++ ending)
    rw [List.nil_append, words_nil, List.nil_append] at hBlank
    have hLine := afterComm_append (Nat.toDigits 10 pid ++ ' ' :: '(' :: comm) hNext
    rw [← hBlank, ← List.cons_append, ← tail_cons, hWords] at hLine
    rw [hText, hLine]
  have hState :
      stateOf (String.ofList (statText pid comm (first :: others) ++ ending)) = [first] := by
    rw [stateOf, hText, lastPart_append _ hPlain, String.toList_ofList, hWords]
    rfl
  refine ⟨by simpa [statText] using hCommand, hAfter, fun stat => ?_, hState, ?_⟩
  · rw [parseStat, if_pos (by simp [statText]), hAfter]
    exact readFields_eq_some hLength
  · intro host want procRoot name argv rest hArgv hWant hStat
    rw [anyRunning_cons hArgv hWant hStat, hState]
    simp

/-- A process whose name looks like the fields of another. -/
theorem statRoundTrip_hostile :
    @stateOf (String.ofList (statText 42 ") Z 1 (".toList (['R'] :: List.replicate 19 ['7']) ++
      ['\n'])) = [['R']] :=
  (@statRoundTrip Unit Unicode.ascii 42 ") Z 1 (".toList (['R'] :: List.replicate 19 ['7']) ['\n']
    (by decide) (by decide)
    (by decide)).2.2.2.1

end NodeDebugDashboard.Collectors.ProcStat
