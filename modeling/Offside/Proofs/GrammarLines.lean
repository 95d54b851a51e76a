import Offside.Proofs.Listing
import Offside.Proofs.TerminalNames

/-! The lines of a grammar of terminals. The first is the rule that the grammar starts from, with
the names of all terminals between bars; each of the others defines one. What stands between names,
after them and at the ends of lines is in no word, and names are words. So the names are read back
from the first line and the table from the others, as long as no pattern is broken over lines. -/
namespace Offside.Table

open CommandLine (cutAt cutAt_append)

/-- The rule that a grammar starts from: any sequence of the terminals. -/
def startRule (names : List String) : String := "start: (" ++ " | ".intercalate names ++ ")*"

/-- The line that defines a terminal. -/
def definition (entry : String × String) : String := entry.1 ++ ": " ++ entry.2

/-- The names in a first line: what stands between bars after its bracket, less whatever is in no
word. -/
def readNames (line : List Char) : List String :=
  let listed := (cutAt '(' line).2.filter fun c => Unicode.isWord c || c == '|'
  (listed.splitOn '|').map String.ofList

/-- The name and the pattern that a line defines. -/
def readDefinition (line : List Char) : String × String :=
  let (name, pattern) := cutAt ':' line
  (String.ofList name, String.ofList pattern.tail)

/-- The names that a grammar starts from, and the table that it defines. -/
def readGrammar (text : String) : List String × Table :=
  match text.toList.splitOn '\n' with
  | [] => ([], [])
  | start :: definitions => (readNames start, definitions.dropLast.map readDefinition)

/-- No pattern is broken over lines. -/
def OneLine (table : Table) : Prop := ∀ entry ∈ table, '\n' ∉ entry.2.toList

section

variable {α : Type} {mark : List α} {parts : List (List α)}

theorem filter_intercalate (p : α → Bool) (mark : List α) (parts : List (List α)) :
    (mark.intercalate parts).filter p = (mark.filter p).intercalate (parts.map (·.filter p)) := by
  induction parts with
  | nil => rfl
  | cons part parts ih =>
    cases parts with
    | nil => simp
    | cons next parts => simp [ih]

theorem mem_of_mem_intercalate {a : α} (member : a ∈ mark.intercalate parts) :
    a ∈ mark ∨ ∃ part ∈ parts, a ∈ part := by
  induction parts with
  | nil => cases member
  | cons part parts ih =>
    cases parts with
    | nil => exact .inr ⟨part, List.mem_cons_self, by simpa using member⟩
    | cons next parts =>
      rw [List.intercalate_cons_cons, List.append_assoc, List.mem_append, List.mem_append] at member
      rcases member with inside | between | later
      · exact .inr ⟨part, List.mem_cons_self, inside⟩
      · exact .inl between
      · exact (ih later).imp id fun ⟨part, listed, inside⟩ => ⟨part, .tail _ listed, inside⟩

end

/-- Names that are words. -/
def AllWords (names : List String) : Prop := ∀ name ∈ names, ∀ c ∈ name.toList, Unicode.isWord c

variable {table : Table} {names : List String} {entry : String × String} {text : String}

theorem feed_notMem_startRule (words : AllWords names) : '\n' ∉ (startRule names).toList := by
  have listed : '\n' ∉ " | ".toList.intercalate (names.map String.toList) := by
    intro member
    rcases mem_of_mem_intercalate member with blank | ⟨part, listed, feed⟩
    · exact absurd blank (by decide)
    · obtain ⟨name, named, rfl⟩ := List.mem_map.1 listed
      exact absurd (words name named '\n' feed) (by decide)
  simpa [startRule] using listed

theorem feed_notMem_definition (word : ∀ c ∈ entry.1.toList, Unicode.isWord c)
    (single : '\n' ∉ entry.2.toList) : '\n' ∉ (definition entry).toList := by
  have named : '\n' ∉ entry.1.toList := fun feed => absurd (word '\n' feed) (by decide)
  simp [definition, named, single]

theorem readNames_startRule (some : names ≠ []) (words : AllWords names) :
    readNames (startRule names).toList = names := by
  have text : (startRule names).toList = "start: ".toList ++
      '(' :: (" | ".toList.intercalate (names.map String.toList) ++ ")*".toList) := by
    simp [startRule]
  have parts : (names.map String.toList).map
      (·.filter fun c => Unicode.isWord c || c == '|') = names.map String.toList := by
    rw [List.map_map]
    refine List.map_congr_left fun name named => List.filter_eq_self.2 fun c member => ?_
    simp [words name named c member]
  have bars : ∀ part ∈ names.map String.toList, '|' ∉ part := by
    rintro part listed bar
    obtain ⟨name, named, rfl⟩ := List.mem_map.1 listed
    exact absurd (words name named '|' bar) (by decide)
  have between : " | ".toList.filter (fun c => Unicode.isWord c || c == '|') = ['|'] := by decide
  have ending : ")*".toList.filter (fun c => Unicode.isWord c || c == '|') = [] := by decide
  rw [readNames, text, cutAt_append (by decide)]
  dsimp only
  rw [List.filter_append, filter_intercalate, parts, between, ending, List.append_nil,
    List.splitOn_intercalate '|' bars (by simpa using some), List.map_map]
  simp

theorem readDefinition_definition (word : ∀ c ∈ entry.1.toList, Unicode.isWord c) :
    readDefinition (definition entry).toList = entry := by
  have text : (definition entry).toList =
      entry.1.toList ++ ':' :: (' ' :: entry.2.toList) := by
    simp [definition]
  have colon : ':' ∉ entry.1.toList := fun member => absurd (word ':' member) (by decide)
  rw [readDefinition, text, cutAt_append colon]
  simp

/-- The lines of a grammar. Its last line feed ends the last of them. -/
theorem lines_grammarText (oneLine : table.OneLine) (words : AllWords table.names) :
    table.grammarText.toList.splitOn '\n' = (startRule table.names).toList ::
      (table.map fun entry => (definition entry).toList) ++ [[]] := by
  -- The text ends with a line feed, so the cut leaves one more line, with nothing on it.
  have joined : table.grammarText =
      "\n".intercalate (startRule table.names :: table.map definition ++ [""]) := by
    rw [String.intercalate_append_of_ne_nil (List.cons_ne_nil _ _) (List.cons_ne_nil _ _),
      String.intercalate_singleton, String.append_empty]
    rfl
  have single : ∀ line ∈ (startRule table.names :: table.map definition ++ [""]).map
      String.toList, '\n' ∉ line := by
    simp only [List.map_append, List.map_cons, List.forall_mem_append, List.forall_mem_cons,
      List.map_map, List.forall_mem_map]
    exact ⟨⟨feed_notMem_startRule words, fun entry listed => feed_notMem_definition
      (words entry.1 (List.mem_map_of_mem listed)) (oneLine entry listed)⟩, by simp⟩
  rw [joined, String.toList_intercalate]
  refine (List.splitOn_intercalate '\n' single (by simp)).trans ?_
  simp

/-- The text of a grammar tells its table. -/
theorem readGrammar_grammarText (some : table ≠ []) (oneLine : table.OneLine)
    (words : AllWords table.names) : readGrammar table.grammarText = (table.names, table) := by
  have listed : table.names ≠ [] := by simpa [Table.names] using some
  have defined : (table.map fun entry => (definition entry).toList).map readDefinition = table := by
    rw [List.map_map]
    refine (List.map_congr_left fun entry member => ?_).trans (List.map_id table)
    exact readDefinition_definition (words entry.1 (List.mem_map_of_mem member))
  rw [readGrammar, lines_grammarText oneLine words]
  simp only [List.cons_append]
  rw [readNames_startRule listed words, List.dropLast_concat, defined]

/-- A table has no grammar for want of terminals or for one of its names. -/
theorem grammar_eq_error {fault : Fault} (refused : table.grammar = .error fault) :
    (table = [] ∧ fault = .noTerminals) ∨ ∃ name ∈ table.names,
      ¬NamesTerminal name ∧ ¬Overlooked name ∧ fault = .terminalName name := by
  rw [grammar] at refused
  rcases table.check_cases with ⟨none, found⟩ | ⟨name, named, other, found⟩ | ⟨-, -, found⟩
  · rw [found] at refused
    exact .inl ⟨none, (Except.error.inj refused).symm⟩
  · rw [found] at refused
    obtain ⟨nameless, seen⟩ :=
      not_or.1 (mt admits_iff_namesTerminal.2 (ne_true_of_eq_false other))
    exact .inr ⟨name, named, nameless, seen, (Except.error.inj refused).symm⟩
  · rw [found] at refused
    cases refused

/-- A table that has a grammar has terminals, and their names have passed the check. -/
theorem grammar_eq_ok (given : table.grammar = .ok text) :
    table ≠ [] ∧ (∀ name ∈ table.names, NamesTerminal name ∨ Overlooked name) ∧
      text = table.grammarText := by
  rw [grammar] at given
  rcases table.check_cases with ⟨-, found⟩ | ⟨_, -, -, found⟩ | ⟨some, admitted, found⟩
  · rw [found] at given
    cases given
  · rw [found] at given
    cases given
  · rw [found] at given
    refine ⟨some, fun name named => ?_, (Except.ok.inj given).symm⟩
    exact admits_iff_namesTerminal.1 (admitted name named)

theorem allWords_of_passed (passed : ∀ name ∈ names, NamesTerminal name ∨ Overlooked name) :
    AllWords names := fun name named c member =>
  ((admits_iff.1 (admits_iff_namesTerminal.2 (passed name named))).2 c member).1

/-- A grammar is read back as the table that it was made of. -/
theorem readGrammar_of_grammar (oneLine : table.OneLine) (given : table.grammar = .ok text) :
    readGrammar text = (table.names, table) := by
  obtain ⟨some, passed, rfl⟩ := grammar_eq_ok given
  exact readGrammar_grammarText some oneLine (allWords_of_passed passed)

/-- A table is refused when it is empty or one of its names neither names a terminal nor is
overlooked, and for no other reason. Any other has a grammar, which starts with the rule for all
names in their order and goes on with the definition of each entry. Names and table are read back
from it, so no other table has the same grammar. -/
theorem grammar_reads_back (table : Table) (oneLine : table.OneLine) :
    ((∃ fault, table.grammar = .error fault) ↔
      table = [] ∨ ∃ name ∈ table.names, ¬NamesTerminal name ∧ ¬Overlooked name) ∧
    (∀ fault, table.grammar = .error fault → (table = [] ∧ fault = .noTerminals) ∨
      ∃ name ∈ table.names, ¬NamesTerminal name ∧ ¬Overlooked name ∧
        fault = .terminalName name) ∧
    ∀ text, table.grammar = .ok text →
      text.toList.splitOn '\n' = (startRule table.names).toList ::
        (table.map fun entry => (definition entry).toList) ++ [[]] ∧
      readGrammar text = (table.names, table) ∧
      ∀ other : Table, other.OneLine → other.grammar = .ok text → other = table := by
  refine ⟨⟨?_, ?_⟩, fun fault refused => grammar_eq_error refused, fun text given => ?_⟩
  · rintro ⟨fault, refused⟩
    rcases grammar_eq_error refused with ⟨none, -⟩ | ⟨name, named, nameless, seen, -⟩
    · exact .inl none
    · exact .inr ⟨name, named, nameless, seen⟩
  · intro wrong
    cases given : table.grammar with
    | error fault => exact ⟨fault, rfl⟩
    | ok text =>
      obtain ⟨some, passed, -⟩ := grammar_eq_ok given
      obtain ⟨name, named, nameless, seen⟩ := wrong.resolve_left some
      exact absurd (passed name named) (not_or.2 ⟨nameless, seen⟩)
  · have read := readGrammar_of_grammar oneLine given
    refine ⟨?_, read, fun other single also => ?_⟩
    · obtain ⟨-, passed, rfl⟩ := grammar_eq_ok given
      exact lines_grammarText oneLine (allWords_of_passed passed)
    · have again := readGrammar_of_grammar single also
      exact congrArg Prod.snd (again.symm.trans read)

/-- Patterns may hold all that stands between names and after them. -/
theorem grammar_reads_back_separators :
    let table : Table := [("_A1", "/x|y: z/"), ("B", "\"(B | C)*\"")]
    let text := "start: (_A1 | B)*\n_A1: /x|y: z/\nB: \"(B | C)*\"\n"
    table.OneLine ∧ table.grammar = .ok text ∧ readGrammar text = (["_A1", "B"], table) ∧
      ∀ other : Table, other.OneLine → other.grammar = .ok text → other = table := by
  intro table text
  have oneLine : table.OneLine := by simp [OneLine, table]
  have given : table.grammar = .ok text := by cbv
  obtain ⟨-, -, accepted⟩ := grammar_reads_back table oneLine
  obtain ⟨-, read, only⟩ := accepted text given
  exact ⟨oneLine, given, read, only⟩

/-- A name that starts with a digit names no terminal, and a table with it has a grammar all the
same. -/
theorem grammar_of_leading_digit :
    let table : Table := [("1A", "/x/")]
    table.names.Nodup ∧ table.OneLine ∧
      (∃ name ∈ table.names, ¬NamesTerminal name ∧ Overlooked name) ∧
      table.grammar = .ok "start: (1A)*\n1A: /x/\n" := by
  obtain ⟨capital, word⟩ := admits_iff.1 (show admits "1A" from by decide)
  have overlooked : Overlooked "1A" := ⟨capital, word, .inr ⟨'1', ['A'], rfl, .inl rfl⟩⟩
  exact ⟨by decide, by simp [OneLine],
    ⟨"1A", by decide, overlooked.not_namesTerminal, overlooked⟩, by cbv⟩

end Offside.Table
