import Offside.Fault
import Offside.Unicode.Word

/-! Tables of terminals: names and patterns in a fixed order, as they stand in the text of a
grammar. A grammar that accepts any sequence of the terminals lists them in its first line and
defines one in each line after it. -/
namespace Offside

/-- Names of terminals and the texts of their patterns. -/
abbrev Table := List (String × String)

namespace Table

/-- Puts a definition into a table. A name that is there keeps its place. -/
def define (table : Table) (name pattern : String) : Table :=
  if table.any (·.1 == name) then
    table.map fun entry => if entry.1 == name then (name, pattern) else entry
  else table ++ [(name, pattern)]

/-- The table of definitions given one after the other. -/
def ofEntries (entries : List (String × String)) : Table :=
  entries.foldl (fun table entry => table.define entry.1 entry.2) []

/-- Words, horizontal white space and line breaks: enough for any text in which every carriage
return comes right before a line feed. -/
def standard : Table := [
  ("WS", "/[ \\t]+/"),
  ("NEWLINE", "/(\\r?\\n)+/"),
  ("WORD", "/[^ \\t\\r\\n]+/")]

/-- The names of the terminals. -/
def names (table : Table) : List String := table.map (·.1)

/-- Whether a text has upper-case letters and no others. -/
def isUpperCase (text : String) : Bool :=
  text.toList.any Unicode.isUpper && !text.toList.any Unicode.isLowerOrTitle

/-- Whether a name may name a terminal: it is in upper case, and letters and numerals are left of
it when its low lines are taken out. -/
def admits (name : String) : Bool :=
  let letters := name.toList.filter (· ≠ '_')
  isUpperCase name && letters ≠ [] && letters.all Unicode.isAlphanumeric

/-- Refuses a table without terminals, or with a name that cannot name one. -/
def check (table : Table) : Except Fault Unit :=
  if table = [] then .error .noTerminals
  else match table.names.find? fun name => !admits name with
    | some name => .error (.terminalName name)
    | none => .ok ()

/-- What the check finds: no terminals, a name that is not admitted, or neither. -/
theorem check_cases (table : Table) :
    (table = [] ∧ table.check = .error .noTerminals) ∨
    (∃ name ∈ table.names, admits name = false ∧ table.check = .error (.terminalName name)) ∨
    (table ≠ [] ∧ (∀ name ∈ table.names, admits name = true) ∧ table.check = .ok ()) := by
  unfold check
  split
  · exact .inl ⟨‹_›, rfl⟩
  · rename_i given
    cases found : table.names.find? fun name => !admits name with
    | some name =>
      have refused := List.find?_some found
      exact .inr (.inl ⟨name, List.mem_of_find?_eq_some found, by simpa using refused, rfl⟩)
    | none =>
      refine .inr (.inr ⟨given, fun name named => ?_, rfl⟩)
      simpa using List.find?_eq_none.1 found name named

/-- The text of the grammar. -/
def grammarText (table : Table) : String :=
  let start := "start: (" ++ " | ".intercalate table.names ++ ")*"
  let definitions := table.map fun (name, pattern) => name ++ ": " ++ pattern
  "\n".intercalate (start :: definitions) ++ "\n"

/-- The grammar of any sequence of the terminals. -/
def grammar (table : Table) : Except Fault String := do
  table.check
  return table.grammarText

end Table

end Offside
