import Offside.Lexicon.Terminal

/-! Lexicons. The terminals of a table are tried in a fixed order, and the first that matches
wins. A fixed text that a pattern matches as a whole is a keyword of that pattern: the pattern is
tried, and a match that is the keyword gets the keyword's name. Such a text is not tried itself,
unless it ignores case and the pattern does not. -/
namespace Offside

/-- A terminal that is tried, and the fixed texts that stand out among its matches. -/
structure Lexicon.Entry where
  terminal : Terminal
  keywords : List Terminal

/-- The terminals of a table, made ready. -/
structure Lexicon where
  /-- What is tried, in this order. -/
  entries : List Lexicon.Entry
  names : List String

/-- Where a piece of text stands. -/
structure Place where
  offset : Nat := 0
  line : Nat := 1
  column : Nat := 1
deriving DecidableEq, Repr

/-- The place after a piece of text, in which line feeds count or do not. -/
def Place.after (countsLines : Bool) (place : Place) (text : List Char) : Place :=
  text.foldl (fun p c =>
    if countsLines && c == '\n' then ⟨p.offset + 1, p.line + 1, 1⟩
    else ⟨p.offset + 1, p.line, p.column + 1⟩) place

namespace Lexicon

/-- Whether a fixed text is a keyword of a pattern. -/
def isKeyword (pattern fixed : Terminal) : Bool :=
  !pattern.isFixed && fixed.isFixed &&
    pattern.pattern.matchLength pattern.ignoreCase fixed.source == some fixed.source.length

/-- What is tried of the given terminals, and in which order. -/
def entriesOf (terminals : List Terminal) : List Entry :=
  let sorted := terminals.mergeSort Terminal.comesBefore
  let implied := fun fixed : Terminal => sorted.any fun pattern =>
    isKeyword pattern fixed && (!fixed.ignoreCase || pattern.ignoreCase)
  (sorted.filter (!implied ·)).map fun terminal =>
    ⟨terminal, sorted.filter (isKeyword terminal)⟩

/-- The lexicon of a table. -/
def ofTable (table : Table) : Except Fault Lexicon := do
  table.check
  let terminals ← table.mapM fun (name, definition) =>
    match Terminal.read? name definition with
    | some terminal => .ok terminal
    | none => .error (.terminalPattern name)
  return { entries := entriesOf terminals, names := table.names }

/-- The terminal that matches at the start of a text, and the length of the match. -/
def firstMatch (L : Lexicon) (s : List Char) : Option (Entry × Nat) :=
  L.entries.findSome? fun entry => (entry.terminal.matchLength s).map (entry, ·)

/-- The name of a match. -/
def Entry.kindOf (entry : Entry) (text : List Char) : String :=
  match entry.keywords.find? (·.matchesAll text) with
  | some keyword => keyword.name
  | none => entry.terminal.name

/-- The token of a match. -/
def Entry.token (entry : Entry) (text : List Char) (start stop : Place) : Token where
  kind := entry.kindOf text
  text := String.ofList text
  span :=
    { start := some start.offset
      line := some start.line
      column := some start.column
      endLine := some stop.line
      endColumn := some stop.column
      stop := some stop.offset }

theorem firstMatch_pos {L : Lexicon} {s : List Char} {entry : Entry} {length : Nat}
    (found : L.firstMatch s = some (entry, length)) : 0 < length := by
  obtain ⟨_, _, found⟩ := List.exists_of_findSome?_eq_some found
  obtain ⟨_, matched, same⟩ := Option.map_eq_some_iff.1 found
  cases same
  simpa using (Option.filter_eq_some_iff.1 matched).2

/-- The tokens of a text that starts at a place, and what goes wrong where they end before the
text does. -/
def scan (L : Lexicon) (place : Place) (s : List Char) : List Token × Option Fault :=
  match s with
  | [] => ([], none)
  | c :: rest =>
    match _found : L.firstMatch (c :: rest) with
    | none => ([], some (.unmatched place.line place.column place.offset c))
    | some (entry, length) =>
      let text := (c :: rest).take length
      let stop := place.after entry.terminal.mayBreakLines text
      let (tokens, fault) := L.scan stop ((c :: rest).drop length)
      (entry.token text place stop :: tokens, fault)
termination_by s.length
decreasing_by
  have := firstMatch_pos _found
  simp only [List.length_drop, List.length_cons]
  omega

end Lexicon

end Offside
