import Offside.Lexicon.Table
import Offside.Pattern.Reader

/-! Terminals. A terminal is defined by a fixed text between quotation marks or by a pattern
between slashes; a letter `i` after either makes it ignore case. In both, a backslash and `n`,
`t`, `r` or `f` stand for one control character. In a fixed text a quotation mark and a backslash
are written after a backslash. -/
namespace Offside

/-- A terminal of a table. -/
structure Terminal where
  name : String
  /-- Whether it is defined by a fixed text. -/
  isFixed : Bool
  /-- The fixed text, or the text of the pattern, with control characters as themselves. -/
  source : List Char
  pattern : Pattern
  ignoreCase : Bool

namespace Terminal

/-- The text between the marks of a definition, with control characters as themselves. Other
escapes stay. -/
def unescape : List Char → Option (List Char)
  | [] => some []
  | '\\' :: 'n' :: rest => ('\n' :: ·) <$> unescape rest
  | '\\' :: 't' :: rest => ('\t' :: ·) <$> unescape rest
  | '\\' :: 'r' :: rest => ('\r' :: ·) <$> unescape rest
  | '\\' :: 'f' :: rest => ('\x0c' :: ·) <$> unescape rest
  | '\\' :: '"' :: rest => ('"' :: ·) <$> unescape rest
  | '\\' :: c :: rest => (fun r => '\\' :: c :: r) <$> unescape rest
  | ['\\'] => none
  | c :: rest => (c :: ·) <$> unescape rest

/-- A fixed text with each pair of backslashes made one. -/
def singleBackslashes : List Char → List Char
  | '\\' :: '\\' :: rest => '\\' :: singleBackslashes rest
  | c :: rest => c :: singleBackslashes rest
  | [] => []

/-- The text between the marks of a definition, the mark, and whether case is ignored. -/
def splitDefinition (definition : List Char) : Option (Char × List Char × Bool) :=
  let (ignoreCase, reversed) := match definition.reverse with
    | 'i' :: rest => (true, rest)
    | rest => (false, rest)
  match definition, reversed with
  | first :: _ :: _, last :: body =>
    if first = last ∧ (first = '"' ∨ first = '/') then
      some (first, body.dropLast.reverse, ignoreCase)
    else none
  | _, _ => none

/-- Reads the definition of a terminal. -/
def read? (name definition : String) : Option Terminal := do
  let (mark, body, ignoreCase) ← splitDefinition definition.toList
  let source ← unescape body
  if source = [] then none
  else if mark = '"' then
    let text := singleBackslashes source
    return ⟨name, true, text, Pattern.text text, ignoreCase⟩
  else
    let pattern ← Pattern.read? source
    return ⟨name, false, source, pattern, ignoreCase⟩

/-- The length of the match of a terminal at the start of a text. An empty match is none. -/
def matchLength (terminal : Terminal) (s : List Char) : Option Nat :=
  (terminal.pattern.matchLength terminal.ignoreCase s).filter (0 < ·)

/-- Whether a terminal can match a text as a whole. -/
def matchesAll (terminal : Terminal) (s : List Char) : Bool :=
  terminal.pattern.matchesAll terminal.ignoreCase s

/-- Whether a text contains another. -/
def occursIn (part : List Char) : List Char → Bool
  | [] => part.isEmpty
  | c :: rest => part.isPrefixOf (c :: rest) || occursIn part rest

/-- Whether tokens of a terminal may hold line breaks, told by its definition: a line feed,
something that can be one, or a negated set. -/
def mayBreakLines (terminal : Terminal) : Bool :=
  let signs := if terminal.isFixed then ["\n", "\\n", "\\s"] else ["\n", "\\n", "\\s", "[^"]
  signs.any fun sign => occursIn sign.toList terminal.source

/-- Whether one terminal is tried before another: the one that can match more, then the one with
the longer definition, then the one whose name comes first. -/
def comesBefore (a b : Terminal) : Bool :=
  match a.pattern.maxWidth, b.pattern.maxWidth with
  | none, some _ => true
  | some _, none => false
  | some m, some n => if m = n then tie else n < m
  | none, none => tie
where
  /-- The order of terminals that can match equally much. -/
  tie : Bool :=
    if a.source.length = b.source.length then a.name ≤ b.name
    else b.source.length < a.source.length

end Terminal

end Offside
