import Offside.Fault
import Offside.Grammar.Tree

/-! Grammars of texts made of entries. An entry is a line, its heading, and for some kinds of
entry a block of further entries, indented more deeply. Such a grammar is read with one token in
view: the tokens of a heading tell the kind of the entry, an opening token begins the block of
the entry before it, and a closing token ends the innermost block. `Parser` holds the blocks that
are open and what may come next, and refuses the first token with which no text of the grammar
goes on. -/
namespace Offside

/-- Whether an entry has a block. -/
inductive BlockRule where
  | never
  | optional
  | always
deriving DecidableEq, Repr

/-- A kind of entry. -/
structure Form where
  /-- The rule that names the entry in a parse tree. -/
  rule : String
  /-- The kinds of the tokens before the end of the heading. -/
  heading : List String
  /-- Whether the last of these may come several times. -/
  repeats : Bool
  block : BlockRule
deriving DecidableEq, Repr

/-- A grammar of entries. -/
structure Grammar where
  forms : List Form
  /-- Whether an end of line may stand where an entry may. -/
  blanks : Bool
  /-- Whether a text may be without entries. -/
  mayBeEmpty : Bool
deriving DecidableEq, Repr

namespace Form

/-- Whether a heading, given by its last kinds, can go on from these kinds. -/
def fits (repeats : Bool) : List String → List String → Bool
  | _, [] => true
  | [], _ :: _ => false
  | [last], kind :: kinds => last == kind && (kinds.isEmpty || repeats && kinds.all (· == last))
  | next :: rest, kind :: kinds => next == kind && fits repeats rest kinds

/-- Whether a heading of this form can begin with these kinds. -/
def begins (form : Form) (kinds : List String) : Bool :=
  fits form.repeats form.heading kinds

/-- Whether these kinds are a whole heading of this form. -/
def completes (form : Form) (kinds : List String) : Bool :=
  form.begins kinds && form.heading.length ≤ kinds.length

end Form

namespace Grammar

/-- The kind of the token that ends a line, as grammars name it. -/
def eol : String := "EOL"

/-- The kind of the token that opens a block, as grammars name it. -/
def indent : String := "INDENT"

/-- The kind of the token that closes a block, as grammars name it. -/
def dedent : String := "DEDENT"

/-- The rule of a whole text. -/
def startRule : String := "start"

/-- Statements of one word. A colon after the word announces a block. -/
def blocks : Grammar where
  forms := [⟨"simple", ["WORD"], false, .never⟩, ⟨"block", ["WORD", "COLON"], false, .always⟩]
  blanks := false
  mayBeEmpty := true

/-- Statements as in `blocks`, with ends of line between them. -/
def blankBlocks : Grammar := { blocks with blanks := true }

/-- Items of one word or more, with items beneath them. -/
def outline : Grammar where
  forms := [⟨"item", ["WORD"], true, .optional⟩]
  blanks := false
  mayBeEmpty := false

end Grammar

/-- An entry whose block is open: the entries before it, the last first, and what was read of the
entry before its block. -/
structure OpenEntry where
  before : List Tree
  rule : String
  heading : List Tree

/-- What the next token can belong to. -/
inductive Expectation where
  /-- A new entry, or the end of the block. -/
  | entry
  /-- A heading that began with these tokens. -/
  | heading (read : List Token)
  /-- The block of an entry whose heading is read. -/
  | block (form : Form) (read : List Token)

/-- Where the reading of a text stands. -/
structure Parser where
  /-- The entries around the current block, the innermost first. -/
  outer : List OpenEntry := []
  /-- The entries of the current block, the last first. -/
  entries : List Tree := []
  expects : Expectation := .entry

namespace Parser

/-- Adds an entry to the current block. -/
def add (parser : Parser) (entry : Tree) : Parser :=
  { parser with entries := entry :: parser.entries, expects := .entry }

/-- Goes on with a heading, if one of the forms does. -/
def goOn (G : Grammar) (parser : Parser) (read : List Token) : Option Parser :=
  if G.forms.any (·.begins (read.map (·.kind))) then
    some { parser with expects := .heading read }
  else none

/-- Reads a token at which an entry may begin. -/
def stepEntry (G : Grammar) (parser : Parser) (token : Token) : Option Parser :=
  if token.kind = Grammar.eol then
    if G.blanks then some (parser.add (.leaf token)) else none
  else if token.kind = Grammar.dedent then
    match parser.outer, parser.entries with
    | entry :: outer, _ :: _ =>
      let children := entry.heading ++ parser.entries.reverse ++ [.leaf token]
      some { outer, entries := .node entry.rule children :: entry.before }
    | _, _ => none
  else parser.goOn G [token]

/-- Reads a token. -/
def step (G : Grammar) (parser : Parser) (token : Token) : Option Parser :=
  match parser.expects with
  | .entry => parser.stepEntry G token
  | .heading read =>
    if token.kind = Grammar.eol then
      match G.forms.find? (·.completes (read.map (·.kind))) with
      | none => none
      | some form =>
        let read := read ++ [token]
        if form.block = .never then some (parser.add (.node form.rule (read.map .leaf)))
        else some { parser with expects := .block form read }
    else parser.goOn G (read ++ [token])
  | .block form read =>
    if token.kind = Grammar.indent then
      some
        { outer := ⟨parser.entries, form.rule, (read ++ [token]).map .leaf⟩ :: parser.outer }
    else if form.block = .optional then
      (parser.add (.node form.rule (read.map .leaf))).stepEntry G token
    else none

/-- The tree of the whole text, if it may end here. -/
def finish (G : Grammar) (parser : Parser) : Option Tree :=
  let whole := fun entries : List Tree =>
    if entries = [] ∧ ¬ G.mayBeEmpty then none else some (.node Grammar.startRule entries.reverse)
  match parser.outer, parser.expects with
  | [], .entry => whole parser.entries
  | [], .block form read =>
    if form.block = .optional then
      whole (.node form.rule (read.map .leaf) :: parser.entries)
    else none
  | _, _ => none

end Parser

namespace Grammar

/-- The token that stands for the end of the text. It stands where the last token stands, or at the
beginning when there is no last token or it has no text. -/
def endToken (last : Option Token) : Token :=
  { (last.filter (·.text ≠ "")).getD .placeholder with kind := "$END", text := "" }

/-- Reads tokens from a point on; the last token before them is given. A token that does not fit
is reported before a fault that comes after it. -/
def parseFrom (G : Grammar) (fault : Option Fault) :
    Parser → Option Token → List Token → Except Fault Tree
  | parser, last, [] =>
    match fault with
    | some fault => .error fault
    | none =>
      match parser.finish G with
      | some tree => .ok tree
      | none => .error (.unexpected (endToken last))
  | parser, _, token :: tokens =>
    match parser.step G token with
    | some parser => parseFrom G fault parser (some token) tokens
    | none => .error (.unexpected token)

end Grammar

end Offside
