import Offside.Text.Quoted
import Offside.Unicode.Case

/-! Tokens. A token is a piece of text with a kind and the place where it stands. Tokens agree
when kind and text agree, wherever they stand: comparing snapshots asks for no more. The tokens
that carry a text's layout have no text of their own, so a `Builder` makes them from a base
token, whose place they borrow. -/
namespace Offside

/-- Where a token stands. Offsets count characters from zero, lines and columns from one, and
the end is just past the last character. A part that is not known is absent. -/
structure Span where
  start : Option Int := none
  line : Option Int := none
  column : Option Int := none
  endLine : Option Int := none
  endColumn : Option Int := none
  stop : Option Int := none
deriving DecidableEq, Repr, Inhabited

/-- A piece of text with its kind and place. -/
structure Token where
  kind : String
  text : String
  span : Span := {}
deriving DecidableEq, Repr, Inhabited

namespace Token

/-- What is left of a token when its place is forgotten. -/
def face (token : Token) : String × String := (token.kind, token.text)

/-- Tokens agree when they have the same kind and text. -/
def Agrees (a b : Token) : Prop := a.face = b.face

instance (a b : Token) : Decidable (a.Agrees b) :=
  inferInstanceAs (Decidable (_ = _))

/-- How a message shows a token. -/
def quoted (token : Token) : String :=
  s!"Token({Text.quoted token.kind}, {Text.quoted token.text})"

/-- The base of layout tokens in a text without any tokens: the first column of the first line. -/
def placeholder : Token where
  kind := ""
  text := ""
  span := { start := some 0, line := some 1, column := some 1 }

end Token

/-- The kind of the token that ends a line. -/
def eolKind : String := "eol"

/-- The kind of the token that opens an indented block. -/
def indentKind : String := "indent"

/-- The kind of the token that closes an indented block. -/
def dedentKind : String := "dedent"

/-- The kinds of the tokens that carry the layout. -/
def layoutKinds : List String := [eolKind, indentKind, dedentKind]

/-- Makes a token of a kind and text from a base token. -/
abbrev Builder := (kind text : String) → (base : Token) → Token

namespace Builder

/-- Builds tokens that stand where their base stands. -/
def borrow : Builder := fun kind text base => { kind, text, span := base.span }

/-- Builds as `borrow` does, with the kind in upper case as grammars name their terminals. -/
def upper : Builder := fun kind text base => borrow (Unicode.upperCase kind) text base

/-- Builds tokens without a place. -/
def bare : Builder := fun kind text _ => { kind, text }

/-- Builds as `borrow` does, under another kind where the table has one. -/
def renamed (table : List (String × String)) : Builder := fun kind text base =>
  borrow ((table.lookup kind).getD kind) text base

end Builder

end Offside
