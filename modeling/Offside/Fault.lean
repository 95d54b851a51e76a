import Offside.Datum
import Offside.Token

/-! What can go wrong, by cause, and the words for it. -/
namespace Offside

/-- Why a text could not be laid out, or a lexer could not be set up. -/
inductive Fault where
  /-- The classifier gave an answer that names no role. -/
  | unknownRole (answer : Datum) (token : Option Token)
  /-- A line is less deep than the one before it and as deep as no open level. -/
  | strayDedent (token : Option Token) (depth : Datum)
  /-- Neither of the margins of two consecutive lines starts with the other. -/
  | clashingMargins (previous current : String) (token : Option Token)
  /-- No terminal matches at a position of the text. -/
  | unmatched (line column position : Nat) (char : Char)
  /-- No sentence of the grammar goes on with this token. -/
  | unexpected (token : Token)
  /-- There is no source of raw tokens. -/
  | noSource
  /-- A tab is worth less than one column. -/
  | tabWidth (width : Int)
  /-- A table of terminals is empty. -/
  | noTerminals
  /-- A terminal has a name that is not in upper case. -/
  | terminalName (name : String)
  /-- A terminal has a pattern that cannot be read. -/
  | terminalPattern (name : String)
  /-- A saved count is larger than the number of tokens. -/
  | pastEnd (count available : Nat)
  /-- A saved count is no count. -/
  | badCount
deriving Inhabited

namespace Fault

/-- The line of a token, in the words of a message that may have none. -/
def place (token : Option Token) : String :=
  match token.bind (·.span.line) with
  | some line => s!" at line {line}"
  | none => ""

/-- The words for a fault. -/
def message : Fault → String
  | unknownRole answer token =>
    "control_token_recognizer() returned an unknown type. Must be None, \"indent\", or " ++
      s!"\"newline\". Was: {answer.shown}. Failed on token: " ++
      (token.elim Datum.null.shown Token.quoted) ++ "."
  | strayDedent token depth =>
    s!"Inconsistent indent{place token}: depth {depth.shown} does not match any enclosing " ++
      "indentation level."
  | clashingMargins previous current _ =>
    s!"Inconsistent indent: {Text.quoted current} and the previous line's " ++
      s!"{Text.quoted previous} are not prefixes of one another."
  | unmatched line column _ char =>
    s!"No terminal matches {Text.quoted char.toString} at line {line} col {column}"
  | unexpected token => s!"Unexpected token {token.quoted}"
  | noSource => "base_lexer parameter is required"
  | tabWidth width => s!"tab_width must be positive, got {width}"
  | noTerminals => "at least one terminal is required"
  | terminalName name => s!"terminal names must be upper case, got {Text.quoted name}"
  | terminalPattern name => s!"the pattern of {name} cannot be read"
  | pastEnd count available =>
    s!"saved state is past the end of the chunk ({count} > {available} tokens)"
  | badCount =>
    "Stop argument for islice() must be None or an integer: 0 <= x <= sys.maxsize."

end Fault

end Offside
