import Offside.CommandLine.Arguments
import Offside.Layout.Source
import Offside.Lexicon.Source
import Offside.Text.Utf8

/-! The listing of a file's tokens, a token a line, with the layout made visible. A fault ends
the listing with a line of its own. -/
namespace Offside.CommandLine

/-- What is found under the name of a file. -/
inductive FileContent where
  | missing
  /-- It is there and cannot be read, for a reason with a number. -/
  | unreadable (code : Nat) (reason : String)
  | bytes (bytes : List UInt8)

/-- What the tool leaves behind. -/
structure Report where
  exitCode : Nat
  output : String
  log : String
deriving DecidableEq, Repr

/-- Lines, each with its end. -/
def unlines (lines : List String) : String :=
  String.join (lines.map (· ++ "\n"))

/-- Where bytes are no text, in words. -/
def utf8Message (error : Text.Utf8Error) : String :=
  let subject :=
    if error.width = 1 then
      s!"byte 0x{String.ofList (Text.hexDigits 2 error.byte.toNat)} in position {error.position}"
    else s!"bytes in position {error.position}-{error.position + error.width - 1}"
  s!"'utf-8' codec can't decode {subject}: {error.flaw.message}"

/-- The line of a token. -/
def tokenLine (token : Token) : String :=
  s!"{Event.lineText token.span.line}:{Event.lineText token.span.column} {token.kind} " ++
    Text.quoted token.text

/-- The line of a log entry. -/
def logLine (entry : String) : String :=
  s!"indentify.lexer: {entry}"

/-- The line that ends a listing which cannot go on. -/
def errorLine (message : String) : String :=
  s!"Error: {message}"

/-- A report of an error that comes before any token. -/
def failure (message : String) : Report :=
  ⟨1, unlines [errorLine message], ""⟩

/-- The layout that the options ask for. -/
def layout (options : Options) : Except Fault (Layout Int Memory) := do
  let depth ← if options.tabWidth = 0 then .ok .length else DepthRule.tabs options.tabWidth
  return { Layout.standard with
    depth
    blank := if options.blankLines then .eol none else .ignore
    observers := if options.noCheck then [] else [.consistent] }

/-- Lists the tokens of a text. -/
def list (options : Options) (S : Source) (text : String) : Report :=
  let reading := S.read text
  let tokens := reading.tokens.map tokenLine
  let ending := match reading.fault with
    | some fault => [errorLine fault.message]
    | none => if options.verbose then [s!"Tokens: {reading.tokens.length}"] else []
  let log := if options.verbose then reading.notes.filterMap (·.event.logEntry?) else []
  ⟨if reading.fault.isSome then 1 else 0, unlines (tokens ++ ending), unlines (log.map logLine)⟩

/-- Lists the tokens of a file. -/
def dump (options : Options) (content : FileContent) : Report :=
  match content with
  | .missing => failure s!"File '{options.file}' not found"
  | .unreadable code reason => failure s!"[Errno {code}] {reason}: {Text.quoted options.file}"
  | .bytes bytes =>
    match Text.decodeUtf8 bytes with
    | .error error => failure (utf8Message error)
    | .ok chars =>
      match layout options, Lexicon.ofTable Table.standard with
      | .error fault, _ | _, .error fault => failure fault.message
      | .ok L, .ok lexicon =>
        list options (L.source lexicon.source) (String.ofList (Text.unifyBreaks chars))

end Offside.CommandLine
