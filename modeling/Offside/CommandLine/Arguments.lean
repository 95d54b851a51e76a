import Offside.Text.Numeral

/-! Arguments of the command line. The tool takes the name of one file and some options. Long
options may be shortened to any beginning, and short ones may be written together. A value
follows its option as the next argument or after an equals sign. An argument is a name and no
option when it does not begin with a hyphen, is a hyphen alone, or looks like a negative number
or like several words; after two hyphens alone every argument is a name. -/
namespace Offside.CommandLine

/-- What to do with which file. -/
structure Options where
  file : String := ""
  /-- Log what happens, and count the tokens. -/
  verbose : Bool := false
  /-- The columns that a tab is worth; zero stands for no special treatment of tabs. -/
  tabWidth : Int := 0
  /-- Show an end of line for blank lines too. -/
  blankLines : Bool := false
  /-- Do without the check that the margins of consecutive lines are comparable. -/
  noCheck : Bool := false
deriving DecidableEq, Repr

/-- The options of the tool. -/
inductive Flag where
  | help
  | verbose
  | tabWidth
  | blankLines
  | noCheck
deriving DecidableEq, Repr

/-- The long names of the options. -/
def longNames : List (String × Flag) := [
  ("--help", .help), ("--verbose", .verbose), ("--tab-width", .tabWidth),
  ("--blank-lines", .blankLines), ("--no-check", .noCheck)]

/-- The letters of the options that have one. -/
def letters : List (Char × Flag) := [('h', .help), ('v', .verbose)]

/-- How an argument reads. -/
inductive Reading where
  /-- A name or a value. -/
  | plain
  /-- A long option, with what follows its equals sign. -/
  | long (flag : Flag) (value : Option String)
  /-- Short options written together, and whether a letter follows that is none. -/
  | short (flags : List Flag) (stray : Bool)
  /-- Short options with a sign among them that has no place there. -/
  | malformed
  /-- An option that the tool does not have. -/
  | unknown
  /-- The beginning of several options. -/
  | ambiguous
deriving DecidableEq, Repr

/-- Whether an argument looks like a negative number. -/
def looksNegative (argument : List Char) : Bool :=
  match argument with
  | '-' :: number =>
    let number := if number.getLast? = some '\n' then number.dropLast else number
    match number.dropWhile Unicode.isDecimal with
    | [] => number ≠ []
    | '.' :: fraction => fraction ≠ [] && fraction.all Unicode.isDecimal
    | _ => false
  | _ => false

/-- The part before the first equals sign, and the part after it if there is one. -/
def splitValue (argument : List Char) : List Char × Option String :=
  match argument.dropWhile (· ≠ '=') with
  | _ :: value => (argument.takeWhile (· ≠ '='), some (String.ofList value))
  | [] => (argument, none)

/-- Reads an argument that begins with a hyphen and is no known option. -/
def readOther (argument : List Char) : Reading :=
  if looksNegative argument || argument.contains ' ' then .plain else .unknown

/-- The options that letters stand for, up to a letter that stands for none, and whether there is
one. A hyphen or an equals sign has no place among them. -/
def cluster : List Char → Option (List Flag × Bool)
  | [] => some ([], false)
  | c :: rest =>
    if c = '-' ∨ c = '=' then none
    else match letters.lookup c with
      | none => some ([], true)
      | some flag => (cluster rest).map fun (flags, stray) => (flag :: flags, stray)

/-- Reads an argument. -/
def read (argument : String) : Reading :=
  let chars := argument.toList
  match chars with
  | '-' :: '-' :: _ =>
    let (name, value) := splitValue chars
    match longNames.filter fun entry => name.isPrefixOf entry.1.toList with
    | [(_, flag)] => .long flag value
    | [] => readOther chars
    | _ => .ambiguous
  | '-' :: letter :: more =>
    match letters.lookup letter, cluster more with
    | none, _ => readOther chars
    | some flag, some (flags, stray) => .short (flag :: flags) stray
    | some _, none => .malformed
  | _ => .plain

/-- What the arguments ask for. -/
inductive Request where
  | dump (options : Options)
  | help
  /-- The arguments do not fit together. -/
  | rejected
deriving DecidableEq, Repr

/-- Sets an option that takes no value. -/
def Options.set (options : Options) : Flag → Options
  | .verbose => { options with verbose := true }
  | .blankLines => { options with blankLines := true }
  | .noCheck => { options with noCheck := true }
  | _ => options

/-- What is collected from the arguments so far. -/
structure Collected where
  options : Options := {}
  names : List String := []
  /-- Whether the last argument was an option. -/
  afterOption : Bool := false
  /-- Whether there was an argument that has no place. -/
  strays : Bool := false

/-- Adds options that take no value. -/
def Collected.addFlags (c : Collected) (flags : List Flag) : Collected :=
  { c with options := flags.foldl Options.set c.options, afterOption := true }

/-- Adds the width of a tab. -/
def Collected.addWidth? (c : Collected) (value : String) : Option Collected :=
  (Text.integerValue? value).map fun tabWidth =>
    { c with options := { c.options with tabWidth }, afterOption := true }

/-- Adds a name. -/
def Collected.addName (c : Collected) (name : String) : Collected :=
  { c with names := c.names ++ [name], afterOption := false }

/-- Adds the names after two hyphens alone. These may come before the name of the file or right
after it. -/
def Collected.addLast (c : Collected) (names : List String) : Collected :=
  { c with names := c.names ++ names, strays := c.strays || (c.names ≠ [] && c.afterOption) }

/-- The request of what is collected: exactly one name, and nothing that has no place. -/
def Collected.request (c : Collected) : Request :=
  match c.names, c.strays with
  | [file], false => .dump { c.options with file }
  | _, _ => .rejected

/-- Collects the arguments one after the other. -/
def collect (c : Collected) : List String → Request
  | [] => c.request
  | argument :: rest =>
    if argument = "--" then (c.addLast rest).request
    else match read argument with
    | .plain => collect (c.addName argument) rest
    | .unknown => collect { c with strays := true } rest
    | .ambiguous | .malformed => .rejected
    | .short flags stray =>
      if flags.contains .help then .help
      else collect { c.addFlags flags with strays := c.strays || stray } rest
    | .long .tabWidth (some value) =>
      match c.addWidth? value with
      | some c => collect c rest
      | none => .rejected
    | .long .tabWidth none =>
      match rest with
      | value :: rest =>
        if value = "--" ∨ read value ≠ .plain then .rejected
        else match c.addWidth? value with
          | some c => collect c rest
          | none => .rejected
      | [] => .rejected
    | .long _ (some _) => .rejected
    | .long .help none => .help
    | .long flag none => collect (c.addFlags [flag]) rest

/-- Reads all arguments. One that is ambiguous spoils the others, wherever it stands. -/
def request (arguments : List String) : Request :=
  if (arguments.takeWhile (· ≠ "--")).any (read · = .ambiguous) then .rejected
  else collect {} arguments

end Offside.CommandLine
