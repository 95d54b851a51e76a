import Offside.Pattern.Basic

/-! Reading patterns. A pattern is read in one pass, a character at a time: `Reader` holds the
groups that are open and what the next character can mean. Characters stand for themselves,
except for the dot (any character of a line), classes in square brackets, the escapes for words,
digits and white space, groups in parentheses, the bar between choices, and the marks that repeat
the item before them: the question mark, the star, the plus and bounds in braces. A brace that
opens no bounds stands for itself. Anchors and other kinds of group are not read. -/
namespace Offside.Pattern

/-- A group that is being read: the choices before the current one, and the items of the current
one, both the last first. -/
structure Group where
  choices : List Pattern := []
  items : List Pattern := []

/-- The pattern of a group. -/
def Group.pattern (group : Group) : Pattern :=
  match (all group.items.reverse :: group.choices).reverse with
  | [] => empty
  | first :: rest => choice first rest

/-- A set in square brackets that is being read. -/
structure OpenSet where
  negated : Bool := false
  /-- Whether a bracket would still stand for itself, as it does right after the opening. -/
  atStart : Bool := true
  /-- The classes that are read, the last first. -/
  classes : List CharClass := []
  /-- The class before, which may turn out to begin a range if it is a character. -/
  low : Option CharClass := none
  /-- Whether a hyphen follows that class. -/
  hyphen : Bool := false
  /-- Whether a backslash comes before the next character. -/
  escaped : Bool := false

/-- What the next character can mean. -/
inductive Mode where
  /-- An item, or a mark that repeats the item before if there is one that may be repeated. -/
  | item (repeatable : Bool)
  /-- The character after a backslash. -/
  | escaped
  /-- The character after an opening parenthesis. -/
  | opened
  /-- The character after an opening parenthesis and a question mark. -/
  | unnamed
  /-- The first character of a set, which may negate it. -/
  | setStart
  /-- A later character of a set. -/
  | set (set : OpenSet)
  /-- A character of bounds, after those given, the last first. They may repeat the item before,
  or not. -/
  | bounds (repeatable : Bool) (read : List Char)

/-- Where the reading of a pattern stands. -/
structure Reader where
  group : Group := {}
  /-- The groups around the current one, the innermost first. -/
  outer : List Group := []
  mode : Mode := .item false

/-- The character that a backslash and this character stand for, unless it names a class. -/
def escapedChar? (c : Char) : Option Char :=
  match c with
  | 'n' => some '\n'
  | 't' => some '\t'
  | 'r' => some '\r'
  | 'f' => some '\x0c'
  | 'v' => some '\x0b'
  | 'a' => some '\x07'
  | c => if c.isAlphanum then none else some c

/-- The class that a backslash and this character name. -/
def escapedClass? (c : Char) : Option CharClass :=
  match c with
  | 'w' => some .word
  | 'd' => some .digit
  | 's' => some .space
  | 'W' => some .nonWord
  | 'D' => some .nonDigit
  | 'S' => some .nonSpace
  | _ => none

namespace OpenSet

/-- The classes with what may have been the start of a range. -/
def flushed (set : OpenSet) : List CharClass :=
  set.low.toList ++ set.classes

/-- Adds a class. After a hyphen it ends a range, which has to be one of characters in order. -/
def add (set : OpenSet) (last : CharClass) : Option OpenSet :=
  if set.hyphen then
    match set.low, last with
    | some (.single low), .single high =>
      if high < low then none
      else some
        { set with classes := .range low high :: set.classes, low := none, hyphen := false }
    | _, _ => none
  else some { set with classes := set.flushed, low := some last }

/-- Reads a character inside the brackets. -/
def step (set : OpenSet) (c : Char) : Option OpenSet :=
  let next := { set with atStart := false, escaped := false }
  if set.escaped then
    match escapedClass? c with
    | some named => next.add named
    | none => escapedChar? c >>= fun c => next.add (.single c)
  else if c = '\\' then some { next with escaped := true }
  else if c = '-' ∧ set.low.isSome ∧ ¬ set.hyphen then some { next with hyphen := true }
  else next.add (.single c)

/-- The set when its closing bracket is read. A hyphen that ends no range stands for itself. -/
def close (set : OpenSet) : CharSet where
  classes := ((if set.hyphen then [CharClass.single '-'] else []) ++ set.flushed).reverse
  negated := set.negated

end OpenSet

/-- The bounds that a text between braces gives, if it gives any. -/
def bounds? (read : List Char) : Option (Nat × Option Nat) :=
  let number := fun digits : List Char => (String.ofList digits).toNat?
  let least := read.takeWhile (· ≠ ',')
  match read.dropWhile (· ≠ ',') with
  | [] => (number least).map fun n => (n, some n)
  | _ :: most => do
    let low ← if least = [] then some 0 else number least
    if most = [] then return (low, none)
    return (low, some (← number most))

namespace Reader

/-- Adds an item to the current choice. -/
def push (reader : Reader) (item : Pattern) : Reader :=
  { reader with
    group := { reader.group with items := item :: reader.group.items }
    mode := .item true }

/-- Repeats the last item. -/
def repeated (reader : Reader) (least : Nat) (most : Option Nat) : Option Reader :=
  match reader.group.items with
  | [] => none
  | last :: items =>
    if most.any (· < least) then none
    else some
      { reader with
        group := { reader.group with items := .many last least most :: items }
        mode := .item false }

/-- Adds items for a brace that opens no bounds, and for what was read after it. -/
def pushBrace (reader : Reader) (read : List Char) : Reader :=
  ('{' :: read.reverse).foldl (fun r c => r.push (char c)) reader

/-- Reads a character that begins an item, or a mark that repeats the item before. -/
def stepItem (reader : Reader) (repeatable : Bool) (c : Char) : Option Reader :=
  match c with
  | '\\' => some { reader with mode := .escaped }
  | '[' => some { reader with mode := .setStart }
  | '(' => some { reader with mode := .opened }
  | ')' =>
    match reader.outer with
    | [] => none
    | around :: outer => some ({ reader with group := around, outer }.push reader.group.pattern)
  | '|' => some
    { reader with
      group := { choices := all reader.group.items.reverse :: reader.group.choices }
      mode := .item false }
  | '.' => some (reader.push any)
  | '*' => if repeatable then reader.repeated 0 none else none
  | '+' => if repeatable then reader.repeated 1 none else none
  | '?' => if repeatable then reader.repeated 0 (some 1) else none
  | '{' => some { reader with mode := .bounds repeatable [] }
  | '^' | '$' => none
  | c => some (reader.push (char c))

/-- Opens a group. -/
def openGroup (reader : Reader) : Reader :=
  { group := {}, outer := reader.group :: reader.outer, mode := .item false }

/-- Reads one character. -/
def step (reader : Reader) (c : Char) : Option Reader :=
  match reader.mode with
  | .item repeatable => reader.stepItem repeatable c
  | .escaped =>
    match escapedClass? c with
    | some named => some (reader.push (one { classes := [named] }))
    | none => (escapedChar? c).map fun c => reader.push (char c)
  | .opened =>
    if c = '?' then some { reader with mode := .unnamed } else reader.openGroup.stepItem false c
  | .unnamed => if c = ':' then some reader.openGroup else none
  | .setStart =>
    if c = '^' then some { reader with mode := .set { negated := true } }
    else (OpenSet.step {} c).map fun set => { reader with mode := .set set }
  | .set set =>
    if c = ']' ∧ ¬ set.atStart ∧ ¬ set.escaped then some (reader.push (one set.close))
    else (set.step c).map fun set => { reader with mode := .set set }
  | .bounds repeatable read =>
    if c.isDigit || c == ',' then some { reader with mode := .bounds repeatable (c :: read) }
    else
      match if c = '}' ∧ read ≠ [] then bounds? read.reverse else none with
      | some (least, most) => if repeatable then reader.repeated least most else none
      | none => (reader.pushBrace read).stepItem true c

/-- The pattern when all is read. -/
def finish (reader : Reader) : Option Pattern :=
  match reader.mode, reader.outer with
  | .item _, [] => some reader.group.pattern
  | .bounds _ read, [] => some (reader.pushBrace read).group.pattern
  | _, _ => none

end Reader

/-- Reads a pattern. -/
def read? (source : List Char) : Option Pattern :=
  source.foldlM Reader.step {} >>= Reader.finish

end Offside.Pattern
