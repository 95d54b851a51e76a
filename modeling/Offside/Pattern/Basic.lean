import Offside.Unicode.Case
import Offside.Unicode.Decimal
import Offside.Unicode.Space
import Offside.Unicode.Word

/-! Patterns and what they match. A pattern is tried at the start of a text. Choices are tried in
order and repetitions as often as they can be, and what comes after may ask for the next
possibility; the first way that works out is the match. A match is given by its length. -/
namespace Offside

/-- Characters that a pattern names together. -/
inductive CharClass where
  | single (c : Char)
  | range (first last : Char)
  | word
  | digit
  | space
  | nonWord
  | nonDigit
  | nonSpace
deriving DecidableEq, Repr

/-- Whether a character is in a class. -/
def CharClass.contains : CharClass → Char → Bool
  | single c, x => x == c
  | range first last, x => first ≤ x && x ≤ last
  | word, x => Unicode.isWord x
  | digit, x => Unicode.isDecimal x
  | space, x => Unicode.isSpace x
  | nonWord, x => !Unicode.isWord x
  | nonDigit, x => !Unicode.isDecimal x
  | nonSpace, x => !Unicode.isSpace x

/-- The characters in some of the classes, or those in none of them. -/
structure CharSet where
  classes : List CharClass
  negated : Bool := false
deriving DecidableEq, Repr

/-- Whether a character is in a set. When case is ignored, a class has a character as soon as it
has one that is the same up to case. -/
def CharSet.contains (ignoreCase : Bool) (set : CharSet) (c : Char) : Bool :=
  let listed := fun x => set.classes.any (·.contains x)
  (if ignoreCase then (Unicode.caseVariants c).any listed else listed c) != set.negated

/-- A pattern for pieces of text. -/
inductive Pattern where
  /-- Matches the empty text. -/
  | empty
  /-- Matches one character of a set. -/
  | one (set : CharSet)
  /-- Matches one pattern and then the other. -/
  | seq (first second : Pattern)
  /-- Matches the first pattern or else the second. -/
  | alt (first second : Pattern)
  /-- Matches a pattern several times in a row, within bounds. -/
  | many (body : Pattern) (least : Nat) (most : Option Nat)
deriving DecidableEq, Repr

namespace Pattern

/-- Matches this character. -/
def char (c : Char) : Pattern := one { classes := [.single c] }

/-- Matches any character of a line. -/
def any : Pattern := one { classes := [.single '\n'], negated := true }

/-- Matches several patterns in a row. -/
def all : List Pattern → Pattern
  | [] => empty
  | [p] => p
  | p :: q :: rest => seq p (all (q :: rest))

/-- Matches the first of several patterns that will do. -/
def choice (first : Pattern) : List Pattern → Pattern
  | [] => first
  | second :: rest => alt first (choice second rest)

/-- Matches this text. -/
def text (chars : List Char) : Pattern := all (chars.map char)

/-- The length of the longest text that a pattern can match, if there is a longest one. -/
def maxWidth : Pattern → Option Nat
  | empty => some 0
  | one _ => some 1
  | seq p q => do return (← p.maxWidth) + (← q.maxWidth)
  | alt p q => do return max (← p.maxWidth) (← q.maxWidth)
  | many p _ most =>
    if p.maxWidth = some 0 ∨ most = some 0 then some 0
    else do return (← p.maxWidth) * (← most)

/-- A way to match a text, before which some characters are matched already, and to go on with the
number that is matched then and what is left. The answer is the number that is matched in all. -/
abbrev Matcher := Nat → List Char → (Nat → List Char → Option Nat) → Option Nat

/-- Matches a number of times. -/
def times (step : Matcher) : Nat → Matcher
  | 0 => fun n s next => next n s
  | count + 1 => fun n s next => step n s fun m r => times step count m r next

/-- Matches as often as it goes, up to a bound. A round that matches nothing is the last one, so no
more rounds are needed than the text has characters; the first argument counts them out. -/
def greedy (step : Matcher) : List Char → Option Nat → Matcher
  | [], _ => fun n s next => next n s
  | _ :: rounds, most => fun n s next =>
    if most = some 0 then next n s
    else
      let again := fun m r =>
        if n < m then greedy step rounds (most.map (· - 1)) m r next else next m r
      match step n s again with
      | some length => some length
      | none => next n s

/-- Matches a pattern at the start of a text and goes on with what is left. -/
def run (ignoreCase : Bool) : Pattern → Matcher
  | empty => fun n s next => next n s
  | one set => fun n s next =>
    match s with
    | c :: rest => if set.contains ignoreCase c then next (n + 1) rest else none
    | [] => none
  | seq p q => fun n s next => p.run ignoreCase n s fun m r => q.run ignoreCase m r next
  | alt p q => fun n s next =>
    match p.run ignoreCase n s next with
    | some length => some length
    | none => q.run ignoreCase n s next
  | many p least most => fun n s next =>
    let step := p.run ignoreCase
    times step least n s fun m r => greedy step r (most.map (· - least)) m r next

/-- The length of the match at the start of a text. -/
def matchLength (ignoreCase : Bool) (p : Pattern) (s : List Char) : Option Nat :=
  p.run ignoreCase 0 s fun n _ => some n

/-- Whether a pattern can match a text as a whole. -/
def matchesAll (ignoreCase : Bool) (p : Pattern) (s : List Char) : Bool :=
  (p.run ignoreCase 0 s fun n r => if r.isEmpty then some n else none).isSome

end Pattern

end Offside
