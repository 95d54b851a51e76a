import Offside.Journal

/-! Observers of lines. An observer is told of every line, in order, and may refuse one. What it
remembers between lines is a value, so a snapshot of a layout can hold it and a later run can
start from it. -/
namespace Offside

/-- Is told of lines, remembers something between them, and may refuse one. -/
structure Observer (μ : Type) where
  /-- What is remembered before the first line. -/
  start : μ
  /-- What is remembered after a line, or why the line is refused. -/
  observe : μ → LineReport → Except Fault μ

/-- What the observers of this library remember. -/
inductive Memory where
  | nothing
  | margin (text : String)
  | count (lines : Nat)
deriving DecidableEq, Repr, Inhabited

namespace Memory

/-- The margin of the last line that was checked. -/
def lastMargin : Memory → String
  | margin text => text
  | _ => ""

/-- The number of lines seen. -/
def lineCount : Memory → Nat
  | count lines => lines
  | _ => 0

end Memory

/-- Margins are comparable when one of them starts with the other. -/
def Comparable (a b : String) : Prop :=
  a.toList <+: b.toList ∨ b.toList <+: a.toList

instance (a b : String) : Decidable (Comparable a b) :=
  inferInstanceAs (Decidable (_ ∨ _))

namespace Observer

/-- Requires the margin of each line to be comparable with that of the line before. A line that a
line break ends before any content is not checked. -/
def consistent : Observer Memory where
  start := .margin ""
  observe memory report :=
    if report.blank then .ok memory
    else if Comparable memory.lastMargin report.margin then .ok (.margin report.margin)
    else .error (.clashingMargins memory.lastMargin report.margin report.breaker)

/-- Counts the lines. -/
def counter : Observer Memory where
  start := .count 0
  observe memory _ := .ok (.count (memory.lineCount + 1))

/-- Only listens. -/
def listener : Observer Memory where
  start := .nothing
  observe _ _ := .ok .nothing

end Observer

end Offside
