import Offside.BlankLine
import Offside.Depth
import Offside.Observer
import Offside.Role

/-! A layout turns the indentation of a text into tokens. Its hooks say which raw tokens indent
and which end lines, how deep a line is, what a blank line contributes, who is told of each line,
and how the tokens are built that carry the layout. `Progress` is how far a text is laid out. -/
namespace Offside

/-- The hooks of a layout. Depths are of type `δ`, observers remember values of type `μ`. -/
structure Layout (δ μ : Type) where
  classify : Classifier
  build : Builder
  depth : DepthRule δ
  blank : BlankRule
  observers : List (Observer μ)
  /-- The base of layout tokens in a text without any raw token. -/
  fallback : Token

/-- The hooks used where none are given. -/
def Layout.standard : Layout Int Memory where
  classify := .byText
  build := .borrow
  depth := .length
  blank := .ignore
  observers := [.consistent]
  fallback := .placeholder

/-- An open level of indentation: its depth, and the margin of the line that opened it. -/
structure Level (δ : Type) where
  depth : δ
  margin : String
deriving DecidableEq, Repr

/-- Which part of a line is being read. -/
inductive Phase where
  /-- The white space at its start. -/
  | margin
  /-- What follows its first ordinary token. -/
  | body
  /-- The text has ended. -/
  | finished
deriving DecidableEq, Repr, Inhabited

/-- How far a text is laid out. -/
structure Progress (δ μ : Type) where
  /-- The open levels, the innermost first. -/
  levels : List (Level δ) := []
  /-- Tokens that are ready to be delivered. -/
  queue : List Token := []
  phase : Phase := .margin
  /-- The last raw token. -/
  last : Option Token := none
  /-- The indentation tokens of the current line. -/
  indentation : List Token := []
  /-- The text of the current line's indentation. -/
  margin : String := ""
  /-- What the observers remember, in their order. -/
  memories : List μ

namespace Progress

variable {δ μ : Type}

/-- Equality, places of tokens left aside. -/
def Agrees (p q : Progress δ μ) : Prop :=
  p.levels = q.levels ∧ p.queue.map Token.face = q.queue.map Token.face ∧ p.phase = q.phase ∧
    p.last.map Token.face = q.last.map Token.face ∧
    p.indentation.map Token.face = q.indentation.map Token.face ∧ p.margin = q.margin ∧
    p.memories = q.memories

instance [DecidableEq δ] [DecidableEq μ] (p q : Progress δ μ) : Decidable (p.Agrees q) :=
  inferInstanceAs (Decidable (_ ∧ _))

end Progress

/-- Nothing is laid out yet. -/
def Layout.fresh {δ μ : Type} (L : Layout δ μ) : Progress δ μ where
  memories := L.observers.map (·.start)

end Offside
