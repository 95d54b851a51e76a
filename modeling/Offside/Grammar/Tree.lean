import Offside.Token

/-! Parse trees. A node stands where its parts stand: it begins with the first of them and ends
with the last, nodes without a place left aside. -/
namespace Offside

/-- A parse tree: tokens at the leaves, rules at the nodes. -/
inductive Tree where
  | leaf (token : Token)
  | node (rule : String) (children : List Tree)
deriving Inhabited

namespace Tree

/-- The place from the beginning of one place to the end of another. -/
def spanTo (first last : Span) : Span :=
  { first with endLine := last.endLine, endColumn := last.endColumn, stop := last.stop }

mutual

/-- Where a tree stands. A node without any token has no place. -/
def span? : Tree → Option Span
  | leaf token => some token.span
  | node _ children =>
    match spans children with
    | [] => none
    | first :: rest => some (spanTo first ((first :: rest).getLast (by simp)))

/-- Where the trees of a list stand, those without a place left out. -/
def spans : List Tree → List Span
  | [] => []
  | tree :: trees =>
    match span? tree with
    | some span => span :: spans trees
    | none => spans trees

end

end Tree

end Offside
