import Offside.Token

/-! What a blank line contributes. The rule is asked with the line break that ends the line, or
with no token for the blank line at the end of the text. It may use the builder of the layout and
the last raw token; a rule used outside a layout is given the plain builder and no last token. -/
namespace Offside

/-- The tokens that a blank line contributes. -/
abbrev BlankRule := (build : Builder) → (last : Option Token) → Option Token → List Token

namespace BlankRule

/-- Blank lines contribute nothing. -/
def ignore : BlankRule := fun _ _ _ => []

/-- A blank line ends in an end-of-line token like any other. It stands where its line break
stands, or at the last raw token when the text ends. A builder of the rule's own wins. -/
def eol (own : Option Builder) : BlankRule := fun build last token =>
  let build := own.getD build
  match token with
  | some token => [build eolKind token.text token]
  | none => [build eolKind "" (last.getD Token.placeholder)]

/-- Every blank line contributes the same tokens. -/
def emit (tokens : List Token) : BlankRule := fun _ _ _ => tokens

/-- What each of several blank lines contributes outside a layout. -/
def alone (rule : BlankRule) (tokens : List (Option Token)) : List Token :=
  tokens.flatMap (rule Builder.borrow none)

end BlankRule

end Offside
