import Offside.Datum
import Offside.Token

/-! The role of a raw token in the layout of its text. Tabs and spaces indent, line breaks end a
line, and any other token is content. -/
namespace Offside

/-- What a raw token is to the layout. -/
inductive Role where
  /-- Neither of the others. -/
  | ordinary
  /-- White space that indents a line when it stands at its start. -/
  | indentation
  /-- The end of a line. -/
  | lineBreak
deriving DecidableEq, Repr, Inhabited

namespace Role

/-- The role that an answer names, if it names one. -/
def ofDatum? : Datum → Option Role
  | .null => some ordinary
  | .str "indent" => some indentation
  | .str "newline" => some lineBreak
  | _ => none

/-- The answer that names a role. -/
def toDatum : Role → Datum
  | ordinary => .null
  | indentation => .str "indent"
  | lineBreak => .str "newline"

/-- Whether a text is made of line feeds, each with or without a carriage return before it. -/
def allBreaks : List Char → Bool
  | [] => true
  | '\n' :: rest => allBreaks rest
  | '\r' :: '\n' :: rest => allBreaks rest
  | _ => false

/-- The role of a text, told by its characters alone. -/
def ofText (text : String) : Role :=
  if text = "" then ordinary
  else if allBreaks text.toList then lineBreak
  else if text.toList.all fun c => c = '\t' || c = ' ' then indentation
  else ordinary

end Role

/-- Tells the roles of raw tokens, or gives an answer that names no role. -/
abbrev Classifier := Token → Except Datum Role

/-- Goes by the text of a token alone. -/
def Classifier.byText : Classifier := fun token => .ok (Role.ofText token.text)

/-- Goes by an answer computed from the token. -/
def Classifier.ofAnswer (answer : Token → Datum) : Classifier := fun token =>
  match Role.ofDatum? (answer token) with
  | some role => .ok role
  | none => .error (answer token)

end Offside
