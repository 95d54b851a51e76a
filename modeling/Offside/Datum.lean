import Offside.Text.Quoted

/-! Plain data: what a message shows when a hook answers something that has no meaning here, and
how it shows the depth of a line. -/
namespace Offside

/-- A value without behaviour. -/
inductive Datum where
  | null
  | bool (value : Bool)
  | int (value : Int)
  | str (value : String)
  | list (items : List Datum)
deriving Repr, Inhabited

namespace Datum

mutual

/-- How a message shows a value. -/
def shown : Datum → String
  | null => "None"
  | bool true => "True"
  | bool false => "False"
  | int value => toString value
  | str value => Text.quoted value
  | list items => "[" ++ ", ".intercalate (shownAll items) ++ "]"

/-- How a message shows each of several values. -/
def shownAll : List Datum → List String
  | [] => []
  | item :: items => shown item :: shownAll items

end

end Datum

end Offside
