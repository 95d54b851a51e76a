import Offside.Fault

/-! How deep a line is. Depths are compared and nothing else, so any ordered type will do; a rule
also says how a message shows a depth. Widths are sums over the characters of the margin. -/
namespace Offside

/-- Measures the indentation of a line, given as tokens and as text. -/
structure DepthRule (δ : Type) where
  measure : List Token → String → δ
  shown : δ → Datum

namespace DepthRule

/-- The width of a margin in which a tab is as wide as the given number of columns. -/
def widthWith (tab : Int) (margin : String) : Int :=
  margin.toList.foldr (fun c rest => (if c = '\t' then tab else 1) + rest) 0

/-- The number of characters of the margin. -/
def length : DepthRule Int where
  measure _ margin := margin.length
  shown := .int

/-- The width of the margin; a tab has to be worth at least one column. -/
def tabs (tab : Int) : Except Fault (DepthRule Int) :=
  if tab < 1 then .error (.tabWidth tab)
  else .ok { measure := fun _ margin => widthWith tab margin, shown := .int }

/-- What a tab is worth unless a width is given. -/
def standardTab : Int := 4

/-- The number of indentation tokens. -/
def tokens : DepthRule Int where
  measure indentation _ := indentation.length
  shown := .int

/-- The number of characters of the margin, times a factor. -/
def scaled (factor : Int) : DepthRule Int where
  measure _ margin := factor * margin.length
  shown := .int

/-- The depth that a table gives to the margin. -/
def table (entries : List (String × Int)) (otherwise : Int) : DepthRule Int where
  measure _ margin := (entries.lookup margin).getD otherwise
  shown := .int

/-- The margin itself. -/
def text : DepthRule String where
  measure _ margin := margin
  shown := .str

end DepthRule

end Offside
