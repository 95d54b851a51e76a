import Offside.Grammar.Basic
import Offside.Layout.Source
import Offside.Lexicon.Source

/-! Texts for grammars. A grammar reads the tokens of a layout over the terminals of a table, and
names the tokens that carry the layout in upper case like its other terminals. The terminals are
made ready anew for each text, so a fault in their table shows with each of them, and nothing of
one text can reach the next. -/
namespace Offside

/-- The layout with its tokens named as grammars name them. -/
def Layout.forGrammar {δ μ : Type} (L : Layout δ μ) : Layout δ μ :=
  { L with build := .upper }

namespace Grammar

/-- The tokens of a text, and the fault that ends them if there is one. The first argument puts
a layout, or several, over the terminals. -/
def tokens (layouts : Source → Source) (table : Table) (text : String) :
    List Token × Option Fault :=
  match Lexicon.ofTable table with
  | .error fault => ([], some fault)
  | .ok lexicon =>
    let reading := (layouts lexicon.source).read text
    (reading.tokens, reading.fault)

theorem tokens_of_ofTable {table : Table} {lexicon : Lexicon}
    (made : Lexicon.ofTable table = .ok lexicon) (layouts : Source → Source) (text : String) :
    let reading := (layouts lexicon.source).read text
    tokens layouts table text = (reading.tokens, reading.fault) := by
  simp only [tokens, made]

/-- The parse tree of a text. -/
def parse (G : Grammar) (layouts : Source → Source) (table : Table) (text : String) :
    Except Fault Tree :=
  let (tokens, fault) := tokens layouts table text
  G.parseFrom fault {} none tokens

end Grammar

end Offside
