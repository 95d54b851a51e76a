import Offside.Grammar.Text
import Offside.Proofs.Acceptance
import Offside.Proofs.BlockLines
import Offside.Proofs.BlockTrees

/-! Parse trees of texts of words and blocks. The layout lays out the lines of such a text one by
one, and each keeps the parser in step, a blank line by contributing nothing. So a text that is laid out
is parsed if each line announces what comes after it, and its tree lists the lines as they are
nested. -/
namespace Offside

/-- The statement that a heading makes on a line of this number, after a margin of this length. -/
def Heading.statement (heading : Heading) (number length : Nat) : Statement :=
  ⟨number, length, String.ofList heading.word, heading.colon⟩

/-- The statement that a line of this number makes, unless it is blank. -/
def BlockLine.statement? (line : BlockLine) (number : Nat) : Option Statement :=
  line.heading.map (·.statement number line.margin.length)

/-- The statements of lines, the first of which has this number. -/
def statementsOf (number : Nat) (lines : List BlockLine) : List Statement :=
  (lines.zipIdx number).filterMap fun (line, number) => line.statement? number

section

variable {number : Nat} {line : BlockLine} {lines : List BlockLine}

theorem statementsOf_blank (blank : line.heading = none) :
    statementsOf number (line :: lines) = statementsOf (number + 1) lines :=
  List.filterMap_cons_none (by simp [BlockLine.statement?, blank])

theorem statementsOf_heading {heading : Heading} (headed : line.heading = some heading) :
    statementsOf number (line :: lines) =
      heading.statement number line.margin.length :: statementsOf (number + 1) lines :=
  List.filterMap_cons_some (by simp [BlockLine.statement?, headed])

end

theorem Heading.heads (heading : Heading) (place : Place) (length : Nat) :
    Parser.Heads (heading.statement place.line length) ((heading.words place).map (·.1)) := by
  unfold words
  cases announces : heading.colon with
  | false => exact .simple announces rfl rfl rfl
  | true => exact .block announces rfl rfl rfl rfl

section

variable {L : Layout Int Memory} {levels after : List (Level Int)} {line : BlockLine}
  {place : Place} {first : Token} {pieces : List Piece}

/-- A line with content, as the layout lays it out. -/
theorem BlockLine.opened_of_composeLine (measured : L.depth = .length) (ordered : Ordered levels)
    (composed : L.composeLine levels (line.words place) first = .ok (pieces, after)) :
    ∃ tokens, Opened L line.margin.length (String.ofList line.margin) first levels tokens after ∧
      pieces.map Piece.token = tokens ++ (line.words place).body.map (·.1) := by
  obtain ⟨tokens, opening, rfl⟩ := Layout.composeLine_eq_ok.1 composed
  rw [measured, margin_words] at opening
  have opened := Layout.opened_of_opening ordered opening
  refine ⟨tokens, ?_, by simp [Piece.between, Piece.content, Function.comp_def]⟩
  simpa [DepthRule.length] using opened

namespace Parser.Stands

variable {parser : Parser} {earlier upcoming : List Statement} {heading : Heading} {role : Role}
  {more : Words} {eol : Token} {rest : List Token}

/-- A line with content keeps the parser in step with the text. -/
theorem mirrors_content (upper : L.build = .upper) (measured : L.depth = .length)
    (ordered : Ordered levels) (stands : Stands parser levels earlier)
    (headed : line.heading = some heading)
    (starts : (line.words place).body = (first, role) :: more)
    (composed : L.composeLine levels (line.words place) first = .ok (pieces, after))
    (isEol : eol.kind = Grammar.eol) :
    let s := heading.statement place.line line.margin.length
    (∀ later, Ordered after → Stands later after (s :: earlier) →
      Mirrors later (s :: earlier) upcoming rest) →
    Mirrors parser earlier (s :: upcoming) (pieces.map Piece.token ++ eol :: rest) := by
  intro s next
  have heads := heading.heads (place.after false line.margin) line.margin.length
  have body := line.body_words place
  rw [headed] at body
  rw [Place.line_after, show heading.words _ = _ from body.symm, starts] at heads
  obtain ⟨tokens, opened, split⟩ := BlockLine.opened_of_composeLine measured ordered composed
  rw [split, starts, List.append_assoc]
  exact stands.mirrors_line upper ordered opened heads isEol fun later =>
    next later (opened.ordered ordered)

theorem mirrors_last (upper : L.build = .upper) (measured : L.depth = .length)
    (ignoring : L.blank = .ignore) (ordered : Ordered levels)
    (stands : Stands parser levels earlier) (ending : Token) (place : Place) (last : BlockLine) :
    let stream := L.composeLast ending (last.words place) none levels
    let upcoming := statementsOf place.line [last]
    stream.2 = none → Mirrors parser earlier upcoming (stream.1.map Piece.token) := by
  intro stream upcoming faultless
  have closes (levels : List (Level Int)) :
      ∀ token ∈ levels.tail.map fun level => L.build dedentKind level.margin ending,
        token.kind = Grammar.dedent := List.forall_mem_map.2 fun _ _ => upper ▸ rfl
  cases headed : last.heading with
  | none =>
    have composed : stream = _ := Layout.composeLast_blank (BlockLine.body_blank headed)
    have none : upcoming = [] := statementsOf_blank headed
    have mirrors := stands.mirrors_end (List.length_map _) (closes levels)
    rw [composed, ignoring, none]
    simpa [BlankRule.ignore, Piece.between, Function.comp_def] using mirrors
  | some heading =>
    obtain ⟨first, more, starts⟩ := BlockLine.body_heading headed
    have only : upcoming = [heading.statement place.line last.margin.length] :=
      statementsOf_heading headed
    cases composed : L.composeLine levels (last.words place) first with
    | error stray =>
      have failed : stream = _ := Layout.composeLast_stray starts composed
      rw [failed] at faultless
      cases faultless
    | ok laid =>
      obtain ⟨pieces, after⟩ := laid
      have laid : stream = _ := Layout.composeLast_content starts composed
      have isEol : (L.build eolKind ending.text ending).kind = Grammar.eol := upper ▸ rfl
      have mirrors := stands.mirrors_content upper measured ordered headed starts composed isEol
        fun later _ stands => stands.mirrors_end (List.length_map _) (closes after)
      rw [laid, only]
      simpa [Piece.between, Piece.ending, Function.comp_def] using mirrors

/-- What comes of lines that are laid out without a fault. -/
theorem mirrors_compose (upper : L.build = .upper) (measured : L.depth = .length)
    (ignoring : L.blank = .ignore) (ordered : Ordered levels)
    (stands : Stands parser levels earlier) (ending : Token) (place : Place)
    (lines : List BlockLine) (last : BlockLine) :
    let page := BlockLine.pageOf place lines last
    let stream := L.compose ending page.rest page.fault levels page.lines
    let upcoming := statementsOf place.line (lines ++ [last])
    stream.2 = none → Mirrors parser earlier upcoming (stream.1.map Piece.token) := by
  induction lines generalizing place parser levels earlier with
  | nil => exact mirrors_last upper measured ignoring ordered stands ending place last
  | cons line lines ih =>
    intro page stream upcoming faultless
    let stop := place.after false line.text
    let next := stop.after true ['\n']
    let breaker := Lexicon.newline.token ['\n'] stop next
    have number : next.line = place.line + 1 := congrArg (· + 1) (place.line_after line.text)
    cases headed : line.heading with
    | none =>
      have composed : stream = _ := Layout.compose_blank (BlockLine.body_blank headed)
      have same : upcoming = statementsOf next.line (lines ++ [last]) := by
        rw [number]
        exact statementsOf_blank headed
      rw [composed, ignoring] at faultless ⊢
      rw [same]
      exact ih ordered stands next faultless
    | some heading =>
      obtain ⟨first, more, starts⟩ := BlockLine.body_heading headed
      have split : upcoming = heading.statement place.line line.margin.length ::
          statementsOf next.line (lines ++ [last]) := by
        rw [number]
        exact statementsOf_heading headed
      cases composed : L.composeLine levels (line.words place) first with
      | error stray =>
        have failed : stream = _ := Layout.compose_stray starts composed
        rw [failed] at faultless
        cases faultless
      | ok laid =>
        obtain ⟨pieces, after⟩ := laid
        have laid : stream = _ := Layout.compose_content starts composed
        have isEol : (L.build eolKind breaker.text breaker).kind = Grammar.eol := upper ▸ rfl
        rw [laid] at faultless ⊢
        have mirrors := stands.mirrors_content upper measured ordered headed starts composed isEol
          fun later ordered stands => ih ordered stands next faultless
        rw [split, List.map_append]
        exact mirrors

end Parser.Stands

end

/-- Whether such a text is laid out is for its lines to say. -/
theorem Layout.fault_textOf (lines : List BlockLine) (last : BlockLine) :
    ((Layout.standard.forGrammar.source Lexicon.blocks.source).read
      (String.ofList (BlockLine.textOf lines last))).fault =
        (BlockLine.pageOf {} lines last).refusal [] := by
  let L := Layout.standard.forGrammar
  let S := Lexicon.blocks.source
  rw [Source.read_eq_readFrom]
  have judged := (read_refusal (L := L) rfl rfl S ⟨L.fresh, S.start⟩
    (String.ofList (BlockLine.textOf lines last))).1
  rw [BlockLine.page_textOf rfl] at judged
  exact judged

/-- Where it is, the parser is given the stream of these lines. -/
theorem Layout.tokens_textOf (lines : List BlockLine) (last : BlockLine) :
    let L := Layout.standard.forGrammar
    let page := BlockLine.pageOf {} lines last
    page.refusal [] = none → ∃ ending, (L.stream ending page).2 = none ∧
      ((L.source Lexicon.blocks.source).read (String.ofList (BlockLine.textOf lines last))).tokens =
        (L.stream ending page).1.map Piece.token := by
  intro L page passed
  let S := Lexicon.blocks.source
  have whole := (read_refusal (L := L) rfl rfl S ⟨L.fresh, S.start⟩
    (String.ofList (BlockLine.textOf lines last))).2
  rw [BlockLine.page_textOf rfl] at whole
  have ended (ending : Token) : (L.stream ending page).2 = none := by
    have judged : L.Judged ending [] [] page
        (L.admitted page.rest page.fault [.margin (lastMargin [])] page.lines) :=
      judged_admitted rfl rfl L.openAfter_nil
    have refused := judged.fault
    rw [judged.whole passed, passed] at refused
    exact refused
  rw [Source.read_eq_readFrom]
  exact ⟨_, ended _, whole passed⟩

namespace Grammar

/-- A text of words and blocks that is laid out without a fault is parsed as the grammar says; it is
parsed exactly if each line that is not blank has a colon at its end if and only if the next such
line is deeper; and the entries of its tree, from first to last, are those lines, each in the block
of the nearest line before it that is less deep, or in none where there is no such line. -/
theorem blocks_mirror_lines (lines : List BlockLine) (last : BlockLine) :
    let L := Layout.standard.forGrammar
    let text := String.ofList (BlockLine.textOf lines last)
    let statements := statementsOf 1 (lines ++ [last])
    let stream := tokens L.source .blocks text
    let result := blocks.parse L.source .blocks text
    stream.2 = none →
      (∀ tree, result = .ok tree ↔
        ∃ trees, Entries stream.1 trees ∧ tree = .node startRule trees) ∧
      ((∃ tree, result = .ok tree) ↔ ∀ before s after, statements = before ++ s :: after →
        (s.colon = true ↔ ∃ next ∈ after.head?, s.depth < next.depth)) ∧
      ∀ tree, result = .ok tree →
        ∃ trees, tree = .node startRule trees ∧ Tree.rowsOf none trees = nested [] statements := by
  intro L text statements stream result faultless
  have streamed : stream = _ := tokens_of_ofTable Lexicon.ofTable_blocks L.source text
  have parsed (tree : Tree) : result = .ok tree ↔
      blocks.parseFrom none {} none stream.1 = .ok tree := by
    rw [← faultless]
    rfl
  have passed : (BlockLine.pageOf {} lines last).refusal [] = none := by
    rw [← Layout.fault_textOf, ← faultless, streamed]
  obtain ⟨ending, ended, laid⟩ := Layout.tokens_textOf lines last passed
  have mirrors : Parser.Mirrors {} [] statements stream.1 := by
    rw [(congrArg Prod.fst streamed).trans laid]
    exact Parser.Stands.mirrors_compose (L := L) rfl rfl rfl List.Pairwise.nil (.start rfl) ending
      {} lines last ended
  have ran (tree : Tree) : result = .ok tree ↔
      (Parser.run blocks {} stream.1).bind (Parser.finish blocks) = some tree :=
    (parsed tree).trans (Parser.parseFrom_eq_ok blocks {} none stream.1 tree)
  have accepted : (∃ tree, result = .ok tree) ↔ Parser.Announced none statements := by
    constructor
    · rintro ⟨tree, found⟩
      refine Classical.byContradiction fun unannounced => ?_
      rw [ran, mirrors.refused unannounced] at found
      cases found
    · intro announced
      obtain ⟨trees, found, -⟩ := mirrors.parsed announced
      exact ⟨_, (ran _).2 found⟩
  refine ⟨fun tree => (parsed tree).trans parse_blocks_iff, ?_, fun tree found => ?_⟩
  · rw [accepted, Parser.announced_iff]
    simp [Statement.Announces]
  · obtain ⟨trees, made, rows⟩ := mirrors.parsed (accepted.1 ⟨tree, found⟩)
    rw [ran, made] at found
    exact ⟨trees, (Option.some.inj found).symm, rows⟩

/-- A block of one entry, a blank line, and an entry after the block. -/
theorem blocks_mirror_lines_outside :
    let head (c : Char) (colon : Bool) (letter : Unicode.isWord c = true) : Option Heading :=
      some ⟨[c], colon, by simp, by simpa using letter⟩
    let a : BlockLine := ⟨[], head 'a' true (by decide), by simp⟩
    let b : BlockLine := ⟨[' ', ' '], head 'b' false (by decide), by simp⟩
    let blank : BlockLine := ⟨['\t'], none, by simp⟩
    let c : BlockLine := ⟨[], head 'c' false (by decide), by simp⟩
    let text := String.ofList (BlockLine.textOf [a, b, blank] c)
    text = "a:\n  b\n\t\nc" ∧
      (tokens Layout.standard.forGrammar.source .blocks text).2 = none ∧
      ∃ trees, blocks.parse Layout.standard.forGrammar.source .blocks text =
          .ok (.node startRule trees) ∧
        Tree.rowsOf none trees = [⟨"block", "a", some 1, none⟩, ⟨"simple", "b", some 2, some 1⟩,
          ⟨"simple", "c", some 4, none⟩] := by
  intro head a b blank c text
  have faultless : (tokens Layout.standard.forGrammar.source .blocks text).2 = none := by
    rw [tokens_of_ofTable Lexicon.ofTable_blocks, Layout.fault_textOf]
    exact Option.isNone_iff_eq_none.1 (by decide)
  obtain ⟨-, accepted, listed⟩ := blocks_mirror_lines [a, b, blank] c faultless
  have announced : Parser.Announced none (statementsOf 1 [a, b, blank, c]) := by decide
  obtain ⟨tree, found⟩ := accepted.2 (Parser.announced_iff.1 announced).2
  obtain ⟨trees, rfl, rows⟩ := listed tree found
  exact ⟨by decide, faultless, trees, found, rows⟩

end Grammar

end Offside
