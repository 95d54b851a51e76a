import Offside.Proofs.BlockGrammar
import Offside.Proofs.Levels

/-! Parse trees of blocks. Statements are the lines of a text that are not blank, and `nested` tells
from their depths alone in which block each of them belongs. While the layout goes through them and
the parser of blocks reads what comes of it, the levels that are open in the one stand for the
blocks that are open in the other: `Under` ties each level to the statement that announced its
block, and `Stands` adds what the last statement lets the parser expect. A statement keeps this up,
or the parser refuses the token before its content; so what the parser makes of a text `Mirrors`
its statements. -/
namespace Offside

/-- A line that is not blank. -/
structure Statement where
  /-- The number of the line. -/
  line : Int
  /-- The length of its margin. -/
  depth : Int
  word : String
  /-- Whether a colon comes after the word. -/
  colon : Bool
deriving DecidableEq

/-- Whether a statement announces what comes next: a colon a deeper statement, and no colon anything
else. -/
def Statement.Announces (s : Statement) (next : Option Statement) : Prop :=
  s.colon = true ↔ ∃ later ∈ next, s.depth < later.depth

instance (s : Statement) (next : Option Statement) : Decidable (s.Announces next) :=
  inferInstanceAs (Decidable (_ ↔ _))

namespace Tree

/-- Where an entry of a parse tree stands. -/
structure Row where
  rule : String
  word : String
  line : Option Int
  /-- The line of the entry in whose block it stands, if it stands in one. -/
  parent : Option Int
deriving DecidableEq

/-- The row of an entry. Its first token tells its word and its line. -/
def Row.of (rule : String) (parts : List Tree) (parent : Option Int) : Row :=
  match parts with
  | .leaf token :: _ => ⟨rule, token.text, token.span.line, parent⟩
  | _ => ⟨rule, "", none, parent⟩

mutual

/-- The rows of the entries in a tree, each before those in its block. -/
def rows (parent : Option Int) : Tree → List Row
  | leaf _ => []
  | node rule parts =>
    let row := Row.of rule parts parent
    row :: rowsOf row.line parts

/-- The rows of the entries in some trees. -/
def rowsOf (parent : Option Int) : List Tree → List Row
  | [] => []
  | tree :: trees => rows parent tree ++ rowsOf parent trees

end

end Tree

/-- The line of the nearest statement that is less deep. The statements come last one first. -/
def parentAt (earlier : List Statement) (depth : Int) : Option Int :=
  (earlier.find? (·.depth < depth)).map (·.line)

/-- The row that belongs to a statement. -/
def Statement.row (earlier : List Statement) (s : Statement) : Tree.Row where
  rule := if s.colon then "block" else "simple"
  word := s.word
  line := some s.line
  parent := parentAt earlier s.depth

/-- The rows that belong to statements, where the earlier ones come last one first. -/
def nested (earlier : List Statement) : List Statement → List Tree.Row
  | [] => []
  | s :: later => s.row earlier :: nested (s :: earlier) later

namespace Tree

@[simp] theorem rowsOf_nil (parent : Option Int) : rowsOf parent [] = [] := by
  rw [rowsOf]

@[simp] theorem rowsOf_append (parent : Option Int) (trees others : List Tree) :
    rowsOf parent (trees ++ others) = rowsOf parent trees ++ rowsOf parent others := by
  induction trees with
  | nil => simp
  | cons tree trees ih => simp [rowsOf, ih]

@[simp] theorem rowsOf_leaves (parent : Option Int) (tokens : List Token) :
    rowsOf parent (tokens.map leaf) = [] := by
  induction tokens with
  | nil => simp
  | cons token tokens ih => simp [rowsOf, rows, ih]

/-- The tokens around a block have no part in the rows. -/
theorem rowsOf_entry (parent : Option Int) (rule : String) (word : Token) (more after : List Token)
    (entries : List Tree) :
    rowsOf parent [node rule ((word :: more).map leaf ++ entries ++ after.map leaf)] =
      Row.of rule ((word :: more).map leaf) parent :: rowsOf word.span.line entries := by
  simp [rowsOf, rows, Row.of]

end Tree

theorem parentAt_cons {earlier : List Statement} {s : Statement} {depth : Int}
    (shallow : depth ≤ s.depth) : parentAt (s :: earlier) depth = parentAt earlier depth := by
  simp [parentAt, Int.not_lt.2 shallow]

theorem parentAt_deeper {earlier : List Statement} {s : Statement} {depth : Int}
    (deeper : s.depth < depth) : parentAt (s :: earlier) depth = some s.line := by
  simp [parentAt, deeper]

namespace Parser

/-- The line of the entry in whose block the parser is. -/
def parentOf : List OpenEntry → Option Int
  | [] => none
  | entry :: _ => (Tree.Row.of entry.rule entry.heading none).line

/-- The rows of the entries around the current block, and of those before them. -/
def openRows : List OpenEntry → List Tree.Row
  | [] => []
  | entry :: outer =>
    openRows outer ++ Tree.rowsOf (parentOf outer) entry.before.reverse ++
      [Tree.Row.of entry.rule entry.heading (parentOf outer)]

/-- The rows of what the parser has read. -/
def rows (parser : Parser) : List Tree.Row :=
  openRows parser.outer ++ Tree.rowsOf (parentOf parser.outer) parser.entries.reverse ++
    match parser.expects with
    | .block form read => [Tree.Row.of form.rule (read.map .leaf) (parentOf parser.outer)]
    | _ => []

/-- The blocks that are open stand for the open levels: each was announced by the nearest statement
that is less deep than its level. -/
inductive Under (earlier : List Statement) : List OpenEntry → List (Level Int) → Prop where
  | text {level : Level Int} (outermost : parentAt earlier level.depth = none) :
      Under earlier [] [level]
  | block {outer : List OpenEntry} {before : List Tree} {rule : String} {word : Token}
      {more : List Token} {inner level : Level Int} {levels : List (Level Int)}
      (around : Under earlier outer (level :: levels))
      (announced : parentAt earlier inner.depth = word.span.line) :
      Under earlier (⟨before, rule, (word :: more).map .leaf⟩ :: outer) (inner :: level :: levels)

namespace Under

variable {earlier : List Statement} {outer : List OpenEntry} {level : Level Int}
  {levels : List (Level Int)}

theorem parent {depth : Int} (under : Under earlier outer levels)
    (here : levels.head?.map (·.depth) = some depth) : parentOf outer = parentAt earlier depth := by
  cases under with
  | text outermost =>
    obtain rfl := Option.some.inj here
    exact outermost.symm
  | block around announced =>
    obtain rfl := Option.some.inj here
    exact announced.symm

/-- A further statement makes no difference to blocks that are not deeper. -/
theorem later {s : Statement} (under : Under earlier outer levels)
    (shallow : ∀ level ∈ levels, level.depth ≤ s.depth) : Under (s :: earlier) outer levels := by
  induction under with
  | text outermost => exact .text ((parentAt_cons (shallow _ List.mem_cons_self)).trans outermost)
  | block around announced ih =>
    obtain ⟨here, outside⟩ := List.forall_mem_cons.1 shallow
    exact .block (ih outside) ((parentAt_cons here).trans announced)

/-- An entry has its row before its block is closed and after. -/
theorem rows_close {before entries : List Tree} {rule : String} {word dedent : Token}
    {more : List Token} :
    let heading : List Tree := (word :: more).map .leaf
    rows ⟨outer, .node rule (heading ++ entries.reverse ++ [.leaf dedent]) :: before, .entry⟩ =
      rows ⟨⟨before, rule, heading⟩ :: outer, entries, .entry⟩ := by
  have entry := Tree.rowsOf_entry (parentOf outer) rule word more [dedent] entries.reverse
  rw [List.map_singleton] at entry
  simp only [rows, openRows, List.reverse_cons, Tree.rowsOf_append, List.append_nil]
  rw [entry, List.append_assoc, List.append_assoc]
  rfl

/-- Closing tokens close as many blocks. -/
theorem run_dedents {closed outside : List (Level Int)} {entries : List Tree} {dedents : List Token}
    (under : Under earlier outer (closed ++ level :: outside)) (nonempty : entries ≠ [])
    (asMany : dedents.length = closed.length)
    (closes : ∀ dedent ∈ dedents, dedent.kind = Grammar.dedent) :
    ∃ left others, run Grammar.blocks ⟨outer, entries, .entry⟩ dedents =
        some ⟨left, others, .entry⟩ ∧ others ≠ [] ∧ Under earlier left (level :: outside) ∧
      rows ⟨left, others, .entry⟩ = rows ⟨outer, entries, .entry⟩ := by
  induction closed generalizing outer entries dedents with
  | nil =>
    obtain rfl := List.length_eq_zero_iff.1 asMany
    exact ⟨outer, entries, rfl, nonempty, under, rfl⟩
  | cons inner closed ih =>
    obtain ⟨dedent, dedents, rfl⟩ := List.exists_cons_of_length_eq_add_one asMany
    obtain ⟨isDedent, others⟩ := List.forall_mem_cons.1 closes
    generalize inside : inner :: closed ++ level :: outside = levels at under
    cases under with
    | text outermost => simp at inside
    | block around announced =>
      obtain ⟨-, rest⟩ := List.cons.inj inside
      rw [← rest] at around
      rw [run_dedent isDedent nonempty]
      obtain ⟨left, entries, ran, nonempty, under, same⟩ :=
        ih around (List.cons_ne_nil _ _) (Nat.succ.inj asMany) others
      exact ⟨left, entries, ran, nonempty, under, same.trans rows_close⟩

end Under

/-- The raw tokens of a statement. -/
inductive Heads (s : Statement) : List Token → Prop where
  | simple {word : Token} (plain : s.colon = false) (isWord : word.kind = "WORD")
      (text : word.text = s.word) (line : word.span.line = some s.line) : Heads s [word]
  | block {word colon : Token} (announces : s.colon = true) (isWord : word.kind = "WORD")
      (isColon : colon.kind = "COLON") (text : word.text = s.word)
      (line : word.span.line = some s.line) : Heads s [word, colon]

/-- What a statement that was read last lets the parser expect. -/
inductive Follows (s : Statement) : Parser → Prop where
  | simple {outer : List OpenEntry} {entries : List Tree} (plain : s.colon = false)
      (nonempty : entries ≠ []) : Follows s ⟨outer, entries, .entry⟩
  | block {outer : List OpenEntry} {entries : List Tree} {word : Token} {more : List Token}
      (announces : s.colon = true) (line : word.span.line = some s.line) :
      Follows s ⟨outer, entries, .block blockForm (word :: more)⟩

/-- The parser has read the statements, which come last one first and have left these levels
open. -/
inductive Stands : Parser → List (Level Int) → List Statement → Prop where
  | start {levels : List (Level Int)} (unopened : levels = []) : Stands {} levels []
  | after {parser : Parser} {levels : List (Level Int)} {s : Statement} {earlier : List Statement}
      (under : Under (s :: earlier) parser.outer levels)
      (here : levels.head?.map (·.depth) = some s.depth) (follows : Follows s parser) :
      Stands parser levels (s :: earlier)

end Parser

theorem Ordered.shallow {levels : List (Level Int)} {depth : Int} (ordered : Ordered levels)
    (here : levels.head?.map (·.depth) = some depth) : ∀ level ∈ levels, level.depth ≤ depth := by
  cases levels with
  | nil => simp at here
  | cons top outside =>
    obtain rfl := Option.some.inj here
    refine List.forall_mem_cons.2 ⟨Int.le_refl _, fun level member => ?_⟩
    exact Int.le_of_lt (Int.compare_eq_lt.1 ((List.pairwise_cons.1 ordered).1 level member))

/-- A line with content is as deep as the innermost level that is open in it. -/
theorem Opened.here {L : Layout Int Memory} {depth : Int} {margin : String} {first : Token}
    {levels after : List (Level Int)} {tokens : List Token}
    (opened : Opened L depth margin first levels tokens after) :
    after.head?.map (·.depth) = some depth := by
  cases opened with
  | outermost => rfl
  | landed closed outside level same => exact congrArg some (Int.compare_eq_eq.1 same)
  | deepened top levels shallower => rfl

/-- A line that is not the first lands on a level, and closes those inside it, or opens one. Which
of the two it does is a matter of its depth and that of the line before it. -/
theorem Opened.lands_or_deepens {L : Layout Int Memory} {depth before : Int} {margin : String}
    {first : Token} {levels after : List (Level Int)} {tokens : List Token}
    (opened : Opened L depth margin first levels tokens after) (upper : L.build = .upper)
    (ordered : Ordered levels) (here : levels.head?.map (·.depth) = some before) :
    (depth ≤ before ∧ ∃ closed level outside, levels = closed ++ level :: outside ∧
      after = level :: outside ∧ tokens.length = closed.length ∧
        ∀ token ∈ tokens, token.kind = Grammar.dedent) ∨
    (before < depth ∧ ∃ top outside indent, levels = top :: outside ∧
      after = ⟨depth, margin⟩ :: top :: outside ∧ tokens = [indent] ∧
        indent.kind = Grammar.indent) := by
  cases opened with
  | outermost => simp at here
  | landed closed outside level same =>
    have back := ordered.shallow here level (by simp)
    rw [Int.compare_eq_eq.1 same] at back
    exact .inl ⟨back, closed, level, outside, rfl, rfl, List.length_map _,
      List.forall_mem_map.2 fun _ _ => upper ▸ rfl⟩
  | deepened top levels shallower =>
    obtain rfl := Option.some.inj here
    exact .inr ⟨Int.compare_eq_lt.1 (shallower top List.mem_cons_self), top, levels, _, rfl, rfl,
      rfl, upper ▸ rfl⟩

namespace Parser

section

variable {L : Layout Int Memory} {parser : Parser} {levels after : List (Level Int)}
  {s : Statement} {earlier : List Statement} {margin : String} {first : Token}
  {tokens : List Token}

/-- A line that the statement before it announces rightly opens or closes blocks as it opens or
closes levels. -/
theorem Stands.before_line (upper : L.build = .upper) (ordered : Ordered levels)
    (stands : Stands parser levels earlier)
    (opened : Opened L s.depth margin first levels tokens after)
    (announced : ∀ previous ∈ earlier.head?, previous.Announces s) :
    ∃ outer entries, parser.run Grammar.blocks tokens = some ⟨outer, entries, .entry⟩ ∧
      Under earlier outer after ∧ rows ⟨outer, entries, .entry⟩ = parser.rows := by
  cases stands with
  | start unopened =>
    cases opened with
    | outermost => exact ⟨[], [], rfl, .text rfl, rfl⟩
    | landed closed outside level => simp at unopened
    | deepened top levels => cases unopened
  | @after _ _ previous _ under here follows =>
    have deeper : previous.colon = true ↔ previous.depth < s.depth := by
      simpa [Statement.Announces] using announced previous rfl
    rcases opened.lands_or_deepens upper ordered here with
      ⟨back, closed, level, outside, rfl, rfl, asMany, closes⟩ |
      ⟨below, top, outside, indent, rfl, rfl, rfl, isIndent⟩
    · cases follows with
      | block announces => exact absurd (deeper.1 announces) (Int.not_lt.2 back)
      | simple plain nonempty =>
        obtain ⟨outer, entries, ran, -, under, same⟩ := under.run_dedents nonempty asMany closes
        exact ⟨outer, entries, ran, under, same⟩
    · cases follows with
      | simple plain nonempty =>
        rw [deeper.2 below] at plain
        cases plain
      | block announces line =>
        refine ⟨_, _, run_indent isIndent, .block under ?_, ?_⟩
        · exact (parentAt_deeper below).trans line.symm
        · simp [rows, openRows, blockForm, Tree.Row.of]

theorem run_block_other {outer : List OpenEntry} {entries : List Tree} {read : List Token}
    {token : Token} {tokens : List Token} (other : token.kind ≠ Grammar.indent) :
    run Grammar.blocks ⟨outer, entries, .block blockForm read⟩ (token :: tokens) = none := by
  rw [run_cons, step_block, if_neg other]
  rfl

theorem run_entry_other {outer : List OpenEntry} {entries : List Tree} {token : Token}
    {tokens : List Token} (noWord : token.kind ≠ "WORD") (noDedent : token.kind ≠ Grammar.dedent) :
    run Grammar.blocks ⟨outer, entries, .entry⟩ (token :: tokens) = none := by
  rw [run_cons, step_entry, if_neg noWord, if_neg noDedent]
  rfl

/-- The parser refuses a line that the statement before it does not announce rightly. -/
theorem Stands.refuses_line (upper : L.build = .upper) (ordered : Ordered levels)
    (stands : Stands parser levels earlier)
    (opened : Opened L s.depth margin first levels tokens after) (isWord : first.kind = "WORD")
    (unannounced : ¬∀ previous ∈ earlier.head?, previous.Announces s) (rest : List Token) :
    parser.run Grammar.blocks (tokens ++ first :: rest) = none := by
  cases stands with
  | start => exact absurd (by simp) unannounced
  | @after _ _ previous _ under here follows =>
    have misled : ¬(previous.colon = true ↔ previous.depth < s.depth) := by
      simpa [Statement.Announces] using unannounced
    rcases opened.lands_or_deepens upper ordered here with
      ⟨back, -, -, -, -, -, -, closes⟩ | ⟨below, -, -, indent, -, -, rfl, isIndent⟩
    · cases follows with
      | simple plain nonempty => exact absurd (by simp [plain, back]) misled
      | block announces line =>
        cases tokens with
        | nil => exact run_block_other (by rw [isWord]; decide)
        | cons token tokens =>
          have isDedent := closes token List.mem_cons_self
          exact run_block_other (by rw [isDedent]; decide)
    · cases follows with
      | simple plain nonempty =>
        exact run_entry_other (by rw [isIndent]; decide) (by rw [isIndent]; decide)
      | block announces line => exact absurd (by simp [announces, below]) misled

/-- A statement is read as an entry, or as the heading of one, and adds its row. -/
theorem Under.read_statement {outer : List OpenEntry} {entries : List Tree} {eol : Token}
    (under : Under earlier outer levels) (ordered : Ordered levels)
    (here : levels.head?.map (·.depth) = some s.depth) (heads : Heads s tokens)
    (isEol : eol.kind = Grammar.eol) :
    ∃ later, (∀ rest, run Grammar.blocks ⟨outer, entries, .entry⟩ (tokens ++ eol :: rest) =
        later.run Grammar.blocks rest) ∧
      Stands later levels (s :: earlier) ∧
      later.rows = rows ⟨outer, entries, .entry⟩ ++ [s.row earlier] := by
  have parent := under.parent here
  have under := under.later (ordered.shallow here)
  cases heads with
  | @simple word plain isWord text line =>
    refine ⟨⟨outer, .node "simple" [.leaf word, .leaf eol] :: entries, .entry⟩,
      fun rest => run_simple isWord isEol,
      .after under here (.simple plain (List.cons_ne_nil _ _)), ?_⟩
    simp [rows, Tree.rowsOf, Tree.rows, Tree.Row.of, Statement.row, plain, parent, text, line]
  | @block word colon announces isWord isColon text line =>
    refine ⟨⟨outer, entries, .block blockForm [word, colon, eol]⟩,
      fun rest => run_heading isWord isColon isEol,
      .after under here (.block announces line), ?_⟩
    simp [rows, blockForm, Tree.Row.of, Statement.row, announces, parent, text, line]

/-- The end of a text closes the blocks that are open, unless one was announced last. -/
theorem Stands.ends (stands : Stands parser levels earlier)
    (asMany : tokens.length = levels.tail.length)
    (closes : ∀ token ∈ tokens, token.kind = Grammar.dedent)
    (announced : ∀ previous ∈ earlier.head?, previous.Announces none) :
    ∃ trees, (parser.run Grammar.blocks tokens).bind (finish Grammar.blocks) =
        some (.node Grammar.startRule trees) ∧ Tree.rowsOf none trees = parser.rows := by
  cases stands with
  | start unopened =>
    subst unopened
    obtain rfl := List.length_eq_zero_iff.1 asMany
    exact ⟨[], rfl, rfl⟩
  | @after _ _ previous _ under here follows =>
    have plain : previous.colon = false := by
      simpa [Statement.Announces] using announced previous rfl
    cases follows with
    | block announces =>
      rw [announces] at plain
      cases plain
    | simple _ nonempty =>
      have opened : levels ≠ [] := fun none => by simp [none] at here
      have split := List.dropLast_concat_getLast opened
      rw [← split] at under
      have asMany : tokens.length = levels.dropLast.length := by simpa using asMany
      obtain ⟨outer, entries, ran, nonempty, under, same⟩ :=
        under.run_dedents nonempty asMany closes
      cases under
      refine ⟨entries.reverse, ?_, ?_⟩
      · rw [ran]
        simp [finish, Grammar.blocks]
      · rw [← same]
        simp [rows, openRows, parentOf]

theorem Stands.refuses_end (stands : Stands parser levels earlier)
    (closes : ∀ token ∈ tokens, token.kind = Grammar.dedent)
    (unannounced : ¬∀ previous ∈ earlier.head?, previous.Announces none) :
    (parser.run Grammar.blocks tokens).bind (finish Grammar.blocks) = none := by
  cases stands with
  | start => exact absurd (by simp) unannounced
  | @after _ _ previous _ under here follows =>
    cases follows with
    | simple plain => exact absurd (by simp [Statement.Announces, plain]) unannounced
    | @block outer _ _ _ announces line =>
      cases tokens with
      | nil => cases outer <;> simp [finish, blockForm]
      | cons token tokens =>
        have isDedent := closes token List.mem_cons_self
        rw [run_block_other (by rw [isDedent]; decide)]
        rfl

end

/-- Whether each statement announces the next, and the last one announces nothing. One may come
before them. -/
def Announced (previous : Option Statement) : List Statement → Prop
  | [] => ∀ s ∈ previous, s.Announces none
  | s :: later => (∀ earlier ∈ previous, earlier.Announces s) ∧ Announced s later

instance Announced.decidable : (previous : Option Statement) → (statements : List Statement) →
    Decidable (Announced previous statements)
  | previous, [] => inferInstanceAs (Decidable (∀ s ∈ previous, s.Announces none))
  | previous, s :: later =>
    have := decidable (some s) later
    inferInstanceAs (Decidable ((∀ earlier ∈ previous, earlier.Announces s) ∧ Announced s later))

theorem announced_iff {previous : Option Statement} {statements : List Statement} :
    Announced previous statements ↔ (∀ s ∈ previous, s.Announces statements.head?) ∧
      ∀ before s after, statements = before ++ s :: after → s.Announces after.head? := by
  induction statements generalizing previous with
  | nil => simp [Announced]
  | cons first later ih =>
    rw [Announced, ih, List.head?_cons]
    refine and_congr_right fun _ => ?_
    constructor
    · rintro ⟨next, rest⟩ before s after split
      cases before with
      | nil =>
        obtain ⟨rfl, rfl⟩ := List.cons.inj split
        exact next first rfl
      | cons other before => exact rest before s after (List.cons.inj split).2
    · intro all
      refine ⟨fun s same => ?_, fun before s after split => ?_⟩
      · obtain rfl := Option.some.inj same
        exact all [] first later rfl
      · exact all (first :: before) s after (congrArg (first :: ·) split)

/-- What the parser makes of the tokens of the statements that are left: a tree with their rows
after those that it has, if each statement announces the next, and nothing otherwise. -/
structure Mirrors (parser : Parser) (earlier upcoming : List Statement) (tokens : List Token) :
    Prop where
  parsed : Announced earlier.head? upcoming →
    ∃ trees, (parser.run Grammar.blocks tokens).bind (finish Grammar.blocks) =
        some (.node Grammar.startRule trees) ∧
      Tree.rowsOf none trees = parser.rows ++ nested earlier upcoming
  refused : ¬Announced earlier.head? upcoming →
    (parser.run Grammar.blocks tokens).bind (finish Grammar.blocks) = none

section

variable {L : Layout Int Memory} {parser : Parser} {levels after : List (Level Int)}
  {s : Statement} {earlier upcoming : List Statement} {margin : String} {first eol : Token}
  {tokens content rest : List Token}

theorem Stands.mirrors_end (stands : Stands parser levels earlier)
    (asMany : tokens.length = levels.tail.length)
    (closes : ∀ token ∈ tokens, token.kind = Grammar.dedent) :
    Mirrors parser earlier [] tokens where
  parsed announced := by
    rw [nested, List.append_nil]
    exact stands.ends asMany closes announced
  refused := stands.refuses_end closes

/-- A line keeps the parser in step with the text, whether it may stand there or not. -/
theorem Stands.mirrors_line (upper : L.build = .upper) (ordered : Ordered levels)
    (stands : Stands parser levels earlier)
    (opened : Opened L s.depth margin first levels tokens after)
    (heads : Heads s (first :: content)) (isEol : eol.kind = Grammar.eol)
    (next : ∀ later, Stands later after (s :: earlier) →
      Mirrors later (s :: earlier) upcoming rest) :
    Mirrors parser earlier (s :: upcoming) (tokens ++ first :: (content ++ eol :: rest)) := by
  by_cases announced : ∀ previous ∈ earlier.head?, previous.Announces s
  · obtain ⟨outer, entries, ran, under, same⟩ := stands.before_line upper ordered opened announced
    obtain ⟨later, read, stands, added⟩ :=
      under.read_statement (opened.ordered ordered) opened.here heads isEol
    have reads : parser.run Grammar.blocks (tokens ++ first :: (content ++ eol :: rest)) =
        later.run Grammar.blocks rest := by
      rw [run_append, ran, Option.bind_some]
      exact read rest
    obtain ⟨parsed, refused⟩ := next later stands
    rw [added, same, List.append_assoc] at parsed
    constructor
    · rw [reads]
      exact fun accepted => parsed accepted.2
    · rw [reads]
      exact fun refuses => refused fun accepted => refuses ⟨announced, accepted⟩
  · have isWord : first.kind = "WORD" := by cases heads <;> assumption
    refine ⟨fun accepted => absurd accepted.1 announced, fun _ => ?_⟩
    rw [stands.refuses_line upper ordered opened isWord announced]
    rfl

end

end Parser

end Offside
