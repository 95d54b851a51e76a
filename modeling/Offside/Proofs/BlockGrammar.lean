import Offside.Grammar.Basic

/-! The grammar of blocks and its parser. `Entries` says what the grammar says: an entry is a word
and an end of line, or a word with a colon and an end of line and then at least one entry between an
opening and a closing token. The parser accepts exactly the tokens of entries, and gives back how
they are made up. -/
namespace Offside

/-- Tokens that make up entries of the grammar of blocks, and the trees of these entries. -/
inductive Entries : List Token → List Tree → Prop where
  | nil : Entries [] []
  | simple {word eol : Token} {tokens : List Token} {trees : List Tree}
      (isWord : word.kind = "WORD") (isEol : eol.kind = Grammar.eol) (rest : Entries tokens trees) :
      Entries (word :: eol :: tokens) (.node "simple" [.leaf word, .leaf eol] :: trees)
  | block {word colon eol indent dedent : Token} {inner tokens : List Token}
      {entries trees : List Tree} (isWord : word.kind = "WORD") (isColon : colon.kind = "COLON")
      (isEol : eol.kind = Grammar.eol) (isIndent : indent.kind = Grammar.indent)
      (isDedent : dedent.kind = Grammar.dedent) (nonempty : entries ≠ [])
      (body : Entries inner entries) (rest : Entries tokens trees) :
      Entries (word :: colon :: eol :: indent :: (inner ++ dedent :: tokens))
        (.node "block" ([.leaf word, .leaf colon, .leaf eol, .leaf indent] ++ entries ++
          [.leaf dedent]) :: trees)

theorem Entries.append {tokens more : List Token} {trees others : List Tree}
    (first : Entries tokens trees) (second : Entries more others) :
    Entries (tokens ++ more) (trees ++ others) := by
  induction first with
  | nil => exact second
  | simple isWord isEol rest ih => exact .simple isWord isEol ih
  | block isWord isColon isEol isIndent isDedent nonempty body rest bodyIh ih =>
    rw [List.cons_append, List.cons_append, List.cons_append, List.cons_append, List.append_assoc,
      List.cons_append]
    exact .block isWord isColon isEol isIndent isDedent nonempty body ih

namespace Parser

variable {parser later : Parser} {token word colon eol : Token}

/-- Reads tokens. -/
def run (G : Grammar) (parser : Parser) (tokens : List Token) : Option Parser :=
  tokens.foldlM (step G) parser

@[simp] theorem run_nil (G : Grammar) (parser : Parser) : parser.run G [] = some parser := rfl

@[simp] theorem run_cons (G : Grammar) (parser : Parser) (token : Token) (tokens : List Token) :
    parser.run G (token :: tokens) = (parser.step G token).bind fun later => later.run G tokens :=
  rfl

theorem run_append (G : Grammar) (parser : Parser) (tokens more : List Token) :
    parser.run G (tokens ++ more) = (parser.run G tokens).bind fun later => later.run G more :=
  List.foldlM_append

/-- A text is parsed if its tokens can be read and it may end there. -/
theorem parseFrom_eq_ok (G : Grammar) (parser : Parser) (last : Option Token)
    (tokens : List Token) (tree : Tree) :
    G.parseFrom none parser last tokens = .ok tree ↔
      (parser.run G tokens).bind (finish G) = some tree := by
  induction tokens generalizing parser last with
  | nil =>
    rw [Grammar.parseFrom, run_nil, Option.bind_some]
    cases parser.finish G <;> simp
  | cons token tokens ih =>
    rw [Grammar.parseFrom, run_cons]
    cases parser.step G token with
    | none => simp
    | some later => exact ih later (some token)

/-- The form of an entry with a block. -/
def blockForm : Form := ⟨"block", ["WORD", "COLON"], false, .always⟩

section

variable {outer : List OpenEntry} {entries : List Tree}

theorem step_entry : step Grammar.blocks ⟨outer, entries, .entry⟩ token =
    if token.kind = "WORD" then some ⟨outer, entries, .heading [token]⟩
    else if token.kind = Grammar.dedent then
      match outer, entries with
      | entry :: outer, _ :: _ =>
        let children := entry.heading ++ entries.reverse ++ [.leaf token]
        some { outer, entries := .node entry.rule children :: entry.before }
      | _, _ => none
    else none := by
  by_cases isWord : token.kind = "WORD"
  · simp [step, stepEntry, goOn, isWord, Grammar.blocks, Form.begins, Form.fits, Grammar.eol,
      Grammar.dedent]
  · by_cases isDedent : token.kind = Grammar.dedent
    · rw [if_neg isWord, if_pos isDedent]
      simp only [step, stepEntry, isDedent]
      rfl
    · have unknown : Grammar.blocks.forms.any (·.begins [token.kind]) = false := by
        simp [Grammar.blocks, Form.begins, Form.fits, Ne.symm isWord]
      rw [if_neg isWord, if_neg isDedent]
      simp only [step, stepEntry, isDedent, goOn, List.map_cons, List.map_nil, unknown]
      simp [Grammar.blocks]

theorem step_word (isWord : word.kind = "WORD") :
    step Grammar.blocks ⟨outer, entries, .heading [word]⟩ token =
      if token.kind = Grammar.eol then
        some ⟨outer, .node "simple" [.leaf word, .leaf token] :: entries, .entry⟩
      else if token.kind = "COLON" then some ⟨outer, entries, .heading [word, token]⟩
      else none := by
  have whole : Grammar.blocks.forms.find? (·.completes [word.kind]) =
      some ⟨"simple", ["WORD"], false, .never⟩ := by
    rw [isWord]
    rfl
  by_cases isEol : token.kind = Grammar.eol
  · rw [if_pos isEol]
    simp only [step, isEol, if_true, List.map_cons, List.map_nil, whole]
    rfl
  · rw [if_neg isEol]
    simp only [step, isEol, if_false, goOn, List.map_append, List.map_cons, List.map_nil]
    by_cases isColon : token.kind = "COLON"
    · simp [isWord, isColon, Grammar.blocks, Form.begins, Form.fits]
    · simp [isWord, isColon, Ne.symm isColon, Grammar.blocks, Form.begins, Form.fits]

theorem step_colon (isWord : word.kind = "WORD") (isColon : colon.kind = "COLON") :
    step Grammar.blocks ⟨outer, entries, .heading [word, colon]⟩ token =
      if token.kind = Grammar.eol then
        some ⟨outer, entries, .block blockForm [word, colon, token]⟩
      else none := by
  have whole : Grammar.blocks.forms.find? (·.completes [word.kind, colon.kind]) =
      some blockForm := by
    rw [isWord, isColon]
    rfl
  by_cases isEol : token.kind = Grammar.eol
  · rw [if_pos isEol]
    simp only [step, isEol, if_true, List.map_cons, List.map_nil, whole]
    rfl
  · rw [if_neg isEol]
    simp only [step, isEol, if_false, goOn, List.map_append, List.map_cons, List.map_nil]
    simp [isWord, isColon, Grammar.blocks, Form.begins, Form.fits]

theorem step_block {read : List Token} :
    step Grammar.blocks ⟨outer, entries, .block blockForm read⟩ token =
      if token.kind = Grammar.indent then
        some ⟨⟨entries, "block", (read ++ [token]).map .leaf⟩ :: outer, [], .entry⟩
      else none := by
  by_cases isIndent : token.kind = Grammar.indent
  · simp only [step, isIndent, if_true]
    rfl
  · simp [step, isIndent, blockForm]

variable {tokens : List Token}

/-- An entry without a block is read. -/
theorem run_simple {eol : Token} (isWord : word.kind = "WORD") (isEol : eol.kind = Grammar.eol) :
    run Grammar.blocks ⟨outer, entries, .entry⟩ (word :: eol :: tokens) =
      run Grammar.blocks ⟨outer, .node "simple" [.leaf word, .leaf eol] :: entries, .entry⟩
        tokens := by
  rw [run_cons, step_entry, if_pos isWord, Option.bind_some, run_cons, step_word isWord,
    if_pos isEol, Option.bind_some]

/-- The heading of an entry with a block is read. -/
theorem run_heading (isWord : word.kind = "WORD") (isColon : colon.kind = "COLON")
    (isEol : eol.kind = Grammar.eol) :
    run Grammar.blocks ⟨outer, entries, .entry⟩ (word :: colon :: eol :: tokens) =
      run Grammar.blocks ⟨outer, entries, .block blockForm [word, colon, eol]⟩ tokens := by
  have apart : colon.kind ≠ Grammar.eol := by
    rw [isColon]
    decide
  rw [run_cons, step_entry, if_pos isWord, Option.bind_some, run_cons, step_word isWord,
    if_neg apart, if_pos isColon, Option.bind_some, run_cons, step_colon isWord isColon,
    if_pos isEol, Option.bind_some]

/-- The block of an entry is opened. -/
theorem run_indent {read : List Token} (isIndent : token.kind = Grammar.indent) :
    run Grammar.blocks ⟨outer, entries, .block blockForm read⟩ (token :: tokens) =
      run Grammar.blocks ⟨⟨entries, "block", (read ++ [token]).map .leaf⟩ :: outer, [], .entry⟩
        tokens := by
  rw [run_cons, step_block, if_pos isIndent, Option.bind_some]

/-- The block of an entry is closed. -/
theorem run_dedent {entry : OpenEntry} (isDedent : token.kind = Grammar.dedent)
    (nonempty : entries ≠ []) :
    run Grammar.blocks ⟨entry :: outer, entries, .entry⟩ (token :: tokens) =
      run Grammar.blocks ⟨outer, .node entry.rule
        (entry.heading ++ entries.reverse ++ [.leaf token]) :: entry.before, .entry⟩ tokens := by
  have apart : token.kind ≠ "WORD" := by
    rw [isDedent]
    decide
  obtain ⟨first, others, rfl⟩ := List.exists_cons_of_ne_nil nonempty
  rw [run_cons, step_entry, if_neg apart, if_pos isDedent]
  rfl

end

/-- What has been read of the blocks that are open, and of the innermost of them. -/
inductive Inside : List OpenEntry → List Tree → List Token → Prop where
  | text {entries : List Tree} {tokens : List Token} (read : Entries tokens entries.reverse) :
      Inside [] entries tokens
  | block {outer : List OpenEntry} {before entries : List Tree} {tokens inner : List Token}
      {word colon eol indent : Token} (around : Inside outer before tokens)
      (isWord : word.kind = "WORD") (isColon : colon.kind = "COLON")
      (isEol : eol.kind = Grammar.eol) (isIndent : indent.kind = Grammar.indent)
      (read : Entries inner entries.reverse) :
      Inside (⟨before, "block", [.leaf word, .leaf colon, .leaf eol, .leaf indent]⟩ :: outer)
        entries (tokens ++ word :: colon :: eol :: indent :: inner)

/-- What has been read of an entry that is not complete. -/
inductive Begun : Expectation → List Token → Prop where
  | entry : Begun .entry []
  | word {word : Token} (isWord : word.kind = "WORD") : Begun (.heading [word]) [word]
  | colon {word colon : Token} (isWord : word.kind = "WORD") (isColon : colon.kind = "COLON") :
      Begun (.heading [word, colon]) [word, colon]
  | block {word colon eol : Token} (isWord : word.kind = "WORD") (isColon : colon.kind = "COLON")
      (isEol : eol.kind = Grammar.eol) :
      Begun (.block blockForm [word, colon, eol]) [word, colon, eol]

/-- A parser that has read some tokens. -/
structure HasRead (parser : Parser) (tokens : List Token) : Prop where
  split : ∃ done begun, tokens = done ++ begun ∧ Inside parser.outer parser.entries done ∧
    Begun parser.expects begun

/-- An entry goes to those of the innermost block. -/
theorem Inside.add {outer : List OpenEntry} {entries : List Tree} {done tokens : List Token}
    {entry : Tree} (inside : Inside outer entries done) (more : Entries tokens [entry]) :
    Inside outer (entry :: entries) (done ++ tokens) := by
  cases inside with
  | text read => exact .text (by simpa using read.append more)
  | block around isWord isColon isEol isIndent read =>
    rw [List.append_assoc]
    exact .block around isWord isColon isEol isIndent (by simpa using read.append more)

theorem HasRead.step {tokens : List Token} (read : HasRead parser tokens)
    (taken : parser.step Grammar.blocks token = some later) :
    HasRead later (tokens ++ [token]) := by
  obtain ⟨outer, entries, expects⟩ := parser
  obtain ⟨done, begun, rfl, inside, reads⟩ := read
  cases reads with
  | entry =>
    rw [step_entry] at taken
    split at taken
    case isTrue isWord =>
      cases taken
      exact ⟨done, [token], by simp, inside, .word isWord⟩
    case isFalse =>
      split at taken
      case isFalse => cases taken
      case isTrue isDedent =>
        cases inside with
        | text read => cases taken
        | block around isWord isColon isEol isIndent read =>
          cases entries with
          | nil => cases taken
          | cons entry entries =>
            cases taken
            have nonempty : (entry :: entries).reverse ≠ [] := by simp
            exact ⟨_, [], by simp,
              around.add (.block isWord isColon isEol isIndent isDedent nonempty read .nil), .entry⟩
  | word isWord =>
    rw [step_word isWord] at taken
    split at taken
    case isTrue isEol =>
      cases taken
      exact ⟨_, [], by simp, inside.add (.simple isWord isEol .nil), .entry⟩
    case isFalse =>
      split at taken
      case isTrue isColon =>
        cases taken
        exact ⟨done, _, by simp, inside, .colon isWord isColon⟩
      case isFalse => cases taken
  | colon isWord isColon =>
    rw [step_colon isWord isColon] at taken
    split at taken
    case isTrue isEol =>
      cases taken
      exact ⟨done, _, by simp, inside, .block isWord isColon isEol⟩
    case isFalse => cases taken
  | block isWord isColon isEol =>
    rw [step_block] at taken
    split at taken
    case isTrue isIndent =>
      cases taken
      exact ⟨_, [], by simp, .block inside isWord isColon isEol isIndent .nil, .entry⟩
    case isFalse => cases taken

theorem HasRead.run {tokens more : List Token} (read : HasRead parser tokens)
    (taken : parser.run Grammar.blocks more = some later) : HasRead later (tokens ++ more) := by
  induction more generalizing parser tokens with
  | nil =>
    cases taken
    simpa using read
  | cons token more ih =>
    obtain ⟨next, first, rest⟩ := Option.bind_eq_some_iff.1 taken
    simpa using ih (read.step first) rest

theorem HasRead.finish {tokens : List Token} {tree : Tree} (read : HasRead parser tokens)
    (finished : parser.finish Grammar.blocks = some tree) :
    ∃ trees, Entries tokens trees ∧ tree = .node Grammar.startRule trees := by
  obtain ⟨outer, entries, expects⟩ := parser
  obtain ⟨done, begun, rfl, inside, reads⟩ := read
  cases inside with
  | block => simp [Parser.finish] at finished
  | text read =>
    cases reads with
    | entry =>
      have whole : tree = .node Grammar.startRule entries.reverse := by
        simpa [Parser.finish, Grammar.blocks, eq_comm] using finished
      exact ⟨_, by simpa using read, whole⟩
    | word => simp [Parser.finish] at finished
    | colon => simp [Parser.finish] at finished
    | block => simp [Parser.finish, blockForm] at finished

/-- The parser reads the tokens of entries, and adds their trees to those that it has. -/
theorem run_entries {tokens : List Token} {trees : List Tree} (made : Entries tokens trees)
    (outer : List OpenEntry) (before : List Tree) :
    run Grammar.blocks ⟨outer, before, .entry⟩ tokens =
      some ⟨outer, trees.reverse ++ before, .entry⟩ := by
  induction made generalizing outer before with
  | nil => rfl
  | simple isWord isEol rest ih =>
    rw [run_simple isWord isEol, ih]
    simp
  | block isWord isColon isEol isIndent isDedent nonempty body rest bodyIh ih =>
    rw [run_heading isWord isColon isEol, run_indent isIndent, run_append, bodyIh, Option.bind_some,
      run_dedent isDedent (by simpa using nonempty), ih]
    simp

end Parser

/-- The parser of blocks accepts exactly the tokens of entries. -/
theorem Grammar.parse_blocks_iff {tokens : List Token} {tree : Tree} :
    blocks.parseFrom none {} none tokens = .ok tree ↔
      ∃ trees, Entries tokens trees ∧ tree = .node startRule trees := by
  rw [Parser.parseFrom_eq_ok]
  constructor
  · intro parsed
    obtain ⟨parser, ran, finished⟩ := Option.bind_eq_some_iff.1 parsed
    have start : Parser.HasRead {} [] := ⟨[], [], rfl, .text .nil, .entry⟩
    exact (start.run ran).finish finished
  · rintro ⟨trees, made, rfl⟩
    have ran : Parser.run blocks {} tokens = _ := Parser.run_entries made [] []
    rw [ran]
    simp [Parser.finish, blocks]

end Offside
