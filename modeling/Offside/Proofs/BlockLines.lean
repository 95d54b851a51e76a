import Mathlib
import Offside.Proofs.CurrentLine
import Offside.Proofs.RepeatedPatterns
import Offside.Proofs.Scanning

/-! Texts of words and blocks, line by line. A line of such a text is a margin and then a heading or
nothing, and every text whose lines are so is the text of some `BlockLine`s: `textOf` joins them
with line feeds. Their lexicon has a terminal for each kind of piece, none of which matches where another
begins, so `pageOf` tells the raw tokens of a text from its lines alone. -/
namespace Offside

/-- The terminals of such texts. -/
def Table.blocks : Table := [
  ("WORD", "/\\w+/"),
  ("COLON", "\":\""),
  ("WS", "/[ \\t]+/"),
  ("NEWLINE", "/\\n/")]

namespace Lexicon

open Pattern

/-- A terminal that is tried, without keywords. -/
def word : Entry :=
  ⟨{ name := "WORD"
     isFixed := false
     source := "\\w+".toList
     pattern := .many (.one { classes := [.word] }) 1 none
     ignoreCase := false }, []⟩

def colon : Entry :=
  ⟨{ name := "COLON"
     isFixed := true
     source := ":".toList
     pattern := .char ':'
     ignoreCase := false }, []⟩

def space : Entry :=
  ⟨{ name := "WS"
     isFixed := false
     source := "[ \t]+".toList
     pattern := .many (.one { classes := [.single ' ', .single '\t'] }) 1 none
     ignoreCase := false }, []⟩

def newline : Entry :=
  ⟨{ name := "NEWLINE"
     isFixed := false
     source := "\n".toList
     pattern := .char '\n'
     ignoreCase := false }, []⟩

/-- The terminals of texts of words and blocks, made ready. -/
def blocks : Lexicon where
  entries := [space, word, colon, newline]
  names := ["WORD", "COLON", "WS", "NEWLINE"]

theorem ofTable_blocks : ofTable .blocks = .ok blocks := by
  cbv

theorem contains_space {c : Char} :
    CharSet.contains false { classes := [.single ' ', .single '\t'] } c = true ↔
      c = ' ' ∨ c = '\t' := by
  simp [CharSet.contains, CharClass.contains]

theorem contains_word {c : Char} :
    CharSet.contains false { classes := [.word] } c = Unicode.isWord c := by
  simp [CharSet.contains, CharClass.contains]

section

variable {s piece rest : List Char}

theorem no_space (stops : ∀ c ∈ s.head?, ¬(c = ' ' ∨ c = '\t')) :
    space.terminal.matchLength s = none := by
  have none : space.terminal.pattern.matchLength false s = none :=
    matchLength_set_none fun c first =>
      Bool.eq_false_iff.2 fun listed => stops c first (contains_space.1 listed)
  rw [Terminal.matchLength, show space.terminal.ignoreCase = false from rfl, none]
  rfl

theorem no_word (stops : ∀ c ∈ s.head?, Unicode.isWord c = false) :
    word.terminal.matchLength s = none := by
  have none : word.terminal.pattern.matchLength false s = none :=
    matchLength_set_none fun c first => contains_word.trans (stops c first)
  rw [Terminal.matchLength, show word.terminal.ignoreCase = false from rfl, none]
  rfl

theorem firstMatch_space (nonempty : piece ≠ []) (blank : ∀ c ∈ piece, c = ' ' ∨ c = '\t')
    (stops : ∀ c ∈ rest.head?, ¬(c = ' ' ∨ c = '\t')) :
    blocks.firstMatch (piece ++ rest) = some (space, piece.length) := by
  have length : space.terminal.pattern.matchLength false (piece ++ rest) = some piece.length :=
    matchLength_set nonempty (fun c member => contains_space.2 (blank c member)) fun c first =>
      Bool.eq_false_iff.2 fun listed => stops c first (contains_space.1 listed)
  have matched : space.terminal.matchLength (piece ++ rest) = some piece.length := by
    rw [Terminal.matchLength, show space.terminal.ignoreCase = false from rfl, length]
    simp [List.length_pos_iff, nonempty]
  simp [firstMatch, blocks, matched]

theorem firstMatch_word (nonempty : piece ≠ []) (letters : ∀ c ∈ piece, Unicode.isWord c = true)
    (stops : ∀ c ∈ rest.head?, Unicode.isWord c = false) :
    blocks.firstMatch (piece ++ rest) = some (word, piece.length) := by
  have length : word.terminal.pattern.matchLength false (piece ++ rest) = some piece.length :=
    matchLength_set nonempty (fun c member => contains_word.trans (letters c member))
      fun c first => contains_word.trans (stops c first)
  have matched : word.terminal.matchLength (piece ++ rest) = some piece.length := by
    rw [Terminal.matchLength, show word.terminal.ignoreCase = false from rfl, length]
    simp [List.length_pos_iff, nonempty]
  have other : space.terminal.matchLength (piece ++ rest) = none := by
    refine no_space fun c first listed => ?_
    obtain ⟨d, more, rfl⟩ := List.exists_cons_of_ne_nil nonempty
    obtain rfl : d = c := by simpa using first
    have letter := letters d List.mem_cons_self
    rcases listed with rfl | rfl <;> exact absurd letter (by decide)
  simp [firstMatch, blocks, matched, other]

theorem firstMatch_colon : blocks.firstMatch (':' :: rest) = some (colon, 1) := by
  have noSpace : space.terminal.matchLength (':' :: rest) = none := no_space (by simp)
  have noWord : word.terminal.matchLength (':' :: rest) = none := no_word (by simp; decide)
  have matched : colon.terminal.matchLength (':' :: rest) = some 1 := by
    rw [Terminal.matchLength, show colon.terminal.pattern = .char ':' from rfl,
      show colon.terminal.ignoreCase = false from rfl, matchLength_char]
    rfl
  simp [firstMatch, blocks, noSpace, noWord, matched]

theorem firstMatch_newline : blocks.firstMatch ('\n' :: rest) = some (newline, 1) := by
  have noSpace : space.terminal.matchLength ('\n' :: rest) = none := no_space (by simp)
  have noWord : word.terminal.matchLength ('\n' :: rest) = none := no_word (by simp; decide)
  have noColon : colon.terminal.matchLength ('\n' :: rest) = none := by
    rw [Terminal.matchLength, show colon.terminal.pattern = .char ':' from rfl,
      show colon.terminal.ignoreCase = false from rfl, matchLength_char]
    rfl
  have matched : newline.terminal.matchLength ('\n' :: rest) = some 1 := by
    rw [Terminal.matchLength, show newline.terminal.pattern = .char '\n' from rfl,
      show newline.terminal.ignoreCase = false from rfl, matchLength_char]
    rfl
  simp [firstMatch, blocks, noSpace, noWord, noColon, matched]

end

end Lexicon

/-- What stands on a line: a word, and a colon after it or not. -/
structure Heading where
  word : List Char
  colon : Bool
  nonempty : word ≠ []
  letters : ∀ c ∈ word, Unicode.isWord c = true

/-- A line of such a text: spaces and tabs, and then a heading or nothing. -/
structure BlockLine where
  margin : List Char
  heading : Option Heading
  blank : ∀ c ∈ margin, c = ' ' ∨ c = '\t'

namespace Heading

def text (heading : Heading) : List Char :=
  heading.word ++ if heading.colon then [':'] else []

/-- The raw tokens of a heading at a place, with their roles. -/
def words (place : Place) (heading : Heading) : Words :=
  let stop := place.after false heading.word
  (Lexicon.word.token heading.word place stop, .ordinary) ::
    if heading.colon then [(Lexicon.colon.token [':'] stop (stop.after false [':']), .ordinary)]
    else []

end Heading

namespace BlockLine

def text (line : BlockLine) : List Char := line.margin ++ line.heading.elim [] Heading.text

/-- The raw tokens of a line at a place, with their roles. -/
def words (place : Place) (line : BlockLine) : Words :=
  let stop := place.after false line.margin
  (if line.margin = [] then [] else [(Lexicon.space.token line.margin place stop, .indentation)]) ++
    line.heading.elim [] (Heading.words stop)

/-- The text of lines that line feeds end, and of a last line that none ends. -/
def textOf (lines : List BlockLine) (last : BlockLine) : List Char :=
  lines.flatMap (fun line => line.text ++ ['\n']) ++ last.text

/-- The raw tokens of such a text, line by line. -/
def pageOf : Place → List BlockLine → BlockLine → Page
  | place, [], last => { rest := last.words place }
  | place, line :: lines, last =>
    let stop := place.after false line.text
    let page := pageOf (stop.after true ['\n']) lines last
    { page with
      lines := (line.words place, Lexicon.newline.token ['\n'] stop (stop.after true ['\n'])) ::
        page.lines }

end BlockLine

namespace Lexicon

section

variable {piece rest : List Char} {place : Place}

theorem scan_space (nonempty : piece ≠ []) (blank : ∀ c ∈ piece, c = ' ' ∨ c = '\t')
    (stops : ∀ c ∈ rest.head?, ¬(c = ' ' ∨ c = '\t')) :
    let stop := place.after false piece
    blocks.scan place (piece ++ rest) =
      (space.token piece place stop :: (blocks.scan stop rest).1, (blocks.scan stop rest).2) := by
  have within : space.terminal.mayBreakLines = false := by decide
  have scanned : blocks.scan place (piece ++ rest) = _ :=
    scan_piece (firstMatch_space nonempty blank stops)
  rwa [within] at scanned

theorem scan_word (nonempty : piece ≠ []) (letters : ∀ c ∈ piece, Unicode.isWord c = true)
    (stops : ∀ c ∈ rest.head?, Unicode.isWord c = false) :
    let stop := place.after false piece
    blocks.scan place (piece ++ rest) =
      (word.token piece place stop :: (blocks.scan stop rest).1, (blocks.scan stop rest).2) := by
  have within : word.terminal.mayBreakLines = false := by decide
  have scanned : blocks.scan place (piece ++ rest) = _ :=
    scan_piece (firstMatch_word nonempty letters stops)
  rwa [within] at scanned

theorem scan_colon :
    let stop := place.after false [':']
    blocks.scan place (':' :: rest) =
      (colon.token [':'] place stop :: (blocks.scan stop rest).1, (blocks.scan stop rest).2) := by
  have within : colon.terminal.mayBreakLines = false := by decide
  have scanned : blocks.scan place ([':'] ++ rest) = _ := scan_piece firstMatch_colon
  rwa [within] at scanned

theorem scan_newline :
    let stop := place.after true ['\n']
    blocks.scan place ('\n' :: rest) =
      (newline.token ['\n'] place stop :: (blocks.scan stop rest).1,
        (blocks.scan stop rest).2) := by
  have across : newline.terminal.mayBreakLines = true := by decide
  have scanned : blocks.scan place (['\n'] ++ rest) = _ := scan_piece firstMatch_newline
  rwa [across] at scanned

end

variable {tail : List Char}

theorem scan_heading (heading : Heading) (place : Place) (ends : ∀ c ∈ tail.head?, c = '\n') :
    let rest := blocks.scan (place.after false heading.text) tail
    blocks.scan place (heading.text ++ tail) =
      ((heading.words place).map (·.1) ++ rest.1, rest.2) := by
  obtain ⟨letters, colon, nonempty, isWord⟩ := heading
  intro rest
  cases colon with
  | false =>
    have stops : ∀ c ∈ tail.head?, Unicode.isWord c = false := by
      intro c first
      rw [ends c first]
      decide
    simpa [Heading.text, Heading.words, rest] using scan_word nonempty isWord stops
  | true =>
    have stops : ∀ c ∈ (':' :: tail).head?, Unicode.isWord c = false := by
      intro c first
      obtain rfl := Option.some.inj first
      decide
    have scanned : blocks.scan place (letters ++ ':' :: tail) = _ :=
      scan_word nonempty isWord stops
    simp only [scan_colon] at scanned
    simpa [Heading.text, Heading.words, Place.after_append, rest] using scanned

theorem scan_line (line : BlockLine) (place : Place) (ends : ∀ c ∈ tail.head?, c = '\n') :
    let rest := blocks.scan (place.after false line.text) tail
    blocks.scan place (line.text ++ tail) =
      ((line.words place).map (·.1) ++ rest.1, rest.2) := by
  intro rest
  obtain ⟨margin, heading, blank⟩ := line
  let body := heading.elim [] Heading.text
  have content (place : Place) : blocks.scan place (body ++ tail) =
      ((heading.elim [] (Heading.words place)).map (·.1) ++
        (blocks.scan (place.after false body) tail).1,
        (blocks.scan (place.after false body) tail).2) := by
    cases heading with
    | none => rfl
    | some heading => exact scan_heading heading place ends
  by_cases flush : margin = []
  · subst flush
    exact content place
  · have stops : ∀ c ∈ (body ++ tail).head?, ¬(c = ' ' ∨ c = '\t') := by
      intro c first listed
      cases heading with
      | none => rcases listed with rfl | rfl <;> exact absurd (ends _ first) (by decide)
      | some heading =>
        obtain ⟨letter, more, word⟩ := List.exists_cons_of_ne_nil heading.nonempty
        have letters := heading.letters letter (by simp [word])
        obtain rfl : letter = c := by simpa [body, Heading.text, word] using first
        rcases listed with rfl | rfl <;> exact absurd letters (by decide)
    have scanned : blocks.scan place (margin ++ (body ++ tail)) = _ := scan_space flush blank stops
    rw [content] at scanned
    simpa [BlockLine.text, BlockLine.words, Place.after_append, rest, flush, body] using scanned

theorem scan_textOf (place : Place) (lines : List BlockLine) (last : BlockLine) :
    blocks.scan place (BlockLine.textOf lines last) =
      ((BlockLine.pageOf place lines last).words.map (·.1), none) := by
  induction lines generalizing place with
  | nil =>
    have scanned : blocks.scan place (last.text ++ []) = _ := scan_line last place (by simp)
    rw [scan_nil, List.append_nil, List.append_nil] at scanned
    exact scanned
  | cons line lines ih =>
    let tail := '\n' :: BlockLine.textOf lines last
    have scanned : blocks.scan place (line.text ++ tail) = _ :=
      scan_line line place (by simp [tail])
    simp only [tail, scan_newline, ih] at scanned
    simpa [BlockLine.textOf, BlockLine.pageOf, Page.words] using scanned

end Lexicon

namespace BlockLine

/-- The roles of the raw tokens of a line are those that their texts tell, and none of them ends
the line. -/
theorem role_of_words {line : BlockLine} {place : Place} {word : Token × Role}
    (member : word ∈ line.words place) :
    Classifier.byText word.1 = .ok word.2 ∧ word.2 ≠ .lineBreak := by
  obtain ⟨margin, heading, blank⟩ := line
  rcases List.mem_append.1 member with indents | heads
  · split at indents
    · cases indents
    · rename_i nonempty
      obtain rfl := List.mem_singleton.1 indents
      exact ⟨congrArg Except.ok (Role.ofText_blank nonempty blank), by simp⟩
  · cases heading with
    | none => cases heads
    | some heading =>
      rcases List.mem_cons.1 heads with rfl | rest
      · obtain ⟨letter, more, split⟩ := List.exists_cons_of_ne_nil heading.nonempty
        have isWord := heading.letters letter (by simp [split])
        have other : letter ≠ ' ' ∧ letter ≠ '\t' ∧ letter ≠ '\r' ∧ letter ≠ '\n' := by
          refine ⟨?_, ?_, ?_, ?_⟩ <;> rintro rfl <;> exact absurd isWord (by decide)
        have role := Role.ofText_other more other
        rw [← split] at role
        exact ⟨congrArg Except.ok role, by simp⟩
      · split at rest
        · obtain rfl := List.mem_singleton.1 rest
          exact ⟨congrArg Except.ok (Role.ofText_other [] (by decide)), by simp⟩
        · cases rest

theorem words_pageOf (place : Place) (line : BlockLine) (lines : List BlockLine)
    (last : BlockLine) :
    let stop := place.after false line.text
    let next := stop.after true ['\n']
    (pageOf place (line :: lines) last).words = line.words place ++
      (Lexicon.newline.token ['\n'] stop next, .lineBreak) :: (pageOf next lines last).words := by
  simp [pageOf, Page.words]

theorem role_of_pageOf {place : Place} {lines : List BlockLine} {last : BlockLine}
    {word : Token × Role} (member : word ∈ (pageOf place lines last).words) :
    Classifier.byText word.1 = .ok word.2 := by
  induction lines generalizing place with
  | nil => exact (role_of_words member).1
  | cons line lines ih =>
    rw [words_pageOf] at member
    rcases List.mem_append.1 member with inside | later
    · exact (role_of_words inside).1
    · rcases List.mem_cons.1 later with rfl | later
      · have role : Role.ofText "\n" = .lineBreak := by decide
        exact congrArg Except.ok role
      · exact ih later

theorem cut_pageOf (place : Place) (lines : List BlockLine) (last : BlockLine) :
    Page.cut none (pageOf place lines last).words = pageOf place lines last := by
  induction lines generalizing place with
  | nil => exact Page.cut_rest fun word member => (role_of_words member).2
  | cons line lines ih =>
    rw [words_pageOf, Page.cut_unbroken fun word member => (role_of_words member).2, ih]
    rfl

theorem body_words (line : BlockLine) (place : Place) :
    (line.words place).body =
      line.heading.elim [] (Heading.words (place.after false line.margin)) := by
  obtain ⟨margin, heading, blank⟩ := line
  by_cases flush : margin = [] <;> cases heading <;>
    simp [words, Words.body, Heading.words, flush]

theorem body_blank {line : BlockLine} {place : Place} (blank : line.heading = none) :
    (line.words place).body = [] := by
  rw [body_words, blank]
  rfl

theorem body_heading {line : BlockLine} {place : Place} {heading : Heading}
    (headed : line.heading = some heading) :
    ∃ first more, (line.words place).body = (first, .ordinary) :: more := by
  rw [body_words, headed]
  exact ⟨_, _, rfl⟩

theorem margin_words (line : BlockLine) (place : Place) :
    (line.words place).margin = String.ofList line.margin := by
  obtain ⟨margin, heading, blank⟩ := line
  by_cases flush : margin = [] <;> cases heading <;>
    simp [words, Words.margin, Words.indentation, Heading.words, Lexicon.Entry.token, flush]

/-- The raw tokens of a text of words and blocks, cut at the line feeds. -/
theorem page_textOf {δ μ : Type} {L : Layout δ μ} (byText : L.classify = .byText)
    (cursor : Lexicon.blocks.source.State) (lines : List BlockLine) (last : BlockLine) :
    let raw := Lexicon.blocks.source.readFrom cursor (String.ofList (textOf lines last))
    L.page raw.tokens raw.fault = pageOf {} lines last := by
  obtain ⟨tokens, fault⟩ :=
    Lexicon.blocks.readFrom_source cursor (String.ofList (textOf lines last))
  rw [String.toList_ofList, Lexicon.scan_textOf] at tokens fault
  have known : ∀ word ∈ (pageOf {} lines last).words, L.classify word.1 = .ok word.2 :=
    fun word member => byText ▸ role_of_pageOf member
  intro raw
  rw [Layout.page, show raw.tokens = _ from tokens, show raw.fault = _ from fault,
    Layout.words_of_classified known]
  exact cut_pageOf {} lines last

end BlockLine

end Offside
