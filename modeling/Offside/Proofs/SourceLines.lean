import Mathlib
import Offside.Proofs.StandardTable

/-! The line that a message shows. Tokens count lines by line feeds alone, while the line that is
shown is looked up among the lines of the text, which end at other characters too. So a message
about a token of the standard terminals shows the line of the token as long as none of these others
has come by. Where one stands before the line, the message shows a line that comes earlier; where
one stands in the line, the message shows the line up to there. -/
namespace Offside

open Pattern

namespace Text

/-- Ends a line without a line feed or a carriage return. -/
def endsOtherwise (c : Char) : Bool := endsLine c && c != '\n' && c != '\r'

/-- Empty, or ended by a line feed. -/
def Ended (s : List Char) : Prop := s = [] ∨ s.getLast? = some '\n'

/-- What stands between two line feeds that follow on each other, the ends of the text counting as
line feeds, and without a carriage return right before the second. -/
structure IsLine (before line after : List Char) : Prop where
  starts : Ended before
  within : '\n' ∉ line
  stops : after = [] ∨ (∃ rest, after = '\r' :: '\n' :: rest) ∨
    (∃ rest, after = '\n' :: rest) ∧ line.getLast? ≠ some '\r'

/-- No character ends a line but for line feeds and carriage returns, and none at all in the line
itself. -/
def Plain (before line : List Char) : Prop :=
  (∀ c ∈ before, endsOtherwise c = false) ∧ ∀ c ∈ line, endsLine c = false

/-- The line of a text with as many before it. -/
def lineAt (s : List Char) (count : Nat) : List Char := (linesFrom [] s)[count]?.getD []

/-- What is shown in place of a line that comes after other text. -/
def shown (before line : List Char) : List Char :=
  if before.any endsOtherwise then lineAt before (before.count '\n')
  else line.takeWhile fun c => !endsLine c

theorem shown_plain {before line : List Char} (plain : Plain before line) :
    shown before line = line := by
  have none : before.any endsOtherwise = false := by simpa using plain.1
  rw [shown, none, if_neg Bool.false_ne_true, List.takeWhile_eq_self_iff]
  simpa using plain.2

variable {s current : List Char} {c : Char}

theorem Ended.tail (ended : Ended (c :: s)) : Ended s := by
  cases s with
  | nil => exact .inl rfl
  | cons d s => exact ended.imp (fun none => by cases none) (by simp)

theorem Ended.tail_ne_nil (ended : Ended (c :: s)) (other : c ≠ '\n') : s ≠ [] := by
  rintro rfl
  exact other (by simpa [Ended] using ended)

theorem Ended.getLast?_ne (ended : Ended s) : s.getLast? ≠ some '\r' := by
  rcases ended with rfl | feed
  · simp
  · rw [feed]
    decide

/-- A line feed ends a line whatever comes after it. -/
theorem linesFrom_append (ended : Ended s) (fresh : s = [] → current = []) (rest : List Char) :
    linesFrom current (s ++ rest) = linesFrom current s ++ linesFrom [] rest := by
  fun_induction linesFrom current s with
  | case1 current none => rw [fresh rfl, List.nil_append, List.nil_append]
  | case2 current some => exact absurd (by rw [fresh rfl]; rfl) some
  | case3 current more ih => simp [linesFrom, ih ended.tail.tail]
  | case4 current c more apart ends ih =>
    have still : ∀ others, c = '\r' → more ++ rest = '\n' :: others → False := by
      rintro others rfl joined
      obtain ⟨d, more, rfl⟩ := List.exists_cons_of_ne_nil (ended.tail_ne_nil (by decide))
      exact apart more rfl (by rw [(List.cons.inj joined).1])
    rw [List.cons_append, linesFrom, if_pos ends, ih ended.tail (fun _ => rfl), List.cons_append]
    exact still
  | case5 current c more apart inside ih =>
    have nonempty : more ≠ [] := ended.tail_ne_nil (by rintro rfl; exact inside rfl)
    have still : ∀ others, c = '\r' → more ++ rest = '\n' :: others → False := by
      rintro others rfl
      exact absurd rfl inside
    rw [List.cons_append, linesFrom, if_neg inside, ih ended.tail (absurd · nonempty)]
    exact still

/-- Up to a line feed, the lines are as many as the line feeds and the other characters that end a
line, unless a carriage return stands alone. -/
theorem length_linesFrom (ended : Ended s) (fresh : s = [] → current = []) (paired : Paired s) :
    (linesFrom current s).length = s.count '\n' + s.countP endsOtherwise := by
  fun_induction linesFrom current s with
  | case1 current none => rfl
  | case2 current some => exact absurd (by rw [fresh rfl]; rfl) some
  | case3 current more ih =>
    have rest := ih ended.tail.tail (fun _ => rfl) (paired.suffix (s := ['\r', '\n']))
    simp [rest, endsOtherwise]
    omega
  | case4 current c more apart ends ih =>
    obtain ⟨pair, paired⟩ := paired_cons.1 paired
    have alone : c ≠ '\r' := fun back => by
      obtain ⟨more, rfl⟩ := List.head?_eq_some_iff.1 (pair back)
      exact apart more back rfl
    have rest := ih ended.tail (fun _ => rfl) paired
    by_cases feed : c = '\n'
    · simp [rest, endsOtherwise, feed]
      omega
    · simp [rest, endsOtherwise, feed, alone, ends]
      omega
  | case5 current c more apart inside ih =>
    have feed : c ≠ '\n' := by rintro rfl; exact inside rfl
    have nonempty : more ≠ [] := ended.tail_ne_nil feed
    rw [ih ended.tail (absurd · nonempty) (paired_cons.1 paired).2]
    simp [endsOtherwise, feed, inside]

/-- The first line of a text. -/
theorem head_linesFrom (current s : List Char) :
    (linesFrom current s).head?.getD [] = current.reverse ++ s.takeWhile fun c => !endsLine c := by
  fun_induction linesFrom current s with
  | case1 current none => simp [List.isEmpty_iff.1 none]
  | case2 current some => simp
  | case3 current more ih => simp [show endsLine '\r' = true from rfl]
  | case4 current c more apart ends ih => simp [ends]
  | case5 current c more apart inside ih => simp [ih, inside]

variable {before line after : List Char}

/-- Nothing of a line is after its end. -/
theorem IsLine.takeWhile_append (here : IsLine before line after) :
    ((line ++ after).takeWhile fun c => !endsLine c) = line.takeWhile fun c => !endsLine c := by
  have stopped : (after.takeWhile fun c => !endsLine c) = [] := by
    rcases here.stops with rfl | ⟨rest, rfl⟩ | ⟨⟨rest, rfl⟩, -⟩ <;> rfl
  rw [List.takeWhile_append, stopped, List.append_nil]
  split
  · rename_i whole
    exact ((List.takeWhile_prefix _).eq_of_length whole).symm
  · rfl

/-- A text in which other characters end lines has more lines than line feeds. -/
theorem count_lt_length (ended : Ended before) (paired : Paired before)
    (other : before.any endsOtherwise = true) :
    before.count '\n' < (linesFrom [] before).length := by
  have positive : 0 < before.countP endsOtherwise := by
    obtain ⟨c, member, ends⟩ := List.any_eq_true.1 other
    exact List.countP_pos_iff.2 ⟨c, member, ends⟩
  have length := length_linesFrom ended (fun _ => rfl) paired
  omega

/-- Where another character ends a line before a line, an earlier line is shown. -/
theorem shown_mem (ended : Ended before) (paired : Paired before)
    (other : before.any endsOtherwise = true) : shown before line ∈ linesFrom [] before := by
  have short := count_lt_length ended paired other
  rw [shown, if_pos other, lineAt, List.getElem?_eq_getElem short]
  exact List.getElem_mem short

/-- What stands where a line should be, if it is looked for by the line feeds before it. -/
theorem IsLine.lineAt (here : IsLine before line after) (paired : Paired before) :
    lineAt (before ++ (line ++ after)) (before.count '\n') = shown before line := by
  rw [Text.lineAt, linesFrom_append here.starts (fun _ => rfl), shown]
  by_cases other : before.any endsOtherwise = true
  · have short := count_lt_length here.starts paired other
    rw [if_pos other, Text.lineAt, List.getElem?_append_left short]
  · have none : before.countP endsOtherwise = 0 := by
      simpa [List.countP_eq_zero] using other
    have length := length_linesFrom here.starts (fun _ => rfl) paired
    rw [if_neg other, List.getElem?_append_right (by omega), length, none, Nat.add_zero,
      Nat.sub_self, ← List.head?_eq_getElem?, head_linesFrom, here.takeWhile_append]
    rfl

/-- A text is cut after its last line feed. -/
theorem exists_start (front : List Char) :
    ∃ before start, front = before ++ start ∧ Ended before ∧ '\n' ∉ start := by
  induction front with
  | nil => exact ⟨[], [], rfl, .inl rfl, by simp⟩
  | cons c front ih =>
    obtain ⟨before, start, rfl, ended, within⟩ := ih
    cases before with
    | cons d before => exact ⟨c :: d :: before, start, rfl, by simpa [Ended] using ended, within⟩
    | nil =>
      by_cases feed : c = '\n'
      · exact ⟨[c], start, rfl, .inr (by rw [feed]; rfl), within⟩
      · exact ⟨[], c :: start, rfl, .inl rfl, by simp [Ne.symm feed, within]⟩

/-- A line that is read up to somewhere goes on to its end. -/
theorem exists_line {start : List Char} (ended : Ended before) (within : '\n' ∉ start)
    (clean : start.getLast? ≠ some '\r') (rest : List Char) :
    ∃ word after, rest = word ++ after ∧ IsLine before (start ++ word) after := by
  by_cases feed : '\n' ∈ rest
  · obtain ⟨word, more, rfl, inside⟩ := List.eq_append_cons_of_mem feed
    by_cases back : word.getLast? = some '\r'
    · obtain ⟨word, rfl⟩ := List.getLast?_eq_some_iff.1 back
      refine ⟨word, '\r' :: '\n' :: more, by simp, ended, ?_, .inr (.inl ⟨more, rfl⟩)⟩
      exact fun member => (List.mem_append.1 member).elim within
        fun member => inside (List.mem_append_left _ member)
    · refine ⟨word, '\n' :: more, rfl, ended, ?_, .inr (.inr ⟨⟨more, rfl⟩, ?_⟩)⟩
      · exact fun member => (List.mem_append.1 member).elim within inside
      · cases word with
        | nil => rwa [List.append_nil]
        | cons c word => rwa [List.getLast?_append_of_ne_nil _ (List.cons_ne_nil c word)]
  · refine ⟨rest, [], (List.append_nil rest).symm, ended, ?_, .inl rfl⟩
    exact fun member => (List.mem_append.1 member).elim within feed

section

variable {start word rest : List Char}

/-- Where a line break begins, the line has ended. -/
theorem IsLine.of_breakUnit (here : IsLine before (start ++ word) after)
    (begins : breakUnit (word ++ after) ≠ 0) : word = [] := by
  have within : '\n' ∉ word := mt (List.mem_append_right start) here.within
  rcases breakUnit_ne_zero.1 begins with ⟨more, split⟩ | ⟨more, split⟩
  · cases word with
    | nil => rfl
    | cons c word => exact absurd (by simp [(List.cons.inj split).1]) within
  · match word, split with
    | [], _ => rfl
    | [c], split =>
      obtain ⟨rfl, rfl⟩ := List.cons.inj split
      have last : (start ++ ['\r']).getLast? ≠ some '\r' := by simpa using here.stops
      exact absurd (by simp) last
    | c :: d :: word, split =>
      simp only [List.cons_append, List.cons.injEq] at split
      exact absurd (by simp [split.2.1]) within

/-- Other characters are in the line. -/
theorem IsLine.of_other (here : IsLine before (start ++ word) after) {c : Char}
    (split : word ++ after = c :: rest) (feed : c ≠ '\n') (back : c ≠ '\r') :
    word.head? = some c := by
  cases word with
  | cons d word => exact congrArg some (List.cons.inj split).1
  | nil =>
    obtain rfl : after = c :: rest := split
    rcases here.stops with ends | ⟨more, ends⟩ | ⟨⟨more, ends⟩, -⟩
    · cases ends
    · exact absurd (List.cons.inj ends).1 back
    · exact absurd (List.cons.inj ends).1 feed

end

end Text

/-- A text that ends with a line feed cuts no pair. -/
theorem Paired.of_ended {s rest : List Char} (paired : Paired (s ++ rest))
    (ended : Text.Ended s) : Paired s := by
  rintro before after rfl
  cases after with
  | nil => exact absurd (by simp) ended.getLast?_ne
  | cons d after => simpa using paired before (d :: (after ++ rest)) (by simp)

namespace Place

/-- Characters are counted from the last line feed on. -/
theorem column_after_true {before start : List Char} (ended : Text.Ended before)
    (within : '\n' ∉ start) :
    (Place.after true {} (before ++ start)).column = start.length + 1 := by
  have first : (Place.after true {} before).column = 1 := by
    rcases ended with rfl | feed
    · rfl
    · obtain ⟨earlier, rfl⟩ := List.getLast?_eq_some_iff.1 feed
      rw [after_append]
      rfl
  rw [after_append, column_after_unbroken _ within, first, Nat.add_comm]

end Place

namespace Stretch

variable {stretch : Stretch} {piece : List Char}

theorem ended_of_row {s : List Char} (row : Row breakUnit s) : Text.Ended s := by
  induction row with
  | nil => exact .inl rfl
  | @cons piece rest nonempty told row ih =>
    have told := told []
    rw [List.append_nil] at told
    have last : piece.getLast? = some '\n' := by
      rcases eq_of_breakUnit nonempty told with rfl | rfl <;> rfl
    refine .inr ?_
    rcases ih with rfl | ended
    · rwa [List.append_nil]
    · rw [List.getLast?_append, ended]
      rfl

/-- A stretch may hold carriage returns, but does not end in one. -/
theorem Whole.getLast?_ne (whole : stretch.Whole piece) : piece.getLast? ≠ some '\r' := by
  intro back
  have member := List.mem_of_getLast? back
  cases stretch with
  | word => exact (inWord_iff.1 (passes_of_row whole.row _ member)).2.2.1 rfl
  | space => exact absurd (isBlank_iff.1 (passes_of_row whole.row _ member)) (by decide)
  | breaks => exact (ended_of_row whole.row).getLast?_ne back

/-- A token that is no line break begins inside a line. -/
theorem Whole.exists_cons (whole : stretch.Whole piece) (other : stretch ≠ .breaks) :
    ∃ c more, piece = c :: more ∧ c ≠ '\n' ∧ c ≠ '\r' := by
  obtain ⟨c, more, rfl⟩ := List.exists_cons_of_ne_nil whole.nonempty
  refine ⟨c, more, rfl, ?_⟩
  cases stretch with
  | word =>
    have inside := inWord_iff.1 (passes_of_row whole.row c List.mem_cons_self)
    exact ⟨inside.2.2.2, inside.2.2.1⟩
  | space =>
    rcases isBlank_iff.1 (passes_of_row whole.row c List.mem_cons_self) with rfl | rfl <;> decide
  | breaks => exact absurd rfl other

end Stretch

/-- The part of a text that became a token. -/
theorem Tokenized.exists_front {place : Place} {s : List Char} {tokens : List Token}
    (tokenized : Tokenized place s tokens) {token : Token} (member : token ∈ tokens) :
    ∃ (front piece rest : List Char) (stretch : Stretch), s = front ++ (piece ++ rest) ∧
      front.getLast? ≠ some '\r' ∧ stretch.Whole piece ∧
      token = stretch.token piece (place.after true front) := by
  induction tokenized with
  | nil => cases member
  | @cons place piece rest tokens stretch whole stops tail ih =>
    rcases List.mem_cons.1 member with rfl | later
    · exact ⟨[], piece, rest, stretch, rfl, by simp, whole, rfl⟩
    · obtain ⟨front, part, rest, other, rfl, clean, also, rfl⟩ := ih later
      refine ⟨piece ++ front, part, rest, other, (List.append_assoc ..).symm, ?_, also, ?_⟩
      · rw [List.getLast?_append]
        cases last : front.getLast? with
        | none => simpa using whole.getLast?_ne
        | some c => simpa [last] using clean
      · rw [Place.after_append]

/-- Where a token stands in a text: in the line that its own line number tells, and there at its
column. At that column is its first character; a line break is at the column after the last. -/
structure Token.StandsIn (token : Token) (text before line after : List Char) (column : Nat) :
    Prop where
  whole : text = before ++ (line ++ after)
  isLine : Text.IsLine before line after
  line_eq : token.span.line = some ((before.count '\n' + 1 : Nat) : Int)
  column_eq : token.span.column = some ((column + 1 : Nat) : Int)
  first : if token.kind = "NEWLINE" then column = line.length
    else ∃ c, token.text.toList.head? = some c ∧ (line.drop column).head? = some c

/-- A stretch that begins in a line stands in it. -/
theorem Stretch.Whole.standsIn {stretch : Stretch} {piece before start : List Char}
    (whole : stretch.Whole piece) (ended : Text.Ended before) (within : '\n' ∉ start)
    (clean : start.getLast? ≠ some '\r') (rest : List Char) :
    ∃ line after, (stretch.token piece (Place.after true {} (before ++ start))).StandsIn
      (before ++ start ++ (piece ++ rest)) before line after start.length := by
  obtain ⟨word, after, goesOn, here⟩ := Text.exists_line ended within clean (piece ++ rest)
  have count : start.count '\n' = 0 := List.count_eq_zero.2 within
  have line : (Place.after true {} (before ++ start)).line = before.count '\n' + 1 := by
    rw [Place.line_after_true, List.count_append, count, Nat.add_zero, Nat.add_comm]
  refine ⟨start ++ word, after, ?_, here, congrArg (fun n : Nat => some (n : Int)) line,
    congrArg (fun n : Nat => some (n : Int)) (Place.column_after_true ended within), ?_⟩
  · simp [goesOn]
  · have newline : stretch.kind = "NEWLINE" ↔ stretch = .breaks :=
      ⟨fun same => eq_of_kind same, fun same => same ▸ rfl⟩
    rw [kind_token]
    by_cases breaks : stretch = .breaks
    · subst breaks
      obtain rfl := here.of_breakUnit (goesOn ▸ whole.begins rest)
      rw [if_pos (newline.2 rfl), List.append_nil]
    · obtain ⟨c, more, rfl, feed, back⟩ := whole.exists_cons breaks
      have inside := here.of_other goesOn.symm feed back
      rw [if_neg (mt newline.1 breaks)]
      refine ⟨c, by simp [token, Lexicon.Entry.token], ?_⟩
      rw [List.drop_left, inside]

namespace Lexicon

/-- A message with a line, and a caret under a column of it. -/
def pointer (message : String) (line column : Nat) (shown : List Char) : String :=
  let gutter := toString line
  let blanks := fun count : Nat => String.ofList (List.replicate count ' ')
  s!"{message} at line {line} col {column}:\n\n{gutter} | {String.ofList shown}\n" ++
    s!"{blanks gutter.length} | {blanks (column - 1)}^"

theorem explain_eq_pointer {cursor : Cursor} {token : Token} {line column : Nat}
    (placed : token.span.line = some ((line + 1 : Nat) : Int))
    (along : token.span.column = some ((column + 1 : Nat) : Int)) (message : String) :
    explain cursor (some token) message =
      pointer message (line + 1) (column + 1) (Text.lineAt cursor.text.toList line) := by
  have positive : (0 : Int) < ((line + 1 : Nat) : Int) := by omega
  have index : ((line + 1 : Nat) : Int).toNat - 1 = line := by omega
  have before : (((column + 1 : Nat) : Int) - 1).toNat = column := by omega
  have looked : (Text.lines cursor.text)[line]?.getD "" =
      String.ofList (Text.lineAt cursor.text.toList line) := by
    rw [Text.lines, Text.lineAt, List.getElem?_map]
    cases (Text.linesFrom [] cursor.text.toList)[line]? <;> rfl
  simp only [explain, placed, along, Option.bind_some, Option.map_some, Option.getD_some,
    if_pos positive, index, before, looked]
  rfl

/-- A message about a token of the standard terminals names the line and the column at which the
token stands. Below comes that line, unless a character other than line feed and carriage return
ends a line before it or any of them does in it; and in any case it is told what comes there, which
is a line that ended before if another character ended one. -/
theorem explain_shows_line {lexicon : Lexicon} (made : ofTable .standard = .ok lexicon)
    (cursor : lexicon.source.State) (text : String) {token : Token}
    (delivered : token ∈ (lexicon.source.readFrom cursor text).tokens) :
    ∃ (before line after : List Char) (column : Nat),
      token.StandsIn text.toList before line after column ∧
      (∀ (there : Cursor) (message : String), there.text = text →
        explain there (some token) message =
          pointer message (before.count '\n' + 1) (column + 1) (Text.shown before line)) ∧
      (Text.Plain before line → Text.shown before line = line) ∧
      (before.any Text.endsOtherwise = true →
        Text.shown before line ∈ Text.linesFrom [] before) := by
  obtain rfl : standard = lexicon := Except.ok.inj (ofTable_standard.symm.trans made)
  obtain ⟨lexed, stuck, tokens, split, paired, -, tokenized, given, -⟩ := read_standard cursor text
  obtain ⟨front, piece, rest, stretch, rfl, clean, whole, rfl⟩ :=
    tokenized.exists_front (given ▸ delivered)
  obtain ⟨before, start, rfl, ended, within⟩ := Text.exists_start front
  have clean : start.getLast? ≠ some '\r' := by
    cases start with
    | nil => simp
    | cons c start => rwa [List.getLast?_append_of_ne_nil _ (List.cons_ne_nil c start)] at clean
  have pairedBefore : Paired before := by
    rw [List.append_assoc] at paired
    exact paired.of_ended ended
  obtain ⟨line, after, stands⟩ := whole.standsIn ended within clean (rest ++ stuck)
  rw [← List.append_assoc piece, ← List.append_assoc _ (piece ++ rest), ← split] at stands
  refine ⟨before, line, after, start.length, stands, ?_, Text.shown_plain,
    Text.shown_mem ended pairedBefore⟩
  rintro there message rfl
  rw [explain_eq_pointer stands.line_eq stands.column_eq, stands.whole,
    stands.isLine.lineAt pairedBefore]

/-- A word after white space in the second line of a text. -/
theorem explain_shows_line_indented :
    let token := Stretch.word.token ['b'] ⟨4, 2, 2⟩
    ofTable .standard = .ok standard ∧
      token ∈ (standard.source.readFrom {} "a\r\n b").tokens ∧
      ∃ (before line after : List Char) (column : Nat),
        token.StandsIn "a\r\n b".toList before line after column ∧
        ∀ (there : Cursor) (message : String), there.text = "a\r\n b" →
          explain there (some token) message =
            pointer message (before.count '\n' + 1) (column + 1) (Text.shown before line) := by
  intro token
  have scanned : (standard.scan {} "a\r\n b".toList).1 =
      [Stretch.word.token ['a'] {}, Stretch.breaks.token ['\r', '\n'] ⟨1, 1, 2⟩,
        Stretch.space.token [' '] ⟨3, 2, 1⟩, token] := by
    cbv
  have delivered : token ∈ (standard.source.readFrom {} "a\r\n b").tokens := by
    rw [(readFrom_source ..).1, scanned]
    simp
  obtain ⟨before, line, after, column, stands, shows, -, -⟩ :=
    explain_shows_line ofTable_standard {} "a\r\n b" delivered
  exact ⟨ofTable_standard, delivered, before, line, after, column, stands, shows⟩

/-- A vertical tab in a word ends a line, so a message about the next line shows what comes after
the tab, and not that line. -/
theorem explain_shows_earlier_line :
    ∃ token ∈ (standard.source.readFrom {} "x\x0by\nz").tokens,
      token.StandsIn "x\x0by\nz".toList "x\x0by\n".toList "z".toList [] 0 ∧
      explain { text := "x\x0by\nz" } (some token) "m" = "m at line 2 col 1:\n\n2 | y\n  | ^" ∧
      pointer "m" 2 1 "z".toList = "m at line 2 col 1:\n\n2 | z\n  | ^" := by
  have scanned : (standard.scan {} "x\x0by\nz".toList).1 =
      [Stretch.word.token ['x', '\x0b', 'y'] {}, Stretch.breaks.token ['\n'] ⟨3, 1, 4⟩,
        Stretch.word.token ['z'] ⟨4, 2, 1⟩] := by
    cbv
  refine ⟨Stretch.word.token ['z'] ⟨4, 2, 1⟩, ?_, ?_, by cbv, by cbv⟩
  · rw [(readFrom_source ..).1, scanned]
    simp
  · exact ⟨rfl, ⟨.inr rfl, by decide, .inl rfl⟩, rfl, rfl, ⟨'z', rfl, rfl⟩⟩

end Lexicon

end Offside
