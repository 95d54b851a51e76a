import Mathlib
import Offside.Proofs.RepeatedPatterns
import Offside.Proofs.Scanning
import Offside.Role

/-! What the standard terminals make of a text. Words, line breaks and horizontal white space are
told apart by their first character, but for the carriage return, which begins a line break only
where a line feed comes next and begins nothing else. So a text falls into stretches, each as long
as it can be, up to the first carriage return without its line feed; and each stretch is told again
by its characters alone. -/
namespace Offside

open Pattern

/-- What the standard terminals tell apart. -/
inductive Stretch where
  | word
  | breaks
  | space
deriving DecidableEq

namespace Stretch

/-- The kind of the token that a stretch becomes. -/
def kind : Stretch → String
  | word => "WORD"
  | breaks => "NEWLINE"
  | space => "WS"

/-- What the token is to the layout. -/
def role : Stretch → Role
  | word => .ordinary
  | breaks => .lineBreak
  | space => .indentation

/-- A character of words. -/
def inWord (c : Char) : Bool := c ∉ [' ', '\t', '\r', '\n']

/-- A character of horizontal white space. -/
def isBlank (c : Char) : Bool := c ∈ [' ', '\t']

theorem inWord_iff {c : Char} : inWord c = true ↔ c ≠ ' ' ∧ c ≠ '\t' ∧ c ≠ '\r' ∧ c ≠ '\n' := by
  simp [inWord]

theorem isBlank_iff {c : Char} : isBlank c = true ↔ c = ' ' ∨ c = '\t' := by
  simp [isBlank]

/-- How long the piece is with which such a stretch may begin or go on. -/
def unit : Stretch → List Char → Nat
  | word => oneUnit inWord
  | breaks => breakUnit
  | space => oneUnit isBlank

/-- The terminal of a stretch. -/
def terminal : Stretch → Terminal
  | word =>
    { name := "WORD"
      isFixed := false
      source := "[^ \t\r\n]+".toList
      pattern := .many (.one ⟨[.single ' ', .single '\t', .single '\r', .single '\n'], true⟩) 1 none
      ignoreCase := false }
  | breaks =>
    { name := "NEWLINE"
      isFixed := false
      source := "(\r?\n)+".toList
      pattern := .many lineEnd 1 none
      ignoreCase := false }
  | space =>
    { name := "WS"
      isFixed := false
      source := "[ \t]+".toList
      pattern := .many (.one ⟨[.single ' ', .single '\t'], false⟩) 1 none
      ignoreCase := false }

/-- A stretch is a terminal that is tried, without keywords. -/
def entry (stretch : Stretch) : Lexicon.Entry := ⟨stretch.terminal, []⟩

/-- The token of a stretch at a place. -/
def token (stretch : Stretch) (piece : List Char) (place : Place) : Token :=
  stretch.entry.token piece place (place.after true piece)

theorem kind_token (stretch : Stretch) (piece : List Char) (place : Place) :
    (stretch.token piece place).kind = stretch.kind := by
  cases stretch <;> rfl

end Stretch

/-- The standard terminals, made ready. -/
def Lexicon.standard : Lexicon where
  entries := [Stretch.word.entry, Stretch.breaks.entry, Stretch.space.entry]
  names := ["WS", "NEWLINE", "WORD"]

theorem Lexicon.ofTable_standard : ofTable .standard = .ok standard := by
  cbv

namespace Stretch

variable {s piece rest : List Char} {stretch other : Stretch}

theorem unit_nil (stretch : Stretch) : stretch.unit [] = 0 := by
  cases stretch <;> rfl

/-- At most one stretch can begin at a place. -/
theorem unit_exclusive (begins : stretch.unit s ≠ 0) (also : other.unit s ≠ 0) :
    other = stretch := by
  cases stretch <;> cases other <;> first
    | rfl
    | (exfalso
       simp only [unit, oneUnit_ne_zero, breakUnit_ne_zero] at begins also
       grind [inWord, isBlank])

/-- A terminal matches the longest row of its pieces. -/
theorem matchLength_terminal (stretch : Stretch) (s : List Char) :
    stretch.terminal.matchLength s =
      if stretch.unit s = 0 then none else some (rowLength stretch.unit s) := by
  have inWord_eq : inWord = CharSet.contains false
      ⟨[.single ' ', .single '\t', .single '\r', .single '\n'], true⟩ := by
    funext c
    rw [Bool.eq_iff_iff]
    simp [inWord, CharSet.contains, CharClass.contains]
  have isBlank_eq : isBlank = CharSet.contains false ⟨[.single ' ', .single '\t'], false⟩ := by
    funext c
    rw [Bool.eq_iff_iff]
    simp [isBlank, CharSet.contains, CharClass.contains]
  have matched : stretch.terminal.pattern.matchLength stretch.terminal.ignoreCase s =
      if stretch.unit s = 0 then none else some (rowLength stretch.unit s) := by
    cases stretch with
    | word =>
      rw [unit, inWord_eq]
      exact matchLength_many (oneWay_one false _) s
    | breaks => exact matchLength_many oneWay_lineEnd s
    | space =>
      rw [unit, isBlank_eq]
      exact matchLength_many (oneWay_one false _) s
  rw [Terminal.matchLength, matched]
  by_cases none : stretch.unit s = 0
  · simp [none]
  · have positive : 0 < rowLength stretch.unit s := by
      rw [rowLength_some stretch.unit_nil none]
      omega
    simp [none, positive]

/-- A piece is told by its own characters. -/
theorem exists_piece (stretch : Stretch) (s : List Char) (begins : stretch.unit s ≠ 0) :
    ∃ piece rest, s = piece ++ rest ∧ piece ≠ [] ∧
      ∀ after, stretch.unit (piece ++ after) = piece.length := by
  cases stretch with
  | word =>
    obtain ⟨c, rest, rfl, passed⟩ := oneUnit_ne_zero.1 begins
    exact ⟨[c], rest, rfl, by simp, fun after => by simp [unit, oneUnit, passed]⟩
  | breaks =>
    rcases breakUnit_ne_zero.1 begins with ⟨rest, rfl⟩ | ⟨rest, rfl⟩
    · exact ⟨['\n'], rest, rfl, by simp, fun after => rfl⟩
    · exact ⟨['\r', '\n'], rest, rfl, by simp, fun after => rfl⟩
  | space =>
    obtain ⟨c, rest, rfl, passed⟩ := oneUnit_ne_zero.1 begins
    exact ⟨[c], rest, rfl, by simp, fun after => by simp [unit, oneUnit, passed]⟩

/-- A text that is one stretch. -/
structure Whole (stretch : Stretch) (piece : List Char) : Prop where
  nonempty : piece ≠ []
  row : Row stretch.unit piece

theorem Whole.begins (whole : stretch.Whole piece) (rest : List Char) :
    stretch.unit (piece ++ rest) ≠ 0 := by
  cases whole.row with
  | nil => exact absurd rfl whole.nonempty
  | @cons first more nonempty told row =>
    rw [List.append_assoc, told]
    exact mt List.eq_nil_of_length_eq_zero nonempty

/-- A stretch that does not go on is what the terminals match first. -/
theorem Whole.firstMatch (whole : stretch.Whole piece) (stops : stretch.unit rest = 0) :
    Lexicon.standard.firstMatch (piece ++ rest) = some (stretch.entry, piece.length) := by
  have begins := whole.begins rest
  have length := whole.row.rowLength_append stretch.unit_nil stops
  have others (other : Stretch) (apart : other ≠ stretch) : other.unit (piece ++ rest) = 0 :=
    Decidable.byContradiction fun also => apart (unit_exclusive begins also)
  cases stretch <;>
    simp [Lexicon.firstMatch, Lexicon.standard, entry, matchLength_terminal, begins, length, others]

/-- Nothing is matched where no stretch begins. -/
theorem firstMatch_none (nowhere : ∀ stretch : Stretch, stretch.unit s = 0) :
    Lexicon.standard.firstMatch s = none := by
  simp [Lexicon.firstMatch, Lexicon.standard, entry, matchLength_terminal, nowhere]

theorem passes_of_row {passes : Char → Bool} (row : Row (oneUnit passes) s) :
    ∀ c ∈ s, passes c = true := by
  induction row with
  | nil => simp
  | @cons piece rest nonempty told row ih =>
    obtain ⟨c, more, rfl⟩ := List.exists_cons_of_ne_nil nonempty
    have told := told []
    intro x member
    cases passed : passes c with
    | false => simp [oneUnit, passed] at told
    | true =>
      obtain rfl : more = [] := by simpa [oneUnit, passed] using told
      rcases List.mem_cons.1 member with rfl | member
      · exact passed
      · exact ih x member

/-- A piece that is a line break. -/
theorem eq_of_breakUnit (nonempty : piece ≠ []) (told : breakUnit piece = piece.length) :
    piece = ['\n'] ∨ piece = ['\r', '\n'] := by
  have begins : breakUnit piece ≠ 0 := told ▸ mt List.eq_nil_of_length_eq_zero nonempty
  rcases breakUnit_ne_zero.1 begins with ⟨more, rfl⟩ | ⟨more, rfl⟩
  · obtain rfl : more = [] := by simpa [breakUnit] using told
    exact .inl rfl
  · obtain rfl : more = [] := by simpa [breakUnit] using told
    exact .inr rfl

theorem allBreaks_of_row (row : Row breakUnit s) : Role.allBreaks s = true := by
  induction row with
  | nil => rfl
  | @cons piece rest nonempty told row ih =>
    have told := told []
    rw [List.append_nil] at told
    rcases eq_of_breakUnit nonempty told with rfl | rfl <;> exact ih

/-- White space has no line feeds, so they need not count in it. -/
theorem Whole.after_entry (whole : stretch.Whole piece) (place : Place) :
    place.after stretch.entry.terminal.mayBreakLines piece = place.after true piece := by
  cases stretch with
  | word => rfl
  | breaks => rfl
  | space =>
    have unbroken : '\n' ∉ piece := fun member =>
      absurd (isBlank_iff.1 (passes_of_row whole.row _ member)) (by decide)
    exact place.after_unbroken _ unbroken

/-- The characters of a stretch tell its role. -/
theorem Whole.role_eq (whole : stretch.Whole piece) :
    Role.ofText (String.ofList piece) = stretch.role := by
  obtain ⟨c, more, rfl⟩ := List.exists_cons_of_ne_nil whole.nonempty
  have row := whole.row
  cases stretch with
  | word => exact Role.ofText_other more (inWord_iff.1 (passes_of_row row c List.mem_cons_self))
  | breaks =>
    rw [Role.ofText_ofList whole.nonempty, if_pos (allBreaks_of_row row)]
    rfl
  | space =>
    exact Role.ofText_blank whole.nonempty fun x member =>
      isBlank_iff.1 (passes_of_row row x member)

end Stretch

/-- Every carriage return comes right before a line feed. -/
def Paired (s : List Char) : Prop :=
  ∀ before after, s = before ++ '\r' :: after → after.head? = some '\n'

/-- Begins with a carriage return that comes before no line feed. -/
def Stray (s : List Char) : Prop := ∃ rest, s = '\r' :: rest ∧ rest.head? ≠ some '\n'

theorem Paired.suffix {s t : List Char} (paired : Paired (s ++ t)) : Paired t := by
  rintro before after rfl
  exact paired (s ++ before) after (by rw [List.append_assoc])

theorem Paired.not_stray {s : List Char} (paired : Paired s) : ¬Stray s := by
  rintro ⟨rest, rfl, apart⟩
  exact apart (paired [] rest rfl)

/-- The tokens of a text that falls into stretches, each as long as it can be. -/
inductive Tokenized : Place → List Char → List Token → Prop where
  | nil {place : Place} : Tokenized place [] []
  | cons {place : Place} {piece rest : List Char} {tokens : List Token} (stretch : Stretch)
      (whole : stretch.Whole piece) (stops : stretch.unit rest = 0)
      (tail : Tokenized (place.after true piece) rest tokens) :
      Tokenized place (piece ++ rest) (stretch.token piece place :: tokens)

namespace Stretch

theorem eq_of_kind {stretch other : Stretch} (same : stretch.kind = other.kind) :
    stretch = other := by
  cases stretch <;> cases other <;> simp_all [kind]

theorem unit_of_stray {s : List Char} (stray : Stray s) (stretch : Stretch) :
    stretch.unit s = 0 := by
  obtain ⟨rest, rfl, apart⟩ := stray
  cases stretch with
  | word => rfl
  | breaks =>
    refine Decidable.byContradiction fun begins => ?_
    rcases breakUnit_ne_zero.1 begins with ⟨more, same⟩ | ⟨more, same⟩
    · exact absurd (List.cons.inj same).1 (by decide)
    · exact apart (by rw [(List.cons.inj same).2]; rfl)
  | space => rfl

/-- A stretch begins with every character but a stray carriage return. -/
theorem exists_unit {c : Char} {rest : List Char} (paired : Paired (c :: rest)) :
    ∃ stretch : Stretch, stretch.unit (c :: rest) ≠ 0 := by
  by_cases blank : isBlank c = true
  · exact ⟨space, oneUnit_ne_zero.2 ⟨c, rest, rfl, blank⟩⟩
  by_cases feed : c = '\n'
  · subst feed
    exact ⟨breaks, breakUnit_ne_zero.2 (.inl ⟨rest, rfl⟩)⟩
  by_cases back : c = '\r'
  · subst back
    obtain ⟨more, rfl⟩ := List.head?_eq_some_iff.1 (paired [] rest rfl)
    exact ⟨breaks, breakUnit_ne_zero.2 (.inr ⟨more, rfl⟩)⟩
  · have plain := not_or.1 (mt isBlank_iff.2 blank)
    exact ⟨word, oneUnit_ne_zero.2 ⟨c, rest, rfl, inWord_iff.2 ⟨plain.1, plain.2, back, feed⟩⟩⟩

/-- What ends a stretch within a text ends it too when a stray carriage return comes after the
text. -/
theorem unit_append_stray {stretch : Stretch} {s rest : List Char} (paired : Paired s)
    (stops : stretch.unit s = 0) (ends : rest = [] ∨ Stray rest) :
    stretch.unit (s ++ rest) = 0 := by
  cases s with
  | nil =>
    rcases ends with rfl | stray
    · exact stretch.unit_nil
    · exact unit_of_stray stray stretch
  | cons c more =>
    refine Decidable.byContradiction fun begins => ?_
    obtain ⟨other, also⟩ := exists_unit paired
    obtain ⟨piece, after, split, nonempty, told⟩ := other.exists_piece _ also
    have still : other.unit (c :: more ++ rest) ≠ 0 := by
      rw [split, List.append_assoc, told]
      exact mt List.eq_nil_of_length_eq_zero nonempty
    exact also (unit_exclusive still begins ▸ stops)

end Stretch

/-- What is wrong at a place where this is left of a text. -/
def stuckAt (place : Place) : List Char → Option Fault
  | [] => none
  | c :: _ => some (.unmatched place.line place.column place.offset c)

theorem stuckAt_eq_none_iff {place : Place} {rest : List Char} :
    stuckAt place rest = none ↔ rest = [] := by
  cases rest <;> simp [stuckAt]

/-- A text whose carriage returns are paired falls into stretches, and becomes their tokens whether
it ends there or a stray carriage return comes next. -/
theorem tokenized_of_paired (s : List Char) (paired : Paired s) (place : Place) :
    ∃ tokens, Tokenized place s tokens ∧ ∀ rest, rest = [] ∨ Stray rest →
      Lexicon.standard.scan place (s ++ rest) = (tokens, stuckAt (place.after true s) rest) := by
  induction length : s.length using Nat.strongRecOn generalizing s place with
  | _ count ih =>
    cases s with
    | nil =>
      refine ⟨[], .nil, fun rest ends => ?_⟩
      rcases ends with rfl | stray
      · exact Lexicon.scan_nil
      · obtain ⟨more, rfl, apart⟩ := stray
        exact Lexicon.scan_stuck
          (Stretch.firstMatch_none (Stretch.unit_of_stray ⟨more, rfl, apart⟩))
    | cons c more =>
      obtain ⟨stretch, begins⟩ := Stretch.exists_unit paired
      obtain ⟨piece, after, split, row, stops⟩ := exists_row stretch.exists_piece (c :: more)
      have whole : stretch.Whole piece := by
        refine ⟨?_, row⟩
        rintro rfl
        exact begins (split ▸ stops)
      rw [split] at paired length ⊢
      have shorter : after.length < count := by
        have := List.length_pos_iff.2 whole.nonempty
        simp only [← length, List.length_append]
        omega
      obtain ⟨tokens, tokenized, scanned⟩ :=
        ih _ shorter after paired.suffix (place.after true piece) rfl
      refine ⟨stretch.token piece place :: tokens, .cons stretch whole stops tokenized, ?_⟩
      intro rest ends
      have found := whole.firstMatch (Stretch.unit_append_stray paired.suffix stops ends)
      rw [List.append_assoc, Lexicon.scan_piece found, whole.after_entry, scanned rest ends,
        Place.after_append]
      rfl

theorem paired_cons {c : Char} {s : List Char} :
    Paired (c :: s) ↔ (c = '\r' → s.head? = some '\n') ∧ Paired s := by
  constructor
  · intro paired
    exact ⟨fun back => paired [] s (by rw [back]; rfl), Paired.suffix (s := [c]) paired⟩
  · rintro ⟨first, paired⟩ before after split
    cases before with
    | nil =>
      obtain ⟨back, rfl⟩ := List.cons.inj split
      exact first back
    | cons other before => exact paired before after (List.cons.inj split).2

/-- Every text is paired up to its end or to a stray carriage return. -/
theorem exists_paired (s : List Char) :
    ∃ lexed rest, s = lexed ++ rest ∧ Paired lexed ∧ (rest = [] ∨ Stray rest) := by
  induction s with
  | nil => exact ⟨[], [], rfl, by simp [Paired], .inl rfl⟩
  | cons c s ih =>
    by_cases stray : Stray (c :: s)
    · exact ⟨[], c :: s, rfl, by simp [Paired], .inr stray⟩
    · obtain ⟨lexed, rest, rfl, paired, ends⟩ := ih
      refine ⟨c :: lexed, rest, rfl, paired_cons.2 ⟨fun back => ?_, paired⟩, ends⟩
      have next : (lexed ++ rest).head? = some '\n' :=
        Decidable.byContradiction fun apart => stray ⟨lexed ++ rest, by rw [back], apart⟩
      cases lexed with
      | cons d lexed => exact next
      | nil =>
        rcases ends with rfl | ⟨more, rfl, -⟩
        · cases next
        · exact absurd (Option.some.inj next) (by decide)

/-- Nothing is left of a text exactly if it is paired. -/
theorem paired_append_iff {lexed rest : List Char} (paired : Paired lexed)
    (ends : rest = [] ∨ Stray rest) : Paired (lexed ++ rest) ↔ rest = [] := by
  constructor
  · exact fun all => ends.resolve_right all.suffix.not_stray
  · rintro rfl
    rwa [List.append_nil]

/-- Unified line breaks leave no carriage return. -/
theorem Text.paired_unifyBreaks (chars : List Char) : Paired (Text.unifyBreaks chars) := by
  have gone : '\r' ∉ Text.unifyBreaks chars := by
    fun_induction Text.unifyBreaks chars with
    | case1 => simp
    | case2 rest ih => simpa using ih
    | case3 c rest both ih =>
      have kept : '\r' ≠ if c = '\r' then '\n' else c := by
        split <;> simp_all [eq_comm]
      simpa using ⟨kept, ih⟩
  intro before after split
  exact absurd (by simp [split]) gone

namespace Tokenized

variable {place : Place} {s : List Char} {tokens : List Token}

theorem flatMap_text (tokenized : Tokenized place s tokens) :
    tokens.flatMap (·.text.toList) = s := by
  induction tokenized with
  | nil => rfl
  | @cons place piece rest tokens stretch whole stops tail ih =>
    rw [List.flatMap_cons, ih]
    simp [Stretch.token, Lexicon.Entry.token]

theorem offsets (tokenized : Tokenized place s tokens) {before after : List Token} {token : Token}
    (split : tokens = before ++ token :: after) :
    let start := place.offset + (before.flatMap (·.text.toList)).length
    token.span.start = some (start : Int) ∧
      token.span.stop = some ((start + token.text.length : Nat) : Int) := by
  induction tokenized generalizing before with
  | nil => simp at split
  | @cons place piece rest tokens stretch whole stops tail ih =>
    cases before with
    | nil =>
      obtain ⟨rfl, rfl⟩ := List.cons.inj split
      simp [Stretch.token, Lexicon.Entry.token, Place.offset_after]
    | cons first before =>
      obtain ⟨rfl, parts⟩ := List.cons.inj split
      have later := ih parts
      simpa [Stretch.token, Lexicon.Entry.token, Place.offset_after, Nat.add_assoc] using later

theorem stretch_of_mem (tokenized : Tokenized place s tokens) {token : Token}
    (member : token ∈ tokens) :
    ∃ stretch : Stretch, token.kind = stretch.kind ∧ Role.ofText token.text = stretch.role := by
  induction tokenized with
  | nil => cases member
  | @cons place piece rest tokens stretch whole stops tail ih =>
    rcases List.mem_cons.1 member with rfl | later
    · exact ⟨stretch, stretch.kind_token .., whole.role_eq⟩
    · exact ih later

/-- The kind of a token tells its role. -/
theorem role_iff_kind (tokenized : Tokenized place s tokens) {token : Token}
    (member : token ∈ tokens) :
    (Classifier.byText token = .ok .indentation ↔ token.kind = "WS") ∧
      (Classifier.byText token = .ok .lineBreak ↔ token.kind = "NEWLINE") ∧
      (Classifier.byText token = .ok .ordinary ↔ token.kind = "WORD") := by
  obtain ⟨stretch, kind, role⟩ := tokenized.stretch_of_mem member
  rw [Classifier.byText, role, kind]
  cases stretch <;> simp [Stretch.role, Stretch.kind]

/-- The stretch of the first token begins where the text does. -/
theorem begins (tokenized : Tokenized place s tokens) {token : Token}
    (first : tokens.head? = some token) :
    ∃ stretch : Stretch, token.kind = stretch.kind ∧ stretch.unit s ≠ 0 := by
  cases tokenized with
  | nil => cases first
  | @cons _ piece rest tokens stretch whole stops tail =>
    cases first
    exact ⟨stretch, stretch.kind_token .., whole.begins rest⟩

theorem isChain_kind (tokenized : Tokenized place s tokens) :
    tokens.IsChain fun token next => token.kind ≠ next.kind := by
  induction tokenized with
  | nil => exact .nil
  | @cons place piece rest tokens stretch whole stops tail ih =>
    refine List.isChain_cons.2 ⟨fun next first same => ?_, ih⟩
    obtain ⟨other, kind, begins⟩ := tail.begins first
    have kind : stretch.kind = other.kind := by
      rw [← kind, ← same, Stretch.kind_token]
    obtain rfl := Stretch.eq_of_kind kind
    exact begins stops

end Tokenized

/-- What the standard terminals take of a text, and where they are stuck. -/
theorem Lexicon.read_standard (cursor : standard.source.State) (text : String) :
    ∃ lexed rest tokens, text.toList = lexed ++ rest ∧ Paired lexed ∧ (rest = [] ∨ Stray rest) ∧
      Tokenized {} lexed tokens ∧ (standard.source.readFrom cursor text).tokens = tokens ∧
      (standard.source.readFrom cursor text).fault = stuckAt (Place.after true {} lexed) rest ∧
      (standard.source.readFrom cursor (String.ofList lexed)).tokens = tokens := by
  obtain ⟨lexed, rest, split, paired, ends⟩ := exists_paired text.toList
  obtain ⟨tokens, tokenized, scanned⟩ := tokenized_of_paired lexed paired {}
  have whole := scanned rest ends
  have alone := scanned [] (.inl rfl)
  rw [← split] at whole
  rw [List.append_nil] at alone
  obtain ⟨given, fault⟩ := standard.readFrom_source cursor text
  obtain ⟨givenAlone, -⟩ := standard.readFrom_source cursor (String.ofList lexed)
  rw [whole] at given fault
  rw [String.toList_ofList, alone] at givenAlone
  exact ⟨lexed, rest, tokens, split, paired, ends, tokenized, given, fault, givenAlone⟩

/-- The standard terminals take a text to its end exactly if every carriage return in it comes
right before a line feed. Otherwise they take it as they take the text before the first carriage
return that does not, and fail at that one. What they take they give back whole and in its places,
in tokens that are as long as their kind lets them be; and the role of a token, which is told by its
characters alone, goes with its kind. -/
theorem Lexicon.reads_until_stray :
    ∃ lexicon, ofTable .standard = .ok lexicon ∧
      ∀ (cursor : lexicon.source.State) (text : String),
        let reading := lexicon.source.readFrom cursor text
        (reading.fault = none ↔ Paired text.toList) ∧
        ∃ lexed rest, text.toList = lexed ++ rest ∧ Paired lexed ∧
          (rest = [] ∧ reading.fault = none ∨
            Stray rest ∧
              let place := Place.after true {} lexed
              reading.fault = some (.unmatched place.line place.column lexed.length '\r')) ∧
          reading.tokens = (lexicon.source.readFrom cursor (String.ofList lexed)).tokens ∧
          reading.tokens.flatMap (·.text.toList) = lexed ∧
          (∀ before token after, reading.tokens = before ++ token :: after →
            let start : Nat := (before.flatMap (·.text.toList)).length
            token.span.start = some (start : Int) ∧
              token.span.stop = some ((start + token.text.length : Nat) : Int)) ∧
          reading.tokens.IsChain (fun token next => token.kind ≠ next.kind) ∧
          ∀ token ∈ reading.tokens,
            (Classifier.byText token = .ok .indentation ↔ token.kind = "WS") ∧
            (Classifier.byText token = .ok .lineBreak ↔ token.kind = "NEWLINE") ∧
            (Classifier.byText token = .ok .ordinary ↔ token.kind = "WORD") := by
  refine ⟨standard, ofTable_standard, fun cursor text => ?_⟩
  intro reading
  obtain ⟨lexed, rest, tokens, split, paired, ends, tokenized, given, fault, alone⟩ :=
    read_standard cursor text
  have outcome : rest = [] ∧ reading.fault = none ∨ Stray rest ∧
      let place := Place.after true {} lexed
      reading.fault = some (.unmatched place.line place.column lexed.length '\r') := by
    rcases ends with rfl | stray
    · exact .inl ⟨rfl, fault⟩
    · refine .inr ⟨stray, fault.trans ?_⟩
      obtain ⟨more, rfl, -⟩ := stray
      simp [stuckAt, Place.offset_after]
  refine ⟨?_, lexed, rest, split, paired, outcome, ?_⟩
  · rw [show reading.fault = _ from fault, stuckAt_eq_none_iff, split,
      paired_append_iff paired ends]
  · rw [show reading.tokens = tokens from given]
    refine ⟨alone.symm, tokenized.flatMap_text, ?_, tokenized.isChain_kind, ?_⟩
    · intro before token after parts
      simpa using tokenized.offsets parts
    · exact fun token member => tokenized.role_iff_kind member

end Offside
