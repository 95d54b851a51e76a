import Mathlib
import Offside.Proofs.Output
import Offside.Proofs.Questions

/-! The ends of lines. A token that ends a line is made in three places: where a line break ends the
body of a line, where a blank line contributes one, and at the end of the text. `endsOf` says of raw
tokens which of these come up at their line breaks, and `lastEnd` what comes up at the end of the
text; together they are all the tokens of this kind that a reading delivers, one a line. -/
namespace Offside

variable {δ μ : Type}

/-- Those tokens that end a line. -/
def endings (tokens : List Token) : List Token := tokens.filter fun token => token.kind = eolKind

theorem endings_append (tokens more : List Token) :
    endings (tokens ++ more) = endings tokens ++ endings more :=
  List.filter_append ..

theorem endings_all {tokens : List Token} (ends : ∀ token ∈ tokens, token.kind = eolKind) :
    endings tokens = tokens :=
  List.filter_eq_self.2 fun token member => decide_eq_true (ends token member)

theorem endings_none {tokens : List Token} (others : ∀ token ∈ tokens, token.kind ≠ eolKind) :
    endings tokens = [] :=
  List.filter_eq_nil_iff.2 fun token member => by simpa using others token member

/-- The lines of a text are cut at its line breaks. -/
theorem Page.breakers_cut (fault : Option Fault) (words : Words) :
    (cut fault words).lines.map (·.2) =
      (words.filter fun word => word.2 = .lineBreak).map (·.1) := by
  induction words using List.reverseRecOn with
  | nil => rfl
  | append_singleton words word ih =>
    obtain ⟨token, role⟩ := word
    by_cases ends : role = .lineBreak
    · subst ends
      rw [cut_break, close, List.filter_append]
      simp [ih]
    · rw [cut_other words ends, extend, List.filter_append]
      simp [ih, ends]

/-- What is made of each line break, and of the last line, goes line by line. -/
theorem Page.zip_parts {α : Type} (page : Page) (f : Token → α) (final : α) :
    page.parts.zip ((page.lines.map (·.2)).map f ++ [final]) =
      page.lines.map (fun line => (line.1, f line.2)) ++ [(page.rest, final)] := by
  rw [parts, List.map_map, List.zip_append (by simp), List.zip_map']
  rfl

/-- Those are the raw tokens that are known to end a line. -/
theorem Layout.breakers_of_classified {L : Layout δ μ} {words : Words}
    (classified : ∀ word ∈ words, L.classify word.1 = .ok word.2) :
    (words.map (·.1)).filter L.isBreak =
      (words.filter fun word => word.2 = .lineBreak).map (·.1) := by
  rw [List.filter_map]
  refine congrArg _ (List.filter_congr fun word member => ?_)
  rw [Function.comp_apply, isBreak, classified word member]
  cases word.2 <;> rfl

namespace Layout

variable {L : Layout δ μ} {line : Words}

/-- Layout tokens are built from their base, and blank lines contribute ends of lines or nothing. -/
structure EndsLines (L : Layout δ μ) : Prop where
  build : L.build = .borrow
  blank : ∀ last breaker, ∀ made ∈ L.blank L.build last breaker, made.kind = eolKind

/-- What ends a line that the given line break ends. -/
def lineEnd (L : Layout δ μ) (line : Words) (breaker : Token) : List Token :=
  if line.body = [] then L.blank L.build breaker breaker
  else [L.build eolKind breaker.text breaker]

/-- What ends the last line of a text, of which the last raw token is given. -/
def lastEnd (L : Layout δ μ) (line : Words) (last : Token) : List Token :=
  if line.body = [] then L.blank L.build last none else [L.build eolKind last.text last]

/-- What ends the lines of raw tokens that line breaks end. -/
def endsOf (L : Layout δ μ) (words : Words) : List Token :=
  (Page.cut none words).lines.flatMap fun line => L.lineEnd line.1 line.2

theorem EndsLines.of_eol (build : L.build = .borrow) (blank : L.blank = .eol none) :
    L.EndsLines := by
  refine ⟨build, fun last breaker made member => ?_⟩
  rw [build, blank] at member
  cases breaker <;> exact congrArg Token.kind (List.mem_singleton.1 member)

theorem EndsLines.of_ignore (build : L.build = .borrow) (blank : L.blank = .ignore) :
    L.EndsLines := by
  refine ⟨build, fun last breaker made member => ?_⟩
  rw [blank] at member
  exact absurd member List.not_mem_nil

theorem EndsLines.lastEnd (ends : L.EndsLines) {last made : Token}
    (member : made ∈ L.lastEnd line last) : made.kind = eolKind := by
  unfold Layout.lastEnd at member
  split at member
  · exact ends.blank _ _ made member
  · rw [ends.build] at member
    exact congrArg Token.kind (List.mem_singleton.1 member)

theorem lineEnd_blank (blank : line.body = []) (breaker : Token) :
    L.lineEnd line breaker = L.blank L.build breaker breaker := if_pos blank

theorem lineEnd_content (content : line.body ≠ []) (breaker : Token) :
    L.lineEnd line breaker = [L.build eolKind breaker.text breaker] := if_neg content

theorem endsOf_break (L : Layout δ μ) (words : Words) (token : Token) :
    L.endsOf (words ++ [(token, .lineBreak)]) =
      L.endsOf words ++ L.lineEnd words.current token := by
  rw [endsOf, Page.cut_break, Page.close, List.flatMap_append, List.flatMap_singleton]
  rfl

theorem endsOf_other (L : Layout δ μ) (words : Words) (token : Token) {role : Role}
    (other : role ≠ .lineBreak) : L.endsOf (words ++ [(token, role)]) = L.endsOf words := by
  rw [endsOf, Page.cut_other words other]
  rfl

/-- Where a blank line ends like any other, every line break ends a line. -/
theorem endsOf_eol (build : L.build = .borrow) (blank : L.blank = .eol none) (words : Words) :
    L.endsOf words = ((Page.cut none words).lines.map (·.2)).map fun breaker =>
      Builder.borrow eolKind breaker.text breaker := by
  rw [endsOf, List.map_map, List.map_eq_flatMap]
  refine congrArg (List.flatMap · _) (funext fun line => ?_)
  rw [lineEnd, build, blank]
  exact ite_self _

theorem lastEnd_eol (build : L.build = .borrow) (blank : L.blank = .eol none) (line : Words)
    (last : Token) :
    L.lastEnd line last =
      [Builder.borrow eolKind (if line.body = [] then "" else last.text) last] := by
  rw [lastEnd, build, blank]
  split <;> rfl

/-- Where blank lines contribute nothing, only lines with content are ended. -/
theorem endsOf_ignore (build : L.build = .borrow) (blank : L.blank = .ignore) (words : Words) :
    L.endsOf words = ((Page.cut none words).lines.filter (·.1.body ≠ [])).map fun line =>
      Builder.borrow eolKind line.2.text line.2 := by
  rw [endsOf]
  induction (Page.cut none words).lines with
  | nil => rfl
  | cons line lines ih =>
    rw [List.flatMap_cons, ih, lineEnd, build, blank, List.filter_cons]
    by_cases empty : line.1.body = []
    · simp [empty, BlankRule.ignore]
    · simp [empty]

theorem lastEnd_ignore (build : L.build = .borrow) (blank : L.blank = .ignore) (line : Words)
    (last : Token) :
    L.lastEnd line last =
      if line.body = [] then [] else [Builder.borrow eolKind last.text last] := by
  rw [lastEnd, build, blank]
  rfl

end Layout

namespace Progress

variable {L : Layout δ μ} {p later : Progress δ μ} {words : Words} {events : List Event}

/-- Tokens that open or close levels end no line. -/
theorem endings_settled [Ord δ] (ends : L.EndsLines) {depth : δ} {token : Token}
    {levels : List (Level δ)} {tokens : List Token}
    (settled : (p.settle L depth token).outcome =
      .ok { p with levels, queue := p.queue ++ tokens }) : endings tokens = [] := by
  obtain ⟨made, _, same, built⟩ := settle_eq_ok settled
  obtain rfl : tokens = made := List.append_cancel_left (congrArg queue same)
  apply endings_none
  intro token member
  obtain ⟨kind, structural, rfl⟩ := built token member
  rw [ends.build]
  rintro rfl
  exact absurd structural (by decide)

/-- Taking a raw token ends a line just where it is a line break. -/
theorem Taken.adds_endings [Ord δ] (ends : L.EndsLines) {token : Token} {role : Role}
    (other : token.kind ≠ eolKind) (reads : p.Reads words) (unfinished : p.phase ≠ .finished)
    (taken : Taken L p token role events later) :
    ∃ made, endings later.queue = endings p.queue ++ made ∧
      L.endsOf (words ++ [(token, role)]) = L.endsOf words ++ made := by
  have raw : endings [token] = [] := endings_none (by simpa using other)
  cases taken with
  | indents start => exact ⟨[], by simp, by simp [L.endsOf_other words]⟩
  | endsBlank start told =>
    refine ⟨L.blank L.build token token, ?_, ?_⟩
    · rw [endings_append, endings_all (ends.blank _ _)]
    · rw [L.endsOf_break, Layout.lineEnd_blank (reads.start start)]
  | begins start told settled built =>
    have opening := endings_settled ends settled
    exact ⟨[], by simp [endings_append, opening, raw], by simp [L.endsOf_other words]⟩
  | passes inside => exact ⟨[], by simp [endings_append, raw], by simp [L.endsOf_other words]⟩
  | ends inside =>
    have content := reads.inside (body_of_inside unfinished inside)
    have ending : endings [L.build eolKind token.text token] = [L.build eolKind token.text token] :=
      endings_all (by simp [ends.build, Builder.borrow])
    refine ⟨[L.build eolKind token.text token], ?_, ?_⟩
    · rw [endings_append, ending]
    · rw [L.endsOf_break, Layout.lineEnd_content content]
  | continues inside => exact ⟨[], by simp [endings_append, raw], by simp [L.endsOf_other words]⟩

/-- Of raw tokens there are ready at any time just the ends of the lines that came to an end. -/
theorem Takes.endings_eq [Ord δ] (ends : L.EndsLines) (takes : Takes L L.fresh words later)
    (others : ∀ word ∈ words, word.1.kind ≠ eolKind) : endings later.queue = L.endsOf words := by
  induction takes with
  | nothing => rfl
  | more takes classified taken ih =>
    obtain ⟨before, here⟩ := List.forall_mem_append.1 others
    obtain ⟨made, queued, ended⟩ := taken.adds_endings ends (here _ List.mem_cons_self)
      takes.reads (takes.unfinished nofun)
    rw [queued, ended, ih before]

/-- The tokens that close levels end no line. -/
theorem endings_closing (ends : L.EndsLines) (levels : List (Level δ)) (last : Token) :
    endings (L.closing levels last) = [] := by
  apply endings_none
  intro token member
  obtain ⟨level, _, rfl⟩ := List.mem_map.1 member
  rw [ends.build]
  exact eol_ne_dedent.symm

/-- At the end of the text the last line ends, and then every level but the outermost is closed. -/
theorem Ended.adds_last_end (reads : p.Reads words) (unfinished : p.phase ≠ .finished)
    (ended : Ended L p events later) :
    let last := p.last.getD L.fallback
    later.queue = p.queue ++ L.lastEnd words.current last ++ L.closing p.levels last := by
  intro last
  have same : (if p.phase = .body then [L.build eolKind last.text last]
      else L.blank L.build last none) = L.lastEnd words.current last := by
    cases phase : p.phase with
    | margin => exact (if_pos (reads.start phase)).symm
    | body => exact (if_neg (reads.inside phase)).symm
    | finished => exact absurd phase unfinished
  rw [← same]
  exact ended.queue_eq

end Progress

namespace Layout

variable [Ord δ] [DecidableEq δ] [DecidableEq μ]

/-- What a reading without a fault delivers: what its raw tokens come to, the end of the last line,
and the tokens that close the levels that are still open. -/
theorem takes_of_read {L : Layout δ μ} {S : Source} {elsewhere : Cursor δ μ S.State} {text : String}
    (complete : ((L.source S).readFrom elsewhere text).fault = none) :
    let raw := (S.readFrom elsewhere.base text).tokens
    let last := raw.getLast?.getD L.fallback
    ∃ words p, words.map (·.1) = raw ∧ L.fresh.Takes L words p ∧
      ((L.source S).readFrom elsewhere text).tokens =
        p.queue ++ L.lastEnd words.current last ++ L.closing p.levels last := by
  intro raw last
  obtain ⟨words, later, -, lays, -, whole⟩ := L.lays_of_read S elsewhere text
  obtain ⟨known, finished, delivered⟩ := whole complete
  cases lays with
  | midway takes => exact absurd finished (takes.unfinished nofun)
  | @ended p _ _ takes ended =>
    refine ⟨words, p, known, takes, ?_⟩
    rw [delivered, ended.adds_last_end takes.reads (takes.unfinished nofun), takes.last, known]

/-- Every line of a text ends in one token. Of the lines that a line break ends it shows that line
break; of the last line it shows the last raw token, but no text where that line is blank, and only
the levels that are still open are closed after it. Where blank lines contribute nothing, these are
the ends of the lines with content. -/
theorem endings_of_read (L : Layout δ μ) (S : Source) (elsewhere : Cursor δ μ S.State)
    (text : String) (build : L.build = .borrow)
    (others : ∀ token ∈ (S.readFrom elsewhere.base text).tokens, token.kind ≠ eolKind)
    (complete : ((L.source S).readFrom elsewhere text).fault = none) :
    let raw := (S.readFrom elsewhere.base text).tokens
    let tokens := ((L.source S).readFrom elsewhere text).tokens
    let page := L.page raw none
    let last := raw.getLast?.getD L.fallback
    let final := Builder.borrow eolKind (if page.rest.body = [] then "" else last.text) last
    let ends := (raw.filter L.isBreak).map (fun breaker =>
      Builder.borrow eolKind breaker.text breaker) ++ [final]
    page.words.map (·.1) = raw ∧ page.lines.map (·.2) = raw.filter L.isBreak ∧
      (L.blank = .eol none →
        endings tokens = ends ∧ (endings tokens).length = raw.countP L.isBreak + 1 ∧
          ∃ p, L.fresh.Takes L page.words p ∧
            tokens = p.queue ++ final :: L.closing p.levels last) ∧
      (L.blank = .ignore →
        endings tokens = ((page.parts.zip ends).filter (·.1.body ≠ [])).map (·.2)) := by
  intro raw tokens page last final ends
  obtain ⟨words, p, known, takes, delivered⟩ := takes_of_read complete
  have cut : page = Page.cut none words := by
    rw [show page = L.page raw none from rfl, show raw = words.map (·.1) from known.symm,
      Layout.page, words_of_classified takes.classified]
  have breakers : page.lines.map (·.2) = raw.filter L.isBreak := by
    rw [cut, Page.breakers_cut, show raw = words.map (·.1) from known.symm,
      breakers_of_classified takes.classified]
  have others : ∀ word ∈ words, word.1.kind ≠ eolKind := fun word member =>
    others word.1 (known ▸ List.mem_map_of_mem member)
  have ended : tokens = p.queue ++ L.lastEnd page.rest last ++ L.closing p.levels last := by
    rw [cut]
    exact delivered
  have all (plain : L.EndsLines) :
      endings tokens = L.endsOf words ++ L.lastEnd page.rest last := by
    rw [ended, endings_append, endings_append, takes.endings_eq plain others,
      endings_all fun made member => plain.lastEnd member, Progress.endings_closing plain,
      List.append_nil]
  refine ⟨?_, breakers, fun blank => ?_, fun blank => ?_⟩
  · rw [cut, Page.words_cut]
    exact known
  · have whole : endings tokens = ends := by
      rw [all (.of_eol build blank), endsOf_eol build blank, lastEnd_eol build blank, ← cut,
        breakers]
    refine ⟨whole, ?_, p, ?_, ?_⟩
    · rw [whole, List.length_append, List.length_map, List.countP_eq_length_filter]
      rfl
    · rw [cut, Page.words_cut]
      exact takes
    · rw [ended, lastEnd_eol build blank, List.append_assoc]
      rfl
  · have paired : page.parts.zip ends = page.lines.map (fun line =>
        (line.1, Builder.borrow eolKind line.2.text line.2)) ++ [(page.rest, final)] := by
      have same : ends = (page.lines.map (·.2)).map (fun breaker =>
        Builder.borrow eolKind breaker.text breaker) ++ [final] := by rw [breakers]
      rw [same, Page.zip_parts]
    rw [all (.of_ignore build blank), endsOf_ignore build blank, lastEnd_ignore build blank, ← cut,
      paired, List.filter_append, List.map_append, List.filter_map, List.map_map]
    refine congrArg _ ?_
    by_cases blank : page.rest.body = []
    · simp [blank]
    · simp [blank, final]

/-- A line, a deeper one, a blank one, and white space at the end. Where blank lines end like any
other there are four ends of lines, the last of them without text and before the token that closes
the deeper line; where they contribute nothing there are the two of the lines with content. -/
theorem endings_of_read_blank_lines :
    let a : Token := ⟨"WORD", "a", { start := some 0 }⟩
    let b : Token := ⟨"WORD", "b", { start := some 4 }⟩
    let one : Token := ⟨"NL", "\n", { start := some 1 }⟩
    let two : Token := ⟨"NL", "\r\n", { start := some 5 }⟩
    let three : Token := ⟨"NL", "\n", { start := some 7 }⟩
    let deep : Token := ⟨"WS", "  ", { start := some 2 }⟩
    let space : Token := ⟨"WS", " ", { start := some 8 }⟩
    let raw := [a, one, deep, b, two, three, space]
    let S : Source := .scripted (raw.map some) []
    let L : Layout Int Memory := { standard with blank := .eol none }
    let reading := (L.source S).readFrom (L.source S).start ""
    let plain := (standard.source S).readFrom (standard.source S).start ""
    reading.fault = none ∧ plain.fault = none ∧
      endings reading.tokens =
        [⟨eolKind, "\n", one.span⟩, ⟨eolKind, "\r\n", two.span⟩, ⟨eolKind, "\n", three.span⟩,
          ⟨eolKind, "", space.span⟩] ∧
      endings plain.tokens = [⟨eolKind, "\n", one.span⟩, ⟨eolKind, "\r\n", two.span⟩] := by
  intro a b one two three deep space raw S L reading plain
  obtain ⟨given, ended⟩ : (S.readFrom S.start "").tokens = raw ∧
      (S.readFrom S.start "").fault = none := Source.readFrom_scripted raw [] 0 ""
  have complete (M : Layout Int Memory) (goes : (M.fresh.deliverRaw M raw none).2 = none) :
      ((M.source S).readFrom (M.source S).start "").fault = none := by
    have read := M.readFrom_eq_deliver S (M.source S).start ""
    simp only [show (M.source S).start.base = S.start from rfl, given, ended] at read
    exact (Prod.mk.inj read).2.trans goes
  have others : ∀ token ∈ (S.readFrom S.start "").tokens, token.kind ≠ eolKind := by
    rw [given]
    decide
  have whole := complete L (Option.isNone_iff_eq_none.1 (by decide))
  have part := complete standard (Option.isNone_iff_eq_none.1 (by decide))
  obtain ⟨_, _, eol, -⟩ := endings_of_read L S (L.source S).start "" rfl others whole
  obtain ⟨_, _, -, ignore⟩ :=
    endings_of_read standard S (standard.source S).start "" rfl others part
  refine ⟨whole, part, (eol rfl).1.trans ?_, (ignore rfl).trans ?_⟩
  · rw [show (L.source S).start.base = S.start from rfl, given]
    decide
  · rw [show (standard.source S).start.base = S.start from rfl, given]
    decide

end Layout

end Offside
