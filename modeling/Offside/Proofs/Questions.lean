import Offside.Proofs.CurrentLine
import Offside.Proofs.EndOfText
import Offside.Proofs.Hearing

/-! Which questions a layout asks, line by line. Of each line the source is asked for its raw
tokens; how deep a line is is asked of a line with content, what it contributes of a blank one; and
then the observers are told of it, in their order, before anything is asked about the next line.
`LineByLine` says this for the tokens of a text, here it is said for the questions. -/
namespace Offside

variable {δ μ : Type}

/-- What an observer is told of the lines of a page, of which no line break ends the last. -/
def Page.reports (page : Page) : List LineReport :=
  page.lines.map (fun line => line.1.report (some line.2)) ++ [page.rest.report none]

namespace Layout

/-- Whether a raw token is known to end a line. -/
def isBreak (L : Layout δ μ) (token : Token) : Bool :=
  match L.classify token with
  | .ok .lineBreak => true
  | _ => false

/-- The questions about a line that the given line break ends, or the end of the text. The source is
asked for the indentation and for what comes after it. If that ends the line, the rule for blank
lines is asked; else it is the first token of the body, the depth is asked for, and in the end the
source for the rest of the line. -/
def lineQuestions (L : Layout δ μ) (words : Words) (breaker : Option Token) : List Event :=
  List.replicate (words.indentation.length + 1) .pulled ++
    match words.body with
    | [] =>
      .blankLine breaker ::
        L.tellings ⟨words.margin, words.indentation, breaker, breaker.isSome⟩
    | (first, _) :: more =>
      .measured words.indentation words.margin ::
        L.tellings ⟨words.margin, words.indentation, some first, false⟩ ++
          List.replicate (more.length + 1) .pulled

/-- The questions about a text, line by line. -/
def pageQuestions (L : Layout δ μ) (page : Page) : List Event :=
  page.lines.flatMap (fun line => L.lineQuestions line.1 (some line.2)) ++
    L.lineQuestions page.rest none

/-- The questions about a line that came up with the given raw tokens, while it may go on. -/
def begun (L : Layout δ μ) (words : Words) : List Event :=
  match words.body with
  | [] => List.replicate words.indentation.length .pulled
  | (first, _) :: more =>
    List.replicate (words.indentation.length + 1) .pulled ++
      .measured words.indentation words.margin ::
        L.tellings ⟨words.margin, words.indentation, some first, false⟩ ++
          List.replicate more.length .pulled

/-- The questions that came up with the given raw tokens of a text, while it may go on. -/
def askedOf (L : Layout δ μ) (words : Words) : List Event :=
  (Page.cut none words).lines.flatMap (fun line => L.lineQuestions line.1 (some line.2)) ++
    L.begun words.current

section

variable {L : Layout δ μ} {words : Words}

theorem begun_blank (blank : words.body = []) :
    L.begun words = List.replicate words.indentation.length .pulled := by
  rw [begun, blank]

/-- Indentation is asked for and brings up nothing else. -/
theorem begun_indentation (L : Layout δ μ) (blank : words.body = []) (token : Token) :
    L.begun (words ++ [(token, .indentation)]) = L.begun words ++ [.pulled] := by
  rw [begun_blank blank, begun_blank (Words.body_concat_blank blank),
    Words.indentation_concat_blank blank, List.length_append, List.length_singleton,
    List.replicate_succ']

/-- With the first ordinary token the depth of the line is asked for, and its observers are told. -/
theorem begun_first (L : Layout δ μ) (blank : words.body = []) (token : Token) :
    L.begun (words ++ [(token, .ordinary)]) =
      L.begun words ++ .pulled :: .measured words.indentation words.margin ::
        L.tellings ⟨words.margin, words.indentation, some token, false⟩ := by
  have body : Words.body (words ++ [(token, .ordinary)]) = words.body ++ [(token, .ordinary)] :=
    Words.body_concat (.inr nofun)
  have indentation : Words.indentation (words ++ [(token, .ordinary)]) = words.indentation :=
    Words.indentation_concat (.inr nofun)
  rw [begun_blank blank, begun, body, blank, Words.margin, indentation, ← Words.margin]
  simp [List.replicate_succ']

/-- Within the body the source is asked and nothing else. -/
theorem begun_body {word : Token × Role} (content : words.body ≠ []) :
    L.begun (words ++ [word]) = L.begun words ++ [.pulled] := by
  have body : Words.body (words ++ [word]) = words.body ++ [word] :=
    Words.body_concat (.inl content)
  have indentation : Words.indentation (words ++ [word]) = words.indentation :=
    Words.indentation_concat (.inl content)
  obtain ⟨⟨first, role⟩, more, starts⟩ := List.exists_cons_of_ne_nil content
  rw [begun, begun, body, starts, Words.margin, indentation, ← Words.margin]
  simp [List.replicate_succ']

/-- The end of a blank line is asked for, and then the rule for blank lines. -/
theorem lineQuestions_blank (blank : words.body = []) (breaker : Option Token) :
    L.lineQuestions words breaker =
      L.begun words ++ .pulled :: .blankLine breaker ::
        L.tellings ⟨words.margin, words.indentation, breaker, breaker.isSome⟩ := by
  rw [begun_blank blank, lineQuestions, blank]
  simp [List.replicate_succ']

/-- The end of a line with content is asked for, and that is all. -/
theorem lineQuestions_content (content : words.body ≠ []) (breaker : Option Token) :
    L.lineQuestions words breaker = L.begun words ++ [.pulled] := by
  obtain ⟨⟨first, role⟩, more, starts⟩ := List.exists_cons_of_ne_nil content
  rw [lineQuestions, begun, starts]
  simp [List.replicate_succ']

theorem askedOf_break (words : Words) (token : Token) :
    L.askedOf (words ++ [(token, .lineBreak)]) =
      (Page.cut none words).lines.flatMap (fun line => L.lineQuestions line.1 (some line.2)) ++
        L.lineQuestions words.current (some token) := by
  rw [askedOf, Words.current_break, Page.cut_break]
  simp [Page.close, begun, Words.body, Words.indentation, Words.current]

theorem askedOf_other (words : Words) (token : Token) (role : Role) (other : role ≠ .lineBreak) :
    L.askedOf (words ++ [(token, role)]) =
      (Page.cut none words).lines.flatMap (fun line => L.lineQuestions line.1 (some line.2)) ++
        L.begun (words.current ++ [(token, role)]) := by
  have line : Words.current (words ++ [(token, role)]) = words.current ++ [(token, role)] :=
    words.current_other other
  have page : Page.cut none (words ++ [(token, role)]) =
      (Page.cut none words).extend (token, role) := Page.cut_other words other
  rw [askedOf, line, page]
  rfl

theorem askedOf_within (words : Words) (token : Token) (role : Role) (other : role ≠ .lineBreak)
    (content : words.current.body ≠ []) :
    L.askedOf (words ++ [(token, role)]) = L.askedOf words ++ [.pulled] := by
  rw [askedOf_other words token role other, begun_body content, askedOf, List.append_assoc]

end

end Layout

namespace Progress

variable {L : Layout δ μ} {p later : Progress δ μ} {words : Words} {events : List Event}

/-- Taking a raw token brings up just the questions that belong to it in its line. -/
theorem Taken.asks [Ord δ] {token : Token} {role : Role} (reads : p.Reads words)
    (unfinished : p.phase ≠ .finished) (taken : Taken L p token role events later) :
    L.askedOf (words ++ [(token, role)]) = L.askedOf words ++ .pulled :: events := by
  have content : p.phase ≠ .margin → words.current.body ≠ [] := fun inside =>
    reads.inside (body_of_inside unfinished inside)
  cases taken with
  | indents start =>
    have line := L.begun_indentation (reads.start start) token
    rw [Layout.askedOf_other words token .indentation nofun, line, Layout.askedOf,
      List.append_assoc]
  | endsBlank start told =>
    rw [Layout.askedOf_break, Layout.lineQuestions_blank (reads.start start), Layout.askedOf,
      List.append_assoc, reads.indentation, reads.margin]
    rfl
  | begins start told settled built =>
    have line := L.begun_first (reads.start start) token
    rw [Layout.askedOf_other words token .ordinary nofun, line, Layout.askedOf,
      List.append_assoc, reads.indentation, reads.margin]
  | passes inside => exact Layout.askedOf_within words token .indentation nofun (content inside)
  | ends inside =>
    rw [Layout.askedOf_break, Layout.lineQuestions_content (content inside), Layout.askedOf,
      List.append_assoc]
  | continues inside => exact Layout.askedOf_within words token .ordinary nofun (content inside)

/-- The end of the text brings up the questions that belong to the end of the last line. -/
theorem Ended.asks (reads : p.Reads words) (unfinished : p.phase ≠ .finished)
    (ended : Ended L p events later) :
    L.pageQuestions (Page.cut none words) = L.askedOf words ++ .pulled :: events := by
  cases ended with
  | body inside =>
    rw [Layout.pageQuestions, ← Words.current, Layout.lineQuestions_content (reads.inside inside),
      Layout.askedOf, List.append_assoc]
  | blank outside told =>
    have start : p.phase = .margin := by
      by_contra inside
      exact outside (body_of_inside unfinished inside)
    rw [Layout.pageQuestions, ← Words.current, Layout.lineQuestions_blank (reads.start start),
      Layout.askedOf, List.append_assoc, reads.indentation, reads.margin]
    rfl

/-- What holds of a layout that has taken the given raw tokens of a text and asked the given
questions. -/
structure Asks (L : Layout δ μ) (p : Progress δ μ) (words : Words) (events : List Event) :
    Prop where
  reads : p.Reads words
  heard : Layout.Heard 0 L.observers events p.memories
  midway : p.phase ≠ .finished → events = L.askedOf words
  ended : p.phase = .finished → events = L.pageQuestions (Page.cut none words)

theorem asks_fresh (L : Layout δ μ) : L.fresh.Asks L [] [] :=
  ⟨reads_fresh L, L.heard_fresh, fun _ => rfl, nofun⟩

theorem Asks.refills [Ord δ] {more : Words} {others : List Event} (asks : p.Asks L words events)
    (unfinished : p.phase ≠ .finished) (refills : Refills L p more others later) :
    later.Asks L (words ++ more) (events ++ others) := by
  refine refills.preserves ?_ ?_ unfinished asks
  · intro p words events token role asked later unfinished asks classified taken
    have onwards := taken.outside_end unfinished
    refine ⟨asks.reads.taken unfinished taken, taken.heard asks.heard, fun _ => ?_,
      fun finished => absurd finished onwards⟩
    rw [taken.asks asks.reads unfinished, asks.midway unfinished]
  · intro p words events asked later unfinished asks ended
    refine ⟨asks.reads.ended ended, ended.heard asks.heard, absurd ended.finished, fun _ => ?_⟩
    rw [ended.asks asks.reads unfinished, asks.midway unfinished]

/-- A run to the end of the text asks the questions that belong to its lines, and the observers hear
what they are told of them. -/
theorem Asks.runs [Ord δ] {more : Words} {others : List Event} {tokens : List Token}
    (asks : p.Asks L words events) (runs : Runs L p more others tokens later) :
    events ++ others = L.pageQuestions (Page.cut none (words ++ more)) ∧
      Layout.Heard 0 L.observers (events ++ others) later.memories := by
  induction runs generalizing words events with
  | exhausted finished =>
    rw [List.append_nil, List.append_nil]
    exact ⟨asks.ended finished, asks.heard⟩
  | @refilled p ready later more rest events' others tokens unfinished refills runs ih =>
    -- delivering what is ready changes nothing that is spoken of here
    obtain ⟨⟨start, inside, indentation, margin⟩, heard, asked, ended⟩ :=
      asks.refills unfinished refills
    have further := ih ⟨⟨start, inside, indentation, margin⟩, heard, asked, ended⟩
    rw [← List.append_assoc, ← List.append_assoc]
    exact further

theorem Runs.classified [Ord δ] {tokens : List Token} (runs : Runs L p words events tokens later) :
    ∀ word ∈ words, L.classify word.1 = .ok word.2 := by
  induction runs with
  | exhausted finished => simp
  | refilled unfinished refills rest ih =>
    exact List.forall_mem_append.2 ⟨refills.classified, ih⟩

end Progress

namespace Page

theorem length_lines_push (page : Page) (word : Token × Role) :
    (page.push word).lines.length = page.lines.length := by
  unfold push
  split
  case h_1 none => simp [none]
  case h_2 words breaker lines some => simp [some]

/-- There is a line for each line break. -/
theorem length_lines_cut (fault : Option Fault) (words : Words) :
    (cut fault words).lines.length = words.countP (·.2 = .lineBreak) := by
  induction words with
  | nil => rfl
  | cons word words ih =>
    obtain ⟨token, role⟩ := word
    cases role with
    | lineBreak => simp [cut, ih]
    | ordinary => simp [cut, length_lines_push, ih]
    | indentation => simp [cut, length_lines_push, ih]

end Page

namespace Layout

variable {L : Layout δ μ} {observer : Nat}

/-- Each observer is told once. -/
theorem toldTo_tellings (report : LineReport) (registered : observer < L.observers.length) :
    (L.tellings report).filterMap (Event.toldTo? observer) = [report] := by
  rw [tellings, List.filterMap_map]
  generalize L.observers.length = count at registered
  induction count with
  | zero => cases registered
  | succ count ih =>
    rw [List.range_succ, List.filterMap_append]
    rcases Nat.lt_succ_iff_lt_or_eq.1 registered with earlier | rfl
    · simp [ih earlier, Event.toldTo?, Nat.ne_of_gt earlier]
    · have before : (List.range observer).filterMap
          (Event.toldTo? observer ∘ (.reported · report)) = [] :=
        List.filterMap_eq_nil_iff.2 fun position member => by
          simp [Event.toldTo?, Nat.ne_of_lt (List.mem_range.1 member)]
      simp [before, Event.toldTo?]

theorem toldTo_lineQuestions (words : Words) (breaker : Option Token)
    (registered : observer < L.observers.length) :
    (L.lineQuestions words breaker).filterMap (Event.toldTo? observer) =
      [words.report breaker] := by
  have pulls : ∀ count,
      (List.replicate count Event.pulled).filterMap (Event.toldTo? observer) = [] :=
    fun count => List.filterMap_replicate_of_none rfl
  unfold lineQuestions Words.report
  cases words.body with
  | nil =>
    rw [List.filterMap_append, pulls, List.nil_append, List.filterMap_cons_none rfl,
      toldTo_tellings _ registered]
  | cons first more =>
    simp only [List.filterMap_append, pulls, List.nil_append, List.append_nil]
    rw [List.filterMap_cons_none rfl, toldTo_tellings _ registered]

/-- Each observer is told of each line once, in the order of the lines. -/
theorem toldTo_pageQuestions (page : Page) (registered : observer < L.observers.length) :
    (L.pageQuestions page).filterMap (Event.toldTo? observer) = page.reports := by
  rw [pageQuestions, Page.reports, List.filterMap_append, toldTo_lineQuestions _ _ registered,
    List.filterMap_flatMap, List.map_eq_flatMap]
  simp only [toldTo_lineQuestions _ _ registered]

theorem length_reports {words : Words} (classified : ∀ word ∈ words, L.classify word.1 = .ok word.2)
    (fault : Option Fault) :
    (Page.cut fault words).reports.length = (words.map (·.1)).countP L.isBreak + 1 := by
  have breaks : (words.map (·.1)).countP L.isBreak = words.countP (·.2 = .lineBreak) := by
    rw [List.countP_map]
    refine List.countP_congr fun word member => ?_
    rw [Function.comp_apply, isBreak, classified word member]
    cases word.2 <;> simp
  rw [breaks, ← Page.length_lines_cut fault, Page.reports, List.length_append, List.length_map,
    List.length_singleton]

/-- A reading without a fault asks just the questions about the lines of its text, line by line. So
every observer is told of every line once, in the order of the lines: for each line break of the
line that it ends, and of the line at the end of the text. What it remembers in the end is what it
makes of these reports, one after the other. -/
theorem questions_line_by_line [Ord δ] [DecidableEq δ] [DecidableEq μ] (L : Layout δ μ) (S : Source)
    (elsewhere : Cursor δ μ S.State) (text : String)
    (complete : ((L.source S).readFrom elsewhere text).fault = none) :
    let raw := (S.readFrom elsewhere.base text).tokens
    let page := L.page raw none
    let asked := questions ((L.source S).readFrom elsewhere text).notes
    page.words.map (·.1) = raw ∧ asked = L.pageQuestions page ∧
      page.reports.length = raw.countP L.isBreak + 1 ∧
      (∀ observer < L.observers.length,
        asked.filterMap (Event.toldTo? observer) = page.reports) ∧
      ∀ (i : Nat) (observer : Observer μ), L.observers[i]? = some observer →
        ∃ memory, ((L.source S).readFrom elsewhere text).state.progress.memories[i]? = some memory ∧
          observer.hears page.reports = .ok memory := by
  intro raw page asked
  obtain ⟨words, final, runs, left, given⟩ := run_of_reading complete
  have known : page = Page.cut none words := by
    rw [show page = L.page raw none from rfl, show raw = words.map (·.1) from given, Layout.page,
      words_of_classified runs.classified]
  obtain ⟨same, heard⟩ := (Progress.asks_fresh L).runs runs
  have same : asked = L.pageQuestions page := by
    rw [known]
    exact same
  have told : ∀ observer < L.observers.length,
      asked.filterMap (Event.toldTo? observer) = page.reports := fun observer registered => by
    rw [same, toldTo_pageQuestions page registered]
  refine ⟨?_, same, ?_, told, fun i observer registered => ?_⟩
  · rw [known, Page.words_cut]
    exact given.symm
  · rw [known, length_reports runs.classified, show raw = words.map (·.1) from given]
  · obtain ⟨memory, remembered, hears⟩ := heard i observer registered
    refine ⟨memory, ?_, ?_⟩
    · rw [left] at remembered
      exact remembered
    · rw [← told i (List.getElem?_eq_some_iff.1 registered).1, ← Nat.zero_add i]
      exact hears

/-- Two observers of a line, a blank line, and a deeper line that no line break ends. -/
theorem questions_line_by_line_blank_between :
    let L := { standard with observers := [.consistent, .counter] }
    let a : Token := ⟨"WORD", "a", {}⟩
    let b : Token := ⟨"WORD", "b", {}⟩
    let nl : Token := ⟨"NL", "\n", {}⟩
    let space : Token := ⟨"WS", "  ", {}⟩
    let S : Source := .scripted ([a, nl, nl, space, b].map some) []
    let T := L.source S
    let reading := T.readFrom T.start ""
    let first : LineReport := ⟨"", [], a, false⟩
    let second : LineReport := ⟨"", [], nl, true⟩
    let third : LineReport := ⟨"  ", [space], b, false⟩
    reading.fault = none ∧
      questions reading.notes =
        [.pulled, .measured [] "", .reported 0 first, .reported 1 first, .pulled,
          .pulled, .blankLine nl, .reported 0 second, .reported 1 second,
          .pulled, .pulled, .measured [space] "  ", .reported 0 third, .reported 1 third, .pulled] ∧
      (questions reading.notes).filterMap (Event.toldTo? 1) = [first, second, third] ∧
      reading.state.progress.memories[0]? = some (.margin "  ") ∧
      reading.state.progress.memories[1]? = some (.count 3) := by
  intro L a b nl space S T reading first second third
  obtain ⟨given, ended⟩ : (S.readFrom S.start "").tokens = [a, nl, nl, space, b] ∧
      (S.readFrom S.start "").fault = none := Source.readFrom_scripted _ [] 0 ""
  have read := L.readFrom_eq_deliver S T.start ""
  simp only [show T.start.base = S.start from rfl, given, ended] at read
  have complete : (T.readFrom T.start "").fault = none :=
    (Prod.mk.inj read).2.trans (Option.isNone_iff_eq_none.1 (by decide))
  obtain ⟨_, asked, _, told, remembered⟩ := questions_line_by_line L S T.start "" complete
  have one := told 1 (by decide)
  obtain ⟨margin, last, enforced⟩ := remembered 0 .consistent rfl
  obtain ⟨count, lines, counted⟩ := remembered 1 .counter rfl
  rw [show T.start.base = S.start from rfl, given] at asked one enforced counted
  refine ⟨complete, asked.trans ?_, one.trans ?_, last.trans ?_, lines.trans ?_⟩
  · cbv
  · decide
  · rw [show margin = .margin "  " from Except.ok.inj (enforced.symm.trans (by cbv))]
  · rw [show count = .count 3 from Except.ok.inj (counted.symm.trans (by cbv))]

end Layout

end Offside
