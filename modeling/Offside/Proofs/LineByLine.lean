import Offside.Proofs.Lines

/-! Layouts work line by line. A layout takes raw tokens one at a time and holds back what it gets
ready; `Yields` says what comes of it, whatever was held back before. There is one lemma for each
thing that a raw token or the end of the text can do, from these one for each kind of line, and
from those the stream of a whole text: `read_eq_observed` says that it is what a layout delivers,
whatever the source and whatever lines its observers refuse. -/
namespace Offside

variable {δ μ : Type}

namespace Progress

/-- From here on, whatever is ready, the layout delivers that and then the given pieces. -/
def Yields [Ord δ] (L : Layout δ μ) (p : Progress δ μ) (words : Words) (fault : Option Fault)
    (result : List Piece × Option Fault) : Prop :=
  ∀ held : List Piece, (∀ piece ∈ held, piece.ordinary = false) →
    { p with queue := held.map Piece.token }.deliver L words fault =
      ((Piece.delivered (held ++ result.1) result.2).map Piece.token, result.2)

section

variable [Ord δ] {L : Layout δ μ} {p : Progress δ μ} {token : Token} {words : Words}
  {fault : Option Fault} {pieces : List Piece} {ending : Option Fault}
  {result : List Piece × Option Fault}

theorem yields_fault (fault : Fault) : Yields L p [] (some fault) ([], some fault) := by
  intro held structural
  simp [deliver, Piece.delivered_held structural]

/-- The indentation of a line contributes nothing of its own. -/
theorem yields_indentation (start : p.phase = .margin)
    (tail : Yields L { p with
      last := some token
      indentation := p.indentation ++ [token]
      margin := p.margin ++ token.text } words fault result) :
    Yields L p ((token, .indentation) :: words) fault result := by
  intro held structural
  have rest := tail held structural
  simpa [deliver, feed, start] using rest

/-- The content of a line is delivered as it stands. -/
theorem yields_content {role : Role} (body : p.phase = .body) (inside : role ≠ .lineBreak)
    (tail : Yields L { p with last := some token } words fault (pieces, ending)) :
    Yields L p ((token, role) :: words) fault
      (.content p.margin (token, role) :: pieces, ending) := by
  intro held structural
  cases role with
  | ordinary =>
    have rest := tail [] (by simp)
    simp only [List.map_nil, List.nil_append, body] at rest
    simp [deliver, feed, body, content, enqueue, rest, Piece.content, Piece.delivered_ordinary]
  | indentation =>
    have rest := tail (held ++ [.content p.margin (token, .indentation)]) (by
      simpa [or_imp, forall_and, Piece.content] using structural)
    simpa [deliver, feed, body, enqueue, Piece.content] using rest
  | lineBreak => exact absurd rfl inside

/-- A line break after content is delivered as the end of the line. -/
theorem yields_break (body : p.phase = .body)
    (tail : Yields L { p with last := some token }.newLine words fault (pieces, ending)) :
    Yields L p ((token, .lineBreak) :: words) fault
      (.ending p.margin (L.build eolKind token.text token) :: pieces, ending) := by
  intro held structural
  have rest := tail (held ++ [.ending p.margin (L.build eolKind token.text token)]) (by
    simpa [or_imp, forall_and, Piece.ending] using structural)
  simpa [deliver, feed, body, enqueue, newLine, Piece.ending] using rest

/-- A line break before any content ends a blank line. -/
theorem yields_blank {memories : List μ} (start : p.phase = .margin)
    (told : (Layout.tell ⟨p.margin, p.indentation, some token, true⟩ 0 L.observers
      p.memories).outcome = .ok memories)
    (tail : Yields L { p with last := some token, memories }.newLine words fault
      (pieces, ending)) :
    Yields L p ((token, .lineBreak) :: words) fault
      ((L.blank L.build token token).map .between ++ pieces, ending) := by
  intro held structural
  have rest := tail (held ++ (L.blank L.build token token).map .between) (by
    intro piece member
    rcases List.mem_append.1 member with member | member
    · exact structural piece member
    · obtain ⟨_, _, rfl⟩ := List.mem_map.1 member
      rfl)
  simpa [deliver, feed, start, endBlank, report, enqueue, Attempt.outcome_map, Attempt.outcome_bind,
    Except.bind, Except.map, told, newLine, Piece.between, Function.comp_def] using rest

theorem yields_blank_refused {refusal : Fault} (start : p.phase = .margin)
    (told : (Layout.tell ⟨p.margin, p.indentation, some token, true⟩ 0 L.observers
      p.memories).outcome = .error refusal) :
    Yields L p ((token, .lineBreak) :: words) fault ([], some refusal) := by
  intro held structural
  simp [deliver, feed, start, endBlank, report, enqueue, Attempt.outcome_map, Attempt.outcome_bind,
    Except.bind, Except.map, told, Piece.delivered_held structural]

/-- The first ordinary token of a line comes after the tokens of the levels that the line opens or
closes. -/
theorem yields_first [Std.TransOrd δ] {memories : List μ} {tokens : List Token}
    {levels : List (Level δ)} (start : p.phase = .margin) (ordered : Ordered p.levels)
    (told : (Layout.tell ⟨p.margin, p.indentation, some token, false⟩ 0 L.observers
      p.memories).outcome = .ok memories)
    (opened : L.opening p.levels (L.depth.measure p.indentation p.margin) p.margin token =
      .ok (tokens, levels))
    (tail : Yields L { p with last := some token, memories, levels, phase := .body } words fault
      (pieces, ending)) :
    Yields L p ((token, .ordinary) :: words) fault
      (tokens.map .between ++ .content p.margin (token, .ordinary) :: pieces, ending) := by
  intro held structural
  have rest := tail [] (by simp)
  simp only [List.map_nil, List.nil_append] at rest
  have fed : ({ p with last := some token, queue := held.map Piece.token }.feed L token
      .ordinary).outcome = .ok
        { p with
          last := some token, memories, levels, phase := .body
          queue := held.map Piece.token ++ tokens ++ [token] } := by
    simp [feed, start, Attempt.outcome_map, outcome_beginBody, ordered, told, opened, Except.bind,
      Except.map, enqueue, content]
  have split : held ++ (tokens.map Piece.between ++
      Piece.content p.margin (token, .ordinary) :: pieces) =
      (held ++ tokens.map Piece.between) ++
        Piece.content p.margin (token, .ordinary) :: pieces := by
    simp
  rw [split, Piece.delivered_ordinary (by simp [Piece.content])]
  simp [deliver, fed, rest, Piece.between, Piece.content, Function.comp_def]

theorem yields_first_refused [Std.TransOrd δ] {refusal : Fault} (start : p.phase = .margin)
    (ordered : Ordered p.levels)
    (told : (Layout.tell ⟨p.margin, p.indentation, some token, false⟩ 0 L.observers
      p.memories).outcome = .error refusal) :
    Yields L p ((token, .ordinary) :: words) fault ([], some refusal) := by
  intro held structural
  simp [deliver, feed, start, Attempt.outcome_map, outcome_beginBody, ordered, told, Except.bind,
    Except.map, Piece.delivered_held structural]

theorem yields_first_stray [Std.TransOrd δ] {stray : Fault} {memories : List μ}
    (start : p.phase = .margin) (ordered : Ordered p.levels)
    (told : (Layout.tell ⟨p.margin, p.indentation, some token, false⟩ 0 L.observers
      p.memories).outcome = .ok memories)
    (misplaced : L.opening p.levels (L.depth.measure p.indentation p.margin) p.margin token =
      .error stray) :
    Yields L p ((token, .ordinary) :: words) fault ([], some stray) := by
  intro held structural
  simp [deliver, feed, start, Attempt.outcome_map, outcome_beginBody, ordered, told, misplaced,
    Except.bind, Except.map, Piece.delivered_held structural]

/-- The end of the text after content ends the line and closes all levels but the outermost. -/
theorem yields_end (body : p.phase = .body) :
    let last := p.last.getD L.fallback
    Yields L p [] none (.ending p.margin (L.build eolKind last.text last) ::
      p.levels.tail.map fun level => .between (L.build dedentKind level.margin last), none) := by
  intro last held structural
  simp [deliver, finish, endLast, body, Attempt.outcome_map, Except.map, closeAll, enqueue,
    Piece.delivered, Piece.between, Piece.ending, Function.comp_def, last]

/-- The end of the text before any content ends a blank line, and closes all levels but the
outermost. -/
theorem yields_end_blank {memories : List μ} (start : p.phase = .margin)
    (told : (Layout.tell ⟨p.margin, p.indentation, none, false⟩ 0 L.observers
      p.memories).outcome = .ok memories) :
    let last := p.last.getD L.fallback
    Yields L p [] none ((L.blank L.build last none).map .between ++
      p.levels.tail.map fun level => .between (L.build dedentKind level.margin last), none) := by
  intro last held structural
  simp [deliver, finish, endLast, start, endBlank, report, Attempt.outcome_map,
    Attempt.outcome_bind, Except.map, Except.bind, told, closeAll, enqueue, Piece.delivered,
    Piece.between, Function.comp_def, last]

theorem yields_end_refused {refusal : Fault} (start : p.phase = .margin)
    (told : (Layout.tell ⟨p.margin, p.indentation, none, false⟩ 0 L.observers
      p.memories).outcome = .error refusal) :
    Yields L p [] none ([], some refusal) := by
  intro held structural
  simp [deliver, finish, endLast, start, endBlank, report, Attempt.outcome_map,
    Attempt.outcome_bind, Except.map, Except.bind, told, enqueue, Piece.delivered_held structural]

theorem yields_margin {more : Words} (start : p.phase = .margin)
    (blank : ∀ word ∈ words, word.2 = .indentation)
    (tail : Yields L { p with
      last := words.lastToken p.last
      indentation := p.indentation ++ words.map (·.1)
      margin := (words.map (·.1)).foldl (fun margin token => margin ++ token.text) p.margin }
      more fault result) :
    Yields L p (words ++ more) fault result := by
  induction words generalizing p with
  | nil => simpa [Words.lastToken] using tail
  | cons word words ih =>
    obtain ⟨token, role⟩ := word
    obtain rfl : role = .indentation := blank (token, role) List.mem_cons_self
    refine yields_indentation start (ih start (fun word member => blank word (by simp [member])) ?_)
    simpa [Words.lastToken] using tail

theorem yields_body {more : Words} (body : p.phase = .body)
    (unbroken : ∀ word ∈ words, word.2 ≠ .lineBreak)
    (tail : Yields L { p with last := words.lastToken p.last } more fault (pieces, ending)) :
    Yields L p (words ++ more) fault (words.map (.content p.margin) ++ pieces, ending) := by
  induction words generalizing p with
  | nil => simpa [Words.lastToken] using tail
  | cons word words ih =>
    obtain ⟨token, role⟩ := word
    exact yields_content body (unbroken (token, role) List.mem_cons_self)
      (ih (p := { p with last := some token }) body
        (fun word member => unbroken word (by simp [member])) tail)

/-- At its start a line gathers its indentation. -/
theorem yields_start {more : Words} (start : p.phase = .margin) (bare : p.indentation = [])
    (flush : p.margin = "")
    (tail : Yields L { p with
      last := Words.lastToken p.last (words.takeWhile fun word => word.2 = .indentation)
      indentation := words.indentation
      margin := words.margin } (words.body ++ more) fault result) :
    Yields L p (words ++ more) fault result := by
  rw [words.split, List.append_assoc]
  refine yields_margin start (fun word member => ?_) ?_
  · simpa using List.mem_takeWhile_imp member
  · simpa [bare, flush, Words.indentation, Words.margin] using tail

end

section

variable [Ord δ] {L : Layout δ μ} {p : Progress δ μ} {words rest more : Words} {first : Token}
  {role : Role} {fault : Option Fault} {result : List Piece × Option Fault}

/-- Is at the start of a line. -/
structure LineStart (p : Progress δ μ) : Prop where
  phase : p.phase = .margin
  indentation : p.indentation = []
  margin : p.margin = ""
  ordered : Ordered p.levels

/-- Is in the content of a line of the given raw tokens so far. -/
def within (p : Progress δ μ) (words : Words) (memories : List μ) (levels : List (Level δ)) :
    Progress δ μ where
  levels := levels
  phase := .body
  last := words.lastToken p.last
  indentation := words.indentation
  margin := words.margin
  memories := memories

/-- A line with content that is let through and lands somewhere is delivered as a whole. -/
theorem yields_line [Std.TransOrd δ] (start : p.LineStart)
    (unbroken : ∀ word ∈ words, word.2 ≠ .lineBreak)
    (starts : words.body = (first, role) :: more) {memories : List μ}
    (told : (Layout.tell ⟨words.margin, words.indentation, some first, false⟩ 0 L.observers
      p.memories).outcome = .ok memories) {line : List Piece} {levels : List (Level δ)}
    (composed : L.composeLine p.levels words first = .ok (line, levels))
    (tail : Yields L (p.within words memories levels) rest fault result) :
    Yields L p (words ++ rest) fault (line ++ result.1, result.2) := by
  obtain rfl := Words.ordinary_of_body unbroken starts
  obtain ⟨tokens, opened, rfl⟩ := Layout.composeLine_eq_ok.1 composed
  apply yields_start start.phase start.indentation start.margin
  have unbroken : ∀ word ∈ more, word.2 ≠ .lineBreak := fun word member =>
    Words.unbroken_body unbroken word (by simp [starts, member])
  have gathered : Words.lastToken p.last words = Words.lastToken (some first) more := by
    rw [words.split, starts]
    simp [Words.lastToken]
  have content : Yields L { p.within words memories levels with last := some first } (more ++ rest)
      fault (more.map (.content words.margin) ++ result.1, result.2) :=
    yields_body rfl unbroken (by simpa [within, gathered] using tail)
  have settled := yields_first (p := { p with
      last := Words.lastToken p.last (words.takeWhile fun word => word.2 = .indentation)
      indentation := words.indentation
      margin := words.margin }) start.phase start.ordered told opened content
  rw [starts]
  simpa [within] using settled

/-- A line with content that an observer refuses, or that is misplaced, delivers nothing. -/
theorem yields_line_refused [Std.TransOrd δ] (start : p.LineStart)
    (unbroken : ∀ word ∈ words, word.2 ≠ .lineBreak)
    (starts : words.body = (first, role) :: more) {refusal : Fault}
    (refused : ((Layout.tell ⟨words.margin, words.indentation, some first, false⟩ 0 L.observers
      p.memories).outcome.bind fun _ => L.composeLine p.levels words first) = .error refusal) :
    Yields L p (words ++ rest) fault ([], some refusal) := by
  obtain rfl := Words.ordinary_of_body unbroken starts
  apply yields_start start.phase start.indentation start.margin
  rw [starts]
  cases told : (Layout.tell ⟨words.margin, words.indentation, some first, false⟩ 0 L.observers
      p.memories).outcome with
  | error fault =>
    rw [told] at refused
    cases refused
    exact yields_first_refused start.phase start.ordered told
  | ok memories =>
    rw [told] at refused
    exact yields_first_stray start.phase start.ordered told
      (Layout.composeLine_eq_error.1 refused)

/-- A blank line that is let through contributes what the rule for blank lines says. -/
theorem yields_blank_line {breaker : Token} {memories : List μ} (start : p.LineStart)
    (blank : words.body = [])
    (told : (Layout.tell (words.report (some breaker)) 0 L.observers p.memories).outcome =
      .ok memories)
    (tail : Yields L { p with last := some breaker, memories } rest fault result) :
    Yields L p (words ++ (breaker, .lineBreak) :: rest) fault
      ((L.blank L.build breaker breaker).map .between ++ result.1, result.2) := by
  apply yields_start start.phase start.indentation start.margin
  rw [Words.report_blank blank] at told
  rw [blank]
  refine yields_blank start.phase told ?_
  simpa [newLine, start.phase, start.indentation, start.margin] using tail

theorem yields_blank_line_refused {breaker : Token} {refusal : Fault} (start : p.LineStart)
    (blank : words.body = [])
    (told : (Layout.tell (words.report (some breaker)) 0 L.observers p.memories).outcome =
      .error refusal) :
    Yields L p (words ++ (breaker, .lineBreak) :: rest) fault ([], some refusal) := by
  apply yields_start start.phase start.indentation start.margin
  rw [Words.report_blank blank] at told
  rw [blank]
  exact yields_blank_refused start.phase told

theorem yields_line_end {breaker : Token} {memories : List μ} {levels : List (Level δ)}
    (tail : Yields L { levels, memories, last := some breaker } rest fault result) :
    Yields L (p.within words memories levels) ((breaker, .lineBreak) :: rest) fault
      (.ending words.margin (L.build eolKind breaker.text breaker) :: result.1, result.2) :=
  yields_break rfl tail

/-- A last line without content, and the end of the text. Where a fault ends such a line, no
observer is told of it. -/
theorem yields_last_blank (start : p.LineStart) (blank : rest.body = []) :
    let page := L.admitted rest fault p.memories []
    Yields L p (rest ++ []) fault
      (L.composeLast ((rest.lastToken p.last).getD L.fallback) page.rest page.fault p.levels) := by
  intro page
  have gathered : Words.lastToken p.last (rest.takeWhile fun word => word.2 = .indentation) =
      rest.lastToken p.last := by
    conv_rhs => rw [rest.split, blank, List.append_nil]
  apply yields_start start.phase start.indentation start.margin
  rw [blank, gathered]
  cases fault with
  | some fault =>
    have left : page = { rest, fault := some fault } := Layout.admitted_cut ⟨blank, rfl⟩
    rw [left, Layout.composeLast_cut blank]
    exact yields_fault fault
  | none =>
    cases told : (Layout.tell (rest.report none) 0 L.observers p.memories).outcome with
    | error refusal =>
      have left : page = { fault := some refusal } := Layout.admitted_last_refused (by simp) told
      rw [left, Layout.composeLast_cut rfl]
      rw [Words.report_end blank] at told
      exact yields_end_refused start.phase told
    | ok memories =>
      have left : page = { rest } := Layout.admitted_last told
      rw [left, Layout.composeLast_blank blank]
      rw [Words.report_end blank] at told
      exact yields_end_blank start.phase told

theorem yields_last_content [Std.TransOrd δ] (start : p.LineStart)
    (unbroken : ∀ word ∈ rest, word.2 ≠ .lineBreak) (starts : rest.body = (first, role) :: more) :
    let page := L.admitted rest fault p.memories []
    Yields L p (rest ++ []) fault
      (L.composeLast ((rest.lastToken p.last).getD L.fallback) page.rest page.fault p.levels) := by
  intro page
  cases told : (Layout.tell (rest.report none) 0 L.observers p.memories).outcome with
  | error refusal =>
    have left : page = { fault := some refusal } :=
      Layout.admitted_last_refused (by simp [starts]) told
    rw [left, Layout.composeLast_cut rfl]
    rw [Words.report_content starts] at told
    exact yields_line_refused start unbroken starts (by rw [told]; rfl)
  | ok memories =>
    have left : page = { rest, fault } := Layout.admitted_last told
    rw [Words.report_content starts] at told
    rw [left]
    cases composed : L.composeLine p.levels rest first with
    | error stray =>
      rw [Layout.composeLast_stray starts composed]
      exact yields_line_refused start unbroken starts (by rw [told]; exact composed)
    | ok line =>
      obtain ⟨line, levels⟩ := line
      cases fault with
      | some fault =>
        have stopped := yields_line start unbroken starts told composed (yields_fault fault)
        rw [Layout.composeLast_stopped starts composed]
        simpa using stopped
      | none =>
        rw [Layout.composeLast_content starts composed]
        exact yields_line start unbroken starts told composed (yields_end rfl)

/-- A text of which the given lines and the last one are left is delivered as `compose` says of
what the observers leave of them. -/
theorem yields_compose [Std.TransOrd δ] {lines : List (Words × Token)} {last : Token}
    (start : p.LineStart) (unbroken : ∀ line ∈ lines, ∀ word ∈ line.1, word.2 ≠ .lineBreak)
    (unbrokenRest : ∀ word ∈ rest, word.2 ≠ .lineBreak)
    (ends : ((Page.words { lines, rest }).lastToken p.last).getD L.fallback = last) :
    let page := L.admitted rest fault p.memories lines
    Yields L p (Page.words { lines, rest }) fault
      (L.compose last page.rest page.fault p.levels page.lines) := by
  induction lines generalizing p with
  | nil =>
    subst ends
    have same := L.lines_admitted_nil rest fault p.memories
    cases starts : rest.body with
    | nil => simpa [Page.words, same, Layout.compose] using yields_last_blank start starts
    | cons word more =>
      simpa [Page.words, same, Layout.compose] using yields_last_content start unbrokenRest starts
  | cons line lines ih =>
    obtain ⟨words, breaker⟩ := line
    have within := unbroken (words, breaker) List.mem_cons_self
    have joined : Page.words { lines := (words, breaker) :: lines, rest } =
        words ++ (breaker, .lineBreak) :: Page.words { lines, rest } := by simp [Page.words]
    have ends : ((Page.words { lines, rest }).lastToken (some breaker)).getD L.fallback = last := by
      simpa [joined, Words.lastToken] using ends
    have unbroken := fun line member => unbroken line (List.mem_cons_of_mem _ member)
    rw [joined]
    cases told : (Layout.tell (words.report (some breaker)) 0 L.observers p.memories).outcome with
    | error refusal =>
      rw [Layout.admitted_refused told]
      dsimp only
      rw [Layout.compose_refused]
      cases starts : words.body with
      | nil => exact yields_blank_line_refused start starts told
      | cons word more =>
        obtain ⟨first, role⟩ := word
        rw [Words.report_content starts] at told
        exact yields_line_refused start within starts (by rw [told]; rfl)
    | ok memories =>
      rw [Layout.admitted_line told]
      dsimp only
      cases starts : words.body with
      | nil =>
        have tail := ih (p := { p with last := some breaker, memories })
          ⟨start.phase, start.indentation, start.margin, start.ordered⟩ unbroken ends
        rw [Layout.compose_blank starts]
        exact yields_blank_line start starts told tail
      | cons word more =>
        obtain ⟨first, role⟩ := word
        rw [Words.report_content starts] at told
        cases composed : L.composeLine p.levels words first with
        | error stray =>
          rw [Layout.compose_stray starts composed]
          exact yields_line_refused start within starts (by rw [told]; exact composed)
        | ok line =>
          obtain ⟨line, levels⟩ := line
          have ordered := Layout.ordered_of_composeLine start.ordered composed
          have tail := ih (p := { levels, memories, last := some breaker })
            ⟨rfl, rfl, rfl, ordered⟩ unbroken ends
          rw [Layout.compose_content starts composed]
          exact yields_line start within starts told composed (yields_line_end tail)

end

end Progress

namespace Layout

/-- What a layout delivers of a text is the stream of what its observers leave of it, whatever the
source of the raw tokens; and a fault takes along what no ordinary token came after. -/
theorem read_eq_observed [Ord δ] [Std.TransOrd δ] [DecidableEq δ] [DecidableEq μ]
    (L : Layout δ μ) (S : Source) (elsewhere : Cursor δ μ S.State) (text : String) :
    let raw := S.readFrom elsewhere.base text
    let reading := (L.source S).readFrom elsewhere text
    let stream := L.stream (L.lastOf raw.tokens raw.fault) (L.observed raw.tokens raw.fault)
    reading.tokens = (Piece.delivered stream.1 stream.2).map Piece.token ∧
      reading.fault = stream.2 := by
  intro raw reading stream
  have start : L.fresh.LineStart := ⟨rfl, rfl, rfl, List.Pairwise.nil⟩
  have unbroken : (L.page raw.tokens raw.fault).Unbroken := Page.unbroken_cut _
  have whole : (L.page raw.tokens raw.fault).words = (L.words raw.tokens raw.fault).1 :=
    Page.words_cut _
  have ended : (L.page raw.tokens raw.fault).fault = (L.words raw.tokens raw.fault).2 :=
    Page.fault_cut _
  have last : ((L.page raw.tokens raw.fault).words.lastToken none).getD L.fallback =
      L.lastOf raw.tokens raw.fault := by
    rw [whole]
    rfl
  have laid : L.fresh.deliver L (L.page raw.tokens raw.fault).words
      (L.page raw.tokens raw.fault).fault =
        ((Piece.delivered stream.1 stream.2).map Piece.token, stream.2) :=
    Progress.yields_compose start unbroken.lines unbroken.rest last [] (by simp)
  have read : (reading.tokens, reading.fault) =
      L.fresh.deliver L (L.words raw.tokens raw.fault).1 (L.words raw.tokens raw.fault).2 :=
    L.readFrom_eq_deliver S elsewhere text
  rw [← whole, ← ended, laid] at read
  exact Prod.ext_iff.1 read

/-- Where no observer refuses a line, a layout delivers of a text the stream of its lines: each
line that has content gives the tokens that close or open levels, its content, and the token that
ends it; and each that has none gives what the rule for blank lines says. -/
theorem read_eq_stream [Ord δ] [Std.TransOrd δ] [DecidableEq δ] [DecidableEq μ]
    (L : Layout δ μ) (S : Source) (elsewhere : Cursor δ μ S.State) (text : String)
    (tolerant : ∀ observer ∈ L.observers, observer.Tolerant) :
    let raw := S.readFrom elsewhere.base text
    let reading := (L.source S).readFrom elsewhere text
    let stream := L.stream (L.lastOf raw.tokens raw.fault) (L.page raw.tokens raw.fault)
    reading.tokens = (Piece.delivered stream.1 stream.2).map Piece.token ∧
      reading.fault = stream.2 := by
  intro raw reading stream
  have whole : L.observed raw.tokens raw.fault = L.page raw.tokens raw.fault :=
    admitted_tolerated tolerant _ _ _ _
  have read := L.read_eq_observed S elsewhere text
  simp only [raw, stream, ← whole]
  exact read

/-- A line and another that is deeper. -/
theorem read_eq_stream_two_lines :
    let L : Layout Int Memory := { standard with observers := [.listener] }
    let raw : List Token :=
      [⟨"WORD", "a", {}⟩, ⟨"NL", "\n", {}⟩, ⟨"WS", "  ", {}⟩, ⟨"WORD", "b", {}⟩]
    (∀ observer ∈ L.observers, observer.Tolerant) ∧
      ((L.source (.scripted (raw.map some) [])).read "").tokens.map Token.face =
        [("WORD", "a"), ("eol", "\n"), ("indent", "  "), ("WORD", "b"), ("eol", "b"),
          ("dedent", "")] := by
  intro L raw
  have tolerant : ∀ observer ∈ L.observers, observer.Tolerant := by
    intro observer member
    obtain rfl := List.mem_singleton.1 member
    exact fun memory report => ⟨.nothing, rfl⟩
  let S : Source := .scripted (raw.map some) []
  obtain ⟨given, whole⟩ : (S.readFrom S.start "").tokens = raw ∧
      (S.readFrom S.start "").fault = none := Source.readFrom_scripted raw [] 0 ""
  have tokens := (L.read_eq_stream S ⟨L.fresh, S.start⟩ "" tolerant).1
  simp only [given, whole] at tokens
  refine ⟨tolerant, (congrArg (List.map Token.face) tokens).trans ?_⟩
  decide

end Layout

end Offside
