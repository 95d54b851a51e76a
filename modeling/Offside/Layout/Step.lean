import Offside.Layout.Basic

/-! The steps of a layout. Raw tokens are taken one by one. The first ordinary token of a line
settles how deep the line is, and so which levels open or close before it; a line break ends a
line that has content with a token, and leaves a line without content to the rule for blank
lines; the end of the text ends the last line and closes every level but the outermost. A step
that is given up leaves the progress as far as it has come. -/
namespace Offside

variable {δ μ : Type}

namespace Layout

/-- Tells the observers of a line, in their order, the first of them having the given position.
One that remembers nothing yet starts afresh. Where one refuses the line, those before it have
heard of it, and it and those after it remember what they did. -/
def tell (report : LineReport) : Nat → List (Observer μ) → List μ → Attempt (List μ) (List μ)
  | _, [], _ => pure []
  | position, observer :: observers, memories => do
    Attempt.note (.reported position report)
    let memory ← Attempt.ofExcept memories
      (observer.observe (memories.head?.getD observer.start) report)
    let rest ← (tell report (position + 1) observers memories.tail).mapLeft (memory :: ·)
    return memory :: rest

/-- Observers hear of a line one after the other. -/
theorem tell_cons_eq_ok {report : LineReport} {position : Nat} {observer : Observer μ}
    {observers : List (Observer μ)} {memories later : List μ} :
    (tell report position (observer :: observers) memories).outcome = .ok later ↔
      ∃ memory rest, observer.observe (memories.head?.getD observer.start) report = .ok memory ∧
        (tell report (position + 1) observers memories.tail).outcome = .ok rest ∧
        memory :: rest = later := by
  rw [tell]
  simp only [Attempt.outcome_bind_eq_ok, Attempt.outcome_note, Attempt.outcome_ofExcept,
    Attempt.outcome_mapLeft, Attempt.outcome_pure, Except.ok.injEq]
  constructor
  · rintro ⟨-, -, memory, observed, rest, told, same⟩
    exact ⟨memory, rest, observed, told, same⟩
  · rintro ⟨memory, rest, observed, told, same⟩
    exact ⟨(), trivial, memory, observed, rest, told, same⟩

end Layout

namespace Progress

/-- Adds tokens to those that are ready. -/
def enqueue (p : Progress δ μ) (tokens : List Token) : Progress δ μ :=
  { p with queue := p.queue ++ tokens }

/-- Is at the start of a new line. -/
def newLine (p : Progress δ μ) : Progress δ μ :=
  { p with indentation := [], margin := "", phase := .margin }

/-- Is past an ordinary token of a line. -/
def content (p : Progress δ μ) (token : Token) : Progress δ μ :=
  { p.enqueue [token] with phase := .body }

/-- Tells the observers of the current line. -/
def report (L : Layout δ μ) (p : Progress δ μ) (breaker : Option Token) (blank : Bool) :
    Attempt (Progress δ μ) (Progress δ μ) := do
  let told := Layout.tell ⟨p.margin, p.indentation, breaker, blank⟩ 0 L.observers p.memories
  let memories ← told.mapLeft fun memories => { p with memories }
  return { p with memories }

/-- Only what the observers remember changes when they are told of a line. -/
theorem outcome_report (L : Layout δ μ) (p : Progress δ μ) (breaker : Option Token)
    (blank : Bool) :
    (p.report L breaker blank).outcome =
      (Layout.tell ⟨p.margin, p.indentation, breaker, blank⟩ 0 L.observers
        p.memories).outcome.map fun memories => { p with memories } := by
  simp only [report, Attempt.outcome_bind, Attempt.outcome_mapLeft]
  rfl

theorem report_eq_ok {L : Layout δ μ} {p later : Progress δ μ} {breaker : Option Token}
    {blank : Bool} :
    (p.report L breaker blank).outcome = .ok later ↔
      ∃ memories, (Layout.tell ⟨p.margin, p.indentation, breaker, blank⟩ 0 L.observers
        p.memories).outcome = .ok memories ∧ { p with memories } = later := by
  rw [outcome_report]
  cases (Layout.tell ⟨p.margin, p.indentation, breaker, blank⟩ 0 L.observers p.memories).outcome <;>
    simp [Except.map]

/-- Ends a line without content, at a line break or at the end of the text. -/
def endBlank (L : Layout δ μ) (p : Progress δ μ) (token : Option Token) :
    Attempt (Progress δ μ) (Progress δ μ) := do
  Attempt.note (.blankLine token)
  (p.enqueue (L.blank L.build p.last token)).report L token token.isSome

/-- Opens or closes levels for a line of the given depth, whose first ordinary token is given.
The first line sets the outermost level. A line that is less deep closes levels down to one of
its own depth, which has to be there; where it is not, every level is closed by then, and the
outermost without a token. -/
def settle [Ord δ] (L : Layout δ μ) (p : Progress δ μ) (depth : δ) (token : Token) :
    Attempt (Progress δ μ) (Progress δ μ) :=
  match p.levels with
  | [] => pure { p with levels := [⟨depth, p.margin⟩] }
  | top :: _ =>
    match compare depth top.depth with
    | .eq => pure p
    | .gt => do
      Attempt.note (.indented (L.depth.shown depth) token.span.line)
      return { p with levels := ⟨depth, p.margin⟩ :: p.levels }.enqueue
        [L.build indentKind p.margin token]
    | .lt =>
      let deeper := fun level : Level δ => compare level.depth depth != .eq
      match p.levels.dropWhile deeper with
      | [] =>
        Attempt.fail (.strayDedent token (L.depth.shown depth)) <|
          { p with levels := [] }.enqueue
            (p.levels.tail.map fun _ => L.build dedentKind p.margin token)
      | levels => do
        Attempt.note (.dedented (L.depth.shown depth) token.span.line)
        return { p with levels }.enqueue
          ((p.levels.takeWhile deeper).map fun _ => L.build dedentKind p.margin token)

/-- Starts the content of a line with its first ordinary token. -/
def beginBody [Ord δ] (L : Layout δ μ) (p : Progress δ μ) (token : Token) :
    Attempt (Progress δ μ) (Progress δ μ) := do
  Attempt.note (.measured p.indentation p.margin)
  let depth := L.depth.measure p.indentation p.margin
  let p ← p.report L token false
  p.settle L depth token

/-- Takes a raw token of a known role. -/
def feed [Ord δ] (L : Layout δ μ) (p : Progress δ μ) (token : Token) :
    Role → Attempt (Progress δ μ) (Progress δ μ)
  | .indentation =>
    match p.phase with
    | .margin => pure
      { p with indentation := p.indentation ++ [token], margin := p.margin ++ token.text }
    | _ => pure (p.enqueue [token])
  | .lineBreak =>
    match p.phase with
    | .margin => newLine <$> p.endBlank L token
    | _ => pure (p.enqueue [L.build eolKind token.text token]).newLine
  | .ordinary =>
    match p.phase with
    | .margin => (·.content token) <$> p.beginBody L token
    | _ => pure (p.content token)

/-- Takes a raw token, and tells its role. -/
def take [Ord δ] (L : Layout δ μ) (p : Progress δ μ) (token : Token) :
    Attempt (Progress δ μ) (Progress δ μ × Role) :=
  match L.classify token with
  | .error answer => Attempt.fail (.unknownRole answer token) { p with last := some token }
  | .ok role => (·, role) <$> { p with last := some token }.feed L token role

/-- Closes every level but the outermost. Each closing token shows the margin of the level that
is left open after it. -/
def closeAll (L : Layout δ μ) (p : Progress δ μ) (last : Token) : Progress δ μ :=
  { p with levels := p.levels.getLast?.toList }.enqueue
    (p.levels.tail.map fun level : Level δ => L.build dedentKind level.margin last)

/-- Ends the last line, which no line break ends. -/
def endLast (L : Layout δ μ) (p : Progress δ μ) (last : Token) :
    Attempt (Progress δ μ) (Progress δ μ) :=
  match p.phase with
  | .body => pure (p.enqueue [L.build eolKind last.text last])
  | _ => p.endBlank L none

/-- Ends the text. -/
def finish (L : Layout δ μ) (p : Progress δ μ) : Attempt (Progress δ μ) (Progress δ μ) :=
  let last := p.last.getD L.fallback
  (fun p => { p.closeAll L last with phase := .finished }) <$>
    { p with last := some last }.endLast L last

/-- Once the text is ended it stays ended. -/
theorem phase_of_finish {L : Layout δ μ} {p later : Progress δ μ}
    (ended : (p.finish L).outcome = .ok later) : later.phase = .finished := by
  obtain ⟨_, _, rfl⟩ := Attempt.outcome_map_eq_ok.1 ended
  rfl

end Progress

end Offside
