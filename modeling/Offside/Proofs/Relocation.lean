import Offside.Proofs.MarginStack
import Offside.Proofs.Nesting
import Offside.Proofs.Shifting

/-! Texts that are moved to the right as a whole, line by line. The stream of such a text is that of
the text as it was, but that the tokens which open or close a level have the white space in front of
their texts. -/
namespace Offside

/-- A line with an indentation token of the given text in front. -/
def Words.Moved (shift : String) (words moved : Words) : Prop :=
  ∃ pad : Token, pad.text = shift ∧ moved = (pad, .indentation) :: words

namespace Words.Moved

variable {shift : String} {words moved : Words}

theorem body (same : words.Moved shift moved) : moved.body = words.body := by
  obtain ⟨pad, -, rfl⟩ := same
  rfl

theorem margin (same : words.Moved shift moved) : moved.margin = shift ++ words.margin := by
  obtain ⟨pad, rfl, rfl⟩ := same
  have joined (texts : List Token) (front : String) :
      texts.foldl (fun margin token => margin ++ token.text) front =
        front ++ texts.foldl (fun margin token => margin ++ token.text) "" := by
    induction texts generalizing front with
    | nil => exact String.append_empty.symm
    | cons token texts ih =>
      rw [List.foldl_cons, List.foldl_cons, ih, ih ("" ++ token.text), String.empty_append,
        String.append_assoc]
  show (pad :: words.indentation).foldl _ "" = _
  rw [List.foldl_cons, joined, String.empty_append]
  rfl

/-- What observers are told of it differs in the margin alone. -/
theorem report (same : words.Moved shift moved) (breaker : Option Token) :
    (moved.report breaker).blank = (words.report breaker).blank ∧
      (moved.report breaker).margin = shift ++ (words.report breaker).margin ∧
        (moved.report breaker).breaker = (words.report breaker).breaker := by
  unfold Words.report
  rw [same.body]
  cases words.body with
  | nil => exact ⟨rfl, same.margin, rfl⟩
  | cons first more => exact ⟨rfl, same.margin, rfl⟩

end Words.Moved

/-- A line that a line break ends is moved if it has content. -/
def Page.MovedLine (shift : String) (line moved : Words × Token) : Prop :=
  moved.2 = line.2 ∧ (line.1.body = [] ∧ moved.1 = line.1 ∨
    line.1.body ≠ [] ∧ line.1.Moved shift moved.1)

/-- A text and the same where each line that has content is moved, and the last line whether it has
or not. An empty last line may be left as it is. -/
structure Page.Moved (shift : String) (Fails : Fault → Fault → Prop) (page moved : Page) :
    Prop where
  lines : List.Forall₂ (Page.MovedLine shift) page.lines moved.lines
  rest : page.rest.Moved shift moved.rest ∨ page.rest = [] ∧ moved.rest = []
  fault : Option.Rel Fails page.fault moved.fault

/-- What shows of a token of the stream, and whether it is an ordinary raw token. -/
def Piece.mark (piece : Piece) : (String × String) × Bool := (piece.token.face, piece.ordinary)

/-- What shows of a token of the stream of the same text where it is moved: of a token that opens or
closes a level, the text has the given one in front. -/
def Piece.movedFace (shift : String) (piece : Piece) : String × String :=
  if piece.line = none then (piece.token.kind, shift ++ piece.token.text) else piece.token.face

/-- Two streams of which the second is that of the same text where it is moved. -/
structure Piece.Moved (shift : String) (Fails : Fault → Fault → Prop)
    (one two : List Piece × Option Fault) : Prop where
  pieces : two.1.map Piece.mark = one.1.map fun piece => (piece.movedFace shift, piece.ordinary)
  fault : Option.Rel Fails one.2 two.2

section

variable {L : Layout Int Memory} {width : String → Int} {shift : String} {ending : Option Fault}
  {memories others : List Memory}

theorem Layout.tell_line (movable : L.Movable width) (remember : Remembering shift memories others)
    {line moved : Words × Token} (same : Page.MovedLine shift line moved) :
    Alongside (Fault.Shifted shift (width shift) ending) (Remembering shift)
      (tell (line.1.report line.2) 0 L.observers memories).outcome
      (tell (moved.1.report moved.2) 0 L.observers others).outcome := by
  obtain ⟨breaker, ⟨blank, words⟩ | ⟨-, words⟩⟩ := same
  · rw [breaker, words]
    refine tell_shifted movable.watch remember _ _ rfl (fun filled => ?_) rfl
    rw [Words.report_blank blank] at filled
    cases filled
  · rw [breaker]
    obtain ⟨blank, margin, first⟩ := words.report (some line.2)
    exact tell_shifted movable.watch remember _ _ blank (fun _ => margin) first

/-- An empty line is comparable with every other. -/
theorem Layout.tell_empty {observers : List (Observer Memory)}
    (watch : observers = [] ∨ observers = [.consistent]) (memories : List Memory) :
    ∃ later, (tell (Words.report [] none) 0 observers memories).outcome = .ok later := by
  rcases watch with rfl | rfl
  · exact ⟨[], rfl⟩
  · have fits (margin : String) : Comparable margin "" := .inr List.nil_prefix
    have report : Words.report [] none = ⟨"", [], none, false⟩ := rfl
    exact ⟨[.margin ""], by
      simp [tell, report, Observer.consistent, Attempt.outcome_bind, Except.bind, fits]⟩

/-- Observers let as much pass of a text as of the same where it is moved. -/
theorem Layout.admitted_moved (movable : L.Movable width) {rest rest' : Words}
    {fault fault' : Option Fault} {lines lines' : List (Words × Token)}
    (same : List.Forall₂ (Page.MovedLine shift) lines lines')
    (last : rest.Moved shift rest' ∨ rest = [] ∧ rest' = [])
    (fails : Option.Rel (Fault.Shifted shift (width shift) ending) fault fault')
    (remember : Remembering shift memories others) :
    (L.admitted rest fault memories lines).Moved shift (Fault.Shifted shift (width shift) ending)
      (L.admitted rest' fault' others lines') := by
  induction same generalizing memories others with
  | nil =>
    have body : rest'.body = rest.body := by
      rcases last with words | ⟨rfl, rfl⟩
      · exact words.body
      · rfl
    have ended : fault'.isSome = fault.isSome := by cases fails <;> rfl
    by_cases cut : rest.body = [] ∧ fault.isSome
    · rw [admitted_cut cut, admitted_cut (by rwa [body, ended])]
      exact ⟨.nil, last, fails⟩
    have uncut : ¬(rest'.body = [] ∧ fault'.isSome) := by rwa [body, ended]
    rcases last with words | ⟨rfl, rfl⟩
    · obtain ⟨blank, margin, first⟩ := words.report none
      have told : Alongside (Fault.Shifted shift (width shift) ending) _ _ _ :=
        tell_shifted movable.watch remember _ _ blank (fun _ => margin) first
      rcases told.cases with ⟨later, later', one, two, -⟩ | ⟨refusal, other, one, two, fails⟩
      · rw [admitted_last one, admitted_last two]
        exact ⟨.nil, .inl words, fails⟩
      · rw [admitted_last_refused cut one, admitted_last_refused uncut two]
        exact ⟨.nil, .inr ⟨rfl, rfl⟩, .some fails⟩
    · obtain ⟨later, one⟩ := tell_empty movable.watch memories
      obtain ⟨later', two⟩ := tell_empty movable.watch others
      rw [admitted_last one, admitted_last two]
      exact ⟨.nil, .inr ⟨rfl, rfl⟩, fails⟩
  | @cons line moved lines lines' here _ ih =>
    have told : Alongside (Fault.Shifted shift (width shift) ending) _ _ _ :=
      tell_line movable remember here
    obtain ⟨words, breaker⟩ := line
    obtain ⟨words', breaker'⟩ := moved
    rcases told.cases with
      ⟨later, later', one, two, remember⟩ | ⟨refusal, other, one, two, fails⟩
    · rw [admitted_line one, admitted_line two]
      obtain ⟨lines, rest, fault⟩ := ih remember
      exact ⟨.cons here lines, rest, fault⟩
    · rw [admitted_refused one, admitted_refused two]
      exact ⟨.nil, .inr ⟨rfl, rfl⟩, .some fails⟩

/-- The content of a line and its end come before what follows. -/
theorem Piece.Moved.line (movable : L.Movable width) {Fails : Fault → Fault → Prop}
    {one two : List Piece × Option Fault} {line line' : List Piece}
    (pieces : line'.map Piece.mark =
      line.map fun piece => (piece.movedFace shift, piece.ordinary))
    {margin margin' : String} {breaker breaker' : Token} (text : breaker'.text = breaker.text)
    (rest : Piece.Moved shift Fails one two) :
    Piece.Moved shift Fails
      (line ++ .ending margin (L.build eolKind breaker.text breaker) :: one.1, one.2)
      (line' ++ .ending margin' (L.build eolKind breaker'.text breaker') :: two.1, two.2) := by
  have same : (Piece.ending margin' (L.build eolKind breaker'.text breaker')).mark =
      ((Piece.ending margin (L.build eolKind breaker.text breaker)).movedFace shift, false) := by
    rw [movable.borrows, text]
    rfl
  refine ⟨?_, rest.fault⟩
  rw [List.map_append, List.map_append, List.map_cons, List.map_cons, pieces, same, rest.pieces]
  rfl

/-- A line that is moved opens and closes the same levels, and has the same content. -/
theorem Layout.composeLine_moved (movable : L.Movable width) {words moved : Words}
    (same : words.Moved shift moved) (levels : List (Level Int)) (first : Token) :
    Alongside (Fault.Shifted shift (width shift) ending)
      (fun one two => two.1.map Piece.mark =
          one.1.map (fun piece => (piece.movedFace shift, piece.ordinary)) ∧
        two.2 = one.2.map (Level.shifted shift (width shift)))
      (L.composeLine levels words first)
      (L.composeLine (levels.map (Level.shifted shift (width shift))) moved first) := by
  have depth : L.depth.measure moved.indentation moved.margin =
      L.depth.measure words.indentation words.margin + width shift := by
    rw [movable.depth.measure, movable.depth.measure, same.margin, movable.depth.append, add_comm]
  unfold composeLine
  rw [depth, same.margin, same.body]
  refine (opening_shifted movable.borrows movable.depth.shown _ _ _ _).map ?_
  rintro ⟨tokens, after⟩ ⟨others, after'⟩ - ⟨rfl, rfl⟩
  refine ⟨?_, rfl⟩
  simp [Piece.mark, Piece.movedFace, Piece.between, Piece.content, Token.face, Function.comp_def]

/-- The tokens that close the levels that are open at the end of a text. -/
theorem Layout.closing_moved (movable : L.Movable width) (levels : List (Level Int))
    (last last' : Token) :
    Piece.Moved shift (Fault.Shifted shift (width shift) ending)
      (levels.tail.map fun level => .between (L.build dedentKind level.margin last), none)
      ((levels.map (Level.shifted shift (width shift))).tail.map fun level =>
        .between (L.build dedentKind level.margin last'), none) := by
  refine ⟨?_, .none⟩
  dsimp only
  rw [← List.map_tail, List.map_map, List.map_map, List.map_map, movable.borrows]
  rfl

/-- At the end of a text that is moved the same levels are closed. -/
theorem Layout.composeLast_moved (movable : L.Movable width) {last last' : Token}
    {rest rest' : Words} {fault fault' : Option Fault}
    (same : rest.Moved shift rest' ∨ rest = [] ∧ rest' = [])
    (fails : Option.Rel (Fault.Shifted shift (width shift) ending) fault fault')
    (ends : rest.body ≠ [] → last'.text = last.text) (levels : List (Level Int)) :
    Piece.Moved shift (Fault.Shifted shift (width shift) ending)
      (L.composeLast last rest fault levels)
      (L.composeLast last' rest' fault' (levels.map (Level.shifted shift (width shift)))) := by
  have body : rest'.body = rest.body := by
    rcases same with words | ⟨rfl, rfl⟩
    · exact words.body
    · rfl
  cases starts : rest.body with
  | nil =>
    rw [starts] at body
    cases fails with
    | some fails =>
      rw [composeLast_cut starts, composeLast_cut body]
      exact ⟨rfl, .some fails⟩
    | none =>
      rw [composeLast_blank starts, composeLast_blank body, movable.ignores]
      exact closing_moved movable levels last last'
  | cons word more =>
    obtain ⟨first, role⟩ := word
    have words : rest.Moved shift rest' := by
      rcases same with words | ⟨rfl, rfl⟩
      · exact words
      · cases starts
    have line : Alongside (Fault.Shifted shift (width shift) ending) _ _ _ :=
      composeLine_moved movable words levels first
    rcases line.cases with ⟨⟨line, after⟩, ⟨line', _⟩, one, two, pieces, rfl⟩ |
      ⟨stray, stray', one, two, misplaced⟩
    · cases fails with
      | some fails =>
        rw [composeLast_stopped starts one, composeLast_stopped (body.trans starts) two]
        exact ⟨pieces, .some fails⟩
      | none =>
        rw [composeLast_content starts one, composeLast_content (body.trans starts) two]
        exact Piece.Moved.line movable pieces (ends (by simp [starts]))
          (closing_moved movable after last last')
    · rw [composeLast_stray starts one, composeLast_stray (body.trans starts) two]
      exact ⟨rfl, .some misplaced⟩

/-- The stream of a text that is moved, line by line. -/
theorem Layout.compose_moved (movable : L.Movable width) {last last' : Token}
    {rest rest' : Words} {fault fault' : Option Fault} {lines lines' : List (Words × Token)}
    (same : List.Forall₂ (Page.MovedLine shift) lines lines')
    (final : rest.Moved shift rest' ∨ rest = [] ∧ rest' = [])
    (fails : Option.Rel (Fault.Shifted shift (width shift) ending) fault fault')
    (ends : rest.body ≠ [] → last'.text = last.text) (levels : List (Level Int)) :
    Piece.Moved shift (Fault.Shifted shift (width shift) ending)
      (L.compose last rest fault levels lines)
      (L.compose last' rest' fault' (levels.map (Level.shifted shift (width shift))) lines') := by
  induction same generalizing levels with
  | nil => exact composeLast_moved movable final fails ends levels
  | @cons line moved lines lines' here _ ih =>
    obtain ⟨words, breaker⟩ := line
    obtain ⟨words', breaker'⟩ := moved
    obtain ⟨rfl, ⟨blank, rfl⟩ | ⟨content, words⟩⟩ := here
    · rw [compose_blank blank, compose_blank blank, movable.ignores]
      exact ih levels
    · obtain ⟨⟨first, role⟩, more, starts⟩ := List.exists_cons_of_ne_nil content
      have line : Alongside (Fault.Shifted shift (width shift) ending) _ _ _ :=
        composeLine_moved movable words levels first
      rcases line.cases with ⟨⟨line, after⟩, ⟨line', _⟩, one, two, pieces, rfl⟩ |
        ⟨stray, stray', one, two, misplaced⟩
      · rw [compose_content starts one, compose_content (words.body.trans starts) two]
        exact Piece.Moved.line movable pieces rfl (ih after)
      · rw [compose_stray starts one, compose_stray (words.body.trans starts) two]
        exact ⟨rfl, .some misplaced⟩

/-- Raw tokens with their roles, where none of them is a line break. -/
structure Layout.InLine (L : Layout Int Memory) (tokens : List Token) (words : Words) : Prop where
  tokens : tokens = words.map (·.1)
  known : ∀ word ∈ words, L.classify word.1 = .ok word.2
  unbroken : ∀ word ∈ words, word.2 ≠ .lineBreak

theorem Layout.inLine_nil : L.InLine [] [] := ⟨rfl, by simp, by simp⟩

theorem Layout.InLine.cons {tokens : List Token} {words : Words} (line : L.InLine tokens words)
    {token : Token} {role : Role} (known : L.classify token = .ok role)
    (unbroken : role ≠ .lineBreak) : L.InLine (token :: tokens) ((token, role) :: words) :=
  ⟨congrArg _ line.tokens, List.forall_mem_cons.2 ⟨known, line.known⟩,
    List.forall_mem_cons.2 ⟨unbroken, line.unbroken⟩⟩

theorem Layout.inLine_white {white : List Token}
    (indents : ∀ token ∈ white, L.classify token = .ok .indentation) :
    L.InLine white (white.map fun token => (token, .indentation)) := by
  induction white with
  | nil => exact inLine_nil
  | cons token white ih =>
    obtain ⟨indent, indents⟩ := List.forall_mem_cons.1 indents
    exact (ih indents).cons indent (by decide)

/-- The roles of the raw tokens of a line are known up to the end of the line, or up to one that has
none. -/
theorem Layout.inLine_cases {line : List Token} (within : ∀ token ∈ line, L.isBreak token = false) :
    (∃ words, L.InLine line words) ∨
      ∃ front token more answer words, line = front ++ token :: more ∧ L.InLine front words ∧
        L.classify token = .error answer := by
  induction line with
  | nil => exact .inl ⟨[], inLine_nil⟩
  | cons token line ih =>
    obtain ⟨inside, within⟩ := List.forall_mem_cons.1 within
    cases classified : L.classify token with
    | error answer => exact .inr ⟨[], token, line, answer, [], rfl, inLine_nil, classified⟩
    | ok role =>
      have unbroken : role ≠ .lineBreak := by
        rintro rfl
        simp [Layout.isBreak, classified] at inside
      rcases ih within with ⟨words, known⟩ |
        ⟨front, other, more, answer, words, rfl, known, unknown⟩
      · exact .inl ⟨_, known.cons classified unbroken⟩
      · exact .inr ⟨_, other, more, answer, _, rfl, known.cons classified unbroken, unknown⟩

variable {tokens : List Token} {words : Words}

theorem Layout.page_line (line : L.InLine tokens words) {breaker : Token}
    (ends : L.classify breaker = .ok .lineBreak) (raw : List Token) (fault : Option Fault) :
    L.page (tokens ++ breaker :: raw) fault =
      { L.page raw fault with lines := (words, breaker) :: (L.page raw fault).lines } := by
  rw [line.tokens, page, words_append line.known, Layout.words, ends]
  exact Page.cut_unbroken line.unbroken breaker _

theorem Layout.page_unknown (line : L.InLine tokens words) {token : Token} {answer : Datum}
    (unknown : L.classify token = .error answer) (raw : List Token) (fault : Option Fault) :
    L.page (tokens ++ token :: raw) fault =
      { rest := words, fault := some (.unknownRole answer token) } := by
  rw [line.tokens, page, words_append line.known, Layout.words, unknown, List.append_nil]
  exact Page.cut_rest line.unbroken

theorem Layout.page_rest (line : L.InLine tokens words) (fault : Option Fault) :
    L.page tokens fault = { rest := words, fault } := by
  rw [line.tokens, page, words_of_classified line.known]
  exact Page.cut_rest line.unbroken

/-- The lines of a text that is moved. -/
theorem Layout.page_moved {raw moved : List Token} (texts : L.Relocated shift raw moved)
    (fault : Option Fault) :
    (L.page raw fault).Moved shift (fun one two => one = two) (L.page moved fault) := by
  have same (fault : Option Fault) : Option.Rel (fun one two => one = two) fault fault := by
    cases fault with
    | none => exact .none
    | some fault => exact .some rfl
  induction texts with
  | ended => exact ⟨.nil, .inr ⟨rfl, rfl⟩, same fault⟩
  | @blank white raw moved breaker indents ends rest ih =>
    have blank : Words.body (white.map fun token => (token, .indentation)) = [] :=
      Words.body_eq_nil_iff.2 (by simp)
    rw [page_line (inLine_white indents) ends, page_line (inLine_white indents) ends]
    exact ⟨.cons ⟨rfl, .inl ⟨blank, rfl⟩⟩ ih.lines, ih.rest, ih.fault⟩
  | @line line raw moved pad breaker pads text within content ends rest ih =>
    rcases inLine_cases within with ⟨words, known⟩ |
      ⟨front, token, more, answer, words, rfl, known, unknown⟩
    · have filled : words.body ≠ [] := by
        intro blank
        obtain ⟨token, member, other⟩ := content
        obtain ⟨word, among, rfl⟩ := List.mem_map.1 (known.tokens ▸ member)
        exact other (known.known word among ▸ congrArg _ (Words.body_eq_nil_iff.1 blank word among))
      rw [page_line known ends, page_line (known.cons pads (by decide)) ends]
      exact ⟨.cons ⟨rfl, .inr ⟨filled, pad, text, rfl⟩⟩ ih.lines, ih.rest, ih.fault⟩
    · have one := page_unknown known unknown (more ++ breaker :: raw) fault
      have two := page_unknown (known.cons pads (by decide)) unknown (more ++ breaker :: moved)
        fault
      simp only [List.append_assoc, List.cons_append] at one two ⊢
      rw [one, two]
      exact ⟨.nil, .inl ⟨pad, text, rfl⟩, same _⟩
  | @last line pad pads text within =>
    rcases inLine_cases within with ⟨words, known⟩ |
      ⟨front, token, more, answer, words, rfl, known, unknown⟩
    · rw [page_rest known, page_rest (known.cons pads (by decide))]
      exact ⟨.nil, .inl ⟨pad, text, rfl⟩, same fault⟩
    · rw [page_unknown known unknown, ← List.cons_append,
        page_unknown (known.cons pads (by decide)) unknown]
      exact ⟨.nil, .inl ⟨pad, text, rfl⟩, same _⟩

/-- The last raw token of words that are not empty is one of them. -/
theorem Words.lastToken_append (before : Option Token) (front : Words) (nonempty : words ≠ []) :
    Words.lastToken before (front ++ words) = Words.lastToken none words := by
  obtain ⟨word, more, rfl⟩ := List.exists_cons_of_ne_nil nonempty
  rw [Words.lastToken, List.foldl_append]
  rfl

/-- Where the last line has content, the last raw token is the same after the text is moved. -/
theorem Layout.lastOf_moved {raw moved : List Token} (texts : L.Relocated shift raw moved)
    (fault : Option Fault) (filled : (L.page raw fault).rest ≠ []) :
    L.lastOf moved fault = L.lastOf raw fault := by
  have last (raw : List Token) (filled : (L.page raw fault).rest ≠ []) :
      L.lastOf raw fault = ((L.page raw fault).rest.lastToken none).getD L.fallback := by
    have whole : (L.page raw fault).words = (L.words raw fault).1 := Page.words_cut _
    rw [lastOf, ← whole, Page.words, Words.lastToken_append none _ filled]
  rcases (page_moved texts fault).rest with ⟨pad, -, padded⟩ | ⟨empty, -⟩
  · rw [last raw filled, last moved (by simp [padded]), padded,
      ← List.singleton_append, Words.lastToken_append none _ filled]
  · exact absurd empty filled

/-- Observers leave the last line as it is, or cut it off. -/
theorem Layout.rest_admitted (rest : Words) (fault : Option Fault) (memories : List Memory)
    (lines : List (Words × Token)) :
    (L.admitted rest fault memories lines).rest = rest ∨
      (L.admitted rest fault memories lines).rest = [] := by
  induction lines generalizing memories with
  | nil =>
    unfold admitted
    split
    · exact .inl rfl
    · split
      · exact .inr rfl
      · exact .inl rfl
  | cons line lines ih =>
    unfold admitted
    split
    · exact .inr rfl
    · exact ih _

/-- A token of a stream opens or closes a level, or it belongs to a line: then it is a raw token or
ends the line. -/
def Piece.Placed (raw : List Token) (piece : Piece) : Prop :=
  piece.line = none ∧ ¬piece.token.Neutral ∨
    piece.line ≠ none ∧ (piece.token ∈ raw ∨ piece.token.kind = eolKind)

theorem Piece.placed_between {raw : List Token} {token : Token} (layout : ¬token.Neutral) :
    (Piece.between token).Placed raw :=
  .inl ⟨rfl, layout⟩

theorem Layout.built_of_opening (movable : L.Movable width) {levels after : List (Level Int)}
    {depth : Int} {margin : String} {first : Token}
    (opened : L.opening levels depth margin first = .ok (tokens, after)) :
    ∀ token ∈ tokens, ¬token.Neutral := by
  cases levels with
  | nil =>
    cases opened
    exact List.forall_mem_nil _
  | cons top levels =>
    rw [opening_nonempty (by simp), movable.borrows] at opened
    intro token member
    split at opened
    · cases opened
      obtain ⟨level, -, rfl⟩ := List.mem_map.1 member
      exact fun neutral => neutral.2 rfl
    · split at opened
      · cases opened
      · cases opened
        rw [List.mem_singleton.1 member]
        exact fun neutral => neutral.1 rfl

theorem Layout.placed_composeLine (movable : L.Movable width) {raw : List Token}
    (inside : ∀ word ∈ words, word.1 ∈ raw) {levels after : List (Level Int)} {first : Token}
    {line : List Piece} (composed : L.composeLine levels words first = .ok (line, after)) :
    ∀ piece ∈ line, piece.Placed raw := by
  obtain ⟨tokens, opened, rfl⟩ := composeLine_eq_ok.1 composed
  intro piece member
  rcases List.mem_append.1 member with opens | content
  · obtain ⟨token, built, rfl⟩ := List.mem_map.1 opens
    exact Piece.placed_between (built_of_opening movable opened token built)
  · obtain ⟨word, among, rfl⟩ := List.mem_map.1 content
    exact .inr ⟨nofun, .inl (inside word ((List.dropWhile_sublist _).subset among))⟩

/-- The end of a line is placed, and so are the line before it and what follows. -/
theorem Piece.placed_line (movable : L.Movable width) {raw : List Token} {line rest : List Piece}
    {margin : String} {breaker : Token} (within : ∀ piece ∈ line, piece.Placed raw)
    (after : ∀ piece ∈ rest, piece.Placed raw) :
    ∀ piece ∈ line ++ .ending margin (L.build eolKind breaker.text breaker) :: rest,
      piece.Placed raw := by
  have ends : (Piece.ending margin (L.build eolKind breaker.text breaker)).Placed raw := by
    rw [movable.borrows]
    exact .inr ⟨nofun, .inr rfl⟩
  exact List.forall_mem_append.2 ⟨within, List.forall_mem_cons.2 ⟨ends, after⟩⟩

theorem Layout.placed_closing (movable : L.Movable width) (raw : List Token)
    (levels : List (Level Int)) (last : Token) :
    ∀ piece ∈ levels.tail.map fun level => Piece.between (L.build dedentKind level.margin last),
      piece.Placed raw := by
  intro piece member
  obtain ⟨level, -, rfl⟩ := List.mem_map.1 member
  rw [movable.borrows]
  exact Piece.placed_between fun neutral => neutral.2 rfl

theorem Layout.placed_compose (movable : L.Movable width) {raw : List Token} {last : Token}
    {rest : Words} {fault : Option Fault} {lines : List (Words × Token)}
    (inside : ∀ words ∈ lines.map (·.1) ++ [rest], ∀ word ∈ words, word.1 ∈ raw)
    (levels : List (Level Int)) :
    ∀ piece ∈ (L.compose last rest fault levels lines).1, piece.Placed raw := by
  induction lines generalizing levels with
  | nil =>
    show ∀ piece ∈ (L.composeLast last rest fault levels).1, piece.Placed raw
    have inside := inside rest (by simp)
    have closed := placed_closing movable raw
    cases starts : rest.body with
    | nil =>
      cases fault with
      | some fault => simp [composeLast_cut starts]
      | none =>
        simpa [composeLast_blank starts, movable.ignores, BlankRule.ignore] using closed levels last
    | cons word more =>
      obtain ⟨first, role⟩ := word
      cases composed : L.composeLine levels rest first with
      | error stray => simp [composeLast_stray starts composed]
      | ok laid =>
        have within := placed_composeLine movable inside composed
        cases fault with
        | some fault => simpa [composeLast_stopped starts composed] using within
        | none =>
          rw [composeLast_content starts composed]
          exact Piece.placed_line movable within (closed _ last)
  | cons line lines ih =>
    obtain ⟨words, breaker⟩ := line
    obtain ⟨here, later⟩ := List.forall_mem_cons.1 inside
    cases starts : words.body with
    | nil => simpa [compose_blank starts, movable.ignores, BlankRule.ignore] using ih later levels
    | cons word more =>
      obtain ⟨first, role⟩ := word
      cases composed : L.composeLine levels words first with
      | error stray => simp [compose_stray starts composed]
      | ok laid =>
        rw [compose_content starts composed]
        exact Piece.placed_line movable (placed_composeLine movable here composed) (ih later _)

/-- What is delivered of a stream, and of that of the same text where it is moved. -/
theorem Piece.Moved.delivered {Fails : Fault → Fault → Prop} {one two : List Piece × Option Fault}
    (same : Piece.Moved shift Fails one two) :
    (Piece.delivered two.1 two.2).map (fun piece => piece.token.face) =
      (Piece.delivered one.1 one.2).map (Piece.movedFace shift) := by
  obtain ⟨pieces, ended⟩ := one
  obtain ⟨others, ended'⟩ := two
  obtain ⟨marks, fault⟩ := same
  suffices kept : (Piece.delivered others ended').map Piece.mark =
      (Piece.delivered pieces ended).map fun piece => (piece.movedFace shift, piece.ordinary) by
    have faces := congrArg (List.map Prod.fst) kept
    rwa [List.map_map, List.map_map] at faces
  cases fault with
  | none => exact marks
  | some =>
    have kept {f : Piece → (String × String) × Bool} (sees : ∀ piece, (f piece).2 = piece.ordinary)
        (pieces : List Piece) : (pieces.rdropWhile fun piece => !piece.ordinary).map f =
          (pieces.map f).rdropWhile fun mark => !mark.2 := by
      simp only [List.rdropWhile, ← List.map_reverse, List.dropWhile_map,
        Function.comp_def, sees]
    exact (kept (fun _ => rfl) others).trans
      ((congrArg _ marks).trans (kept (fun _ => rfl) pieces).symm)

/-- The usual rules for depths add up. -/
theorem Layout.additive_of_usual
    (depth : L.depth = .length ∨ ∃ tab, DepthRule.tabs tab = .ok L.depth) :
    L.depth.Additive (L.depth.measure []) := by
  have renamed {rule : DepthRule Int} {width : String → Int} (additive : rule.Additive width) :
      rule.Additive (rule.measure []) := by
    obtain rfl : rule.measure [] = width := funext (additive.measure [])
    exact additive
  rcases depth with same | ⟨tab, usable⟩
  · rw [same]
    exact renamed DepthRule.additive_length
  · exact renamed (DepthRule.additive_tabs usable)

/-- At the start nothing is remembered of a line. -/
theorem Layout.Movable.remembering (movable : L.Movable width) (shift : String) :
    Remembering shift (L.observers.map (·.start)) (L.observers.map (·.start)) := by
  rcases movable.watch with none | one
  · rw [none]
    exact .inr ⟨rfl, rfl⟩
  · rw [one]
    exact .inr ⟨rfl, rfl⟩

theorem Fault.shifted_of_same {further : Int} {one two : Option Fault}
    (same : Option.Rel (fun one two => one = two) one two) :
    Option.Rel (Fault.Shifted shift further one) one two := by
  cases same with
  | none => exact .none
  | some same => exact .some (same ▸ .ending rfl)

/-- The stream of a text that is moved. -/
theorem Layout.stream_moved (movable : L.Movable width) {raw moved : List Token}
    (texts : L.Relocated shift raw moved) (fault : Option Fault) :
    Piece.Moved shift (Fault.Shifted shift (width shift) (L.page raw fault).fault)
      (L.stream (L.lastOf raw fault) (L.observed raw fault))
      (L.stream (L.lastOf moved fault) (L.observed moved fault)) := by
  obtain ⟨lines, rest, own⟩ := page_moved texts fault
  have ended : Option.Rel (Fault.Shifted shift (width shift) (L.page raw fault).fault)
      (L.page raw fault).fault (L.page moved fault).fault := Fault.shifted_of_same own
  obtain ⟨lines, rest, failing⟩ :=
    admitted_moved movable lines rest ended (movable.remembering shift)
  refine compose_moved movable lines rest failing (fun filled => ?_) []
  rcases L.rest_admitted (L.page raw fault).rest (L.page raw fault).fault
    (L.observers.map (·.start)) (L.page raw fault).lines with kept | gone
  · rw [kept] at filled
    rw [lastOf_moved texts fault (by rintro none; simp [none, Words.body] at filled)]
  · exact absurd (by rw [gone]; rfl) filled

/-- A text that is moved to the right as a whole, by the same white space in front of each line with
content and of a last line without a line break, is laid out as before. The same tokens are
delivered, but that those which open or close a level have the white space in front of their texts;
it is refused where the text is refused, in the same line, and for the same reason. -/
theorem Layout.relocated_alike (L : Layout Int Memory) (shift : String) (S T : Source)
    (here : Cursor Int Memory S.State) (there : Cursor Int Memory T.State) (text other : String)
    (borrows : L.build = .borrow) (ignores : L.blank = .ignore)
    (watch : L.observers = [] ∨ L.observers = [.consistent])
    (depth : L.depth = .length ∨ ∃ tab, DepthRule.tabs tab = .ok L.depth)
    (texts : L.Relocated shift (S.readFrom here.base text).tokens
      (T.readFrom there.base other).tokens)
    (ends : (T.readFrom there.base other).fault = (S.readFrom here.base text).fault) :
    let raw := S.readFrom here.base text
    let moved := T.readFrom there.base other
    let one := (L.source S).readFrom here text
    let two := (L.source T).readFrom there other
    let stream := L.stream (L.lastOf raw.tokens raw.fault) (L.observed raw.tokens raw.fault)
    let pieces := Piece.delivered stream.1 stream.2
    (one.tokens = pieces.map Piece.token ∧
      two.tokens.map Token.face = pieces.map (Piece.movedFace shift) ∧
      ∀ piece ∈ pieces, piece.Placed raw.tokens) ∧
    ((∀ token ∈ raw.tokens, token.Neutral) → two.tokens.map Token.face = one.tokens.map fun token =>
      if token.Neutral then token.face else (token.kind, shift ++ token.text)) ∧
    Option.Rel (Fault.Shifted shift (L.depth.measure [] shift)
      (L.page raw.tokens raw.fault).fault) one.fault two.fault ∧
    (one.fault ≠ none → (moved.tokens.take (pulls two.notes - 1)).countP L.isBreak =
      (raw.tokens.take (pulls one.notes - 1)).countP L.isBreak) := by
  intro raw moved one two stream pieces
  have movable : L.Movable (L.depth.measure []) :=
    ⟨borrows, ignores, watch, additive_of_usual depth⟩
  obtain ⟨delivered, failed⟩ := L.read_eq_observed S here text
  obtain ⟨delivered', failed'⟩ := L.read_eq_observed T there other
  have same : Piece.Moved shift (Fault.Shifted shift (L.depth.measure [] shift)
      (L.page raw.tokens raw.fault).fault) stream
      (L.stream (L.lastOf moved.tokens moved.fault) (L.observed moved.tokens moved.fault)) := by
    rw [show moved.fault = raw.fault from ends]
    exact stream_moved movable texts raw.fault
  have placed : ∀ piece ∈ pieces, piece.Placed raw.tokens := by
    intro piece member
    obtain ⟨held, whole⟩ := Piece.delivered_prefix stream.1 stream.2
    refine placed_compose movable (fun words part word among => ?_) [] piece
      (whole ▸ List.mem_append_left held member)
    rcases parts_admitted part with rfl | part
    · cases among
    · exact raw_of_parts part among
  have faces : two.tokens.map Token.face = pieces.map (Piece.movedFace shift) := by
    rw [show two.tokens = _ from delivered', List.map_map]
    exact same.delivered
  refine ⟨⟨delivered, faces, placed⟩, fun neutral => ?_, ?_, fun refused => ?_⟩
  · rw [faces, show one.tokens = _ from delivered, List.map_map]
    refine List.map_congr_left fun piece member => ?_
    rw [Piece.movedFace, Function.comp_apply]
    rcases placed piece member with ⟨outside, layout⟩ | ⟨inside, content⟩
    · rw [if_pos outside, if_neg layout]
    · have plain : piece.token.Neutral := content.elim (neutral _) Token.neutral_of_eol
      rw [if_neg inside, if_pos plain]
  · rw [show one.fault = _ from failed, show two.fault = _ from failed']
    exact same.fault
  · have fails := same.fault
    rw [← show one.fault = _ from failed, ← show two.fault = _ from failed'] at fails
    cases one_fault : one.fault with
    | none => exact absurd one_fault refused
    | some fault =>
      cases two_fault : two.fault with
      | none =>
        rw [one_fault, two_fault] at fails
        cases fails
      | some fault' =>
        rw [L.accepts_of_failed S here text fault one_fault,
          L.accepts_of_failed T there other fault' two_fault]
        refine (Progress.Shifted.accepts_relocated movable texts ?_ rfl rfl).symm
        exact ⟨.nil, rfl, rfl, movable.remembering shift⟩

/-- A text with a blank line whose last line goes back to no open level, and the same moved by a tab
that is worth four columns. -/
theorem Layout.relocated_alike_tab :
    let L : Layout Int Memory := { standard with depth := ⟨fun _ => DepthRule.widthWith 4, .int⟩ }
    let c : Token := ⟨"WORD", "c", {}⟩
    let nl : Token := ⟨"NL", "\n", {}⟩
    let tab : Token := ⟨"WS", "\t", {}⟩
    let first : List Token := [⟨"WORD", "a", {}⟩]
    let second : List Token := [⟨"WS", "  ", {}⟩, ⟨"WORD", "b", {}⟩]
    let blank : List Token := [⟨"WS", " ", {}⟩]
    let third : List Token := [⟨"WS", " ", {}⟩, c]
    let raw := first ++ nl :: (second ++ nl :: (blank ++ nl :: third))
    let moved := tab :: first ++ nl :: (tab :: second ++ nl :: (blank ++ nl :: tab :: third))
    let S : Source := .scripted (raw.map some) []
    let T : Source := .scripted (moved.map some) []
    let one := (L.source S).readFrom ⟨L.fresh, S.start⟩ ""
    let two := (L.source T).readFrom ⟨L.fresh, T.start⟩ ""
    L.Relocated "\t" raw moved ∧ one.fault = some (.strayDedent c (.int 1)) ∧
      two.fault = some (.strayDedent c (.int 5)) ∧
      one.tokens.map Token.face =
        [("WORD", "a"), ("eol", "\n"), ("indent", "  "), ("WORD", "b")] ∧
      two.tokens.map Token.face =
        [("WORD", "a"), ("eol", "\n"), ("indent", "\t  "), ("WORD", "b")] ∧
      (moved.take (pulls two.notes - 1)).countP L.isBreak =
        (raw.take (pulls one.notes - 1)).countP L.isBreak := by
  intro L c nl tab first second blank third raw moved S T one two
  have indent : L.classify tab = .ok .indentation := congrArg Except.ok (by decide)
  have ends : L.classify nl = .ok .lineBreak := congrArg Except.ok (by decide)
  have texts : L.Relocated "\t" raw moved := by
    refine .line indent rfl (by decide) ⟨_, List.mem_singleton_self _, ?_⟩ ends ?_
    · exact fun same => absurd (Except.ok.inj same) (by decide)
    refine .line indent rfl (by decide) ⟨_, List.mem_cons_of_mem _ List.mem_cons_self, ?_⟩ ends ?_
    · exact fun same => absurd (Except.ok.inj same) (by decide)
    refine .blank (fun token member => ?_) ends (.last indent rfl (by decide))
    rw [List.mem_singleton.1 member]
    exact congrArg Except.ok (by decide)
  obtain ⟨given, ended⟩ : (S.readFrom S.start "").tokens = raw ∧
      (S.readFrom S.start "").fault = none := Source.readFrom_scripted _ [] 0 ""
  obtain ⟨given', ended'⟩ : (T.readFrom T.start "").tokens = moved ∧
      (T.readFrom T.start "").fault = none := Source.readFrom_scripted _ [] 0 ""
  have read := L.readFrom_eq_deliver S ⟨L.fresh, S.start⟩ ""
  have read' := L.readFrom_eq_deliver T ⟨L.fresh, T.start⟩ ""
  have alike := L.relocated_alike "\t" S T ⟨L.fresh, S.start⟩ ⟨L.fresh, T.start⟩ "" "" rfl rfl
    (.inr rfl) (.inr ⟨4, rfl⟩) (by rw [given, given']; exact texts) (ended'.trans ended.symm)
  simp only [given, ended, given', ended'] at read read' alike
  have stray : one.fault = some (.strayDedent c (.int 1)) := (Prod.mk.inj read).2.trans (by cbv)
  have faces : one.tokens.map Token.face =
      [("WORD", "a"), ("eol", "\n"), ("indent", "  "), ("WORD", "b")] :=
    (congrArg _ (Prod.mk.inj read).1).trans (by decide)
  obtain ⟨_, typed, fails, line⟩ := alike
  refine ⟨texts, stray, (Prod.mk.inj read').2.trans (by cbv), faces, ?_, ?_⟩
  · refine (typed (by decide)).trans ?_
    exact (congrArg (List.map _) (Prod.mk.inj read).1).trans (by decide)
  · exact line fun passed => by cases stray.symm.trans passed

end

end Offside
