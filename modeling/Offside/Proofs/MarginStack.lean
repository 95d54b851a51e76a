import Offside.Proofs.LineByLine
import Offside.Proofs.Margins

/-! A consumer that keeps a stack of margins. It pushes the text of each token that opens a level
and pops where one closes a level. Where an enforcer watches a text and depth grows with the
margin, it has the margin of each line on top while the content of that line is delivered. The
stack is that of the open levels, so it is enough to see what each line does to them. -/
namespace Offside

/-- What the consumer does with a token. -/
def track (stack : List String) (token : Token) : List String :=
  if token.kind = indentKind then token.text :: stack
  else if token.kind = dedentKind then stack.tail
  else stack

/-- From a stack on, the consumer has the margin of each line on top while it is delivered. -/
def Shows : List String → List Piece → Prop
  | _, [] => True
  | stack, piece :: pieces =>
    (∀ margin, piece.line = some margin → stack.head? = some margin) ∧
      Shows (track stack piece.token) pieces

theorem track_neutral {token : Token} (neutral : token.Neutral) (stack : List String) :
    track stack token = stack := by
  rw [track, if_neg neutral.1, if_neg neutral.2]

theorem track_dedent {token : Token} (closes : token.kind = dedentKind) (stack : List String) :
    track stack token = stack.tail := by
  rw [track, if_neg (by rw [closes]; exact indent_ne_dedent.symm), if_pos closes]

theorem neutral_ending (text : String) (base : Token) :
    (Builder.borrow eolKind text base).Neutral :=
  Token.neutral_of_eol rfl

namespace Shows

variable {stack : List String} {pieces : List Piece}

/-- Where no line is delivered, there is nothing to show. -/
theorem between (tokens : List Token) (stack : List String) :
    Shows stack (tokens.map .between) := by
  induction tokens generalizing stack with
  | nil => exact trivial
  | cons token tokens ih =>
    refine ⟨?_, ih _⟩
    intro margin none
    cases none

theorem before_neutral {tokens : List Token} (neutral : ∀ token ∈ tokens, token.Neutral)
    (shown : Shows stack pieces) : Shows stack (tokens.map .between ++ pieces) := by
  induction tokens with
  | nil => exact shown
  | cons token tokens ih =>
    refine ⟨?_, ?_⟩
    · intro margin none
      cases none
    · show Shows (track stack token) _
      rw [track_neutral (neutral token List.mem_cons_self)]
      exact ih fun token member => neutral token (List.mem_cons_of_mem _ member)

theorem before_dedents {closed outer : List String} {dedents : List Token}
    (closes : ∀ dedent ∈ dedents, dedent.kind = dedentKind)
    (same : dedents.length = closed.length) (shown : Shows outer pieces) :
    Shows (closed ++ outer) (dedents.map .between ++ pieces) := by
  induction dedents generalizing closed with
  | nil =>
    obtain rfl := List.length_eq_zero_iff.1 same.symm
    exact shown
  | cons dedent dedents ih =>
    cases closed with
    | nil => cases same
    | cons margin closed =>
      refine ⟨?_, ?_⟩
      · intro margin none
        cases none
      · show Shows (track _ dedent) _
        rw [track_dedent (closes dedent List.mem_cons_self)]
        exact ih (fun dedent member => closes dedent (List.mem_cons_of_mem _ member))
          (Nat.succ.inj same)

theorem before_content {margin : String} {words : Words} (top : stack.head? = some margin)
    (neutral : ∀ word ∈ words, word.1.Neutral) (shown : Shows stack pieces) :
    Shows stack (words.map (.content margin) ++ pieces) := by
  induction words with
  | nil => exact shown
  | cons word words ih =>
    refine ⟨?_, ?_⟩
    · intro other same
      rw [top]
      exact same
    · show Shows (track stack word.1) _
      rw [track_neutral (neutral word List.mem_cons_self)]
      exact ih fun word member => neutral word (List.mem_cons_of_mem _ member)

theorem before_ending {margin : String} {token : Token} (top : stack.head? = some margin)
    (neutral : token.Neutral) (shown : Shows stack pieces) :
    Shows stack (.ending margin token :: pieces) := by
  refine ⟨?_, ?_⟩
  · intro other same
    rw [top]
    exact same
  · show Shows (track stack token) _
    rw [track_neutral neutral]
    exact shown

/-- Whatever comes before a piece of a line, the margin of that line is then on top. -/
theorem top_at {before after : List Piece} {piece : Piece} {margin : String}
    (shown : Shows stack (before ++ piece :: after)) (line : piece.line = some margin) :
    ((before.map Piece.token).foldl track stack).head? = some margin := by
  induction before generalizing stack with
  | nil => exact shown.1 margin line
  | cons first before ih => exact ih shown.2

theorem of_append {more : List Piece} (shown : Shows stack (pieces ++ more)) :
    Shows stack pieces := by
  induction pieces generalizing stack with
  | nil => exact trivial
  | cons piece pieces ih => exact ⟨shown.1, ih shown.2⟩

end Shows

/-- What the consumer holds where the given levels are open: their margins. Before the first line
it holds the margin of that line. -/
def stackOf {δ : Type} (levels : List (Level δ)) (pieces : List Piece) : List String :=
  match levels with
  | [] => [(pieces.findSome? (·.line)).getD ""]
  | _ :: _ => levels.map (·.margin)

/-- The tokens that the rule for blank lines makes for a page. -/
def Layout.blankTokens {δ μ : Type} (L : Layout δ μ) (last : Token) (page : Page) : List Token :=
  page.lines.flatMap (fun line =>
    if line.1.body = [] then L.blank L.build line.2 line.2 else []) ++
      if page.rest.body = [] ∧ page.fault = none then L.blank L.build last none else []

section

variable {δ μ : Type} [Ord δ] [Std.TransOrd δ] {L : Layout δ μ} {levels after : List (Level δ)}
  {words : Words} {first : Token} {line : List Piece}

omit [Ord δ] [Std.TransOrd δ] in
theorem Shows.before_blank {tokens : List Token} {pieces : List Piece}
    (neutral : ∀ token ∈ tokens, token.Neutral) (shown : Shows (stackOf levels pieces) pieces) :
    Shows (stackOf levels (tokens.map .between ++ pieces)) (tokens.map .between ++ pieces) := by
  have same : stackOf levels (tokens.map .between ++ pieces) = stackOf levels pieces := by
    cases levels with
    | nil =>
      have none : (tokens.map Piece.between).findSome? (·.line) = none := by
        rw [List.findSome?_eq_none_iff]
        intro piece member
        obtain ⟨token, _, rfl⟩ := List.mem_map.1 member
        rfl
      simp only [stackOf, List.findSome?_append, none, Option.none_or]
    | cons top outside => rfl
  rw [same]
  exact shown.before_neutral neutral

/-- The tokens before the content of a line bring the stack from the levels before the line to
those that are open in it. -/
theorem Layout.shows_line {role : Role} {more : Words} (borrows : L.build = .borrow)
    (grows : L.depth.Grows) (chained : L.Chained levels)
    (close : Comparable (topMargin levels) words.margin)
    (neutral : ∀ word ∈ words, word.1.Neutral) (starts : words.body = (first, role) :: more)
    (composed : L.composeLine levels words first = .ok (line, after)) :
    L.Chained after ∧ ∃ top outside, after = top :: outside ∧ top.margin = words.margin ∧
      ∀ pieces, Shows (after.map (·.margin)) pieces →
        Shows (stackOf levels (line ++ pieces)) (line ++ pieces) := by
  obtain ⟨tokens, opening, rfl⟩ := composeLine_eq_ok.1 composed
  have opened := opened_of_opening (chained.ordered grows) opening
  obtain ⟨chainedAfter, top, outside, rfl, margin⟩ := opened.chained grows chained close
  refine ⟨chainedAfter, top, outside, rfl, margin, ?_⟩
  intro pieces shown
  have inBody : ∀ word ∈ words.body, word.1.Neutral := fun word member =>
    neutral word ((List.dropWhile_sublist _).subset member)
  have onTop : ((top :: outside).map (·.margin)).head? = some words.margin := by
    rw [List.map_cons, List.head?_cons, margin]
  have content := shown.before_content onTop inBody
  rw [List.append_assoc]
  cases opened with
  | outermost =>
    have start : stackOf ([] : List (Level δ))
        (words.body.map (.content words.margin) ++ pieces) = [words.margin] := by
      rw [starts]
      rfl
    rw [List.map_nil, List.nil_append, start]
    exact content
  | landed closed outside level same =>
    have closes : ∀ dedent ∈ closed.map fun _ => L.build dedentKind words.margin first,
        dedent.kind = dedentKind := by
      rw [borrows]
      exact List.forall_mem_map.2 fun _ _ => rfl
    have margins : stackOf (closed ++ top :: outside)
        ((closed.map fun _ => L.build dedentKind words.margin first).map .between ++
          (words.body.map (.content words.margin) ++ pieces)) =
        closed.map (·.margin) ++ (top :: outside).map (·.margin) := by
      rw [← List.map_append]
      cases closed with
      | nil => rfl
      | cons inner closed => rfl
    rw [margins]
    exact content.before_dedents closes (by rw [List.length_map, List.length_map])
  | deepened top levels shallower =>
    refine ⟨?_, ?_⟩
    · intro margin none
      cases none
    · rw [borrows]
      exact content

/-- The last line and the end of the text. -/
theorem Layout.shows_last {last : Token} {rest : Words} {fault : Option Fault}
    (borrows : L.build = .borrow) (grows : L.depth.Grows) (chained : L.Chained levels)
    (close : rest.body ≠ [] → Comparable (topMargin levels) rest.margin)
    (neutral : ∀ word ∈ rest, word.1.Neutral)
    (blanks : ∀ token ∈ L.blankTokens last { rest, fault }, token.Neutral) :
    let pieces := (L.composeLast last rest fault levels).1
    Shows (stackOf levels pieces) pieces := by
  cases starts : rest.body with
  | nil =>
    cases fault with
    | some fault =>
      rw [composeLast_cut starts]
      exact trivial
    | none =>
      rw [composeLast_blank starts]
      refine Shows.before_blank (fun token member => blanks token ?_) ?_
      · simpa [blankTokens, starts] using member
      · have closing := Shows.between (levels.tail.map fun level =>
          L.build dedentKind level.margin last) (stackOf levels (levels.tail.map fun level =>
            .between (L.build dedentKind level.margin last)))
        rwa [List.map_map] at closing
  | cons word more =>
    obtain ⟨first, role⟩ := word
    have filled : rest.body ≠ [] := starts ▸ List.cons_ne_nil _ _
    cases composed : L.composeLine levels rest first with
    | error stray =>
      rw [composeLast_stray starts composed]
      exact trivial
    | ok laid =>
      obtain ⟨line, after⟩ := laid
      obtain ⟨_, top, outside, rfl, margin, shown⟩ :=
        shows_line borrows grows chained (close filled) neutral starts composed
      cases fault with
      | some fault =>
        rw [composeLast_stopped starts composed]
        have stopped := shown [] trivial
        rwa [List.append_nil] at stopped
      | none =>
        rw [composeLast_content starts composed]
        refine shown _ (Shows.before_ending (by rw [← margin]; rfl) ?_ ?_)
        · rw [borrows]
          exact neutral_ending last.text last
        · have closing := Shows.between (outside.map fun level =>
            L.build dedentKind level.margin last) ((top :: outside).map (·.margin))
          rwa [List.map_map] at closing

omit [Ord δ] [Std.TransOrd δ] in
theorem Layout.blankTokens_line {last breaker : Token} {page : Page} :
    L.blankTokens last { page with lines := (words, breaker) :: page.lines } =
      (if words.body = [] then L.blank L.build breaker breaker else []) ++
        L.blankTokens last page := by
  rw [blankTokens, blankTokens, List.flatMap_cons, List.append_assoc]

variable {remembered : μ → String} {position : Nat} {observer : Observer μ} {last : Token}
  {rest : Words} {fault : Option Fault} {memories : List μ}

/-- The enforcer lets the last line through only if its margin fits that of the innermost level. -/
theorem Layout.shows_admitted_last (borrows : L.build = .borrow) (grows : L.depth.Grows)
    (present : L.observers[position]? = some observer) (enforces : observer.Enforces remembered)
    (chained : L.Chained levels)
    (held : Remembers remembered position memories (topMargin levels))
    (neutral : ∀ word ∈ rest, word.1.Neutral)
    (blanks : ∀ token ∈ L.blankTokens last (L.admitted rest fault memories []), token.Neutral) :
    let page := L.admitted rest fault memories []
    let pieces := (L.compose last page.rest page.fault levels page.lines).1
    Shows (stackOf levels pieces) pieces := by
  by_cases cut : rest.body = [] ∧ fault.isSome
  · rw [admitted_cut cut] at blanks ⊢
    exact shows_last borrows grows chained (fun filled => absurd cut.1 filled) neutral blanks
  · cases told : (tell (rest.report none) 0 L.observers memories).outcome with
    | error refusal =>
      rw [admitted_last_refused cut told]
      exact trivial
    | ok later =>
      rw [admitted_last told] at blanks ⊢
      refine shows_last borrows grows chained ?_ neutral blanks
      intro filled
      obtain ⟨word, more, starts⟩ := List.exists_cons_of_ne_nil filled
      rw [Words.report_content starts] at told
      exact (held.after_content present enforces rfl told).1

/-- What the enforcer lets through of a text keeps the margin of each line on top. The levels and
what the enforcer remembers go into the induction together: that a line is comparable with the
innermost level is known only because both agreed on its margin. -/
theorem Layout.shows_admitted {lines : List (Words × Token)} (borrows : L.build = .borrow)
    (grows : L.depth.Grows) (present : L.observers[position]? = some observer)
    (enforces : observer.Enforces remembered) (chained : L.Chained levels)
    (held : Remembers remembered position memories (topMargin levels))
    (neutral : ∀ words ∈ lines.map (·.1) ++ [rest], ∀ word ∈ words, word.1.Neutral)
    (blanks : ∀ token ∈ L.blankTokens last (L.admitted rest fault memories lines), token.Neutral) :
    let page := L.admitted rest fault memories lines
    let pieces := (L.compose last page.rest page.fault levels page.lines).1
    Shows (stackOf levels pieces) pieces := by
  induction lines generalizing levels memories with
  | nil =>
    exact shows_admitted_last borrows grows present enforces chained held
      (neutral rest List.mem_cons_self) blanks
  | cons line lines ih =>
    obtain ⟨words, breaker⟩ := line
    have others : ∀ words ∈ lines.map (·.1) ++ [rest], ∀ word ∈ words, word.1.Neutral :=
      fun words member => neutral words (List.mem_cons_of_mem _ member)
    cases told : (tell (words.report breaker) 0 L.observers memories).outcome with
    | error refusal =>
      rw [admitted_refused told]
      exact trivial
    | ok later =>
      rw [admitted_line told] at blanks ⊢
      rw [blankTokens_line] at blanks
      obtain ⟨blank, laterBlanks⟩ := List.forall_mem_append.1 blanks
      dsimp only
      cases starts : words.body with
      | nil =>
        rw [Words.report_blank starts] at told
        have held := held.after_blank present enforces rfl told
        rw [if_pos starts] at blank
        rw [compose_blank starts]
        exact Shows.before_blank blank (ih chained held others laterBlanks)
      | cons word more =>
        obtain ⟨first, role⟩ := word
        rw [Words.report_content starts] at told
        obtain ⟨comparable, held⟩ := held.after_content present enforces rfl told
        cases composed : L.composeLine levels words first with
        | error stray =>
          rw [compose_stray starts composed]
          exact trivial
        | ok laid =>
          obtain ⟨line, after⟩ := laid
          obtain ⟨chained, top, outside, rfl, margin, shown⟩ := shows_line borrows grows chained
            comparable (neutral words List.mem_cons_self) starts composed
          have held : Remembers remembered position later top.margin := by
            rw [margin]
            exact held
          rw [compose_content starts composed]
          refine shown _ (Shows.before_ending (by rw [← margin]; rfl) ?_ ?_)
          · rw [borrows]
            exact neutral_ending breaker.text breaker
          · exact ih chained held others laterBlanks

/-- From the start of a text on, what an enforcer lets through keeps the margin of each line on
top. -/
theorem Layout.shows_stream {raw : List Token} (borrows : L.build = .borrow)
    (grows : L.depth.Grows) (present : L.observers[position]? = some observer)
    (enforces : observer.Enforces remembered)
    (neutral : ∀ token ∈ raw ++ L.blankTokens last (L.observed raw fault), token.Neutral) :
    let pieces := (L.stream last (L.observed raw fault)).1
    Shows (stackOf ([] : List (Level δ)) pieces) pieces := by
  obtain ⟨given, blanks⟩ := List.forall_mem_append.1 neutral
  have held : Remembers remembered position (L.observers.map (·.start))
      (topMargin ([] : List (Level δ))) := by
    refine ⟨observer.start, ?_, enforces.start⟩
    rw [List.getElem?_map, present]
    rfl
  refine shows_admitted borrows grows present enforces ⟨.nil, by simp⟩ held ?_ blanks
  intro words part word member
  exact given word.1 (raw_of_parts part member)

end

theorem Piece.delivered_prefix (pieces : List Piece) (fault : Option Fault) :
    ∃ held, pieces = delivered pieces fault ++ held := by
  cases fault with
  | none => exact ⟨[], (List.append_nil pieces).symm⟩
  | some fault =>
    obtain ⟨held, split⟩ := List.rdropWhile_prefix (fun piece => !piece.ordinary) pieces
    exact ⟨held, split.symm⟩

/-- Where an enforcer watches a text and depth grows with the margin, the margins of the open
levels extend one another in every state that is reached without a fault, and in the content of a
line the innermost of them, the margin of the line, and what the enforcer remembers are the same.
So a consumer that starts with the margin of the first line, pushes the text of each token that
opens a level and pops where one is closed, has the margin of each line on top while it is
delivered. Depth grows with the margin where it is the length of the margin, and where it is its
width with tabs of a column or more. -/
theorem Layout.margins_enforced {δ μ : Type} [Ord δ] [Std.TransOrd δ] [DecidableEq δ]
    [DecidableEq μ] (L : Layout δ μ) (S : Source) (text : String) {remembered : μ → String}
    {position : Nat} {enforcer : Observer μ} (grows : L.depth.Grows)
    (present : L.observers[position]? = some enforcer)
    (enforces : enforcer.Enforces remembered) :
    (∀ cursor, (L.source S).Reached text cursor →
      let p := cursor.progress
      p.levels.Pairwise (fun inner outer => Extends outer.margin inner.margin) ∧
        (p.phase = .body → ∃ top outside memory, p.levels = top :: outside ∧
          p.memories[position]? = some memory ∧ top.margin = p.margin ∧
            remembered memory = p.margin)) ∧
      (∀ elsewhere : Cursor δ μ S.State,
        let raw := S.readFrom elsewhere.base text
        let last := L.lastOf raw.tokens raw.fault
        let page := L.observed raw.tokens raw.fault
        let stream := L.stream last page
        let pieces := Piece.delivered stream.1 stream.2
        L.build = .borrow → (∀ token ∈ raw.tokens ++ L.blankTokens last page, token.Neutral) →
          ((L.source S).readFrom elsewhere text).tokens = pieces.map Piece.token ∧
            ∀ start, pieces.findSome? (·.line) = some start →
              ∀ before piece after margin, pieces = before ++ piece :: after →
                piece.line = some margin →
                  ((before.map Piece.token).foldl track [start]).head? = some margin) ∧
      DepthRule.length.Grows ∧
      ∀ tab, 1 ≤ tab → ∃ rule, DepthRule.tabs tab = .ok rule ∧ rule.Grows := by
  refine ⟨?_, ?_, DepthRule.grows_length, fun tab => DepthRule.grows_tabs⟩
  · intro cursor reached
    have aligned := aligned_of_reached grows present enforces reached
    refine ⟨aligned.chained.chain, ?_⟩
    intro body
    obtain ⟨memory, kept, same⟩ := aligned.remembers (by simp [body])
    obtain ⟨nonempty, current⟩ := aligned.current body
    obtain ⟨top, outside, levels⟩ := List.exists_cons_of_ne_nil nonempty
    rw [levels] at current same
    exact ⟨top, outside, memory, levels, kept, current, same.trans current⟩
  · intro elsewhere raw last page stream pieces borrows neutral
    refine ⟨(L.read_eq_observed S elsewhere text).1, ?_⟩
    intro start first before piece after margin split line
    have shown : Shows (stackOf ([] : List (Level δ)) stream.1) stream.1 :=
      shows_stream borrows grows present enforces neutral
    obtain ⟨held, whole⟩ := Piece.delivered_prefix stream.1 stream.2
    have started : stackOf ([] : List (Level δ)) stream.1 = [start] := by
      rw [whole]
      show [((pieces ++ held).findSome? (·.line)).getD ""] = [start]
      rw [List.findSome?_append, first]
      rfl
    rw [started, whole] at shown
    have delivered := shown.of_append
    rw [show Piece.delivered stream.1 stream.2 = _ from split] at delivered
    exact delivered.top_at line

/-- A line and a deeper one: where the first line starts, and where the second one is delivered. -/
theorem Layout.margins_enforced_two_lines :
    let L := Layout.standard
    let raw : List Token :=
      [⟨"WORD", "a", {}⟩, ⟨"NL", "\n", {}⟩, ⟨"WS", "  ", {}⟩, ⟨"WORD", "b", {}⟩]
    let S : Source := .scripted (raw.map some) []
    let T : Source := L.source S
    let state : Cursor Int Memory Nat := (T.next (T.reset T.start "" none).2).2
    T.Reached "" state ∧ state.progress.phase = .body ∧
      (∃ top outside memory, state.progress.levels = top :: outside ∧
        state.progress.memories[0]? = some memory ∧ top.margin = state.progress.margin ∧
          memory.lastMargin = state.progress.margin) ∧
      (((T.read "").tokens.take 3).foldl track [""]).head? = some "  " := by
  intro L raw S T state
  have taken : ((L.fresh.refill L S S.start).1.outcome.toOption.map (·.phase)) = some .body := by
    unfold Progress.refill
    simp only [S, raw, List.map_cons, List.map_nil, Source.scripted]
    decide
  obtain ⟨later, filled, started⟩ : ∃ later,
      (L.fresh.refill L S S.start).1.outcome = .ok later ∧ later.phase = .body := by
    cases filled : (L.fresh.refill L S S.start).1.outcome with
    | error fault => simp [filled, Except.toOption] at taken
    | ok later => exact ⟨later, rfl, by simpa [filled, Except.toOption] using taken⟩
  have unfinished : L.fresh.phase ≠ .finished := by decide
  obtain ⟨answered, moved⟩ : (L.next S ⟨L.fresh, S.start⟩).1.outcome = _ ∧
      (L.next S ⟨L.fresh, S.start⟩).2 = _ := next_filled rfl unfinished filled
  have reached : T.Reached "" state := .asked (.restarted rfl) answered
  have body : state.progress.phase = .body := by
    rw [show state = _ from moved]
    exact started
  obtain ⟨given, whole⟩ : (S.readFrom S.start "").tokens = raw ∧
      (S.readFrom S.start "").fault = none := Source.readFrom_scripted raw [] 0 ""
  have present : L.observers[0]? = some .consistent := rfl
  obtain ⟨states, run, -⟩ := L.margins_enforced S "" DepthRule.grows_length present
    Observer.enforces_consistent
  have run := run ⟨L.fresh, S.start⟩
  have laid : (L.stream (L.lastOf raw none) (L.observed raw none)).1 =
      [.content "" (⟨"WORD", "a", {}⟩, .ordinary), .ending "" ⟨"eol", "\n", {}⟩,
        .between ⟨"indent", "  ", {}⟩, .content "  " (⟨"WORD", "b", {}⟩, .ordinary),
        .ending "  " ⟨"eol", "b", {}⟩, .between ⟨"dedent", "", {}⟩] := by decide
  have sound : (L.stream (L.lastOf raw none) (L.observed raw none)).2 = none := by decide
  simp only [given, whole, laid, sound, Piece.delivered] at run
  obtain ⟨tokens, margins⟩ := run rfl (by decide)
  refine ⟨reached, body, (states state reached).2 body, ?_⟩
  rw [show (T.read "").tokens = _ from tokens]
  exact margins "" rfl [_, _, _] _ _ "  " rfl rfl

end Offside
