import Mathlib.Data.List.Chain
import Offside.Proofs.LineByLine

/-! Nesting of what is delivered. A stream that comes to its end without a fault is a block: lines,
each of which may have a deeper block after it, between a token that opens a level and one that
closes it. The levels that are open say what is still to come: `Remains` is what may be left of a
stream after a line, and it is built up from the end of the text, line by line. -/
namespace Offside

/-- What tokens can form. -/
inductive Part where
  | line
  | block
deriving DecidableEq

/-- Lines and blocks. A line is content and its end, and may have a block of its own after it; a
block is one line or more. -/
inductive Forms (content : List Token → Prop) : Part → List Token → Prop where
  | plain {run : List Token} {ending : Token} (inside : content run)
      (ends : ending.kind = eolKind) : Forms content .line (run ++ [ending])
  | nested {run block : List Token} {ending indent dedent : Token} (inside : content run)
      (ends : ending.kind = eolKind) (opens : indent.kind = indentKind)
      (deeper : Forms content .block block) (closes : dedent.kind = dedentKind) :
      Forms content .line (run ++ ending :: indent :: block ++ [dedent])
  | last {line : List Token} (single : Forms content .line line) : Forms content .block line
  | next {line block : List Token} (first : Forms content .line line)
      (others : Forms content .block block) : Forms content .block (line ++ block)

/-- What may be left of a stream after a line and its block, where so many blocks are open around
it. -/
inductive Ends (content : List Token → Prop) : Nat → List Token → Prop where
  | done : Ends content 0 []
  | line {depth : Nat} {line rest : List Token} (next : Forms content .line line)
      (left : Ends content depth rest) : Ends content depth (line ++ rest)
  | closed {depth : Nat} {dedent : Token} {rest : List Token} (closes : dedent.kind = dedentKind)
      (left : Ends content depth rest) : Ends content (depth + 1) (dedent :: rest)

/-- What may be left of a stream right after the end of a line, which may have a block. -/
inductive Continues (content : List Token → Prop) (depth : Nat) : List Token → Prop where
  | flat {rest : List Token} (left : Ends content depth rest) : Continues content depth rest
  | block {indent dedent : Token} {block rest : List Token} (opens : indent.kind = indentKind)
      (deeper : Forms content .block block) (closes : dedent.kind = dedentKind)
      (left : Ends content depth rest) :
      Continues content depth (indent :: block ++ dedent :: rest)

/-- What may be left of a stream where the given levels are open: all of it if none is. -/
def Remains {δ : Type} (content : List Token → Prop) : List (Level δ) → List Token → Prop
  | [], rest => Ends content 0 rest
  | _ :: outside, rest => Continues content outside.length rest

section

variable {content : List Token → Prop} {depth : Nat} {run rest : List Token} {ending : Token}

theorem Forms.block_of_line {line others : List Token} (first : Forms content .line line)
    (more : others = [] ∨ Forms content .block others) : Forms content .block (line ++ others) := by
  rcases more with rfl | more
  · rw [List.append_nil]
    exact .last first
  · exact .next first more

/-- Where no block is open around it, all that is left is lines. -/
theorem Ends.whole (ends : Ends content 0 rest) : rest = [] ∨ Forms content .block rest := by
  generalize outermost : 0 = depth at ends
  induction ends with
  | done => exact .inl rfl
  | line next left ih => exact .inr (next.block_of_line (ih outermost))
  | closed closes left ih => cases outermost

/-- Where a block is open, lines are left until it is closed. -/
theorem Ends.until_closed (ends : Ends content (depth + 1) rest) :
    ∃ lines dedent more, rest = lines ++ dedent :: more ∧
      (lines = [] ∨ Forms content .block lines) ∧ dedent.kind = dedentKind ∧
      Ends content depth more := by
  generalize inside : depth + 1 = inner at ends
  induction ends with
  | done => cases inside
  | @line _ line _ next left ih =>
    obtain ⟨lines, dedent, more, rfl, others, closes, after⟩ := ih inside
    exact ⟨line ++ lines, dedent, more, by simp, .inr (next.block_of_line others), closes, after⟩
  | @closed _ dedent rest closes left ih =>
    cases inside
    exact ⟨[], dedent, rest, rfl, .inl rfl, closes, left⟩

/-- Blocks are closed one after the other. -/
theorem Ends.closing {dedents : List Token} (closes : ∀ dedent ∈ dedents, dedent.kind = dedentKind)
    (left : Ends content depth rest) :
    Ends content (depth + dedents.length) (dedents ++ rest) := by
  induction dedents with
  | nil => exact left
  | cons dedent dedents ih =>
    have inner := ih fun dedent member => closes dedent (List.mem_cons_of_mem _ member)
    exact .closed (closes dedent List.mem_cons_self) inner

/-- A line with what may follow its end is a whole line with what may follow that. -/
theorem Continues.whole_line (inside : content run) (ends : ending.kind = eolKind)
    (continues : Continues content depth rest) :
    ∃ line more, run ++ ending :: rest = line ++ more ∧ Forms content .line line ∧
      Ends content depth more := by
  cases continues with
  | flat left => exact ⟨run ++ [ending], rest, by simp, .plain inside ends, left⟩
  | @block indent dedent block more opens deeper closes left =>
    exact ⟨run ++ ending :: indent :: block ++ [dedent], more, by simp,
      .nested inside ends opens deeper closes, left⟩

/-- A line that is as deep as the one before it. -/
theorem Continues.next_line (inside : content run) (ends : ending.kind = eolKind)
    (continues : Continues content depth rest) : Ends content depth (run ++ ending :: rest) := by
  obtain ⟨line, more, split, forms, left⟩ := continues.whole_line inside ends
  rw [split]
  exact .line forms left

/-- A line that is deeper than the one before it. -/
theorem Continues.deeper_line {indent : Token} (opens : indent.kind = indentKind)
    (inside : content run) (ends : ending.kind = eolKind)
    (continues : Continues content (depth + 1) rest) :
    Continues content depth (indent :: (run ++ ending :: rest)) := by
  obtain ⟨line, more, split, forms, left⟩ := continues.whole_line inside ends
  obtain ⟨lines, dedent, after, rfl, others, closes, left⟩ := left.until_closed
  have regroup : indent :: (run ++ ending :: rest) =
      indent :: (line ++ lines) ++ dedent :: after := by
    rw [split]
    simp
  rw [regroup]
  exact .block opens (forms.block_of_line others) closes left

end

/-- Makes tokens of the kind that it is asked for. -/
def Builder.KeepsKind (build : Builder) : Prop :=
  ∀ kind text base, (build kind text base).kind = kind

section

variable {δ μ : Type} [Ord δ] {L : Layout δ μ} {content : List Token → Prop}

/-- A line with content goes before what may be left after it. -/
theorem Remains.before_line [Std.TransOrd δ] {levels after : List (Level δ)} {words : Words}
    {first ending : Token} {line : List Piece} {rest : List Token} (faithful : L.build.KeepsKind)
    (ordered : Ordered levels) (composed : L.composeLine levels words first = .ok (line, after))
    (inside : content (words.body.map (·.1))) (ends : ending.kind = eolKind)
    (remains : Remains content after rest) :
    Remains content levels (line.map Piece.token ++ ending :: rest) := by
  obtain ⟨tokens, opening, rfl⟩ := Layout.composeLine_eq_ok.1 composed
  have shown : (tokens.map Piece.between ++ words.body.map (Piece.content words.margin)).map
      Piece.token = tokens ++ words.body.map (·.1) := by
    simp [Piece.between, Piece.content, Function.comp_def]
  rw [shown, List.append_assoc]
  cases Layout.opened_of_opening ordered opening with
  | outermost => exact Continues.next_line inside ends remains
  | landed closed outside level same =>
    have left : Ends content outside.length (words.body.map (·.1) ++ ending :: rest) :=
      Continues.next_line inside ends remains
    have closes : ∀ dedent ∈ closed.map fun _ => L.build dedentKind words.margin first,
        dedent.kind = dedentKind := List.forall_mem_map.2 fun _ _ => faithful _ _ _
    have closing := left.closing closes
    cases closed with
    | nil => exact .flat left
    | cons top closed =>
      have inner : (closed ++ level :: outside).length = outside.length +
          ((top :: closed).map fun _ => L.build dedentKind words.margin first).length := by
        simp only [List.length_append, List.length_cons, List.length_map]
        omega
      show Continues content (closed ++ level :: outside).length _
      rw [inner]
      exact .flat closing
  | deepened top levels shallower =>
    exact Continues.deeper_line (faithful _ _ _) inside ends remains

omit [Ord δ] in
/-- The end of the text closes all levels but the outermost. -/
theorem Remains.of_end {levels : List (Level δ)} (faithful : L.build.KeepsKind) (last : Token) :
    Remains content levels
      (levels.tail.map fun level => L.build dedentKind level.margin last) := by
  cases levels with
  | nil => exact .done
  | cons top outside =>
    have closes : ∀ dedent ∈ outside.map fun level => L.build dedentKind level.margin last,
        dedent.kind = dedentKind := List.forall_mem_map.2 fun _ _ => faithful _ _ _
    have closing : Ends content _ _ := Ends.closing closes .done
    rw [List.append_nil, List.length_map, Nat.zero_add] at closing
    exact .flat closing

/-- The last line and the end of the text. -/
theorem Remains.of_composeLast [Std.TransOrd δ] {levels : List (Level δ)} {last : Token}
    {rest : Words} {fault : Option Fault} {pieces : List Piece} (faithful : L.build.KeepsKind)
    (ignoring : L.blank = .ignore) (ordered : Ordered levels)
    (inside : rest.body ≠ [] → content (rest.body.map (·.1)))
    (composed : L.composeLast last rest fault levels = (pieces, none)) :
    Remains content levels (pieces.map Piece.token) := by
  cases starts : rest.body with
  | nil =>
    cases fault with
    | some fault =>
      rw [Layout.composeLast_cut starts] at composed
      cases composed
    | none =>
      rw [Layout.composeLast_blank starts, ignoring] at composed
      cases composed
      simpa [BlankRule.ignore, Piece.between, Function.comp_def] using of_end faithful last
  | cons word more =>
    obtain ⟨first, role⟩ := word
    cases laid : L.composeLine levels rest first with
    | error stray =>
      rw [Layout.composeLast_stray starts laid] at composed
      cases composed
    | ok line =>
      obtain ⟨line, after⟩ := line
      cases fault with
      | some fault =>
        rw [Layout.composeLast_stopped starts laid] at composed
        cases composed
      | none =>
        rw [Layout.composeLast_content starts laid] at composed
        cases composed
        have filled : rest.body ≠ [] := starts ▸ List.cons_ne_nil _ _
        have before := before_line faithful ordered laid (inside filled)
          (faithful eolKind last.text last) (of_end faithful last)
        simpa [Piece.between, Piece.ending, Function.comp_def] using before

/-- The whole of a stream without a fault is what may be left where no level is open. -/
theorem Remains.of_compose [Std.TransOrd δ] {levels : List (Level δ)} {last : Token}
    {rest : Words} {fault : Option Fault} {lines : List (Words × Token)} {pieces : List Piece}
    (faithful : L.build.KeepsKind) (ignoring : L.blank = .ignore) (ordered : Ordered levels)
    (inside : ∀ words ∈ lines.map (·.1) ++ [rest], words.body ≠ [] →
      content (words.body.map (·.1)))
    (composed : L.compose last rest fault levels lines = (pieces, none)) :
    Remains content levels (pieces.map Piece.token) := by
  induction lines generalizing levels pieces with
  | nil => exact of_composeLast faithful ignoring ordered (inside rest (by simp)) composed
  | cons line lines ih =>
    obtain ⟨words, breaker⟩ := line
    have others : ∀ words ∈ lines.map (·.1) ++ [rest], words.body ≠ [] →
        content (words.body.map (·.1)) := fun words member =>
      inside words (List.mem_cons_of_mem _ member)
    cases starts : words.body with
    | nil =>
      rw [Layout.compose_blank starts, ignoring] at composed
      exact ih ordered others composed
    | cons word more =>
      obtain ⟨first, role⟩ := word
      cases laid : L.composeLine levels words first with
      | error stray =>
        rw [Layout.compose_stray starts laid] at composed
        cases composed
      | ok line =>
        obtain ⟨line, after⟩ := line
        rw [Layout.compose_content starts laid] at composed
        obtain ⟨rfl, ended⟩ := Prod.mk.inj composed
        have remains := ih (Layout.ordered_of_composeLine ordered laid) others
          (Prod.ext rfl ended)
        have filled : words.body ≠ [] := starts ▸ List.cons_ne_nil _ _
        have before := before_line faithful ordered laid (inside words (by simp) filled)
          (faithful eolKind breaker.text breaker) remains
        simpa [Piece.ending] using before

end

/-- A line, less its indentation, as it is laid out: a run of raw tokens that starts with an
ordinary one, without a line break. -/
structure Layout.IsContent {δ μ : Type} (L : Layout δ μ) (raw run : List Token) : Prop where
  within : run <:+: raw
  starts : ∃ first more, run = first :: more ∧ L.classify first = .ok .ordinary
  unbroken : ∀ token ∈ run, L.classify token ≠ .ok .lineBreak

namespace Layout

variable {δ μ : Type} {L : Layout δ μ} {raw : List Token} {fault : Option Fault}

/-- Observers leave no line that was not there. -/
theorem parts_admitted {rest : Words} {memories : List μ} {lines : List (Words × Token)}
    {words : Words} (part : words ∈ (L.admitted rest fault memories lines).parts) :
    words = [] ∨ words ∈ lines.map (·.1) ++ [rest] := by
  induction lines generalizing memories with
  | nil =>
    by_cases cut : rest.body = [] ∧ fault.isSome
    · rw [admitted_cut cut] at part
      exact .inr part
    · cases told : (tell (rest.report none) 0 L.observers memories).outcome with
      | error refusal =>
        rw [admitted_last_refused cut told] at part
        exact .inl (List.mem_singleton.1 part)
      | ok later =>
        rw [admitted_last told] at part
        exact .inr part
  | cons line lines ih =>
    obtain ⟨words, breaker⟩ := line
    cases told : (tell (words.report breaker) 0 L.observers memories).outcome with
    | error refusal =>
      rw [admitted_refused told] at part
      exact .inl (List.mem_singleton.1 part)
    | ok later =>
      rw [admitted_line told] at part
      rcases List.mem_cons.1 part with rfl | member
      · exact .inr List.mem_cons_self
      · exact (ih member).imp_right fun member => List.mem_cons_of_mem _ member

/-- What is laid out of a line is content. -/
theorem content_of_observed {words : Words} (part : words ∈ (L.observed raw fault).parts)
    (filled : words.body ≠ []) : L.IsContent raw (words.body.map (·.1)) := by
  rcases parts_admitted part with rfl | part
  · exact absurd rfl filled
  · obtain ⟨comes, known⟩ := L.words_known raw fault
    have inside : words <:+: (L.words raw fault).1 := by
      rw [← Page.words_cut (L.words raw fault).1]
      exact Page.infix_of_parts part
    have unbroken : ∀ word ∈ words, word.2 ≠ .lineBreak := by
      have pieces : (L.page raw fault).Unbroken := Page.unbroken_cut _
      rcases List.mem_append.1 part with ended | last
      · obtain ⟨line, member, rfl⟩ := List.mem_map.1 ended
        exact pieces.lines line member
      · obtain rfl := List.mem_singleton.1 last
        exact pieces.rest
    have body : words.body <:+: (L.words raw fault).1 :=
      (List.dropWhile_suffix _).isInfix.trans inside
    have classified : ∀ token ∈ words.body.map (·.1), L.classify token ≠ .ok .lineBreak := by
      intro token member
      obtain ⟨word, inBody, rfl⟩ := List.mem_map.1 member
      rw [known word (body.subset inBody)]
      intro same
      exact Words.unbroken_body unbroken word inBody (Except.ok.inj same)
    refine ⟨(body.map _).trans comes.isInfix, ?_, classified⟩
    cases starts : words.body with
    | nil => exact absurd starts filled
    | cons word more =>
      obtain ⟨first, role⟩ := word
      obtain rfl := Words.ordinary_of_body unbroken starts
      refine ⟨first, more.map (·.1), rfl, known (first, .ordinary) ?_⟩
      exact body.subset (by rw [starts]; exact List.mem_cons_self)

end Layout

/-- How often a kind occurs. -/
def occurrences (kind : String) (tokens : List Token) : Nat :=
  tokens.countP (·.kind = kind)

/-- Levels are opened right after a line, closed after a line or one another, never more of them
closed than were opened, and all of them are closed in the end. -/
structure WellNested (tokens : List Token) : Prop where
  indent_after : ∀ before indent after, tokens = before ++ indent :: after →
    indent.kind = indentKind → ∃ earlier ending, before = earlier ++ [ending] ∧
      ending.kind = eolKind
  dedent_after : ∀ before dedent after, tokens = before ++ dedent :: after →
    dedent.kind = dedentKind → ∃ earlier previous, before = earlier ++ [previous] ∧
      (previous.kind = eolKind ∨ previous.kind = dedentKind)
  opened_first : ∀ front, front <+: tokens →
    occurrences dedentKind front ≤ occurrences indentKind front
  all_closed : occurrences dedentKind tokens = occurrences indentKind tokens

/-- Whether a token may come right before another. -/
def Adjoins (previous token : Token) : Prop :=
  (token.kind = indentKind → previous.kind = eolKind) ∧
    (token.kind = dedentKind → previous.kind = eolKind ∨ previous.kind = dedentKind)

section

variable {content : List Token → Prop} {part : Part} {tokens : List Token}

/-- Content is not empty, and no token of it is one of a layout. -/
def PlainContent (content : List Token → Prop) : Prop :=
  ∀ run, content run → run ≠ [] ∧ ∀ token ∈ run, token.kind ∉ layoutKinds

theorem adjoins_of_plain {previous token : Token} (plain : token.kind ∉ layoutKinds) :
    Adjoins previous token := by
  constructor
  · intro opens
    simp [layoutKinds, opens] at plain
  · intro closes
    simp [layoutKinds, closes] at plain

/-- A line starts with content, and so does a block. -/
theorem Forms.starts (plain : PlainContent content) (forms : Forms content part tokens) :
    ∃ first more, tokens = first :: more ∧ first.kind ∉ layoutKinds := by
  induction forms with
  | @plain run ending inside ends =>
    obtain ⟨filled, bare⟩ := plain run inside
    obtain ⟨first, more, rfl⟩ := List.exists_cons_of_ne_nil filled
    exact ⟨first, more ++ [ending], rfl, bare first List.mem_cons_self⟩
  | @nested run block ending indent dedent inside ends opens deeper closes ih =>
    obtain ⟨filled, bare⟩ := plain run inside
    obtain ⟨first, more, rfl⟩ := List.exists_cons_of_ne_nil filled
    exact ⟨first, _, rfl, bare first List.mem_cons_self⟩
  | last single ih => exact ih
  | @next line block first others ihFirst ihOthers =>
    obtain ⟨token, more, rfl, bare⟩ := ihFirst
    exact ⟨token, more ++ block, rfl, bare⟩

/-- A line ends with its end or with the closing of its block, and a block ends with its last
line. -/
theorem Forms.ends (forms : Forms content part tokens) :
    ∃ front final, tokens = front ++ [final] ∧
      (final.kind = eolKind ∨ final.kind = dedentKind) := by
  induction forms with
  | @plain run ending inside ends => exact ⟨run, ending, rfl, .inl ends⟩
  | @nested run block ending indent dedent inside ends opens deeper closes ih =>
    exact ⟨_, dedent, rfl, .inr closes⟩
  | last single ih => exact ih
  | @next line block first others ihFirst ihOthers =>
    obtain ⟨front, final, rfl, shape⟩ := ihOthers
    exact ⟨line ++ front, final, by simp, shape⟩

theorem adjoins_of_ending {previous token : Token} (ends : token.kind = eolKind) :
    Adjoins previous token := by
  constructor
  · intro opens
    exact absurd (ends.symm.trans opens) eol_ne_indent
  · intro closes
    exact absurd (ends.symm.trans closes) eol_ne_dedent

theorem adjoins_of_indent {previous token : Token} (ended : previous.kind = eolKind)
    (opens : token.kind = indentKind) : Adjoins previous token := by
  constructor
  · intro _
    exact ended
  · intro closes
    exact absurd (opens.symm.trans closes) indent_ne_dedent

theorem adjoins_of_dedent {previous token : Token}
    (ended : previous.kind = eolKind ∨ previous.kind = dedentKind)
    (closes : token.kind = dedentKind) : Adjoins previous token := by
  constructor
  · intro opens
    exact absurd (opens.symm.trans closes) indent_ne_dedent
  · intro _
    exact ended

theorem isChain_of_plain {run : List Token} (bare : ∀ token ∈ run, token.kind ∉ layoutKinds) :
    run.IsChain Adjoins := by
  induction run with
  | nil => exact .nil
  | cons token run ih =>
    have rest := ih fun token member => bare token (List.mem_cons_of_mem _ member)
    cases run with
    | nil => exact .singleton token
    | cons next run =>
      have plain := bare next (List.mem_cons_of_mem _ List.mem_cons_self)
      exact .cons_cons (adjoins_of_plain plain) rest

/-- Each token of a line or a block may come after the one before it. -/
theorem Forms.isChain (plain : PlainContent content) (forms : Forms content part tokens) :
    tokens.IsChain Adjoins := by
  induction forms with
  | @plain run ending inside ends =>
    obtain ⟨filled, bare⟩ := plain run inside
    refine (isChain_of_plain bare).append (.singleton ending) fun previous _ next head => ?_
    obtain rfl : ending = next := by simpa using head
    exact adjoins_of_ending ends
  | @nested run block ending indent dedent inside ends opens deeper closes ih =>
    obtain ⟨filled, bare⟩ := plain run inside
    obtain ⟨first, more, starts, firstPlain⟩ := deeper.starts plain
    obtain ⟨front, final, stops, shape⟩ := deeper.ends
    have enclosed : (block ++ [dedent]).IsChain Adjoins := by
      refine ih.append (.singleton dedent) fun previous tail next head => ?_
      obtain rfl : final = previous := by simpa [stops] using tail
      obtain rfl : dedent = next := by simpa using head
      exact adjoins_of_dedent shape closes
    have opened : (indent :: (block ++ [dedent])).IsChain Adjoins := by
      rw [starts] at enclosed ⊢
      exact .cons_cons (adjoins_of_plain firstPlain) enclosed
    have ended : (ending :: indent :: (block ++ [dedent])).IsChain Adjoins :=
      .cons_cons (adjoins_of_indent ends opens) opened
    rw [List.append_assoc]
    refine (isChain_of_plain bare).append ended fun previous _ next head => ?_
    obtain rfl : ending = next := by simpa using head
    exact adjoins_of_ending ends
  | last single ih => exact ih
  | @next line block first others ihFirst ihOthers =>
    obtain ⟨token, more, rfl, bare⟩ := others.starts plain
    refine ihFirst.append ihOthers fun previous _ next head => ?_
    obtain rfl : token = next := by simpa using head
    exact adjoins_of_plain bare

/-- As many levels are opened as closed, and none is closed that was not opened. -/
structure Balanced (tokens : List Token) : Prop where
  front : ∀ front, front <+: tokens → occurrences dedentKind front ≤ occurrences indentKind front
  whole : occurrences dedentKind tokens = occurrences indentKind tokens

theorem occurrences_append (kind : String) (tokens more : List Token) :
    occurrences kind (tokens ++ more) = occurrences kind tokens + occurrences kind more :=
  List.countP_append

theorem occurrences_cons (kind : String) (token : Token) (tokens : List Token) :
    occurrences kind (token :: tokens) =
      occurrences kind tokens + if token.kind = kind then 1 else 0 := by
  simp [occurrences, List.countP_cons]

namespace Balanced

/-- Tokens that neither open nor close a level. -/
theorem flat (neither : ∀ token ∈ tokens, token.Neutral) : Balanced tokens := by
  have none : ∀ front, front <+: tokens → occurrences dedentKind front = 0 ∧
      occurrences indentKind front = 0 := by
    intro front comes
    constructor
    · refine List.countP_eq_zero.2 fun token member => ?_
      simpa using (neither token (comes.subset member)).2
    · refine List.countP_eq_zero.2 fun token member => ?_
      simpa using (neither token (comes.subset member)).1
  constructor
  · intro front comes
    rw [(none front comes).1]
    exact Nat.zero_le _
  · rw [(none tokens (List.prefix_refl _)).1, (none tokens (List.prefix_refl _)).2]

theorem append {more : List Token} (first : Balanced tokens) (second : Balanced more) :
    Balanced (tokens ++ more) := by
  constructor
  · intro front comes
    rw [List.prefix_iff_eq_take.1 comes, List.take_append, occurrences_append,
      occurrences_append]
    have before := first.front _ (List.take_prefix front.length tokens)
    have after := second.front _ (List.take_prefix (front.length - tokens.length) more)
    omega
  · rw [occurrences_append, occurrences_append, first.whole, second.whole]

/-- A level that is opened before and closed after. -/
theorem enclose {indent dedent : Token} (opens : indent.kind = indentKind)
    (closes : dedent.kind = dedentKind) (inner : Balanced tokens) :
    Balanced (indent :: tokens ++ [dedent]) := by
  have differ := indent_ne_dedent
  have inside := inner.whole
  have whole : occurrences dedentKind (indent :: tokens ++ [dedent]) =
      occurrences indentKind (indent :: tokens ++ [dedent]) := by
    simp only [List.cons_append, occurrences_cons, occurrences_append, opens, closes, differ,
      differ.symm, if_true, if_false]
    simp only [occurrences, List.countP_nil]
    simp only [occurrences] at inside
    omega
  constructor
  · intro front comes
    rcases List.prefix_concat_iff.1 comes with rfl | comes
    · exact whole.le
    · cases front with
      | nil => exact Nat.le_refl 0
      | cons token front =>
        obtain ⟨rfl, within⟩ := List.cons_prefix_cons.1 comes
        have before := inner.front front within
        simp only [occurrences_cons, opens, differ, if_true, if_false]
        omega
  · exact whole

end Balanced

/-- Lines and blocks close what they open. -/
theorem Forms.balanced (plain : PlainContent content) (forms : Forms content part tokens) :
    Balanced tokens := by
  have flat : ∀ {run : List Token} {ending : Token}, content run → ending.kind = eolKind →
      Balanced (run ++ [ending]) := by
    intro run ending inside ends
    refine .flat fun token member => ?_
    rcases List.mem_append.1 member with within | final
    · have bare := (plain run inside).2 token within
      constructor
      · intro opens
        simp [layoutKinds, opens] at bare
      · intro closes
        simp [layoutKinds, closes] at bare
    · obtain rfl := List.mem_singleton.1 final
      exact Token.neutral_of_eol ends
  induction forms with
  | plain inside ends => exact flat inside ends
  | @nested run block ending indent dedent inside ends opens deeper closes ih =>
    have regroup : run ++ ending :: indent :: block ++ [dedent] =
        (run ++ [ending]) ++ (indent :: block ++ [dedent]) := by simp
    rw [regroup]
    exact (flat inside ends).append (.enclose opens closes ih)
  | last single ih => exact ih
  | next first others ihFirst ihOthers => exact ihFirst.append ihOthers

/-- A block is well nested. -/
theorem Forms.wellNested (plain : PlainContent content) (forms : Forms content part tokens) :
    WellNested tokens := by
  have chain := forms.isChain plain
  obtain ⟨first, more, starts, bare⟩ := forms.starts plain
  have preceded : ∀ before token after, tokens = before ++ token :: after →
      token.kind ∈ layoutKinds → ∃ earlier previous, before = earlier ++ [previous] ∧
        Adjoins previous token := by
    intro before token after split carries
    rcases List.eq_nil_or_concat before with rfl | ⟨earlier, previous, rfl⟩
    · obtain ⟨rfl, -⟩ := List.cons.inj (starts.symm.trans split)
      exact absurd carries bare
    · rw [List.concat_eq_append] at split ⊢
      rw [split, List.append_assoc, List.singleton_append] at chain
      exact ⟨earlier, previous, rfl, (List.isChain_append_cons_cons.1 chain).2.1⟩
  constructor
  · intro before indent after split opens
    obtain ⟨earlier, ending, rfl, adjoins⟩ := preceded before indent after split (by
      simp [layoutKinds, opens])
    exact ⟨earlier, ending, rfl, adjoins.1 opens⟩
  · intro before dedent after split closes
    obtain ⟨earlier, previous, rfl, adjoins⟩ := preceded before dedent after split (by
      simp [layoutKinds, closes])
    exact ⟨earlier, previous, rfl, adjoins.2 closes⟩
  · exact (forms.balanced plain).front
  · exact (forms.balanced plain).whole

theorem wellNested_nil : WellNested [] := by
  constructor
  · intro before indent after split
    simp at split
  · intro before dedent after split
    simp at split
  · intro front comes
    rw [List.prefix_nil.1 comes]
    exact Nat.le_refl 0
  · rfl

end

/-- What a layout delivers of a text without a fault is a block or nothing at all. Lines contribute
their content, which no token of the layout is taken for. -/
theorem Layout.nested_of_read {δ μ : Type} [Ord δ] [Std.TransOrd δ] [DecidableEq δ] [DecidableEq μ]
    (L : Layout δ μ) (S : Source) (elsewhere : Cursor δ μ S.State) (text : String)
    (faithful : L.build.KeepsKind) (ignoring : L.blank = .ignore)
    (plain : ∀ token ∈ (S.readFrom elsewhere.base text).tokens, token.kind ∉ layoutKinds)
    (finished : ((L.source S).readFrom elsewhere text).fault = none) :
    let raw := (S.readFrom elsewhere.base text).tokens
    let tokens := ((L.source S).readFrom elsewhere text).tokens
    (tokens = [] ∨ Forms (L.IsContent raw) .block tokens) ∧ WellNested tokens := by
  intro raw tokens
  obtain ⟨delivered, ended⟩ := L.read_eq_observed S elsewhere text
  rw [finished] at ended
  have remains : Remains (L.IsContent raw) ([] : List (Level δ)) tokens := by
    rw [← ended] at delivered
    rw [show tokens = _ from delivered]
    exact Remains.of_compose faithful ignoring .nil (fun words => content_of_observed)
      (Prod.ext rfl ended.symm)
  have plainContent : PlainContent (L.IsContent raw) := by
    intro run inside
    obtain ⟨first, more, rfl, -⟩ := inside.starts
    refine ⟨List.cons_ne_nil first more, fun token member => ?_⟩
    exact plain token (inside.within.subset member)
  rcases Ends.whole remains with none | block
  · rw [none]
    exact ⟨.inl rfl, wellNested_nil⟩
  · exact ⟨.inr block, block.wellNested plainContent⟩

/-- A line and a deeper one, which is a block inside the first. -/
theorem Layout.nested_of_read_two_lines :
    let L := Layout.standard
    let raw : List Token :=
      [⟨"WORD", "a", {}⟩, ⟨"NL", "\n", {}⟩, ⟨"WS", "  ", {}⟩, ⟨"WORD", "b", {}⟩]
    let reading := (L.source (.scripted (raw.map some) [])).read ""
    (∀ token ∈ raw, token.kind ∉ layoutKinds) ∧ reading.fault = none ∧ reading.tokens ≠ [] ∧
      Forms (L.IsContent raw) .block reading.tokens ∧ WellNested reading.tokens := by
  intro L raw reading
  let S : Source := .scripted (raw.map some) []
  obtain ⟨given, whole⟩ : (S.readFrom S.start "").tokens = raw ∧
      (S.readFrom S.start "").fault = none := Source.readFrom_scripted raw [] 0 ""
  obtain ⟨delivered, ended⟩ := L.read_eq_observed S ⟨L.fresh, S.start⟩ ""
  simp only [given, whole] at delivered ended
  have plain : ∀ token ∈ raw, token.kind ∉ layoutKinds := by decide
  have finished : reading.fault = none := ended.trans (by decide)
  have filled : reading.tokens ≠ [] := by
    rw [show reading.tokens = _ from delivered]
    decide
  obtain ⟨block, nested⟩ := L.nested_of_read S ⟨L.fresh, S.start⟩ "" (fun _ _ _ => rfl) rfl
    (by simpa only [given] using plain) finished
  simp only [given] at block
  exact ⟨plain, finished, filled, block.resolve_left filled, nested⟩

end Offside
