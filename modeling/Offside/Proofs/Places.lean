import Mathlib
import Offside.Proofs.EndOfText
import Offside.Proofs.Output

/-! Places. A token that a layout makes stands where its base stands, and its base is a raw token
that has been pulled: the line break or the first ordinary token of a line, or the last raw token at
the end of the text. `Placed` says where such tokens come up among the raw ones. So the places of
what a layout delivers go forward where those of its raw tokens do. What it pulls in a session is
what the source beneath delivers in one, and so this holds of a stack of layouts as well. -/
namespace Offside

variable {δ μ : Type}

/-- Gives the tokens that it makes the place of their base. -/
def Builder.Borrows (build : Builder) : Prop :=
  ∀ kind text base, (build kind text base).span = base.span

theorem Builder.borrows_borrow : borrow.Borrows := fun _ _ _ => rfl

theorem Builder.borrows_upper : upper.Borrows := fun _ _ _ => rfl

/-- Does not start after another token. -/
def Token.NotAfter (token other : Token) : Prop :=
  ∀ start ∈ token.span.start, ∀ latest ∈ other.span.start, start ≤ latest

theorem Token.notAfter_of_span {token other : Token} (same : token.span = other.span) :
    token.NotAfter other := by
  intro start first latest second
  rw [same] at first
  exact (Option.some.inj (first.symm.trans second)).le

theorem Token.NotAfter.of_span {token origin other : Token} (notAfter : origin.NotAfter other)
    (same : token.span = origin.span) : token.NotAfter other := by
  intro start first
  rw [same] at first
  exact notAfter start first

/-- Every token has a start, and none starts before one that comes before it. -/
structure InOrder (tokens : List Token) : Prop where
  placed : ∀ token ∈ tokens, token.span.start ≠ none
  forward : tokens.Pairwise Token.NotAfter

/-- Stand on raw tokens, and go forward if these do. -/
structure StandsOn (raw tokens : List Token) : Prop where
  stands : ∀ token ∈ tokens, ∃ origin ∈ raw, token.span = origin.span
  forward : InOrder raw → InOrder tokens

section

variable {tokens more raw : List Token} {base : Token}

theorem InOrder.sublist (ordered : InOrder tokens) (part : more.Sublist tokens) : InOrder more :=
  ⟨fun token member => ordered.placed token (part.subset member), ordered.forward.sublist part⟩

/-- Tokens that stand on a base may follow where no token starts after it. -/
theorem InOrder.append (ordered : InOrder tokens) (placed : base.span.start ≠ none)
    (reached : ∀ token ∈ tokens, token.NotAfter base)
    (stands : ∀ token ∈ more, token.span = base.span) : InOrder (tokens ++ more) := by
  constructor
  · intro token member
    rcases List.mem_append.1 member with before | after
    · exact ordered.placed token before
    · rw [stands token after]
      exact placed
  · refine List.pairwise_append.2 ⟨ordered.forward, ?_, ?_⟩
    · apply List.pairwise_of_forall_mem_list
      intro one first other second
      exact Token.notAfter_of_span ((stands one first).trans (stands other second).symm)
    · intro token before made after start first latest second
      rw [stands made after] at second
      exact reached token before start first latest second

/-- The last of tokens that go forward starts no earlier than any of them. -/
theorem InOrder.notAfter_last (ordered : InOrder (raw ++ [base])) {token : Token}
    (member : token ∈ raw ++ [base]) : token.NotAfter base := by
  rcases List.mem_append.1 member with before | last
  · exact (List.pairwise_append.1 ordered.forward).2.2 token before base List.mem_cons_self
  · rw [List.mem_singleton.1 last]
    exact Token.notAfter_of_span rfl

namespace StandsOn

/-- With a further raw token, tokens that stand on it may follow. -/
theorem grow (standing : StandsOn raw tokens) (here : ∀ token ∈ more, token.span = base.span) :
    StandsOn (raw ++ [base]) (tokens ++ more) := by
  constructor
  · intro token member
    rcases List.mem_append.1 member with before | new
    · obtain ⟨origin, known, same⟩ := standing.stands token before
      exact ⟨origin, List.mem_append_left _ known, same⟩
    · exact ⟨base, by simp, here token new⟩
  · intro given
    have before := standing.forward (given.sublist (List.sublist_append_left _ _))
    refine before.append (given.placed base (by simp)) (fun token member => ?_) here
    obtain ⟨origin, known, same⟩ := standing.stands token member
    exact (given.notAfter_last (List.mem_append_left _ known)).of_span same

/-- In the end tokens that stand on the last raw token may follow, and if there is none, others. -/
theorem close (standing : StandsOn raw tokens) {fallback : Token}
    (placed : fallback.span.start ≠ none)
    (last : ∀ token ∈ more, token.span = (raw.getLast?.getD fallback).span) (given : InOrder raw) :
    InOrder (tokens ++ more) := by
  rcases raw.eq_nil_or_concat' with rfl | ⟨before, base, rfl⟩
  · refine (standing.forward given).append placed (fun token member => ?_) last
    obtain ⟨_, known, _⟩ := standing.stands token member
    exact absurd known List.not_mem_nil
  · rw [List.getLast?_concat, Option.getD_some] at last
    refine (standing.forward given).append (given.placed base (by simp)) (fun token member => ?_)
      last
    obtain ⟨origin, known, same⟩ := standing.stands token member
    exact (given.notAfter_last known).of_span same

end StandsOn

end

namespace Layout

variable {L : Layout δ μ} {own : Option Builder}

/-- Its builder borrows places, and blank lines contribute nothing, or the end of a line that this
builder makes or one of the rule's own, which borrows places too. -/
structure BuildsInPlace (L : Layout δ μ) (own : Option Builder) : Prop where
  build : L.build.Borrows
  given : ∀ build ∈ own, build.Borrows
  blank : L.blank = .ignore ∨ L.blank = .eol own

/-- Is a token of the layout that was built on a base, and stands where that stands. -/
structure BuiltOn (L : Layout δ μ) (own : Option Builder) (base made : Token) : Prop where
  built : ∃ build ∈ L.build :: own.toList, ∃ kind ∈ layoutKinds, ∃ text,
    made = build kind text base
  stands : made.span = base.span

/-- What raw tokens come to. The first ordinary token of a line may come after tokens that are built
on it, and such tokens may stand for a line break. The indentation of a line is dropped, and every
other raw token is passed on as it is. -/
inductive Placed (L : Layout δ μ) (own : Option Builder) : Words → List Token → Prop where
  | nothing : Placed L own [] []
  | indents {words : Words} {tokens : List Token} {token : Token}
      (placed : Placed L own words tokens) (blank : words.current.body = []) :
      Placed L own (words ++ [(token, .indentation)]) tokens
  | begins {words : Words} {tokens made : List Token} {token : Token}
      (placed : Placed L own words tokens) (blank : words.current.body = [])
      (built : ∀ opening ∈ made, L.BuiltOn own token opening) :
      Placed L own (words ++ [(token, .ordinary)]) (tokens ++ (made ++ [token]))
  | passes {words : Words} {tokens : List Token} {token : Token} {role : Role}
      (placed : Placed L own words tokens) (content : words.current.body ≠ [])
      (other : role ≠ .lineBreak) : Placed L own (words ++ [(token, role)]) (tokens ++ [token])
  | ends {words : Words} {tokens made : List Token} {token : Token}
      (placed : Placed L own words tokens) (built : ∀ ending ∈ made, L.BuiltOn own token ending) :
      Placed L own (words ++ [(token, .lineBreak)]) (tokens ++ made)

theorem BuildsInPlace.builtOn (inPlace : L.BuildsInPlace own) {kind : String}
    (layout : kind ∈ layoutKinds) (text : String) (base : Token) :
    L.BuiltOn own base (L.build kind text base) :=
  ⟨⟨L.build, List.mem_cons_self, kind, layout, text, rfl⟩, inPlace.build kind text base⟩

/-- What a blank line contributes is built on its line break, or else on the last raw token. -/
theorem BuildsInPlace.builtOn_blank (inPlace : L.BuildsInPlace own) {last : Token}
    {breaker : Option Token} {made : Token}
    (contributed : made ∈ L.blank L.build (some last) breaker) :
    L.BuiltOn own (breaker.getD last) made := by
  obtain ignored | ends := inPlace.blank
  · rw [ignored] at contributed
    exact absurd contributed List.not_mem_nil
  · have known : own.getD L.build ∈ L.build :: own.toList := by cases own <;> simp
    have borrowed : (own.getD L.build).Borrows := by
      cases own with
      | none => exact inPlace.build
      | some build => exact inPlace.given build rfl
    rw [ends] at contributed
    cases breaker with
    | none =>
      obtain rfl := List.mem_singleton.1 contributed
      exact ⟨⟨_, known, eolKind, by simp [layoutKinds], _, rfl⟩, borrowed _ _ _⟩
    | some token =>
      obtain rfl := List.mem_singleton.1 contributed
      exact ⟨⟨_, known, eolKind, by simp [layoutKinds], _, rfl⟩, borrowed _ _ _⟩

variable {words : Words} {tokens : List Token}

/-- All that raw tokens come to stands on them, and goes forward as they do. -/
theorem Placed.standsOn (placed : L.Placed own words tokens) :
    StandsOn (words.map (·.1)) tokens := by
  induction placed with
  | nothing => exact ⟨by simp, id⟩
  | @indents words tokens token placed blank ih =>
    rw [List.map_append, ← List.append_nil tokens]
    exact ih.grow (by simp)
  | begins placed blank built ih =>
    rw [List.map_append]
    apply ih.grow
    intro token member
    rcases List.mem_append.1 member with opening | same
    · exact (built token opening).stands
    · rw [List.mem_singleton.1 same]
  | passes placed content other ih =>
    rw [List.map_append]
    exact ih.grow (by simp)
  | ends placed built ih =>
    rw [List.map_append]
    exact ih.grow fun token ending => (built token ending).stands

end Layout

namespace Progress

variable {L : Layout δ μ} {own : Option Builder} {p later : Progress δ μ} {words : Words}
  {events : List Event}

/-- A run over raw tokens gets ready what they come to. -/
theorem Takes.placed [Ord δ] (inPlace : L.BuildsInPlace own)
    (takes : Takes L L.fresh words later) :
    L.Placed own words later.queue := by
  induction takes with
  | nothing => exact .nothing
  | more takes classified taken ih =>
    have reads := takes.reads
    have unfinished := takes.unfinished nofun
    cases taken with
    | indents start => exact .indents ih (reads.start start)
    | endsBlank start told => exact .ends ih fun made => inPlace.builtOn_blank
    | begins start told settled built =>
      rw [List.append_assoc]
      refine .begins ih (reads.start start) fun opening member => ?_
      obtain ⟨kind, layout, rfl⟩ := built opening member
      exact inPlace.builtOn layout _ _
    | passes inside =>
      exact .passes ih (reads.inside (body_of_inside unfinished inside)) nofun
    | ends inside =>
      exact .ends ih (List.forall_mem_singleton.2 (inPlace.builtOn (by simp [layoutKinds]) _ _))
    | continues inside =>
      exact .passes ih (reads.inside (body_of_inside unfinished inside)) nofun

/-- What the end of the text gets ready is built on the last raw token. -/
theorem Ended.placed (inPlace : L.BuildsInPlace own) (ended : Ended L p events later) :
    ∃ closing, later.queue = p.queue ++ closing ∧
      ∀ made ∈ closing, L.BuiltOn own (p.last.getD L.fallback) made := by
  refine ⟨_, ended.queue_eq.trans (List.append_assoc ..), fun made member => ?_⟩
  rcases List.mem_append.1 member with ending | closing
  · split at ending
    · rw [List.mem_singleton.1 ending]
      exact inPlace.builtOn (by simp [layoutKinds]) _ _
    · have built := inPlace.builtOn_blank ending
      exact built
  · obtain ⟨level, _, rfl⟩ := List.mem_map.1 closing
    exact inPlace.builtOn (by simp [layoutKinds]) _ _

/-- What raw tokens come to, with the end of the text or without it. -/
theorem Lays.placed [Ord δ] (inPlace : L.BuildsInPlace own) (lays : Lays L L.fresh words later) :
    ∃ tokens closing, later.queue = tokens ++ closing ∧ L.Placed own words tokens ∧
      (∀ made ∈ closing, L.BuiltOn own ((words.map (·.1)).getLast?.getD L.fallback) made) ∧
      (later.phase ≠ .finished → closing = []) := by
  cases lays with
  | midway takes =>
    exact ⟨later.queue, [], (List.append_nil _).symm, takes.placed inPlace, by simp, fun _ => rfl⟩
  | @ended mid _ _ takes ended =>
    obtain ⟨closing, queued, built⟩ := ended.placed inPlace
    rw [takes.last] at built
    exact ⟨mid.queue, closing, queued, takes.placed inPlace, built, absurd ended.finished⟩

end Progress

namespace Source

/-- The states that a source reaches on a text, each with the answers that it gave on the way there
since it was put on the text. Going back to a snapshot takes back what came after it. -/
inductive Session (S : Source) (text : String) : List (Option Token) → S.State → Prop where
  | restarted {elsewhere : S.State} (accepted : (S.reset elsewhere text none).1.outcome = .ok ()) :
      Session S text [] (S.reset elsewhere text none).2
  | asked {answers : List (Option Token)} {state : S.State} {answer : Option Token}
      (session : Session S text answers state)
      (answered : (S.next state).1.outcome = .ok answer) :
      Session S text (answers ++ [answer]) (S.next state).2
  | resumed {answers : List (Option Token)} {earlier elsewhere : S.State}
      (session : Session S text answers earlier)
      (accepted : (S.reset elsewhere text (some (S.save earlier))).1.outcome = .ok ()) :
      Session S text answers (S.reset elsewhere text (some (S.save earlier))).2

/-- What it delivers of a text goes forward in every session. -/
def Forward (S : Source) (text : String) : Prop :=
  ∀ answers state, S.Session text answers state → InOrder answers.reduceOption

variable {S : Source} {text : String}

/-- A session goes on with any calls that are answered. -/
theorem Session.answered {before answers : List (Option Token)} {state last : S.State}
    (session : S.Session text before state) (answered : S.Answered state answers last) :
    S.Session text (before ++ answers) last := by
  induction answers generalizing before state with
  | nil =>
    obtain ⟨notes, taken⟩ := answered
    cases taken
    simpa using session
  | cons answer answers ih =>
    obtain ⟨first, rest⟩ := answered.uncons
    have next := ih (.asked session first) rest
    rwa [List.append_assoc] at next

/-- A source of given tokens answers with the one at its position and goes on to the next. -/
theorem answer_scripted {entries : List (Option Token)} {names : List String} {position : Nat}
    {answer : Option Token}
    (answered : ((scripted entries names).next position).1.outcome = .ok answer) :
    (entries.take ((scripted entries names).next position).2).reduceOption =
      (entries.take position).reduceOption ++ [answer].reduceOption := by
  simp only [scripted] at answered ⊢
  split at answered
  case h_1 none =>
    cases answered
    exact (List.append_nil _).symm
  case h_2 entry found =>
    cases answered
    rw [List.take_add_one, found, List.reduceOption_append]
    rfl

/-- Given tokens that go forward do so whatever is asked of their source. -/
theorem forward_scripted (entries : List (Option Token)) (names : List String) (text : String)
    (ordered : InOrder entries.reduceOption) : (scripted entries names).Forward text := by
  intro answers state session
  suffices answers.reduceOption = (entries.take state).reduceOption by
    rw [this]
    exact ordered.sublist ((List.take_sublist state entries).filterMap _)
  induction session with
  | restarted accepted => rfl
  | @asked answers position answer session answered ih =>
    rw [List.reduceOption_append, ih]
    exact (answer_scripted answered).symm
  | resumed session accepted ih => exact ih

end Source

namespace Layout

variable [Ord δ] [DecidableEq δ] [DecidableEq μ] {L : Layout δ μ} {S : Source} {text : String}

/-- What a layout pulls in a session is what the source beneath delivers in one. -/
theorem session_beneath {answers : List (Option Token)} {state : (L.source S).State}
    (session : (L.source S).Session text answers state) :
    ∃ beneath, S.Session text beneath state.base ∧
      L.Session S text answers beneath.reduceOption state := by
  induction session with
  | @restarted elsewhere accepted =>
    have below := reset_accepted.1 accepted
    have back : ((L.source S).reset elsewhere text none).2.base = _ :=
      congrArg Cursor.base (reset_back (L := L) below)
    rw [back]
    exact ⟨[], .restarted below, .restarted accepted⟩
  | @asked answers state answer session answered ih =>
    obtain ⟨beneath, below, above⟩ := ih
    have next := Layout.Session.asked above answered
    obtain ⟨words, delivery⟩ := delivery_of_next answered
    rw [delivery.pulledBy_eq] at next
    -- only a refill asks the source beneath, which answers with what is supplied
    suffices ∃ supplied : List (Option Token), supplied.reduceOption = words.map (·.1) ∧
        S.Answered state.base supplied (L.next S state).2.base by
      obtain ⟨supplied, same, answers⟩ := this
      refine ⟨beneath ++ supplied, below.answered answers, ?_⟩
      rw [List.reduceOption_append, same]
      exact next
    clear next
    generalize questions (L.next S state).1.notes = events at delivery
    generalize (L.next S state).2 = later at delivery
    cases delivery with
    | ready queued => exact ⟨[], rfl, .nothing _⟩
    | exhausted empty finished => exact ⟨[], rfl, .nothing _⟩
    | filled empty unfinished refills supplied =>
      exact ⟨_, Progress.reduceOption_supply _ _, supplied⟩
  | @resumed answers earlier elsewhere session accepted ih =>
    obtain ⟨beneath, below, above⟩ := ih
    have accepts := reset_accepted.1 accepted
    have back : ((L.source S).reset elsewhere text
        (some ((L.source S).save earlier))).2.base = _ :=
      congrArg Cursor.base (reset_back (L := L) accepts)
    rw [back]
    exact ⟨beneath, .resumed below accepts, .resumed above accepted⟩

/-- What a layout has delivered and has ready, as it comes of the raw tokens that it pulled. -/
theorem placed_of_session {own : Option Builder} (inPlace : L.BuildsInPlace own)
    {answers : List (Option Token)} {raw : List Token} {state : (L.source S).State}
    (session : L.Session S text answers raw state) :
    ∃ words tokens closing, words.map (·.1) = raw ∧
      (∀ word ∈ words, L.classify word.1 = .ok word.2) ∧ L.Placed own words tokens ∧
      answers.reduceOption ++ state.progress.queue = tokens ++ closing ∧
      (∀ made ∈ closing, L.BuiltOn own (raw.getLast?.getD L.fallback) made) ∧
      (state.progress.phase ≠ .finished → closing = []) := by
  obtain ⟨words, rfl, lays⟩ := session.lays
  obtain ⟨tokens, closing, queued, placed, built, ended⟩ := lays.placed inPlace
  exact ⟨words, tokens, closing, rfl, lays.classified, placed, queued, built, ended⟩

/-- What is delivered and ready goes forward as the raw tokens do. -/
theorem inOrder_of_session {own : Option Builder} (inPlace : L.BuildsInPlace own)
    (based : L.fallback.span.start ≠ none) {answers : List (Option Token)} {raw : List Token}
    {state : (L.source S).State} (session : L.Session S text answers raw state)
    (given : InOrder raw) : InOrder (answers.reduceOption ++ state.progress.queue) := by
  obtain ⟨words, tokens, closing, rfl, -, placed, queued, built, -⟩ :=
    placed_of_session inPlace session
  rw [queued]
  exact placed.standsOn.close based (fun made member => (built made member).stands) given

/-- A layout whose tokens borrow their places delivers tokens that go forward if the source beneath
does. -/
theorem forward_source {own : Option Builder} (inPlace : L.BuildsInPlace own)
    (based : L.fallback.span.start ≠ none) (beneath : S.Forward text) :
    (L.source S).Forward text := by
  intro answers state session
  obtain ⟨supplied, below, session⟩ := session_beneath session
  have whole := inOrder_of_session inPlace based session (beneath supplied state.base below)
  exact whole.sublist (List.sublist_append_left _ _)

end Layout

/-- A source with any number of layouts on top of each other, all of which borrow places. -/
inductive Above (B : Source) : Source → Prop where
  | bottom : Above B B
  | layout {δ μ : Type} [Ord δ] [DecidableEq δ] [DecidableEq μ] {L : Layout δ μ}
      {own : Option Builder} (inPlace : L.BuildsInPlace own) (based : L.fallback.span.start ≠ none)
      {S : Source} (above : Above B S) : Above B (L.source S)

theorem Above.forward {B S : Source} {text : String} (above : Above B S)
    (bottom : B.Forward text) : S.Forward text := by
  induction above with
  | bottom => exact bottom
  | layout inPlace based above ih => exact Layout.forward_source inPlace based ih

/-- In every session of a layout that builds in place, each token that it made was built on one raw
token that it had pulled, the line break or the first ordinary token of a line, and after the end of
the text on the last raw token, or the fallback if there is none; and it stands there. What the
layout has delivered and has ready goes forward if its raw tokens do. So on top of any number of
such layouts it delivers tokens that go forward if those of the source at the bottom do. -/
theorem Above.places [Ord δ] [DecidableEq δ] [DecidableEq μ] {B S : Source} (above : Above B S)
    {L : Layout δ μ} {own : Option Builder} (inPlace : L.BuildsInPlace own)
    (based : L.fallback.span.start ≠ none) (text : String) :
    (∀ answers raw state, L.Session S text answers raw state →
      let now := ((L.source S).save state).progress
      ∃ words tokens closing, words.map (·.1) = raw ∧
        (∀ word ∈ words, L.classify word.1 = .ok word.2) ∧ L.Placed own words tokens ∧
        answers.reduceOption ++ now.queue = tokens ++ closing ∧
        (∀ made ∈ closing, L.BuiltOn own (raw.getLast?.getD L.fallback) made) ∧
        (now.phase ≠ .finished → closing = []) ∧
        (InOrder raw → InOrder (answers.reduceOption ++ now.queue))) ∧
      (B.Forward text → (L.source S).Forward text) := by
  constructor
  · intro answers raw state session now
    obtain ⟨words, tokens, closing, known, classified, placed, queued, built, ended⟩ :=
      Layout.placed_of_session inPlace session
    exact ⟨words, tokens, closing, known, classified, placed, queued, built, ended,
      Layout.inOrder_of_session inPlace based session⟩
  · intro bottom
    exact Layout.forward_source inPlace based (above.forward bottom)

/-- A line and a deeper one, with their places. The end of the first line stands at its line break
and what opens the second at its word, and the four tokens go forward. So do those that a second
layout makes of them, which builds tokens for a grammar and ends blank lines. -/
theorem Above.places_second_line :
    let L : Layout Int Memory := .standard
    let M : Layout Int Memory := { L with build := .upper, blank := .eol none }
    let a : Token := ⟨"WORD", "a", { start := some 0 }⟩
    let nl : Token := ⟨"NL", "\n", { start := some 1 }⟩
    let deep : Token := ⟨"WS", "  ", { start := some 2 }⟩
    let b : Token := ⟨"WORD", "b", { start := some 4 }⟩
    let raw := [a, nl, deep, b]
    let B : Source := .scripted (raw.map some) []
    let S := L.source B
    let state := (S.next (S.next (S.reset S.start "" none).2).2).2
    L.Session B "" [some a, some ⟨eolKind, "\n", nl.span⟩] raw state ∧
      InOrder [a, ⟨eolKind, "\n", nl.span⟩, ⟨indentKind, "  ", b.span⟩, b] ∧
      (M.source S).Forward "" := by
  intro L M a nl deep b raw B S state
  let first := (S.reset S.start "" none).2
  have one : L.pulledBy B first = [a] := by cbv
  have two : L.pulledBy B (S.next first).2 = [nl, deep, b] := by cbv
  have answerOne : (S.next first).1.outcome = .ok (some a) := by cbv
  have answerTwo : (S.next (S.next first).2).1.outcome = .ok (some ⟨eolKind, "\n", nl.span⟩) := by
    cbv
  have queue : (S.next (S.next first).2).2.progress.queue = [⟨indentKind, "  ", b.span⟩, b] := by
    cbv
  have session := Layout.Session.asked (.asked (.restarted rfl) answerOne) answerTwo
  rw [one, two] at session
  have given : InOrder raw := ⟨by decide, by simp [raw, a, nl, deep, b, Token.NotAfter]⟩
  have lower : L.BuildsInPlace none := ⟨Builder.borrows_borrow, by simp, .inl rfl⟩
  have upper : M.BuildsInPlace none := ⟨Builder.borrows_upper, by simp, .inr rfl⟩
  have bottom : B.Forward "" := Source.forward_scripted (raw.map some) [] "" given
  obtain ⟨standing, -⟩ := places .bottom lower (by decide) (S := B) ""
  obtain ⟨_, _, _, -, -, -, -, -, -, forward⟩ := standing _ _ _ session
  obtain ⟨-, whole⟩ := places (.layout lower (by decide) .bottom) upper (by decide) (S := S) ""
  have ordered : InOrder ([a, ⟨eolKind, "\n", nl.span⟩] ++
      (S.next (S.next first).2).2.progress.queue) := forward given
  rw [queue] at ordered
  exact ⟨session, ordered, whole bottom⟩

end Offside
