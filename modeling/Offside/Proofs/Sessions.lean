import Mathlib
import Offside.Proofs.Refills

/-! Sessions. In a session a layout is put on a text, asked for tokens, and taken back to snapshots
of its own; what counts is the way to where it stands, without what going back undid. Between two
answers it stands in one of three ways: before the first answer nothing is laid out; within a line
the last raw token is an ordinary one, and the innermost level is as deep as the line; and after the
end of the text no level is left to be closed. -/
namespace Offside

variable {δ μ : Type}

section

variable [Ord δ] [DecidableEq δ] [DecidableEq μ]

/-- The states that a layout reaches on a text, each with the answers that it gave on the way there
since it was put on the text, and with the raw tokens that it pulled for them. Going back to a
snapshot takes back what came after it. -/
inductive Layout.Session (L : Layout δ μ) (S : Source) (text : String) :
    List (Option Token) → List Token → (L.source S).State → Prop where
  | restarted {elsewhere : (L.source S).State}
      (accepted : ((L.source S).reset elsewhere text none).1.outcome = .ok ()) :
      Session L S text [] [] ((L.source S).reset elsewhere text none).2
  | asked {answers : List (Option Token)} {raw : List Token} {state : (L.source S).State}
      {answer : Option Token} (session : Session L S text answers raw state)
      (answered : ((L.source S).next state).1.outcome = .ok answer) :
      Session L S text (answers ++ [answer]) (raw ++ L.pulledBy S state)
        ((L.source S).next state).2
  | resumed {answers : List (Option Token)} {raw : List Token}
      {earlier elsewhere : (L.source S).State} (session : Session L S text answers raw earlier)
      (accepted : ((L.source S).reset elsewhere text
        (some ((L.source S).save earlier))).1.outcome = .ok ()) :
      Session L S text answers raw
        ((L.source S).reset elsewhere text (some ((L.source S).save earlier))).2

namespace Layout

variable {L : Layout δ μ} {S : Source} {text : String}

/-- Sessions lead to the states that are reached, and to all of them. -/
theorem reached_iff_session {state : (L.source S).State} :
    (L.source S).Reached text state ↔ ∃ answers raw, L.Session S text answers raw state := by
  constructor
  · intro reached
    induction reached with
    | restarted accepted => exact ⟨_, _, .restarted accepted⟩
    | asked reached answered ih =>
      obtain ⟨answers, raw, session⟩ := ih
      exact ⟨_, _, .asked session answered⟩
    | resumed reached accepted ih =>
      obtain ⟨answers, raw, session⟩ := ih
      exact ⟨_, _, .resumed session accepted⟩
  · rintro ⟨answers, raw, session⟩
    induction session with
    | restarted accepted => exact .restarted accepted
    | asked session answered ih => exact .asked ih answered
    | resumed session accepted ih => exact .resumed ih accepted

/-- What holds before the first answer, and goes on to hold when a token is delivered that is ready,
when the text has ended, and after each refill, holds after every session. -/
theorem Session.preserves {Holds : Progress δ μ → List (Option Token) → Words → Prop}
    (fresh : Holds L.fresh [] [])
    (ready : ∀ p answers words token queue, Holds p answers words → p.queue = token :: queue →
      Holds { p with queue } (answers ++ [some token]) words)
    (exhausted : ∀ p answers words, Holds p answers words → p.queue = [] → p.phase = .finished →
      Holds p (answers ++ [none]) words)
    (filled : ∀ p answers words more events later, Holds p answers words → p.queue = [] →
      p.phase ≠ .finished → p.Refills L more events later →
      Holds { later with queue := later.queue.tail } (answers ++ [later.queue.head?])
        (words ++ more))
    {answers : List (Option Token)} {raw : List Token} {state : (L.source S).State}
    (session : L.Session S text answers raw state) :
    ∃ words : Words, raw = words.map (·.1) ∧ (∀ word ∈ words, L.classify word.1 = .ok word.2) ∧
      Holds state.progress answers words := by
  induction session with
  | @restarted elsewhere accepted =>
    have back := congrArg Cursor.progress (reset_back (L := L) (reset_accepted.1 accepted))
    have same : ((L.source S).reset elsewhere text none).2.progress = L.fresh := back
    rw [same]
    exact ⟨[], rfl, by simp, fresh⟩
  | @asked answers raw state answer session answered ih =>
    obtain ⟨words, rfl, classified, holds⟩ := ih
    obtain ⟨more, delivery⟩ := delivery_of_next answered
    rw [delivery.pulledBy_eq]
    show ∃ _, _ ∧ _ ∧ Holds (L.next S state).2.progress _ _
    generalize questions (L.next S state).1.notes = events at delivery
    generalize (L.next S state).2 = later at delivery
    cases delivery with
    | ready queued =>
      exact ⟨words, by simp, classified, ready _ _ _ _ _ holds queued⟩
    | exhausted empty finished =>
      exact ⟨words, by simp, classified, exhausted _ _ _ holds empty finished⟩
    | filled empty unfinished refills supplied =>
      refine ⟨words ++ more, List.map_append.symm, ?_,
        filled _ _ _ _ _ _ holds empty unfinished refills⟩
      exact List.forall_mem_append.2 ⟨classified, refills.classified⟩
  | @resumed answers raw earlier elsewhere session accepted ih =>
    -- going back restores what was laid out, wherever it leaves the source beneath
    have back := congrArg Cursor.progress (reset_back (L := L) (reset_accepted.1 accepted))
    have same : ((L.source S).reset elsewhere text
        (some ((L.source S).save earlier))).2.progress = earlier.progress := back
    rw [same]
    exact ih

end Layout

end

/-- The innermost open level is as deep as a line of the given depth. -/
def Lands [Ord δ] (levels : List (Level δ)) (depth : δ) : Prop :=
  ∃ top outside, levels = top :: outside ∧ compare top.depth depth = .eq

/-- The levels that are open in a line are as deep as it. -/
theorem Opened.lands [Ord δ] [Std.TransOrd δ] {L : Layout δ μ} {depth : δ} {margin : String}
    {first : Token} {levels after : List (Level δ)} {tokens : List Token}
    (opened : Opened L depth margin first levels tokens after) : Lands after depth := by
  cases opened with
  | outermost => exact ⟨_, [], rfl, Std.ReflOrd.compare_self⟩
  | landed closed outside level same => exact ⟨level, outside, rfl, same⟩
  | deepened top levels shallower => exact ⟨_, top :: levels, rfl, Std.ReflOrd.compare_self⟩

namespace Progress

variable {L : Layout δ μ} {p later : Progress δ μ} {events : List Event}

/-- A line that is settled leaves ordered levels open, of which the innermost is as deep as it. -/
theorem lands_of_settle [Ord δ] [Std.TransOrd δ] {depth : δ} {first : Token}
    (settled : (p.settle L depth first).outcome = .ok later) (ordered : Ordered p.levels) :
    Ordered later.levels ∧ Lands later.levels depth := by
  rw [outcome_settle ordered] at settled
  cases opening : L.opening p.levels depth p.margin first with
  | error stray =>
    rw [opening] at settled
    cases settled
  | ok opened =>
    rw [opening] at settled
    cases settled
    have opened := Layout.opened_of_opening ordered opening
    exact ⟨opened.ordered ordered, opened.lands⟩

/-- What holds after every step: levels grow deeper towards the inside, the margin is the text of
the indentation, within a line the innermost level is as deep as the line, and after the end of the
text at most the outermost level is open. -/
structure Founded [Ord δ] (L : Layout δ μ) (p : Progress δ μ) : Prop where
  ordered : Ordered p.levels
  margin : p.margin = String.join (p.indentation.map Token.text)
  lands : p.phase = .body → Lands p.levels (L.depth.measure p.indentation p.margin)
  closed : p.phase = .finished → p.levels.length ≤ 1 ∧ p.last ≠ none

theorem founded_fresh [Ord δ] (L : Layout δ μ) : L.fresh.Founded L :=
  ⟨.nil, rfl, nofun, nofun⟩

theorem Founded.taken [Ord δ] [Std.TransOrd δ] {token : Token} {role : Role}
    (founded : p.Founded L) (unfinished : p.phase ≠ .finished)
    (taken : Taken L p token role events later) : later.Founded L := by
  cases taken with
  | indents start =>
    refine ⟨founded.ordered, ?_, by simp [start], by simp [start]⟩
    rw [founded.margin, List.map_append, String.join_append]
    rfl
  | endsBlank start told => exact ⟨founded.ordered, rfl, by simp [start], by simp [start]⟩
  | begins start told settled built =>
    obtain ⟨ordered, lands⟩ := lands_of_settle settled founded.ordered
    exact ⟨ordered, founded.margin, fun _ => lands, nofun⟩
  | passes inside =>
    exact ⟨founded.ordered, founded.margin, founded.lands, fun ended => absurd ended unfinished⟩
  | ends inside => exact ⟨founded.ordered, rfl, nofun, nofun⟩
  | continues inside =>
    have body := body_of_inside unfinished inside
    exact ⟨founded.ordered, founded.margin, fun _ => founded.lands body, nofun⟩

theorem Founded.ended [Ord δ] (founded : p.Founded L) (ended : Ended L p events later) :
    later.Founded L := by
  have closed : p.levels.getLast?.toList.length ≤ 1 := by
    cases p.levels.getLast? <;> simp
  have ordered : Ordered p.levels.getLast?.toList := by
    cases p.levels.getLast? with
    | none => exact .nil
    | some level => exact List.pairwise_singleton _ _
  cases ended with
  | body inside => exact ⟨ordered, founded.margin, nofun, fun _ => ⟨closed, nofun⟩⟩
  | blank outside told => exact ⟨ordered, founded.margin, nofun, fun _ => ⟨closed, nofun⟩⟩

/-- A refill as a whole keeps what holds after every step. -/
theorem Founded.refills [Ord δ] [Std.TransOrd δ] {words : Words} (founded : p.Founded L)
    (unfinished : p.phase ≠ .finished) (refills : Refills L p words events later) :
    later.Founded L := by
  let Holds : Progress δ μ → Words → List Event → Prop := fun p _ _ => p.Founded L
  show Holds later ([] ++ words) ([] ++ events)
  refine refills.preserves ?_ ?_ unfinished founded
  · intro p words events token role asked later unfinished founded classified taken
    exact founded.taken unfinished taken
  · intro p words events asked later unfinished founded ended
    exact founded.ended ended

/-- Where a layout stands between two answers. -/
inductive Rests (L : Layout δ μ) : Progress δ μ → List (Option Token) → Words → Prop where
  /-- Before the first answer. -/
  | fresh : Rests L L.fresh [] []
  /-- Within a line, right after an ordinary token, which is the last of those that are ready. -/
  | body {p : Progress δ μ} {answers : List (Option Token)} {front : Words} {token : Token}
      (asked : answers ≠ []) (inside : p.phase = .body) (last : p.last = some token)
      (queued : p.queue = [] ∨ p.queue.getLast? = some token) :
      Rests L p answers (front ++ [(token, .ordinary)])
  /-- After the end of the text. -/
  | finished {p : Progress δ μ} {answers : List (Option Token)} {words : Words}
      (asked : answers ≠ []) (ended : p.phase = .finished) : Rests L p answers words

/-- Delivering a token that is ready leaves a layout where it stands. -/
theorem Rests.delivered {answers : List (Option Token)} {words : Words} {token : Token}
    {queue : List Token} (rests : Rests L p answers words) (ready : p.queue = token :: queue) :
    Rests L { p with queue } (answers ++ [some token]) words := by
  cases rests with
  | fresh => cases ready
  | @body _ _ front latest asked inside last queued =>
    refine .body (by simp) inside last ?_
    rw [ready] at queued
    cases queue with
    | nil => exact .inl rfl
    | cons next queue => simpa [List.getLast?_cons_cons] using queued
  | finished asked ended => exact .finished (by simp) ended

/-- After a refill a layout stands within a line or at the end of the text. -/
theorem Refills.rests [Ord δ] {answers : List (Option Token)} {words more : Words}
    (refills : Refills L p more events later) :
    Rests L { later with queue := later.queue.tail } (answers ++ [later.queue.head?])
      (words ++ more) := by
  rcases refills.stops with ⟨finished, _⟩ | ⟨body, held, token, before, rfl, _, last, queued⟩
  · exact .finished (by simp) finished
  · rw [← List.append_assoc]
    refine .body (by simp) body last ?_
    cases before with
    | nil => exact .inl (by simp [queued])
    | cons first before => exact .inr (by simp [queued])

/-- What is known of a layout between two answers, from its snapshot, the answers that it gave since
it was put on the text and the raw tokens that it pulled. -/
structure Standing [Ord δ] (L : Layout δ μ) (answers : List (Option Token)) (raw : List Token)
    (p : Progress δ μ) : Prop where
  /-- Levels grow deeper towards the inside. -/
  ordered : Ordered p.levels
  /-- The margin is the text of the indentation. -/
  margin : p.margin = String.join (p.indentation.map Token.text)
  /-- The start of a line is only seen before the first answer. -/
  start : p.phase = .margin ↔ answers = []
  /-- Then no level is open, nothing is ready, no indentation is pending, and there is no last raw
  token. -/
  fresh : p.phase = .margin → p = L.fresh
  /-- Within a line the innermost level is as deep as the line. -/
  landed : p.phase = .body →
    ∃ top outside, p.levels = top :: outside ∧
      top.depth = L.depth.measure p.indentation p.margin
  /-- The last raw token is an ordinary one then, and the last of those that are ready. -/
  last : p.phase = .body → ∃ token ∈ raw, p.last = some token ∧
    L.classify token = .ok .ordinary ∧ (p.queue = [] ∨ p.queue.getLast? = some token)
  /-- After the end of the text no more than the outermost level is open, and there is a last
  token. -/
  closed : p.phase = .finished → p.levels.length ≤ 1 ∧ p.last ≠ none

theorem Rests.standing [Ord δ] [Std.LawfulEqOrd δ] {answers : List (Option Token)} {words : Words}
    (rests : Rests L p answers words) (founded : p.Founded L)
    (classified : ∀ word ∈ words, L.classify word.1 = .ok word.2) :
    p.Standing L answers (words.map (·.1)) := by
  have landed : p.phase = .body → ∃ top outside, p.levels = top :: outside ∧
      top.depth = L.depth.measure p.indentation p.margin := by
    intro inside
    obtain ⟨top, outside, split, same⟩ := founded.lands inside
    exact ⟨top, outside, split, Std.LawfulEqCmp.eq_of_compare same⟩
  refine ⟨founded.ordered, founded.margin, ?_, ?_, landed, ?_, founded.closed⟩
  · cases rests with
    | fresh => exact ⟨fun _ => rfl, fun _ => rfl⟩
    | body asked inside last queued => simp [inside, asked]
    | finished asked ended => simp [ended, asked]
  · intro start
    cases rests with
    | fresh => rfl
    | body asked inside last queued => simp [inside] at start
    | finished asked ended => simp [ended] at start
  · intro inside
    cases rests with
    | fresh => cases inside
    | @body _ _ front token asked inside last queued =>
      exact ⟨token, by simp, last, classified (token, .ordinary) (by simp), queued⟩
    | finished asked ended => simp [ended] at inside

end Progress

/-- What is known of a layout in every state that it reaches on a text without a fault, as its
snapshot shows it. -/
theorem Layout.standing_of_session [Ord δ] [Std.TransOrd δ] [Std.LawfulEqOrd δ] [DecidableEq δ]
    [DecidableEq μ] {L : Layout δ μ} {S : Source} {text : String} {answers : List (Option Token)}
    {raw : List Token} {state : (L.source S).State}
    (session : L.Session S text answers raw state) :
    ((L.source S).save state).progress.Standing L answers raw := by
  let Holds : Progress δ μ → List (Option Token) → Words → Prop :=
    fun p answers words => p.Founded L ∧ p.Rests L answers words
  have held : ∃ words : Words, raw = words.map (·.1) ∧
      (∀ word ∈ words, L.classify word.1 = .ok word.2) ∧ Holds state.progress answers words := by
    refine session.preserves ?_ ?_ ?_ ?_
    · exact ⟨Progress.founded_fresh L, .fresh⟩
    · rintro p answers words token queue ⟨founded, rests⟩ ready
      exact ⟨⟨founded.ordered, founded.margin, founded.lands, founded.closed⟩,
        rests.delivered ready⟩
    · rintro p answers words ⟨founded, rests⟩ empty finished
      exact ⟨founded, .finished (by simp) finished⟩
    · rintro p answers words more events later ⟨founded, rests⟩ empty unfinished refills
      obtain ⟨ordered, margin, lands, closed⟩ := founded.refills unfinished refills
      exact ⟨⟨ordered, margin, lands, closed⟩, refills.rests⟩
  obtain ⟨words, rfl, classified, founded, rests⟩ := held
  exact rests.standing founded classified

/-- A session on a line and a deeper one, up to the end of the first: the level that the second
opens and its word are ready then. -/
theorem Layout.session_second_line :
    let L := standard
    let a : Token := ⟨"WORD", "a", {}⟩
    let b : Token := ⟨"WORD", "b", {}⟩
    let raw : List Token := [a, ⟨"NL", "\n", {}⟩, ⟨"WS", "  ", {}⟩, b]
    let S : Source := .scripted (raw.map some) []
    let T := L.source S
    let state := (T.next (T.next (T.reset T.start "" none).2).2).2
    L.Session S "" [some a, some ⟨"eol", "\n", {}⟩] raw state ∧
      (T.save state).progress.levels.map (·.depth) = [2, 0] ∧
      (T.save state).progress.queue = [⟨"indent", "  ", {}⟩, b] := by
  intro L a b raw S T state
  let first := (T.reset T.start "" none).2
  have one : L.pulledBy S first = [a] := by cbv
  have two : L.pulledBy S (T.next first).2 = [⟨"NL", "\n", {}⟩, ⟨"WS", "  ", {}⟩, b] := by cbv
  have answerOne : (T.next first).1.outcome = .ok (some a) := by cbv
  have answerTwo : (T.next (T.next first).2).1.outcome = .ok (some ⟨"eol", "\n", {}⟩) := by cbv
  have walked := Session.asked (.asked (.restarted rfl) answerOne) answerTwo
  rw [one, two] at walked
  have levels : ((T.next (T.next first).2).2.progress.levels).map (·.depth) = [2, 0] := by cbv
  have queue : (T.next (T.next first).2).2.progress.queue = [⟨"indent", "  ", {}⟩, b] := by cbv
  exact ⟨walked, levels, queue⟩

/-- In that session the word of the second line is the last raw token, and the last that is
ready. -/
theorem Layout.standing_of_session_second_line :
    let L := standard
    let a : Token := ⟨"WORD", "a", {}⟩
    let b : Token := ⟨"WORD", "b", {}⟩
    let raw : List Token := [a, ⟨"NL", "\n", {}⟩, ⟨"WS", "  ", {}⟩, b]
    let S : Source := .scripted (raw.map some) []
    let T := L.source S
    let state := (T.next (T.next (T.reset T.start "" none).2).2).2
    let seen := (T.save state).progress
    L.Session S "" [some a, some ⟨"eol", "\n", {}⟩] raw state ∧
      seen.levels.map (·.depth) = [2, 0] ∧
      seen.queue = [⟨"indent", "  ", {}⟩, b] ∧
      seen.Standing L [some a, some ⟨"eol", "\n", {}⟩] raw := by
  intro L a b raw S T state seen
  obtain ⟨session, levels, queue⟩ := session_second_line
  exact ⟨session, levels, queue, standing_of_session session⟩

end Offside
