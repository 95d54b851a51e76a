import Mathlib.Data.List.ReduceOption
import Offside.Proofs.Causality
import Offside.Proofs.Lines

/-! What a refill does. Taking a raw token does one of six things, and the end of the text one of
two; `Taken` and `Ended` list them, each with the questions that are asked on the way, and a
`Refills` is a run of such steps up to an ordinary token or the end of the text. What holds of a
layout between two answers is then a matter of these steps, and no proof about it opens the
functions that make them. -/
namespace Offside

open Attempt

variable {δ μ : Type}

/-- Whether an event is a question, to the source, to a rule or to an observer. The others are only
there for the log. -/
def Event.isQuestion : Event → Bool
  | .pulled | .measured _ _ | .blankLine _ | .reported _ _ => true
  | _ => false

/-- Whether an event asks the source. -/
def Event.isPull : Event → Bool
  | .pulled => true
  | _ => false

/-- The question that a layout itself asks, if the note is one. -/
def Note.question? (note : Note) : Option Event :=
  if note.level = 0 ∧ note.event.isQuestion then some note.event else none

/-- The questions that a layout itself asks, in their order. -/
def questions (notes : List Note) : List Event := notes.filterMap Note.question?

@[simp] theorem questions_append (notes more : List Note) :
    questions (notes ++ more) = questions notes ++ questions more :=
  List.filterMap_append

@[simp] theorem questions_deeper (notes : List Note) :
    questions (notes.map Note.deeper) = [] := by
  refine List.filterMap_eq_nil_iff.2 fun note member => ?_
  obtain ⟨note, _, rfl⟩ := List.mem_map.1 member
  simp [Note.question?, Note.deeper]

/-- How often the source is asked is a matter of the questions. -/
theorem pulls_eq_questions (notes : List Note) :
    pulls notes = (questions notes).countP Event.isPull := by
  induction notes with
  | nil => rfl
  | cons note notes ih =>
    have rest : pulls (note :: notes) = notes.countP Note.isPull + if note.isPull then 1 else 0 :=
      List.countP_cons
    rw [rest, show notes.countP Note.isPull = pulls notes from rfl, ih]
    obtain ⟨level, event⟩ := note
    cases level with
    | zero => cases event <;> simp [questions, Note.question?, Event.isQuestion, Note.isPull,
        Event.isPull, List.countP_cons]
    | succ level => simp [questions, Note.question?, Note.isPull]

/-- The questions by which the observers are told of a line. -/
def Layout.tellings (L : Layout δ μ) (report : LineReport) : List Event :=
  (List.range L.observers.length).map (.reported · report)

theorem Layout.questions_tell {report : LineReport} {position : Nat}
    {observers : List (Observer μ)} {memories later : List μ}
    (told : (tell report position observers memories).outcome = .ok later) :
    questions (tell report position observers memories).notes =
      (List.range' position observers.length).map (.reported · report) := by
  induction observers generalizing position memories later with
  | nil => rfl
  | cons observer observers ih =>
    obtain ⟨memory, rest, observed, others, _⟩ := tell_cons_eq_ok.1 told
    simp only [tell, notes_bind, outcome_note, outcome_ofExcept, outcome_mapLeft, notes_mapLeft,
      observed, others, questions_append, ih others, List.length_cons, List.range'_succ,
      List.map_cons]
    simp [questions, Note.question?, note, Event.isQuestion, Attempt.ofExcept, pure, Attempt.pure]

namespace Progress

variable {L : Layout δ μ} {p later : Progress δ μ}

/-- Settling a line asks nothing. -/
theorem questions_settle [Ord δ] (depth : δ) (token : Token) :
    questions (p.settle L depth token).notes = [] := by
  unfold settle
  split
  · rfl
  · split
    · rfl
    · rfl
    · dsimp only
      split <;> rfl

/-- Settling a line changes which levels are open, and adds tokens that open or close levels. -/
theorem settle_eq_ok [Ord δ] {depth : δ} {token : Token}
    (settled : (p.settle L depth token).outcome = .ok later) :
    ∃ tokens levels, later = { p with levels, queue := p.queue ++ tokens } ∧
      ∀ made ∈ tokens, ∃ kind ∈ [indentKind, dedentKind], made = L.build kind p.margin token := by
  unfold settle at settled
  split at settled
  · cases settled
    exact ⟨[], [⟨depth, p.margin⟩], by simp, by simp⟩
  · split at settled
    · cases settled
      exact ⟨[], p.levels, by simp, by simp⟩
    · cases settled
      exact ⟨[L.build indentKind p.margin token], _, rfl, by simp⟩
    · dsimp only at settled
      split at settled
      · cases settled
      · cases settled
        refine ⟨_, _, rfl, fun made member => ?_⟩
        obtain ⟨_, _, rfl⟩ := List.mem_map.1 member
        exact ⟨dedentKind, by simp, rfl⟩

theorem body_of_inside (unfinished : p.phase ≠ .finished) (inside : p.phase ≠ .margin) :
    p.phase = .body := by
  cases phase : p.phase <;> simp_all

/-- What the observers remember of the current line, if none of them refuses it. -/
def Told (L : Layout δ μ) (p : Progress δ μ) (breaker : Option Token) (blank : Bool)
    (memories : List μ) : Prop :=
  (Layout.tell ⟨p.margin, p.indentation, breaker, blank⟩ 0 L.observers p.memories).outcome =
    .ok memories

theorem told_of_report {breaker : Option Token} {blank : Bool}
    (reported : (p.report L breaker blank).outcome = .ok later) :
    ∃ memories, p.Told L breaker blank memories ∧ later = { p with memories } ∧
      questions (p.report L breaker blank).notes =
        L.tellings ⟨p.margin, p.indentation, breaker, blank⟩ := by
  obtain ⟨memories, told, rfl⟩ := report_eq_ok.1 reported
  refine ⟨memories, told, rfl, ?_⟩
  simp only [report, notes_bind, outcome_mapLeft, notes_mapLeft, told, questions_append,
    Layout.questions_tell told, Layout.tellings, List.range_eq_range']
  exact List.append_nil _

theorem endBlank_eq_ok {token : Option Token} (ended : (p.endBlank L token).outcome = .ok later) :
    ∃ memories, p.Told L token token.isSome memories ∧
      later = { p with memories, queue := p.queue ++ L.blank L.build p.last token } ∧
      questions (p.endBlank L token).notes =
        .blankLine token :: L.tellings ⟨p.margin, p.indentation, token, token.isSome⟩ := by
  obtain ⟨_, _, reported⟩ := outcome_bind_eq_ok.1 ended
  obtain ⟨memories, told, rfl, asked⟩ := told_of_report reported
  refine ⟨memories, told, rfl, ?_⟩
  simp only [endBlank, notes_bind, outcome_note, questions_append, asked]
  rfl

theorem beginBody_eq_ok [Ord δ] {token : Token}
    (begun : (p.beginBody L token).outcome = .ok later) :
    ∃ memories, p.Told L (some token) false memories ∧
      ({ p with memories }.settle L (L.depth.measure p.indentation p.margin) token).outcome =
        .ok later ∧
      questions (p.beginBody L token).notes =
        .measured p.indentation p.margin ::
          L.tellings ⟨p.margin, p.indentation, some token, false⟩ := by
  obtain ⟨_, _, begun⟩ := outcome_bind_eq_ok.1 begun
  obtain ⟨_, reported, settled⟩ := outcome_bind_eq_ok.1 begun
  obtain ⟨memories, told, rfl, asked⟩ := told_of_report reported
  refine ⟨memories, told, settled, ?_⟩
  simp only [beginBody, notes_bind, outcome_note, reported, questions_append, asked,
    questions_settle, List.append_nil]
  rfl

/-- What taking a raw token of a role does and asks. At the start of a line it indents the line, or
ends it as a blank one, or begins its body; within the body of a line it is passed on, or ends the
line, or goes on with it. -/
inductive Taken [Ord δ] (L : Layout δ μ) (p : Progress δ μ) (token : Token) :
    Role → List Event → Progress δ μ → Prop where
  | indents (start : p.phase = .margin) :
      Taken L p token .indentation []
        { p with
          last := some token
          indentation := p.indentation ++ [token]
          margin := p.margin ++ token.text }
  | endsBlank (start : p.phase = .margin) {memories : List μ}
      (told : p.Told L (some token) true memories) :
      Taken L p token .lineBreak
        (.blankLine token :: L.tellings ⟨p.margin, p.indentation, some token, true⟩)
        { p with
          last := some token
          memories
          queue := p.queue ++ L.blank L.build (some token) (some token)
          indentation := []
          margin := "" }
  | begins (start : p.phase = .margin) {memories : List μ} {levels : List (Level δ)}
      {tokens : List Token} (told : p.Told L (some token) false memories)
      (settled : ({ p with last := some token, memories }.settle L
        (L.depth.measure p.indentation p.margin) token).outcome =
          .ok { p with last := some token, memories, levels, queue := p.queue ++ tokens })
      (built : ∀ made ∈ tokens, ∃ kind ∈ layoutKinds, made = L.build kind p.margin token) :
      Taken L p token .ordinary
        (.measured p.indentation p.margin ::
          L.tellings ⟨p.margin, p.indentation, some token, false⟩)
        { p with
          last := some token
          memories
          levels
          queue := p.queue ++ tokens ++ [token]
          phase := .body }
  | passes (inside : p.phase ≠ .margin) :
      Taken L p token .indentation [] { p with last := some token, queue := p.queue ++ [token] }
  | ends (inside : p.phase ≠ .margin) :
      Taken L p token .lineBreak []
        { p with
          last := some token
          queue := p.queue ++ [L.build eolKind token.text token]
          indentation := []
          margin := ""
          phase := .margin }
  | continues (inside : p.phase ≠ .margin) :
      Taken L p token .ordinary []
        { p with last := some token, queue := p.queue ++ [token], phase := .body }

/-- A raw token that is taken does one of these things. -/
theorem taken_of_take [Ord δ] {token : Token} {role : Role}
    (taken : (p.take L token).outcome = .ok (later, role)) :
    L.classify token = .ok role ∧
      Taken L p token role (questions (p.take L token).notes) later := by
  obtain ⟨classified, fed⟩ := take_eq_ok taken
  have asked : (p.take L token).notes =
      ({ p with last := some token }.feed L token role).notes := by
    simp only [take, classified, notes_map]
  rw [asked]
  refine ⟨classified, ?_⟩
  obtain ⟨levels, queue, phase, last, indentation, margin, memories⟩ := p
  by_cases start : phase = .margin
  · subst start
    cases role with
    | indentation =>
      cases fed
      exact .indents rfl
    | lineBreak =>
      obtain ⟨blank, ended, rfl⟩ := outcome_map_eq_ok.1 fed
      obtain ⟨memories, told, rfl, asked⟩ := endBlank_eq_ok ended
      simp only [feed, notes_map, asked]
      exact .endsBlank rfl told
    | ordinary =>
      obtain ⟨begun, started, rfl⟩ := outcome_map_eq_ok.1 fed
      obtain ⟨memories, told, settled, asked⟩ := beginBody_eq_ok started
      obtain ⟨tokens, levels, rfl, built⟩ := settle_eq_ok settled
      simp only [feed, notes_map, asked]
      refine .begins rfl told settled fun made member => ?_
      obtain ⟨kind, structural, same⟩ := built made member
      exact ⟨kind, List.mem_cons_of_mem eolKind structural, same⟩
  · cases role with
    | indentation =>
      simp only [feed] at fed ⊢
      cases fed
      exact .passes start
    | lineBreak =>
      simp only [feed] at fed ⊢
      cases fed
      exact .ends start
    | ordinary =>
      simp only [feed] at fed ⊢
      cases fed
      exact .continues start

/-- What the end of the text does and asks. It ends the body of a line, or else a blank line, and
closes every level but the outermost. -/
inductive Ended (L : Layout δ μ) (p : Progress δ μ) : List Event → Progress δ μ → Prop where
  | body (inside : p.phase = .body) :
      Ended L p []
        { p with
          levels := p.levels.getLast?.toList
          last := some (p.last.getD L.fallback)
          queue := p.queue ++
            L.build eolKind (p.last.getD L.fallback).text (p.last.getD L.fallback) ::
              p.levels.tail.map fun level =>
                L.build dedentKind level.margin (p.last.getD L.fallback)
          phase := .finished }
  | blank (outside : p.phase ≠ .body) {memories : List μ} (told : p.Told L none false memories) :
      Ended L p (.blankLine none :: L.tellings ⟨p.margin, p.indentation, none, false⟩)
        { p with
          levels := p.levels.getLast?.toList
          last := some (p.last.getD L.fallback)
          memories
          queue := p.queue ++ L.blank L.build (p.last.getD L.fallback) none ++
            p.levels.tail.map fun level =>
              L.build dedentKind level.margin (p.last.getD L.fallback)
          phase := .finished }

theorem ended_of_finish (ended : (p.finish L).outcome = .ok later) :
    Ended L p (questions (p.finish L).notes) later := by
  obtain ⟨closed, closing, rfl⟩ := outcome_map_eq_ok.1 ended
  simp only [finish, notes_map]
  obtain ⟨levels, queue, phase, last, indentation, margin, memories⟩ := p
  by_cases inside : phase = .body
  · subst inside
    cases closing
    simp only [endLast, closeAll, enqueue, List.append_assoc, List.singleton_append]
    exact .body rfl
  · simp only [endLast] at closing ⊢
    obtain ⟨memories, told, rfl, asked⟩ := endBlank_eq_ok closing
    simp only [asked]
    exact .blank inside told

/-- Takes raw tokens up to an ordinary one, or up to the end of the text. -/
inductive Refills [Ord δ] (L : Layout δ μ) :
    Progress δ μ → Words → List Event → Progress δ μ → Prop where
  | ended {p later : Progress δ μ} {events : List Event} (ended : Ended L p events later) :
      Refills L p [] (.pulled :: events) later
  | settled {p later : Progress δ μ} {token : Token} {events : List Event}
      (classified : L.classify token = .ok .ordinary)
      (taken : Taken L p token .ordinary events later) :
      Refills L p [(token, .ordinary)] (.pulled :: events) later
  | more {p mid later : Progress δ μ} {token : Token} {role : Role} {words : Words}
      {events others : List Event} (classified : L.classify token = .ok role)
      (structural : role ≠ .ordinary) (taken : Taken L p token role events mid)
      (rest : Refills L mid words others later) :
      Refills L p ((token, role) :: words) (.pulled :: events ++ others) later

section

variable [Ord δ] {words : Words} {events : List Event}

/-- A raw token that is taken does not end the text, and an ordinary one leads into the body of a
line and is the last that is ready. -/
theorem Taken.outside_end {token : Token} {role : Role} (taken : Taken L p token role events later)
    (unfinished : p.phase ≠ .finished) : later.phase ≠ .finished := by
  cases taken <;> simp_all

theorem Taken.settles {token : Token} (taken : Taken L p token .ordinary events later) :
    later.phase = .body ∧ later.last = some token ∧ ∃ before, later.queue = before ++ [token] := by
  cases taken with
  | begins start told settled built => exact ⟨rfl, rfl, _, rfl⟩
  | continues inside => exact ⟨rfl, rfl, _, rfl⟩

omit [Ord δ] in
theorem Ended.finished (ended : Ended L p events later) : later.phase = .finished := by
  cases ended <;> rfl

/-- A refill ends the text, or else stops at the first ordinary token. -/
theorem Refills.stops (refills : Refills L p words events later) :
    later.phase = .finished ∧ (∀ word ∈ words, word.2 ≠ .ordinary) ∨
      later.phase = .body ∧ ∃ held token before, words = held ++ [(token, .ordinary)] ∧
        (∀ word ∈ held, word.2 ≠ .ordinary) ∧ later.last = some token ∧
        later.queue = before ++ [token] := by
  induction refills with
  | ended ended => exact .inl ⟨ended.finished, by simp⟩
  | @settled p later token events classified taken =>
    obtain ⟨body, last, before, queued⟩ := taken.settles
    exact .inr ⟨body, [], token, before, rfl, by simp, last, queued⟩
  | @more p mid later token role words events others classified structural taken rest ih =>
    rcases ih with ⟨finished, held⟩ | ⟨body, held, last, before, rfl, others, latest, queued⟩
    · exact .inl ⟨finished, List.forall_mem_cons.2 ⟨structural, held⟩⟩
    · exact .inr ⟨body, (token, role) :: held, last, before, rfl,
        List.forall_mem_cons.2 ⟨structural, others⟩, latest, queued⟩

/-- The roles of the raw tokens that a refill takes are those that the classifier tells. -/
theorem Refills.classified (refills : Refills L p words events later) :
    ∀ word ∈ words, L.classify word.1 = .ok word.2 := by
  induction refills with
  | ended ended => simp
  | settled classified taken => simpa using classified
  | more classified structural taken rest ih => exact List.forall_mem_cons.2 ⟨classified, ih⟩

/-- What holds before a refill, and after each step that it makes, holds after it. -/
theorem Refills.preserves {Holds : Progress δ μ → Words → List Event → Prop}
    (taken : ∀ p words events token role asked later, p.phase ≠ .finished → Holds p words events →
      L.classify token = .ok role → Taken L p token role asked later →
      Holds later (words ++ [(token, role)]) (events ++ .pulled :: asked))
    (ended : ∀ p words events asked later, p.phase ≠ .finished → Holds p words events →
      Ended L p asked later → Holds later words (events ++ .pulled :: asked))
    {read : Words} {before : List Event} (unfinished : p.phase ≠ .finished)
    (holds : Holds p read before) (refills : Refills L p words events later) :
    Holds later (read ++ words) (before ++ events) := by
  -- what was read and asked before is kept general, since each step adds to it
  induction refills generalizing read before with
  | ended ending =>
    rw [List.append_nil]
    exact ended _ _ _ _ _ unfinished holds ending
  | settled classified taking => exact taken _ _ _ _ _ _ _ unfinished holds classified taking
  | more classified structural taking rest ih =>
    have next := ih (taking.outside_end unfinished)
      (taken _ _ _ _ _ _ _ unfinished holds classified taking)
    simpa only [List.append_assoc, List.singleton_append, List.cons_append, List.nil_append]
      using next

omit [Ord δ] in
theorem pulls_tellings (L : Layout δ μ) (report : LineReport) :
    (L.tellings report).countP Event.isPull = 0 := by
  refine List.countP_eq_zero.2 fun event member => ?_
  obtain ⟨_, _, rfl⟩ := List.mem_map.1 member
  simp [Event.isPull]

/-- Taking a raw token does not ask the source for another, and neither does the end of the text. -/
theorem Taken.pulls {token : Token} {role : Role} (taken : Taken L p token role events later) :
    events.countP Event.isPull = 0 := by
  cases taken with
  | endsBlank start told => exact pulls_tellings L _
  | begins start told settled built => exact pulls_tellings L _
  | indents | passes | ends | continues => rfl

omit [Ord δ] in
theorem Ended.pulls (ended : Ended L p events later) : events.countP Event.isPull = 0 := by
  cases ended with
  | body inside => rfl
  | blank outside told => exact pulls_tellings L _

/-- What the source answers to a refill: the raw tokens that it takes, and none at the end of the
text. -/
def supply (words : Words) (later : Progress δ μ) : List (Option Token) :=
  words.map (some ·.1) ++ if later.phase = .finished then [none] else []

omit [Ord δ] in
theorem reduceOption_supply (words : Words) (later : Progress δ μ) :
    (supply words later).reduceOption = words.map (·.1) := by
  unfold supply
  split <;> simp [List.reduceOption, List.filterMap_map]

/-- A refill asks the source as often as that. -/
theorem Refills.pulls (refills : Refills L p words events later)
    (unfinished : p.phase ≠ .finished) :
    events.countP Event.isPull = (supply words later).length := by
  induction refills with
  | ended ended =>
    rw [List.countP_cons, ended.pulls]
    simp [Event.isPull, supply, ended.finished]
  | settled classified taken =>
    rw [List.countP_cons, taken.pulls]
    simp [Event.isPull, supply, taken.outside_end unfinished]
  | more classified structural taken rest ih =>
    have rest := ih (taken.outside_end unfinished)
    rw [List.cons_append, List.countP_cons, List.countP_append, taken.pulls, rest]
    simp only [Event.isPull, supply, List.length_append, List.length_map, List.length_cons,
      if_true]
    omega

end

end Progress

namespace Source

variable {S : Source} {state last : S.State}

/-- Calls are answered one after the other without a fault. -/
def Answered (S : Source) (state : S.State) (answers : List (Option Token)) (last : S.State) :
    Prop :=
  ∃ notes, S.take answers.length state = (answers, none, notes, last)

theorem Answered.nothing (state : S.State) : S.Answered state [] state := ⟨[], rfl⟩

theorem Answered.call {answer : Option Token} {answers : List (Option Token)}
    (answered : (S.next state).1.outcome = .ok answer)
    (rest : S.Answered (S.next state).2 answers last) :
    S.Answered state (answer :: answers) last := by
  obtain ⟨notes, taken⟩ := rest
  refine ⟨(S.next state).1.notes ++ notes, ?_⟩
  rw [List.length_cons, take]
  simp only [answered, taken]

end Source

/-- A source that answers is asked once before what comes after its answer. -/
theorem Attempt.questions_after_pull {σ α : Type} {asked : Reply (Option Token)} {left : σ}
    {next : Attempt σ α} {answer : Option Token} (answered : asked.outcome = .ok answer) :
    questions (pull asked left >>= fun _ => next).notes = .pulled :: questions next.notes := by
  have beneath : questions asked.deeper.notes = [] := questions_deeper asked.notes
  have pulled : questions (pull asked left).notes = .pulled :: questions asked.deeper.notes := by
    rw [notes_pull]
    rfl
  have given : (pull asked left).outcome = .ok () := outcome_eq_ok.2 (pull_answered answered)
  rw [notes_bind, given, questions_append, pulled, beneath]
  rfl

/-- A refill that goes through is a run of steps, with the answers of the source to it. -/
theorem Progress.refills_of_refill [Ord δ] {L : Layout δ μ} {S : Source} {p later : Progress δ μ}
    {base : S.State} (unfinished : p.phase ≠ .finished)
    (filled : (p.refill L S base).1.outcome = .ok later) :
    ∃ words, p.Refills L words (questions (p.refill L S base).1.notes) later ∧
      S.Answered base (supply words later) (p.refill L S base).2 := by
  fun_induction p.refill L S base with
  | case1 p base asked pulled fault answer =>
    rw [refused_after_pull answer] at filled
    cases filled
  | case2 p base asked pulled answer =>
    have notes : questions (pulled >>= fun _ => p.finish L).notes =
        .pulled :: questions (p.finish L).notes := questions_after_pull answer
    have ended := ended_of_finish ((outcome_after_pull answer).symm.trans filled)
    refine ⟨[], notes ▸ .ended ended, ?_⟩
    simpa [supply, ended.finished] using .call answer (.nothing asked.2)
  | case3 p base asked pulled token answer taken fault failed =>
    simp [outcome_map, failed, Except.map] at filled
  | case4 p base asked pulled token answer taken next succeeded =>
    have notes : questions taken.notes = .pulled :: questions (p.take L token).notes :=
      questions_after_pull answer
    obtain ⟨classified, took⟩ := taken_of_take ((outcome_after_pull answer).symm.trans succeeded)
    obtain rfl : next = later := by
      simpa [outcome_map, succeeded, Except.map] using filled
    rw [notes_map, notes]
    refine ⟨_, .settled classified took, ?_⟩
    simpa [supply, took.outside_end unfinished] using .call answer (.nothing asked.2)
  | case5 p base asked pulled token answer taken next role succeeded structural rest ih =>
    have notes : questions taken.notes = .pulled :: questions (p.take L token).notes :=
      questions_after_pull answer
    obtain ⟨classified, took⟩ := taken_of_take ((outcome_after_pull answer).symm.trans succeeded)
    obtain ⟨_, _, filled⟩ := outcome_bind_eq_ok.1 filled
    obtain ⟨words, refills, answers⟩ := ih (took.outside_end unfinished) filled
    simp only [notes_bind, succeeded, questions_append, notes]
    exact ⟨_, .more classified structural took refills, .call answer answers⟩

namespace Layout

variable {L : Layout δ μ} {S : Source} {cursor : Cursor δ μ S.State}

/-- What asking a layout for a token does: it delivers a token that is ready; or the text has ended,
and nothing happens; or it gets more of the text ready, and delivers the first of that. -/
inductive Delivery [Ord δ] (L : Layout δ μ) (S : Source) (cursor : Cursor δ μ S.State) :
    Option Token → Words → List Event → Cursor δ μ S.State → Prop where
  | ready {token : Token} {queue : List Token} (queued : cursor.progress.queue = token :: queue) :
      Delivery L S cursor (some token) [] [] ⟨{ cursor.progress with queue }, cursor.base⟩
  | exhausted (empty : cursor.progress.queue = []) (finished : cursor.progress.phase = .finished) :
      Delivery L S cursor none [] [] cursor
  | filled {words : Words} {events : List Event} {later : Progress δ μ} {base : S.State}
      (empty : cursor.progress.queue = []) (unfinished : cursor.progress.phase ≠ .finished)
      (refills : cursor.progress.Refills L words events later)
      (supplied : S.Answered cursor.base (Progress.supply words later) base) :
      Delivery L S cursor later.queue.head? words events
        ⟨{ later with queue := later.queue.tail }, base⟩

theorem delivery_of_next [Ord δ] {answer : Option Token}
    (answered : (L.next S cursor).1.outcome = .ok answer) :
    ∃ words, L.Delivery S cursor answer words (questions (L.next S cursor).1.notes)
      (L.next S cursor).2 := by
  cases ready : cursor.progress.queue with
  | cons token queue =>
    rw [next_ready ready] at answered ⊢
    cases answered
    exact ⟨[], .ready ready⟩
  | nil =>
    by_cases finished : cursor.progress.phase = .finished
    · rw [next_finished ready finished] at answered ⊢
      cases answered
      exact ⟨[], .exhausted ready finished⟩
    · cases filled : (cursor.progress.refill L S cursor.base).1.outcome with
      | error fault =>
        rw [next_refused ready finished filled] at answered
        cases answered
      | ok later =>
        obtain ⟨answer, state⟩ := next_filled ready finished filled
        obtain ⟨words, refills, supplied⟩ := Progress.refills_of_refill finished filled
        cases answered.symm.trans answer
        rw [state, notes_next ready finished]
        exact ⟨words, .filled ready finished refills supplied⟩

/-- The raw tokens that a layout asks its source for when it is asked for a token itself. -/
def pulledBy [Ord δ] (L : Layout δ μ) (S : Source) (cursor : Cursor δ μ S.State) : List Token :=
  (S.take (pulls (L.next S cursor).1.notes) cursor.base).1.reduceOption

/-- They are those that the delivery takes. -/
theorem Delivery.pulledBy_eq [Ord δ] {answer : Option Token} {words : Words}
    {later : Cursor δ μ S.State}
    (delivery : L.Delivery S cursor answer words (questions (L.next S cursor).1.notes) later) :
    L.pulledBy S cursor = words.map (·.1) := by
  have asked := pulls_eq_questions (L.next S cursor).1.notes
  unfold pulledBy
  rw [asked]
  generalize questions (L.next S cursor).1.notes = events at delivery
  cases delivery with
  | ready queued => rfl
  | exhausted empty finished => rfl
  | filled empty unfinished refills supplied =>
    obtain ⟨notes, taken⟩ := supplied
    rw [refills.pulls unfinished, taken, Progress.reduceOption_supply]

end Layout

end Offside
