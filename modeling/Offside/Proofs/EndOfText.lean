import Mathlib
import Offside.Proofs.Refills

/-! The end of a text. A layout asks its source for raw tokens only where none is ready, and then no
further than to the next ordinary one; and it comes to an end only when the source has, with
everything delivered that can be. The end is final: a source that would go on delivering is not
asked again. A `Runs` is the whole way of a text to its end, refill by refill. -/
namespace Offside

open Attempt

variable {δ μ : Type}

namespace Source

variable {S : Source} {state last : S.State} {answer : Option Token}
  {answers : List (Option Token)} {tokens : List Token}

theorem take_answered (count : Nat) (answered : (S.next state).1.outcome = .ok answer) :
    S.take (count + 1) state =
      (answer :: (S.take count (S.next state).2).1, (S.take count (S.next state).2).2.1,
        (S.next state).1.notes ++ (S.take count (S.next state).2).2.2.1,
        (S.take count (S.next state).2).2.2.2) := by
  simp only [take, answered]

theorem take_refused {fault : Fault} (count : Nat)
    (refused : (S.next state).1.outcome = .error fault) :
    S.take (count + 1) state = ([], some fault, (S.next state).1.notes, (S.next state).2) := by
  simp only [take, refused]

theorem state_take_one : (S.take 1 state).2.2.2 = (S.next state).2 := by
  simp only [take]
  cases (S.next state).1.outcome <;> rfl

theorem Answered.uncons (answered : S.Answered state (answer :: answers) last) :
    (S.next state).1.outcome = .ok answer ∧ S.Answered (S.next state).2 answers last := by
  obtain ⟨notes, taken⟩ := answered
  rw [List.length_cons, take] at taken
  cases first : (S.next state).1.outcome with
  | error fault =>
    simp only [first, Prod.mk.injEq] at taken
    cases taken.1
  | ok delivered =>
    simp only [first, Prod.mk.injEq, List.cons.injEq] at taken
    obtain ⟨⟨rfl, rest⟩, ended, _, state⟩ := taken
    exact ⟨rfl, _, Prod.ext rest (Prod.ext ended (Prod.ext rfl state))⟩

theorem accepted_of_complete {text : String} (complete : (S.readFrom state text).fault = none) :
    (S.reset state text none).1.outcome = .ok () := by
  cases accepted : (S.reset state text none).1.outcome with
  | ok _ => rfl
  | error fault =>
    rw [readFrom_refused accepted] at complete
    cases complete

/-- The tokens that a source answers come first in its drain. -/
theorem Answered.drain (answered : S.Answered state (tokens.map some ++ answers) last) :
    ∃ mid, S.Answered mid answers last ∧
      (S.drain state).tokens = tokens ++ (S.drain mid).tokens ∧
      (S.drain state).fault = (S.drain mid).fault := by
  induction tokens generalizing state with
  | nil => exact ⟨state, answered, rfl, rfl⟩
  | cons token tokens ih =>
    obtain ⟨first, rest⟩ := answered.uncons
    obtain ⟨mid, further, drained, fault⟩ := ih rest
    rw [drain_token first]
    exact ⟨mid, further, congrArg (token :: ·) drained, fault⟩

end Source

namespace Progress

variable {L : Layout δ μ} {p later : Progress δ μ} {words : Words} {events : List Event}
  {tokens : List Token}

/-- Where a refill ends the text, the source has ended after what the refill took of it; where it
does not, the source still has all that comes after. -/
theorem drain_of_supply {S : Source} {base last : S.State}
    (supplied : S.Answered base (supply words later) last) :
    (S.drain base).tokens =
        words.map (·.1) ++ (if later.phase = .finished then [] else (S.drain last).tokens) ∧
      (S.drain base).fault =
        if later.phase = .finished then none else (S.drain last).fault := by
  have split : (words.map (·.1)).map some ++ (if later.phase = .finished then [none] else []) =
      supply words later := by rw [supply, List.map_map]; rfl
  rw [← split] at supplied
  obtain ⟨mid, ending, drained, fault⟩ := supplied.drain
  rw [drained, fault]
  by_cases finished : later.phase = .finished
  · simp only [finished, if_true] at ending ⊢
    rw [Source.drain_end ending.uncons.1]
    exact ⟨rfl, rfl⟩
  · simp only [finished, if_false] at ending ⊢
    obtain ⟨_, same⟩ := ending
    cases same
    exact ⟨rfl, rfl⟩

/-- Lays out a text to its end, refill by refill. What is ready is delivered before the next
refill. -/
inductive Runs [Ord δ] (L : Layout δ μ) :
    Progress δ μ → Words → List Event → List Token → Progress δ μ → Prop where
  | exhausted {p : Progress δ μ} (finished : p.phase = .finished) : Runs L p [] [] [] p
  | refilled {p ready later : Progress δ μ} {words more : Words} {events others : List Event}
      {tokens : List Token} (unfinished : p.phase ≠ .finished)
      (refills : Refills L p words events ready)
      (rest : Runs L { ready with queue := [] } more others tokens later) :
      Runs L p (words ++ more) (events ++ others) (ready.queue ++ tokens) later

/-- Nothing comes after the end of a text. -/
theorem Runs.nothing [Ord δ] (runs : Runs L p words events tokens later)
    (finished : p.phase = .finished) : words = [] := by
  cases runs with
  | exhausted finished => rfl
  | refilled unfinished refills rest => exact absurd finished unfinished

/-- On the way to the end the source is asked once for each raw token, and once more. -/
theorem Runs.pulls [Ord δ] (runs : Runs L p words events tokens later) :
    events.countP Event.isPull = words.length + if p.phase = .finished then 0 else 1 := by
  induction runs with
  | exhausted finished => simp [finished]
  | @refilled p ready later words more events others tokens unfinished refills rest ih =>
    rw [List.countP_append, refills.pulls unfinished, ih, supply, List.length_append,
      List.length_map, List.length_append, if_neg unfinished]
    by_cases finished : ready.phase = .finished
    · simp only [finished, if_true, List.length_singleton]
      omega
    · simp only [finished, if_false, List.length_nil]
      omega

end Progress

namespace Layout

/-- No hook ever fails: every token has a role, and no observer refuses a line. -/
structure Unfailing (L : Layout δ μ) : Prop where
  known : ∀ token, ∃ role, L.classify token = .ok role
  tolerant : ∀ observer ∈ L.observers, observer.Tolerant

/-- How often a source is to be asked for its next ordinary token, or for its end if it has none. -/
def due (L : Layout δ μ) (S : Source) (base : S.State) : Nat :=
  ((S.drain base).tokens.takeWhile fun token => !L.isOrdinary token).length + 1

variable {L : Layout δ μ} {S : Source} {base : S.State} {token : Token}

theorem due_stopped (stopped : (S.drain base).tokens = []) : L.due S base = 1 := by
  rw [due, stopped]
  rfl

theorem due_ordinary (answered : (S.next base).1.outcome = .ok (some token))
    (ordinary : L.isOrdinary token = true) : L.due S base = 1 := by
  rw [due, Source.drain_token answered, List.takeWhile_cons_of_neg (by simp [ordinary])]
  rfl

theorem due_structural (answered : (S.next base).1.outcome = .ok (some token))
    (structural : L.isOrdinary token = false) :
    L.due S base = L.due S (S.next base).2 + 1 := by
  rw [due, Source.drain_token answered, List.takeWhile_cons_of_pos (by simp [structural])]
  rfl

end Layout

namespace Progress

variable {L : Layout δ μ} {p : Progress δ μ}

theorem endBlank_tolerated (unfailing : L.Unfailing) (token : Option Token) :
    ∃ later, (p.endBlank L token).outcome = .ok later := by
  obtain ⟨memories, told⟩ := Layout.tell_tolerated ⟨p.margin, p.indentation, token, token.isSome⟩ 0
    unfailing.tolerant p.memories
  exact ⟨_, outcome_bind_eq_ok.2 ⟨(), rfl, report_eq_ok.2 ⟨memories, told, rfl⟩⟩⟩

/-- Where no hook fails, only an ordinary token can be refused. -/
theorem ordinary_of_refused [Ord δ] (unfailing : L.Unfailing) {token : Token} {fault : Fault}
    (refused : (p.take L token).outcome = .error fault) : L.isOrdinary token = true := by
  obtain ⟨role, classified⟩ := unfailing.known token
  rw [Layout.isOrdinary, classified]
  cases role with
  | ordinary => rfl
  | indentation =>
    simp only [take, classified, feed, outcome_map] at refused
    split at refused <;> cases refused
  | lineBreak =>
    simp only [take, classified, feed, outcome_map] at refused
    split at refused
    · obtain ⟨later, ended⟩ :=
        endBlank_tolerated unfailing (p := { p with last := some token }) token
      simp [outcome_map, ended, Except.map] at refused
    · cases refused

theorem isOrdinary_of_take [Ord δ] {later : Progress δ μ} {token : Token} {role : Role}
    (taken : (p.take L token).outcome = .ok (later, role)) :
    L.isOrdinary token = decide (role = .ordinary) := by
  rw [Layout.isOrdinary, (take_eq_ok taken).1]
  cases role <;> rfl

/-- A refill that goes through asks its source just for the next ordinary token, or for its end; and
so does every refill where no hook fails. -/
theorem refill_due [Ord δ] {S : Source} {base : S.State}
    (calm : (∃ later, (p.refill L S base).1.outcome = .ok later) ∨ L.Unfailing) :
    pulls (p.refill L S base).1.notes = L.due S base ∧
      (p.refill L S base).2 = (S.take (L.due S base) base).2.2.2 := by
  fun_induction p.refill L S base with
  | case1 p base asked pulled fault answer =>
    have once : pulls (pulled >>= fun _ => pure p).notes = 1 := pulls_after_pull (quiet_pure p)
    rw [Layout.due_stopped (congrArg Source.Reading.tokens (Source.drain_fault answer)),
      Source.state_take_one]
    exact ⟨once, rfl⟩
  | case2 p base asked pulled answer =>
    have once : pulls (pulled >>= fun _ => p.finish L).notes = 1 := pulls_after_pull quiet_finish
    rw [Layout.due_stopped (congrArg Source.Reading.tokens (Source.drain_end answer)),
      Source.state_take_one]
    exact ⟨once, rfl⟩
  | case3 p base asked pulled token answer taken fault failed =>
    have once : pulls taken.notes = 1 := pulls_after_pull (quiet_take token)
    -- only an ordinary token is refused then, and that is where the refill would have ended
    have unfailing : L.Unfailing := by
      refine calm.resolve_left ?_
      rintro ⟨later, filled⟩
      simp [outcome_map, failed, Except.map] at filled
    have refused : (p.take L token).outcome = .error fault :=
      (outcome_after_pull answer).symm.trans failed
    rw [Layout.due_ordinary answer (ordinary_of_refused unfailing refused), Source.state_take_one,
      notes_map]
    exact ⟨once, rfl⟩
  | case4 p base asked pulled token answer taken next succeeded =>
    have once : pulls taken.notes = 1 := pulls_after_pull (quiet_take token)
    have ordinary : L.isOrdinary token = true :=
      isOrdinary_of_take ((outcome_after_pull answer).symm.trans succeeded)
    rw [Layout.due_ordinary answer ordinary, Source.state_take_one, notes_map]
    exact ⟨once, rfl⟩
  | case5 p base asked pulled token answer taken next role succeeded structural rest ih =>
    have once : pulls taken.notes = 1 := pulls_after_pull (quiet_take token)
    have other : L.isOrdinary token = false :=
      (isOrdinary_of_take ((outcome_after_pull answer).symm.trans succeeded)).trans
        (decide_eq_false structural)
    have onwards : (∃ later, rest.1.outcome = .ok later) ∨ L.Unfailing := by
      refine calm.imp_left ?_
      rintro ⟨later, filled⟩
      obtain ⟨_, _, filled⟩ := outcome_bind_eq_ok.1 filled
      exact ⟨later, filled⟩
    obtain ⟨asks, state⟩ := ih onwards
    rw [Layout.due_structural answer other, Source.take_answered _ answer, notes_bind,
      pulls_append, once]
    simp only [succeeded]
    exact ⟨by rw [asks, Nat.add_comm], state⟩

end Progress

namespace Layout

variable {L : Layout δ μ} {S : Source} {cursor : Cursor δ μ S.State}

/-- A reset asks no questions. -/
theorem questions_reset (text : String) (snapshot : Option (Cursor δ μ S.Snapshot)) :
    questions (L.reset S cursor text snapshot).1.notes = [] := by
  have beneath := questions_deeper (S.reset cursor.base text (snapshot.map (·.base))).1.notes
  simp only [reset, notes_bind, outcome_note, questions_append]
  refine List.append_eq_nil_iff.2 ⟨?_, beneath⟩
  cases snapshot <;> rfl

/-- A layout that answers with no token has come to the end of the text. -/
theorem over_of_next_none [Ord δ] (answered : (L.next S cursor).1.outcome = .ok none) :
    (L.next S cursor).2.progress.queue = [] ∧
      (L.next S cursor).2.progress.phase = .finished := by
  obtain ⟨words, delivery⟩ := delivery_of_next answered
  generalize questions (L.next S cursor).1.notes = events at delivery
  generalize (L.next S cursor).2 = later at delivery ⊢
  generalize ended : (none : Option Token) = answer at delivery
  cases delivery with
  | ready queued => cases ended
  | exhausted empty finished => exact ⟨empty, finished⟩
  | @filled words events progress base empty unfinished refills supplied =>
    have bare : progress.queue = [] := List.head?_eq_none_iff.1 ended.symm
    rcases refills.stops with ⟨finished, _⟩ | ⟨_, _, token, before, _, _, _, queued⟩
    · exact ⟨by rw [bare, List.tail_nil], finished⟩
    · rw [bare] at queued
      simp at queued

variable {answer : Option Token} {words : Words} {events : List Event}
  {later : Cursor δ μ S.State}

/-- A run goes on where a delivery leads. -/
theorem Delivery.runs [Ord δ] {more : Words} {others : List Event} {tokens : List Token}
    {final : Progress δ μ} (delivery : L.Delivery S cursor answer words events later)
    (rest : { later.progress with queue := [] }.Runs L more others tokens final) :
    ∃ further, { cursor.progress with queue := [] }.Runs L (words ++ more) (events ++ others)
        further final ∧
      cursor.progress.queue ++ further = answer.toList ++ (later.progress.queue ++ tokens) := by
  cases delivery with
  | ready queued => exact ⟨tokens, rest, by rw [queued]; rfl⟩
  | exhausted empty finished => exact ⟨tokens, rest, rfl⟩
  | @filled words events progress base empty unfinished refills supplied =>
    have same : { cursor.progress with queue := [] } = cursor.progress := by rw [← empty]
    rw [same]
    refine ⟨progress.queue ++ tokens, .refilled unfinished refills rest, ?_⟩
    rw [empty]
    cases progress.queue <;> rfl

/-- Before the end of the text the source has what a delivery takes, and then what comes after. -/
theorem Delivery.drained [Ord δ] (delivery : L.Delivery S cursor answer words events later)
    (unfinished : cursor.progress.phase ≠ .finished) :
    (S.drain cursor.base).tokens = words.map (·.1) ++
        (if later.progress.phase = .finished then [] else (S.drain later.base).tokens) ∧
      (S.drain cursor.base).fault =
        if later.progress.phase = .finished then none else (S.drain later.base).fault := by
  cases delivery with
  | ready queued => simp [unfinished]
  | exhausted empty finished => exact absurd finished unfinished
  | filled empty unfinished refills supplied => exact Progress.drain_of_supply supplied

section

variable [Ord δ] [DecidableEq δ] [DecidableEq μ]

/-- Reading to the end is a run, of the raw tokens that the source has. -/
theorem runs_of_drain {cursor : Cursor δ μ S.State}
    (complete : ((L.source S).drain cursor).fault = none) :
    ∃ words tokens final, { cursor.progress with queue := [] }.Runs L words
        (questions ((L.source S).drain cursor).notes) tokens final ∧
      ((L.source S).drain cursor).tokens = cursor.progress.queue ++ tokens ∧
      final = { ((L.source S).drain cursor).state.progress with queue := [] } ∧
      (cursor.progress.phase ≠ .finished →
        (S.drain cursor.base).tokens = words.map (·.1) ∧ (S.drain cursor.base).fault = none) := by
  fun_induction (L.source S).drain cursor with
  | case1 cursor asked fault answer => cases complete
  | case2 cursor asked answer =>
    obtain ⟨words, delivery⟩ := delivery_of_next answer
    obtain ⟨bare, finished⟩ := over_of_next_none answer
    obtain ⟨tokens, runs, same⟩ := delivery.runs (.exhausted finished)
    rw [bare] at same
    rw [List.append_nil, List.append_nil] at runs
    refine ⟨words, tokens, _, runs, same.symm, rfl, fun unfinished => ?_⟩
    simpa [finished] using delivery.drained unfinished
  | case3 cursor asked token answer rest ih =>
    obtain ⟨words, delivery⟩ := delivery_of_next answer
    obtain ⟨more, tokens, final, runs, delivered, left, drained⟩ := ih complete
    obtain ⟨further, whole, same⟩ := delivery.runs runs
    refine ⟨words ++ more, further, final, ?_, ?_, left, fun unfinished => ?_⟩
    · rw [questions_append]
      exact whole
    · exact (congrArg (token :: ·) delivered).trans same.symm
    · obtain ⟨raw, fault⟩ := delivery.drained unfinished
      rw [raw, fault, List.map_append]
      -- once the text has ended no more is taken of it, whatever the source still has
      by_cases finished : (L.next S cursor).2.progress.phase = .finished
      · rw [if_pos finished, if_pos finished, runs.nothing finished]
        exact ⟨rfl, rfl⟩
      · obtain ⟨left, ended⟩ := drained finished
        rw [if_neg finished, if_neg finished]
        exact ⟨congrArg (words.map (·.1) ++ ·) left, ended⟩

/-- A reading without a fault is a run from the start of the text to its end. -/
theorem run_of_reading {elsewhere : Cursor δ μ S.State} {text : String}
    (complete : ((L.source S).readFrom elsewhere text).fault = none) :
    ∃ words final, L.fresh.Runs L words
        (questions ((L.source S).readFrom elsewhere text).notes)
        ((L.source S).readFrom elsewhere text).tokens final ∧
      final = { ((L.source S).readFrom elsewhere text).state.progress with queue := [] } ∧
      (S.readFrom elsewhere.base text).tokens = words.map (·.1) := by
  have accepted := Source.accepted_of_complete complete
  have beneath : (S.reset elsewhere.base text none).1.outcome = .ok () := reset_accepted.1 accepted
  obtain ⟨_, fresh, _⟩ := reset_fresh (L := L) beneath
  have silent : questions ((L.source S).reset elsewhere text none).1.notes = [] :=
    questions_reset text none
  rw [Source.readFrom_accepted accepted, fresh] at complete ⊢
  rw [Source.readFrom_accepted beneath, questions_append, silent, List.nil_append]
  obtain ⟨words, tokens, final, runs, delivered, left, raw⟩ := runs_of_drain complete
  obtain rfl : _ = tokens := delivered
  exact ⟨words, final, runs, left, (raw nofun).1⟩

omit [DecidableEq δ] [DecidableEq μ] in
theorem remaining_over {cursor : Cursor δ μ S.State} (bare : cursor.progress.queue = [])
    (finished : cursor.progress.phase = .finished) : L.remaining S cursor = ([], none) := by
  simp [remaining, Progress.resume, bare, finished]

/-- Answers take tokens off what remains, and nothing else. -/
theorem remaining_take {cursor : (L.source S).State} {count : Nat}
    (unbroken : ((L.source S).take count cursor).2.1 = none) :
    L.remaining S cursor =
      (((L.source S).take count cursor).1.reduceOption ++
        (L.remaining S ((L.source S).take count cursor).2.2.2).1,
        (L.remaining S ((L.source S).take count cursor).2.2.2).2) := by
  induction count generalizing cursor with
  | zero => rfl
  | succ count ih =>
    have step := L.remaining_next S cursor
    cases answered : ((L.source S).next cursor).1.outcome with
    | error fault =>
      rw [Source.take_refused count answered] at unbroken
      cases unbroken
    | ok answer =>
      rw [Source.take_answered count answered] at unbroken ⊢
      rw [show (L.next S cursor).1.outcome = .ok answer from answered] at step
      have rest := ih unbroken
      cases answer with
      | none =>
        obtain ⟨bare, finished⟩ := over_of_next_none answered
        exact step.trans ((remaining_over bare finished).symm.trans rest)
      | some token => exact step.trans (congrArg (fun left => (token :: left.1, left.2)) rest)

/-- After the end of the text nothing happens any more. -/
theorem take_over {cursor : (L.source S).State} (bare : cursor.progress.queue = [])
    (finished : cursor.progress.phase = .finished) (more : Nat) :
    (L.source S).take more cursor = (List.replicate more none, none, [], cursor) := by
  have step : (L.source S).next cursor = (pure none, cursor) := next_finished bare finished
  induction more with
  | zero => rfl
  | succ more ih =>
    rw [Source.take_answered more (congrArg (·.1.outcome) step), step]
    simp only [ih, List.replicate_succ]
    rfl

/-- How a layout asks its source, and how it ends, wherever it stands. -/
structure Paced (L : Layout δ μ) (S : Source) (cursor : (L.source S).State) : Prop where
  /-- Where a token is ready, or the text has ended, the source is not asked, nor is any hook. -/
  idle : cursor.progress.queue ≠ [] ∨ cursor.progress.phase = .finished →
    ((L.source S).next cursor).1.notes = [] ∧ ((L.source S).next cursor).2.base = cursor.base
  /-- Elsewhere it is asked just for its next ordinary token, or for its end. -/
  due : cursor.progress.queue = [] → cursor.progress.phase ≠ .finished →
    (∃ answer, ((L.source S).next cursor).1.outcome = .ok answer) ∨ L.Unfailing →
      pulls ((L.source S).next cursor).1.notes = L.due S cursor.base ∧
        ((L.source S).next cursor).2.base = (S.take (L.due S cursor.base) cursor.base).2.2.2
  /-- Once there was no token there is none any more; nothing is asked and nothing changes. -/
  final : ((L.source S).next cursor).1.outcome = .ok none → ∀ more,
    (L.source S).take more ((L.source S).next cursor).2 =
      (List.replicate more none, none, [], ((L.source S).next cursor).2)

theorem paced (L : Layout δ μ) (S : Source) (cursor : (L.source S).State) : L.Paced S cursor := by
  constructor
  · intro idle
    show (L.next S cursor).1.notes = [] ∧ (L.next S cursor).2.base = cursor.base
    cases ready : cursor.progress.queue with
    | cons token queue =>
      rw [next_ready ready]
      exact ⟨rfl, rfl⟩
    | nil =>
      rw [next_finished ready (idle.resolve_left (absurd ready))]
      exact ⟨rfl, rfl⟩
  · intro empty unfinished calm
    have refilled : (L.next S cursor).2.base = (cursor.progress.refill L S cursor.base).2 := by
      simp only [next, empty, unfinished, if_false]
    have notes : (L.next S cursor).1.notes = (cursor.progress.refill L S cursor.base).1.notes :=
      notes_next empty unfinished
    have refills : (∃ later, (cursor.progress.refill L S cursor.base).1.outcome = .ok later) ∨
        L.Unfailing := by
      refine calm.imp_left ?_
      rintro ⟨answer, answered⟩
      cases filled : (cursor.progress.refill L S cursor.base).1.outcome with
      | ok later => exact ⟨later, rfl⟩
      | error fault => cases answered.symm.trans (next_refused empty unfinished filled)
    show pulls (L.next S cursor).1.notes = _ ∧ (L.next S cursor).2.base = _
    rw [notes, refilled]
    exact Progress.refill_due refills
  · intro ended more
    obtain ⟨bare, finished⟩ := over_of_next_none ended
    exact take_over bare finished more

/-- On its way through a text a layout asks its source only where no token is ready and the text has
not ended, and just for the next ordinary token or the end. It answers with no token only after all
tokens of the text, and from then on always, without asking for anything. On the whole way it asks
once for each raw token, and once more. -/
theorem paced_to_the_end (L : Layout δ μ) (S : Source) (elsewhere : (L.source S).State)
    (text : String) (accepted : ((L.source S).reset elsewhere text none).1.outcome = .ok ()) :
    let T := L.source S
    let first := (T.reset elsewhere text none).2
    let reading := T.readFrom elsewhere text
    (∀ cursor, L.Paced S cursor) ∧
      (∀ count, (T.take count first).2.1 = none →
        (T.next (T.take count first).2.2.2).1.outcome = .ok none →
          reading.fault = none ∧ (T.take count first).1.reduceOption = reading.tokens) ∧
      (reading.fault = none →
        pulls reading.notes = (S.readFrom elsewhere.base text).tokens.length + 1) := by
  intro T first reading
  have read : reading = { T.drain first with
      notes := (T.reset elsewhere text none).1.notes ++ (T.drain first).notes } :=
    Source.readFrom_accepted accepted
  refine ⟨L.paced S, fun count unbroken ended => ?_, fun complete => ?_⟩
  · have left := L.remaining_next S (T.take count first).2.2.2
    rw [show (L.next S (T.take count first).2.2.2).1.outcome = .ok none from ended] at left
    have whole := (drain_eq_remaining L S first).trans (remaining_take unbroken)
    rw [left, List.append_nil] at whole
    obtain ⟨tokens, fault⟩ := Prod.mk.inj whole
    exact read ▸ ⟨fault, tokens.symm⟩
  · obtain ⟨words, final, runs, -, given⟩ := run_of_reading complete
    rw [given, List.length_map, pulls_eq_questions, runs.pulls, if_neg nofun]

end

/-- A source that would go on after its end. Both tokens of the line are delivered; the source is
asked for its two raw tokens and for its end, and what it has after that is never asked for. -/
theorem paced_to_the_end_further :
    let a : Token := ⟨"WORD", "a", {}⟩
    let S : Source :=
      .scripted [some a, some ⟨"NL", "\n", {}⟩, none, some ⟨"WORD", "c", {}⟩] []
    let T := standard.source S
    let first := (T.reset T.start "" none).2
    let last := (T.take 2 first).2.2.2
    let reading := T.readFrom T.start ""
    (T.reset T.start "" none).1.outcome = .ok () ∧ (T.next last).1.outcome = .ok none ∧
      reading.fault = none ∧ reading.tokens = [a, ⟨"eol", "\n", {}⟩] ∧ pulls reading.notes = 3 ∧
      ∀ more,
        T.take more (T.next last).2 = (List.replicate more none, none, [], (T.next last).2) := by
  intro a S T first last reading
  have unbroken : (T.take 2 first).2.1 = none := by cbv
  have ended : (T.next (T.take 2 first).2.2.2).1.outcome = .ok none := by cbv
  have answers : (T.take 2 first).1.reduceOption = [a, ⟨"eol", "\n", {}⟩] := by cbv
  have given : (S.readFrom S.start "").tokens.length = 2 := by cbv
  obtain ⟨paced, complete, total⟩ := paced_to_the_end standard S T.start "" rfl
  obtain ⟨fault, tokens⟩ := complete 2 unbroken ended
  refine ⟨rfl, ended, fault, tokens.symm.trans answers, ?_, (paced _).final ended⟩
  exact (total fault).trans (congrArg (· + 1) given)

end Layout

end Offside
