import Offside.Layout.Source

/-! Readings of a layout, told from the raw tokens alone. A source beneath a layout is asked token
by token, and a reading stops at the first fault, so what a refill gets ready is not part of it when
that refill fails. A token is sure to be delivered only once an ordinary token came after it or the
text ended; `deliver` says this over the list of raw tokens and their roles, without sources and
their states, and `readFrom_eq_deliver` that it is what a reading gives, whatever the source. -/
namespace Offside

variable {δ μ : Type}

namespace Source

variable {S : Source} {state : S.State}

theorem drain_fault {fault : Fault} (answer : (S.next state).1.outcome = .error fault) :
    S.drain state = ⟨[], some fault, (S.next state).1.notes, (S.next state).2⟩ := by
  rw [drain]
  split <;> simp_all

theorem drain_end (answer : (S.next state).1.outcome = .ok none) :
    S.drain state = ⟨[], none, (S.next state).1.notes, (S.next state).2⟩ := by
  rw [drain]
  split <;> simp_all

theorem drain_token {token : Token} (answer : (S.next state).1.outcome = .ok (some token)) :
    S.drain state =
      { S.drain (S.next state).2 with
        tokens := token :: (S.drain (S.next state).2).tokens
        notes := (S.next state).1.notes ++ (S.drain (S.next state).2).notes } := by
  rw [drain]
  split <;> simp_all

/-- A source of given tokens still has those that it has not delivered. -/
theorem drain_scripted (raw : List Token) (names : List String) (position : Nat) :
    ((scripted (raw.map some) names).drain position).tokens = raw.drop position ∧
      ((scripted (raw.map some) names).drain position).fault = none := by
  induction left : raw.drop position generalizing position with
  | nil =>
    have past : raw.length ≤ position := List.drop_eq_nil_iff.1 left
    have step : (scripted (raw.map some) names).next position = (pure none, position) := by
      simp [scripted, past]
    have drained : (scripted (raw.map some) names).drain position = _ :=
      drain_end (by rw [step]; rfl)
    exact ⟨congrArg Reading.tokens drained, congrArg Reading.fault drained⟩
  | cons token rest ih =>
    have found : raw[position]? = some token := by
      rw [← List.head?_drop, left]
      rfl
    have step : (scripted (raw.map some) names).next position =
        (pure (some token), position + 1) := by simp [scripted, found]
    have drained : (scripted (raw.map some) names).drain position = _ :=
      drain_token (by rw [step]; rfl)
    rw [step] at drained
    obtain ⟨tokens, fault⟩ := ih (position + 1) (by rw [← List.tail_drop, left]; rfl)
    refine ⟨(congrArg Reading.tokens drained).trans ?_,
      (congrArg Reading.fault drained).trans fault⟩
    exact congrArg (token :: ·) tokens

/-- Reads a whole text, wherever the source was before. -/
def readFrom (S : Source) (elsewhere : S.State) (text : String) : Reading S :=
  let (reply, state) := S.reset elsewhere text none
  match reply.outcome with
  | .error fault => ⟨[], some fault, reply.notes, state⟩
  | .ok () =>
    let reading := S.drain state
    { reading with notes := reply.notes ++ reading.notes }

/-- A source reads its first text from where it starts. -/
theorem read_eq_readFrom (S : Source) (text : String) : S.read text = S.readFrom S.start text :=
  rfl

/-- Any tokens are those of a source, whatever the text. -/
theorem readFrom_scripted (raw : List Token) (names : List String) (position : Nat)
    (text : String) :
    ((scripted (raw.map some) names).readFrom position text).tokens = raw ∧
      ((scripted (raw.map some) names).readFrom position text).fault = none :=
  drain_scripted raw names 0

end Source

/-- Raw tokens, each with its role. -/
abbrev Words := List (Token × Role)

/-- The roles of raw tokens up to the first whose role is unknown, and the fault that ends them: an
unknown role, or else what ended the raw tokens. -/
def Layout.words (L : Layout δ μ) : List Token → Option Fault → Words × Option Fault
  | [], fault => ([], fault)
  | token :: raw, fault =>
    match L.classify token with
    | .error answer => ([], some (.unknownRole answer token))
    | .ok role =>
      let (words, fault) := L.words raw fault
      ((token, role) :: words, fault)

namespace Progress

/-- What is delivered of raw tokens from here on, and the fault that ends it if there is one: the
fault that ends the raw tokens, or one of the layout itself. Tokens that are ready are held back
until an ordinary token or the end of the text comes after them. -/
def deliver [Ord δ] (L : Layout δ μ) (p : Progress δ μ) :
    Words → Option Fault → List Token × Option Fault
  | [], some fault => ([], some fault)
  | [], none =>
    match (p.finish L).outcome with
    | .error fault => ([], some fault)
    | .ok ended => (ended.queue, none)
  | (token, role) :: rest, fault =>
    match ({ p with last := some token }.feed L token role).outcome with
    | .error refusal => ([], some refusal)
    | .ok later =>
      if role = .ordinary then
        let (tokens, fault) := { later with queue := [] }.deliver L rest fault
        (later.queue ++ tokens, fault)
      else later.deliver L rest fault

/-- What is delivered of raw tokens that are still without their roles. -/
def deliverRaw [Ord δ] (L : Layout δ μ) (p : Progress δ μ) (raw : List Token)
    (fault : Option Fault) : List Token × Option Fault :=
  p.deliver L (L.words raw fault).1 (L.words raw fault).2

/-- What is delivered of raw tokens after a refill: nothing after the end of the text. -/
def resume [Ord δ] (L : Layout δ μ) (p : Progress δ μ) (raw : List Token) (fault : Option Fault) :
    List Token × Option Fault :=
  if p.phase = .finished then ([], none) else { p with queue := [] }.deliverRaw L raw fault

/-- A raw token is taken, and an ordinary one lets go of what is ready. -/
theorem deliverRaw_cons [Ord δ] (L : Layout δ μ) (p : Progress δ μ) (token : Token)
    (raw : List Token) (fault : Option Fault) :
    p.deliverRaw L (token :: raw) fault =
      match (p.take L token).outcome with
      | .error refusal => ([], some refusal)
      | .ok (later, role) =>
        if role = .ordinary then
          let (tokens, fault) := { later with queue := [] }.deliverRaw L raw fault
          (later.queue ++ tokens, fault)
        else later.deliverRaw L raw fault := by
  unfold take
  cases classified : L.classify token with
  | error answer => simp [deliverRaw, Layout.words, classified, deliver]
  | ok role =>
    simp only [deliverRaw, Layout.words, classified, deliver, Attempt.outcome_map]
    cases ({ p with last := some token }.feed L token role).outcome <;> rfl

/-- Taking a token takes its role from the classifier, and then feeds it. -/
theorem take_eq_ok [Ord δ] {L : Layout δ μ} {p later : Progress δ μ} {token : Token} {role : Role}
    (taken : (p.take L token).outcome = .ok (later, role)) :
    L.classify token = .ok role ∧
      ({ p with last := some token }.feed L token role).outcome = .ok later := by
  unfold take at taken
  split at taken
  case h_1 => simp at taken
  case h_2 role classified =>
    obtain ⟨fed, feeding, same⟩ := Attempt.outcome_map_eq_ok.1 taken
    cases same
    exact ⟨classified, feeding⟩

/-- Past an ordinary token the text is in the middle of a line, and that token is ready. -/
theorem body_of_feed_ordinary [Ord δ] {L : Layout δ μ} {p later : Progress δ μ} {token : Token}
    (fed : (p.feed L token .ordinary).outcome = .ok later) :
    later.phase = .body ∧ later.queue ≠ [] := by
  simp only [feed] at fed
  split at fed
  case h_1 =>
    obtain ⟨_, _, rfl⟩ := Attempt.outcome_map_eq_ok.1 fed
    simp [content, enqueue]
  case h_2 =>
    cases fed
    simp [content, enqueue]

/-- A refill ends the text unless it gets a token ready. -/
theorem finished_of_refill_empty [Ord δ] {L : Layout δ μ} {S : Source} {p later : Progress δ μ}
    {base : S.State} (filled : (p.refill L S base).1.outcome = .ok later)
    (empty : later.queue = []) : later.phase = .finished := by
  fun_induction p.refill L S base with
  | case1 p base asked pulled fault answer =>
    rw [Attempt.refused_after_pull answer] at filled
    cases filled
  | case2 p base asked pulled answer =>
    obtain ⟨_, _, ended⟩ := Attempt.outcome_bind_eq_ok.1 filled
    exact phase_of_finish ended
  | case3 p base asked pulled token answer taken fault failed =>
    simp [Attempt.outcome_map, failed, Except.map] at filled
  | case4 p base asked pulled token answer taken next succeeded =>
    obtain ⟨_, _, fed⟩ := Attempt.outcome_bind_eq_ok.1 succeeded
    obtain rfl : next = later := by
      simpa [Attempt.outcome_map, succeeded, Except.map] using filled
    exact absurd empty (body_of_feed_ordinary (take_eq_ok fed).2).2
  | case5 p base asked pulled token answer taken next role succeeded structural rest ih =>
    obtain ⟨_, _, filled⟩ := Attempt.outcome_bind_eq_ok.1 filled
    exact ih filled

/-- A refill gets ready what is delivered next, and leaves the rest to the next refill. -/
theorem deliverRaw_refill [Ord δ] (L : Layout δ μ) (S : Source) (p : Progress δ μ)
    (base : S.State) :
    p.deliverRaw L (S.drain base).tokens (S.drain base).fault =
      match (p.refill L S base).1.outcome with
      | .error fault => ([], some fault)
      | .ok later =>
        let raw := S.drain (p.refill L S base).2
        let (tokens, fault) := later.resume L raw.tokens raw.fault
        (later.queue ++ tokens, fault) := by
  fun_induction p.refill L S base with
  | case1 p base asked pulled fault answer =>
    simp [Source.drain_fault answer, deliverRaw, Layout.words, deliver, pulled,
      Attempt.refused_after_pull answer]
  | case2 p base asked pulled answer =>
    simp only [Source.drain_end answer, deliverRaw, Layout.words, deliver, pulled,
      Attempt.outcome_after_pull answer]
    cases ended : (p.finish L).outcome with
    | error fault => simp
    | ok later => simp [resume, phase_of_finish ended]
  | case3 p base asked pulled token answer taken fault failed =>
    have refused : (p.take L token).outcome = .error fault :=
      (Attempt.outcome_after_pull answer).symm.trans failed
    simp [Source.drain_token answer, deliverRaw_cons, refused, Attempt.outcome_map, failed,
      Except.map]
  | case4 p base asked pulled token answer taken later succeeded =>
    have fed : (p.take L token).outcome = .ok (later, .ordinary) :=
      (Attempt.outcome_after_pull answer).symm.trans succeeded
    simp [Source.drain_token answer, deliverRaw_cons, fed, Attempt.outcome_map, succeeded,
      Except.map, resume, (body_of_feed_ordinary (take_eq_ok fed).2).1, asked]
  | case5 p base asked pulled token answer taken later role succeeded structural rest ih =>
    have fed : (p.take L token).outcome = .ok (later, role) :=
      (Attempt.outcome_after_pull answer).symm.trans succeeded
    have held : p.deliverRaw L (S.drain base).tokens (S.drain base).fault =
        later.deliverRaw L (S.drain asked.2).tokens (S.drain asked.2).fault := by
      simp [Source.drain_token answer, deliverRaw_cons, fed, structural, asked]
    rw [held, ih]
    simp [rest, Attempt.outcome_bind, succeeded, Except.bind]

end Progress

namespace Layout

variable {L : Layout δ μ} {S : Source} {cursor : Cursor δ μ S.State}

theorem next_ready [Ord δ] {token : Token} {queue : List Token}
    (ready : cursor.progress.queue = token :: queue) :
    L.next S cursor =
      (pure (some token), { cursor with progress := { cursor.progress with queue } }) := by
  simp only [next, ready]

theorem next_finished [Ord δ] (empty : cursor.progress.queue = [])
    (finished : cursor.progress.phase = .finished) : L.next S cursor = (pure none, cursor) := by
  simp only [next, empty, finished, if_true]

theorem next_refused [Ord δ] {fault : Fault} (empty : cursor.progress.queue = [])
    (unfinished : cursor.progress.phase ≠ .finished)
    (failed : (cursor.progress.refill L S cursor.base).1.outcome = .error fault) :
    (L.next S cursor).1.outcome = .error fault := by
  simp only [next, empty, unfinished, if_false, Attempt.outcome_map, Attempt.outcome_mapLeft,
    failed, Except.map]

/-- A call that fails leaves what the refill left. -/
theorem left_by_refused [Ord δ] {halt : Halt (Progress δ μ)} (empty : cursor.progress.queue = [])
    (unfinished : cursor.progress.phase ≠ .finished)
    (failed : (cursor.progress.refill L S cursor.base).1.result = .error halt) :
    (L.next S cursor).2 = ⟨halt.left, (cursor.progress.refill L S cursor.base).2⟩ := by
  simp only [next, empty, unfinished, if_false, failed]

theorem next_filled [Ord δ] {later : Progress δ μ} (empty : cursor.progress.queue = [])
    (unfinished : cursor.progress.phase ≠ .finished)
    (filled : (cursor.progress.refill L S cursor.base).1.outcome = .ok later) :
    (L.next S cursor).1.outcome = .ok later.queue.head? ∧
      (L.next S cursor).2 =
        ⟨{ later with queue := later.queue.tail }, (cursor.progress.refill L S cursor.base).2⟩ := by
  simp only [next, empty, unfinished, if_false, Attempt.outcome_map, Attempt.outcome_mapLeft,
    filled, Attempt.outcome_eq_ok.1 filled, Except.map, and_self]

/-- What a cursor still delivers: what is ready, and then what becomes of the raw tokens that the
source beneath still has. -/
def remaining [Ord δ] (L : Layout δ μ) (S : Source) (cursor : Cursor δ μ S.State) :
    List Token × Option Fault :=
  let raw := S.drain cursor.base
  let (tokens, fault) := cursor.progress.resume L raw.tokens raw.fault
  (cursor.progress.queue ++ tokens, fault)

/-- A step takes the first token off what remains, and shows the fault or the end when there is
none left. -/
theorem remaining_next [Ord δ] (L : Layout δ μ) (S : Source) (cursor : Cursor δ μ S.State) :
    L.remaining S cursor =
      match (L.next S cursor).1.outcome with
      | .error fault => ([], some fault)
      | .ok none => ([], none)
      | .ok (some token) =>
        let (tokens, fault) := L.remaining S (L.next S cursor).2
        (token :: tokens, fault) := by
  cases ready : cursor.progress.queue with
  | cons token queue =>
    rw [next_ready ready]
    simp [remaining, ready, Progress.resume]
  | nil =>
    by_cases finished : cursor.progress.phase = .finished
    · rw [next_finished ready finished]
      simp [remaining, ready, Progress.resume, finished]
    have held : L.remaining S cursor =
        cursor.progress.deliverRaw L (S.drain cursor.base).tokens (S.drain cursor.base).fault := by
      have same : { cursor.progress with queue := [] } = cursor.progress := by rw [← ready]
      simp [remaining, ready, Progress.resume, finished, same]
    rw [held, Progress.deliverRaw_refill]
    cases filled : (cursor.progress.refill L S cursor.base).1.outcome with
    | error fault => rw [next_refused ready finished filled]
    | ok later =>
      obtain ⟨answer, after⟩ := next_filled ready finished filled
      rw [answer, after]
      cases queued : later.queue with
      | nil =>
        have ended := Progress.finished_of_refill_empty filled queued
        simp [queued, Progress.resume, ended]
      | cons token queue => simp [queued, remaining, Progress.resume]

/-- Draining a layout gives what remains. -/
theorem drain_eq_remaining [Ord δ] [DecidableEq δ] [DecidableEq μ] (L : Layout δ μ) (S : Source)
    (cursor : (L.source S).State) :
    (((L.source S).drain cursor).tokens, ((L.source S).drain cursor).fault) =
      L.remaining S cursor := by
  fun_induction (L.source S).drain cursor with
  | case1 cursor asked fault answer =>
    have step := L.remaining_next S cursor
    rw [show (L.next S cursor).1.outcome = .error fault from answer] at step
    exact step.symm
  | case2 cursor asked answer =>
    have step := L.remaining_next S cursor
    rw [show (L.next S cursor).1.outcome = .ok none from answer] at step
    exact step.symm
  | case3 cursor asked token answer rest ih =>
    have step := L.remaining_next S cursor
    rw [show (L.next S cursor).1.outcome = .ok (some token) from answer] at step
    exact (congrArg (fun rest => (token :: rest.1, rest.2)) ih).trans step.symm

/-- What a layout delivers of a text depends on the source beneath only through the raw tokens
that it delivers of that text, and the fault that ends them. -/
theorem readFrom_eq_deliver [Ord δ] [DecidableEq δ] [DecidableEq μ] (L : Layout δ μ) (S : Source)
    (elsewhere : Cursor δ μ S.State) (text : String) :
    let raw := S.readFrom elsewhere.base text
    (((L.source S).readFrom elsewhere text).tokens, ((L.source S).readFrom elsewhere text).fault) =
      L.fresh.deliverRaw L raw.tokens raw.fault := by
  have reset : (L.source S).reset elsewhere text none = L.reset S elsewhere text none := rfl
  unfold Source.readFrom
  rw [reset]
  cases answer : (S.reset elsewhere.base text none).1.outcome with
  | error fault =>
    simp [Layout.reset, Attempt.outcome_bind, Except.bind, answer, Progress.deliverRaw, words,
      Progress.deliver]
  | ok _ =>
    have drained := drain_eq_remaining L S ⟨L.fresh, (S.reset elsewhere.base text none).2⟩
    simp only [Layout.reset, Option.map_none, Option.getD_none, Attempt.outcome_bind, Except.bind,
      Attempt.outcome_note, Attempt.outcome_deeper, answer]
    refine drained.trans ?_
    simp [remaining, Progress.resume, fresh]

end Layout

end Offside
