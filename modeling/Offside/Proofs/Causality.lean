import Mathlib.Data.List.DropRight
import Offside.Proofs.Rewinding

/-! What is delivered, and when. A layout pulls raw tokens no further than to the next ordinary one,
and lets go of what is ready only when it gets there. So what is delivered up to an ordinary token
depends on the raw tokens up to it and on nothing that comes later; and where a fault shows, nothing
that was pulled after the last ordinary token was delivered before it. A `Settles` is a run of raw
tokens that ends with an ordinary one, a `Gathers` a run without any; the raw tokens of every text
are one of each, and then whatever stops the layout. -/
namespace Offside

/-- Whether a layout itself asked its source for a raw token. -/
def Note.isPull : Note → Bool
  | ⟨0, .pulled⟩ => true
  | _ => false

/-- How often a layout asked its source for a raw token. -/
def pulls (notes : List Note) : Nat := notes.countP Note.isPull

theorem pulls_append (notes more : List Note) : pulls (notes ++ more) = pulls notes + pulls more :=
  List.countP_append

theorem pulls_deeper (notes : List Note) : pulls (notes.map Note.deeper) = 0 := by
  refine List.countP_eq_zero.2 fun note member => ?_
  obtain ⟨note, _, rfl⟩ := List.mem_map.1 member
  simp [Note.isPull, Note.deeper]

namespace Attempt

variable {σ τ α β : Type}

theorem notes_bind (attempt : Attempt σ α) (next : α → Attempt σ β) :
    (attempt >>= next).notes = attempt.notes ++
      match attempt.outcome with
      | .ok a => (next a).notes
      | .error _ => [] := by
  obtain ⟨result, notes⟩ := attempt
  cases result with
  | error halt => exact (List.append_nil notes).symm
  | ok a => rfl

theorem notes_map (attempt : Attempt σ α) (f : α → β) : (f <$> attempt).notes = attempt.notes := by
  obtain ⟨result, notes⟩ := attempt
  cases result with
  | error halt => rfl
  | ok a => exact List.append_nil notes

/-- Nothing is asked of a source. -/
def Quiet (attempt : Attempt σ α) : Prop := pulls attempt.notes = 0

theorem quiet_pure (a : α) : (pure a : Attempt σ α).Quiet := rfl

theorem quiet_fail (fault : Fault) (left : σ) : (fail fault left : Attempt σ α).Quiet := rfl

theorem quiet_ofExcept (left : σ) (outcome : Except Fault α) : (ofExcept left outcome).Quiet := rfl

theorem quiet_deeper (attempt : Attempt σ α) : attempt.deeper.Quiet := pulls_deeper attempt.notes

/-- What is quiet can follow anything. -/
theorem pulls_bind {attempt : Attempt σ α} {next : α → Attempt σ β} (quiet : ∀ a, (next a).Quiet) :
    pulls (attempt >>= next).notes = pulls attempt.notes := by
  rw [notes_bind, pulls_append]
  cases attempt.outcome with
  | error fault => rfl
  | ok a => rw [quiet a, Nat.add_zero]

theorem Quiet.bind {attempt : Attempt σ α} {next : α → Attempt σ β} (first : attempt.Quiet)
    (second : ∀ a, (next a).Quiet) : (attempt >>= next).Quiet :=
  (pulls_bind second).trans first

theorem Quiet.map {attempt : Attempt σ α} (quiet : attempt.Quiet) (f : α → β) :
    (f <$> attempt).Quiet := by
  unfold Quiet at quiet ⊢
  rw [notes_map, quiet]

theorem Quiet.mapLeft {attempt : Attempt σ α} (quiet : attempt.Quiet) (f : σ → τ) :
    (attempt.mapLeft f).Quiet := quiet

end Attempt

namespace Source

variable {S : Source} {state : S.State}

/-- The source delivers what is first in its drain. -/
theorem next_of_drain_cons {token : Token} {rest : List Token}
    (drained : (S.drain state).tokens = token :: rest) :
    (S.next state).1.outcome = .ok (some token) ∧ (S.drain (S.next state).2).tokens = rest ∧
      (S.drain (S.next state).2).fault = (S.drain state).fault := by
  cases answer : (S.next state).1.outcome with
  | error fault =>
    rw [drain_fault answer] at drained
    cases drained
  | ok delivered =>
    cases delivered with
    | none =>
      rw [drain_end answer] at drained
      cases drained
    | some first =>
      rw [drain_token answer] at drained ⊢
      obtain ⟨rfl, rest⟩ := List.cons.inj drained
      exact ⟨rfl, rest, rfl⟩

theorem next_of_drain_nil (drained : (S.drain state).tokens = []) :
    (S.next state).1.outcome =
      match (S.drain state).fault with
      | some fault => .error fault
      | none => .ok none := by
  cases answer : (S.next state).1.outcome with
  | error fault => rw [drain_fault answer]
  | ok delivered =>
    cases delivered with
    | none => rw [drain_end answer]
    | some first =>
      rw [drain_token answer] at drained
      cases drained

theorem readFrom_accepted {text : String}
    (accepted : (S.reset state text none).1.outcome = .ok ()) :
    S.readFrom state text =
      { S.drain (S.reset state text none).2 with
        notes := (S.reset state text none).1.notes ++
          (S.drain (S.reset state text none).2).notes } := by
  simp only [readFrom, accepted]

theorem readFrom_refused {text : String} {fault : Fault}
    (refused : (S.reset state text none).1.outcome = .error fault) :
    S.readFrom state text =
      ⟨[], some fault, (S.reset state text none).1.notes, (S.reset state text none).2⟩ := by
  simp only [readFrom, refused]

/-- Delivers tokens one after the other. -/
inductive Hands (S : Source) : S.State → List Token → List Note → S.State → Prop where
  | nothing (state : S.State) : Hands S state [] [] state
  | token {state last : S.State} {token : Token} {tokens : List Token} {notes : List Note}
      (answered : (S.next state).1.outcome = .ok (some token))
      (rest : Hands S (S.next state).2 tokens notes last) :
      Hands S state (token :: tokens) ((S.next state).1.notes ++ notes) last

variable {mid last : S.State} {tokens more : List Token} {notes others : List Note}

theorem Hands.append (first : S.Hands state tokens notes mid)
    (second : S.Hands mid more others last) :
    S.Hands state (tokens ++ more) (notes ++ others) last := by
  induction first with
  | nothing => exact second
  | token answered rest ih =>
    rw [List.append_assoc]
    exact .token answered (ih second)

theorem Hands.take (hands : S.Hands state tokens notes last) :
    S.take tokens.length state = (tokens.map some, none, notes, last) := by
  induction hands with
  | nothing => rfl
  | token answered rest ih =>
    rw [List.length_cons, Source.take]
    simp only [answered, ih, List.map_cons]

/-- Draining goes on where the tokens end. -/
theorem Hands.drain (hands : S.Hands state tokens notes last) :
    S.drain state =
      { S.drain last with
        tokens := tokens ++ (S.drain last).tokens
        notes := notes ++ (S.drain last).notes } := by
  induction hands with
  | nothing => rfl
  | token answered rest ih =>
    rw [drain_token answered, ih]
    simp only [List.cons_append, List.append_assoc]

end Source

open Attempt

variable {δ μ : Type}

namespace Layout

theorem quiet_tell (report : LineReport) (position : Nat) (observers : List (Observer μ))
    (memories : List μ) : (tell report position observers memories).Quiet := by
  induction observers generalizing position memories with
  | nil => exact quiet_pure _
  | cons observer observers ih =>
    refine .bind rfl fun _ => .bind (quiet_ofExcept _ _) fun memory => ?_
    exact .bind ((ih _ _).mapLeft _) fun rest => quiet_pure _

end Layout

namespace Progress

variable {L : Layout δ μ} {p : Progress δ μ}

theorem quiet_report (breaker : Option Token) (blank : Bool) : (p.report L breaker blank).Quiet :=
  .bind ((Layout.quiet_tell _ _ _ _).mapLeft _) fun _ => quiet_pure _

theorem quiet_endBlank (token : Option Token) : (p.endBlank L token).Quiet :=
  .bind rfl fun _ => quiet_report _ _

theorem quiet_settle [Ord δ] (depth : δ) (token : Token) : (p.settle L depth token).Quiet := by
  unfold settle
  split
  · exact quiet_pure _
  · split
    · exact quiet_pure _
    · exact .bind rfl fun _ => quiet_pure _
    · dsimp only
      split
      · exact quiet_fail _ _
      · exact .bind rfl fun _ => quiet_pure _

theorem quiet_beginBody [Ord δ] (token : Token) : (p.beginBody L token).Quiet :=
  .bind rfl fun _ => .bind (quiet_report _ _) fun _ => quiet_settle _ _

theorem quiet_feed [Ord δ] (token : Token) (role : Role) : (p.feed L token role).Quiet := by
  cases role with
  | indentation =>
    simp only [feed]
    split <;> exact quiet_pure _
  | lineBreak =>
    simp only [feed]
    split
    · exact (quiet_endBlank _).map _
    · exact quiet_pure _
  | ordinary =>
    simp only [feed]
    split
    · exact (quiet_beginBody _).map _
    · exact quiet_pure _

/-- A raw token is taken without another being asked for. -/
theorem quiet_take [Ord δ] (token : Token) : (p.take L token).Quiet := by
  unfold take
  split
  · exact quiet_fail _ _
  · exact (quiet_feed _ _).map _

theorem quiet_finish : (p.finish L).Quiet := by
  refine Quiet.map ?_ _
  unfold endLast
  split
  · exact quiet_pure _
  · exact quiet_endBlank _

/-- Before what asks nothing, a source that is asked is asked once. -/
theorem pulls_after_pull {σ α : Type} {asked : Reply (Option Token)} {left : σ}
    {next : Attempt σ α} (quiet : next.Quiet) :
    pulls (pull asked left >>= fun _ => next).notes = 1 := by
  have beneath : pulls asked.deeper.notes = 0 := pulls_deeper asked.notes
  rw [pulls_bind fun _ => quiet, notes_pull, pulls, List.countP_cons, ← pulls, beneath]
  rfl

/-- What a refill does with the answer of the source: it asks once, and asks again only after a
token that is not ordinary. -/
theorem refill_answered [Ord δ] (L : Layout δ μ) (S : Source) (p : Progress δ μ)
    (base : S.State) :
    let filled := p.refill L S base
    match (S.next base).1.outcome with
    | .error fault => filled.1.outcome = .error fault ∧ pulls filled.1.notes = 1
    | .ok none => filled.1.outcome = (p.finish L).outcome ∧ pulls filled.1.notes = 1
    | .ok (some token) =>
      match (p.take L token).outcome with
      | .error fault => filled.1.outcome = .error fault ∧ pulls filled.1.notes = 1
      | .ok (later, .ordinary) =>
        filled.1.outcome = .ok later ∧ filled.2 = (S.next base).2 ∧ pulls filled.1.notes = 1
      | .ok (later, _) =>
        let rest := later.refill L S (S.next base).2
        filled.1.outcome = rest.1.outcome ∧ filled.2 = rest.2 ∧
          pulls filled.1.notes = 1 + pulls rest.1.notes := by
  intro filled
  unfold filled
  fun_cases p.refill L S base with
  | case1 asked pulled fault answer =>
    rw [show (S.next base).1.outcome = .error fault from answer]
    exact ⟨refused_after_pull answer, pulls_after_pull (quiet_pure p)⟩
  | case2 asked pulled answer =>
    rw [show (S.next base).1.outcome = .ok none from answer]
    exact ⟨outcome_after_pull answer, pulls_after_pull quiet_finish⟩
  | case3 asked pulled token answer taken fault failed =>
    have taking : taken.outcome = (p.take L token).outcome := outcome_after_pull answer
    have once : pulls taken.notes = 1 := pulls_after_pull (quiet_take token)
    rw [show (S.next base).1.outcome = .ok (some token) from answer]
    simp only [← taking, failed, outcome_map, notes_map, once, Except.map, and_self]
  | case4 asked pulled token answer taken later succeeded =>
    have taking : taken.outcome = (p.take L token).outcome := outcome_after_pull answer
    have once : pulls taken.notes = 1 := pulls_after_pull (quiet_take token)
    rw [show (S.next base).1.outcome = .ok (some token) from answer]
    simp only [← taking, succeeded, outcome_map, notes_map, once, Except.map]
    exact ⟨trivial, rfl, trivial⟩
  | case5 asked pulled token answer taken later role succeeded structural rest =>
    have taking : taken.outcome = (p.take L token).outcome := outcome_after_pull answer
    have once : pulls taken.notes = 1 := pulls_after_pull (quiet_take token)
    rw [show (S.next base).1.outcome = .ok (some token) from answer]
    have outcome : (taken >>= fun _ => rest.1).outcome = rest.1.outcome := by
      simp [outcome_bind, Except.bind, succeeded]
    have notes : pulls (taken >>= fun _ => rest.1).notes = 1 + pulls rest.1.notes := by
      simp [notes_bind, succeeded, pulls_append, once]
    cases role with
    | ordinary => exact absurd rfl structural
    | indentation =>
      simp only [← taking, succeeded]
      exact ⟨outcome, rfl, notes⟩
    | lineBreak =>
      simp only [← taking, succeeded]
      exact ⟨outcome, rfl, notes⟩

end Progress

namespace Layout

/-- Whether a raw token is known to be ordinary. -/
def isOrdinary (L : Layout δ μ) (token : Token) : Bool :=
  match L.classify token with
  | .ok .ordinary => true
  | _ => false

/-- Raw tokens up to the last ordinary one. -/
def settled (L : Layout δ μ) (raw : List Token) : List Token :=
  raw.rdropWhile fun token => !L.isOrdinary token

end Layout

namespace Progress

variable {L : Layout δ μ} {p : Progress δ μ}

/-- Takes raw tokens none of which is ordinary. -/
inductive Gathers [Ord δ] (L : Layout δ μ) : Progress δ μ → List Token → Progress δ μ → Prop where
  | nothing (p : Progress δ μ) : Gathers L p [] p
  | more {p mid later : Progress δ μ} {token : Token} {role : Role} {raw : List Token}
      (taken : (p.take L token).outcome = .ok (mid, role)) (structural : role ≠ .ordinary)
      (rest : Gathers L mid raw later) : Gathers L p (token :: raw) later

/-- Takes raw tokens in rounds that end with an ordinary one each, and lets go of what is ready
after each round. -/
inductive Settles [Ord δ] (L : Layout δ μ) :
    Progress δ μ → List Token → List Token → Progress δ μ → Prop where
  | nothing (p : Progress δ μ) : Settles L p [] [] p
  | round {p mid ready later : Progress δ μ} {held raw tokens : List Token} {token : Token}
      (gathered : Gathers L p held mid)
      (taken : (mid.take L token).outcome = .ok (ready, .ordinary))
      (rest : Settles L { ready with queue := [] } raw tokens later) :
      Settles L p (held ++ token :: raw) (ready.queue ++ tokens) later

/-- What stops a layout with the given raw tokens left, the first of which it may have refused, and
what is still delivered then: what is ready at the end of the text, and nothing at a fault. -/
inductive Stops [Ord δ] (L : Layout δ μ) (p : Progress δ μ) :
    List Token → Option Fault → List Token × Option Fault → Prop where
  | broken (fault : Fault) : Stops L p [] (some fault) ([], some fault)
  | refused {token : Token} {left : List Token} {fault : Option Fault} {refusal : Fault}
      (taken : (p.take L token).outcome = .error refusal) :
      Stops L p (token :: left) fault ([], some refusal)
  | refusedEnd {refusal : Fault} (finished : (p.finish L).outcome = .error refusal) :
      Stops L p [] none ([], some refusal)
  | ended {ended : Progress δ μ} (finished : (p.finish L).outcome = .ok ended) :
      Stops L p [] none (ended.queue, none)

section

variable [Ord δ] {mid later ready : Progress δ μ} {token : Token}
  {raw held left tokens : List Token}

theorem Stops.nothing {fault : Option Fault} {refusal : Fault} {rest : List Token}
    (stops : Stops L p left fault (rest, some refusal)) : rest = [] := by
  cases stops <;> rfl

theorem Stops.whole {fault : Option Fault} {rest : List Token}
    (stops : Stops L p left fault (rest, none)) : left = [] := by
  cases stops
  rfl

/-- The raw tokens of a text are rounds, then tokens none of which is ordinary, and then what stops
the layout. -/
theorem deliverRaw_cases (L : Layout δ μ) (p : Progress δ μ) (raw : List Token)
    (fault : Option Fault) :
    ∃ settled held left tokens mid later rest, raw = settled ++ (held ++ left) ∧
      Settles L p settled tokens mid ∧ Gathers L mid held later ∧ Stops L later left fault rest ∧
        p.deliverRaw L raw fault = (tokens ++ rest.1, rest.2) := by
  induction raw generalizing p with
  | nil =>
    refine ⟨[], [], [], [], p, p, p.deliverRaw L [] fault, rfl, .nothing p, .nothing p, ?_, rfl⟩
    cases fault with
    | some fault => exact .broken fault
    | none =>
      cases finished : (p.finish L).outcome with
      | error refusal =>
        simp only [deliverRaw, Layout.words, deliver, finished]
        exact .refusedEnd finished
      | ok ended =>
        simp only [deliverRaw, Layout.words, deliver, finished]
        exact .ended finished
  | cons token raw ih =>
    rw [deliverRaw_cons]
    cases taken : (p.take L token).outcome with
    | error refusal =>
      exact ⟨[], [], token :: raw, [], p, p, _, rfl, .nothing p, .nothing p, .refused taken, rfl⟩
    | ok answer =>
      obtain ⟨next, role⟩ := answer
      by_cases ordinary : role = .ordinary
      · subst ordinary
        obtain ⟨settled, held, left, tokens, mid, later, rest, rfl, settles, gathers, stops,
          same⟩ := ih { next with queue := [] }
        refine ⟨token :: settled, held, left, next.queue ++ tokens, mid, later, rest, rfl,
          .round (.nothing p) taken settles, gathers, stops, ?_⟩
        simp only [if_true, same, List.append_assoc]
      · obtain ⟨settled, held, left, tokens, mid, later, rest, rfl, settles, gathers, stops,
          same⟩ := ih next
        simp only [ordinary, if_false, same]
        cases settles with
        | nothing =>
          exact ⟨[], token :: held, left, [], p, later, rest, rfl, .nothing p,
            .more taken ordinary gathers, stops, rfl⟩
        | round gathered ready more =>
          refine ⟨_, held, left, _, mid, later, rest, ?_,
            .round (.more taken ordinary gathered) ready more, gathers, stops, rfl⟩
          rfl

/-- An ordinary token that is taken is the last that is ready. -/
theorem queue_of_take_ordinary (taken : (p.take L token).outcome = .ok (later, .ordinary)) :
    ∃ before, later.queue = before ++ [token] := by
  have fed := (take_eq_ok taken).2
  simp only [feed] at fed
  split at fed
  · obtain ⟨begun, _, rfl⟩ := outcome_map_eq_ok.1 fed
    exact ⟨begun.queue, rfl⟩
  · cases fed
    exact ⟨p.queue, rfl⟩

theorem Gathers.structural (gathers : Gathers L p raw later) :
    ∀ token ∈ raw, L.isOrdinary token = false := by
  induction gathers with
  | nothing => simp
  | more taken structural rest ih =>
    have classified := (take_eq_ok taken).1
    refine List.forall_mem_cons.2 ⟨?_, ih⟩
    rw [Layout.isOrdinary, classified]
    cases ‹Role› with
    | ordinary => exact absurd rfl structural
    | indentation => rfl
    | lineBreak => rfl

/-- The last token of the last round is delivered last. -/
theorem Settles.ends (settles : Settles L p raw tokens later) :
    (raw = [] ∧ tokens = []) ∨
      ∃ front token before, raw = front ++ [token] ∧ tokens = before ++ [token] ∧
        L.isOrdinary token = true := by
  induction settles with
  | nothing => exact .inl ⟨rfl, rfl⟩
  | @round p mid ready later held raw tokens token gathered taken rest ih =>
    obtain ⟨before, queued⟩ := queue_of_take_ordinary taken
    rcases ih with ⟨rfl, rfl⟩ | ⟨front, last, earlier, rfl, rfl, ordinary⟩
    · refine .inr ⟨held, token, before, rfl, ?_, ?_⟩
      · rw [queued, List.append_nil]
      · rw [Layout.isOrdinary, (take_eq_ok taken).1]
    · exact .inr ⟨held ++ token :: front, last, ready.queue ++ earlier, by simp, by simp, ordinary⟩

/-- Rounds are what is settled of the raw tokens, whatever else is gathered. -/
theorem Settles.settled_eq (settles : Settles L p raw tokens mid)
    (gathers : Gathers L mid held later) :
    L.settled (raw ++ held) = raw := by
  have structural : ∀ token ∈ held, (!L.isOrdinary token) = true := fun token member => by
    rw [gathers.structural token member]
    rfl
  rw [Layout.settled, List.rdropWhile, List.reverse_append,
    List.dropWhile_append_of_pos (by simpa using structural)]
  rcases settles.ends with ⟨rfl, _⟩ | ⟨front, token, _, rfl, _, ordinary⟩
  · rfl
  · simp [ordinary]

theorem Settles.getLast?_eq (settles : Settles L p raw tokens later) :
    tokens.getLast? = raw.getLast? := by
  rcases settles.ends with ⟨rfl, rfl⟩ | ⟨front, token, before, rfl, rfl, _⟩
  · rfl
  · rw [List.getLast?_concat, List.getLast?_concat]

/-- Rounds can be stopped after any ordinary token. -/
theorem Settles.until_ordinary {front : List Token} (ordinary : L.isOrdinary token = true)
    (settles : Settles L p raw tokens later) (comes : front ++ [token] <+: raw) :
    ∃ earlier mid, Settles L p (front ++ [token]) earlier mid := by
  induction settles generalizing front with
  | nothing => simp at comes
  | @round p mid ready later held raw tokens last gathered taken rest ih =>
    obtain ⟨left, split⟩ := comes
    rw [List.append_assoc, List.singleton_append] at split
    -- the token may stand before the end of the round, where none is ordinary, at it, or after it
    have here : token = last → front = held → ∃ earlier mid,
        Settles L p (front ++ [token]) earlier mid := by
      rintro rfl rfl
      exact ⟨_, _, .round gathered taken (.nothing _)⟩
    rcases List.append_eq_append_iff.1 split with ⟨more, inside, rest⟩ | ⟨more, outside, rest⟩
    · cases more with
      | nil =>
        rw [List.append_nil] at inside
        exact here (List.cons.inj rest).1 inside.symm
      | cons first more =>
        obtain ⟨rfl, _⟩ := List.cons.inj rest
        have other := gathered.structural token (by simp [inside])
        rw [ordinary] at other
        cases other
    · cases more with
      | nil =>
        rw [List.append_nil] at outside
        exact here (List.cons.inj rest).1.symm outside
      | cons first more =>
        obtain ⟨rfl, later⟩ := List.cons.inj rest
        have comes : more ++ [token] <+: raw := ⟨left, by simp [later]⟩
        obtain ⟨earlier, mid, settles⟩ := ih comes
        refine ⟨ready.queue ++ earlier, mid, ?_⟩
        rw [outside, List.append_assoc, List.cons_append]
        exact .round gathered taken settles

variable {S : Source} {base : S.State} {fault : Option Fault}

/-- Tokens that are not ordinary do not end a refill. -/
theorem Gathers.refill (gathers : Gathers L p held mid)
    (drained : (S.drain base).tokens = held ++ left) :
    ∃ further, (S.drain further).tokens = left ∧ (S.drain further).fault = (S.drain base).fault ∧
      (p.refill L S base).1.outcome = (mid.refill L S further).1.outcome ∧
      (p.refill L S base).2 = (mid.refill L S further).2 ∧
      pulls (p.refill L S base).1.notes = held.length + pulls (mid.refill L S further).1.notes := by
  induction gathers generalizing base with
  | nothing => exact ⟨base, drained, rfl, rfl, rfl, (Nat.zero_add _).symm⟩
  | @more p next later token role raw taken structural rest ih =>
    obtain ⟨answer, drained, kept⟩ := Source.next_of_drain_cons drained
    obtain ⟨further, drained, fault, outcome, state, asked⟩ := ih drained
    have step := p.refill_answered L S base
    rw [answer] at step
    simp only [taken] at step
    have step : (p.refill L S base).1.outcome = (next.refill L S (S.next base).2).1.outcome ∧
        (p.refill L S base).2 = (next.refill L S (S.next base).2).2 ∧
        pulls (p.refill L S base).1.notes =
          1 + pulls (next.refill L S (S.next base).2).1.notes := by
      cases role with
      | ordinary => exact absurd rfl structural
      | indentation => exact step
      | lineBreak => exact step
    refine ⟨further, drained, fault.trans kept, step.1.trans outcome, step.2.1.trans state, ?_⟩
    rw [step.2.2, asked, List.length_cons]
    omega

/-- A refill takes one round, and asks for as many raw tokens. -/
theorem Gathers.refill_round (gathers : Gathers L p held mid)
    (taken : (mid.take L token).outcome = .ok (ready, .ordinary))
    (drained : (S.drain base).tokens = held ++ token :: left) :
    (p.refill L S base).1.outcome = .ok ready ∧
      pulls (p.refill L S base).1.notes = held.length + 1 ∧
      (S.drain (p.refill L S base).2).tokens = left ∧
      (S.drain (p.refill L S base).2).fault = (S.drain base).fault := by
  obtain ⟨further, drained, fault, outcome, state, asked⟩ := gathers.refill drained
  obtain ⟨answer, drained, kept⟩ := Source.next_of_drain_cons drained
  have step := mid.refill_answered L S further
  rw [answer] at step
  simp only [taken] at step
  refine ⟨outcome.trans step.1, ?_, ?_, ?_⟩
  · rw [asked, step.2.2]
  · rw [state, step.2.1, drained]
  · rw [state, step.2.1, kept, fault]

/-- A refill that is stopped by a fault asks once more than it takes raw tokens. -/
theorem Gathers.refill_stopped {refusal : Fault} {rest : List Token}
    (gathers : Gathers L p held mid)
    (stops : Stops L mid left fault (rest, some refusal))
    (drained : (S.drain base).tokens = held ++ left) (ended : (S.drain base).fault = fault) :
    (p.refill L S base).1.outcome = .error refusal ∧
      pulls (p.refill L S base).1.notes = held.length + 1 := by
  obtain ⟨further, drained, kept, outcome, _, asked⟩ := gathers.refill drained
  have step := mid.refill_answered L S further
  suffices stopped : (mid.refill L S further).1.outcome = .error refusal ∧
      pulls (mid.refill L S further).1.notes = 1 by
    rw [outcome, asked, stopped.1, stopped.2]
    exact ⟨rfl, rfl⟩
  cases stops with
  | broken =>
    rw [Source.next_of_drain_nil drained, kept, ended] at step
    exact step
  | refused taken =>
    rw [(Source.next_of_drain_cons drained).1] at step
    simp only [taken] at step
    exact step
  | refusedEnd finished =>
    rw [Source.next_of_drain_nil drained, kept, ended] at step
    simp only [finished] at step
    exact step

end

end Progress

namespace Layout

section

variable [Ord δ] [DecidableEq δ] [DecidableEq μ] {L : Layout δ μ} {S : Source}

/-- What is ready is delivered without another raw token being asked for. -/
theorem hands_ready (L : Layout δ μ) (p : Progress δ μ) (base : S.State)
    (ready queue : List Token) :
    ∃ notes, (L.source S).Hands ⟨{ p with queue := ready ++ queue }, base⟩ ready notes
      ⟨{ p with queue }, base⟩ ∧ pulls notes = 0 := by
  induction ready with
  | nil => exact ⟨[], .nothing _, rfl⟩
  | cons token ready ih =>
    obtain ⟨notes, hands, none⟩ := ih
    exact ⟨notes, .token rfl hands, none⟩

omit [DecidableEq δ] [DecidableEq μ] in
/-- Where a refill is due, what it asks for is all that is asked for. -/
theorem notes_next {cursor : Cursor δ μ S.State} (empty : cursor.progress.queue = [])
    (unfinished : cursor.progress.phase ≠ .finished) :
    (L.next S cursor).1.notes = (cursor.progress.refill L S cursor.base).1.notes := by
  simp only [next, empty, unfinished, if_false, notes_map, notes_mapLeft]

/-- What a refill gets ready is delivered while nothing else is asked for. -/
theorem hands_refill {p ready : Progress δ μ} {base : S.State} (empty : p.queue = [])
    (unfinished : p.phase ≠ .finished) (filled : (p.refill L S base).1.outcome = .ok ready)
    (nonempty : ready.queue ≠ []) :
    ∃ notes, (L.source S).Hands ⟨p, base⟩ ready.queue notes
      ⟨{ ready with queue := [] }, (p.refill L S base).2⟩ ∧
        pulls notes = pulls (p.refill L S base).1.notes := by
  obtain ⟨first, queue, queued⟩ := List.exists_cons_of_ne_nil nonempty
  obtain ⟨answer, state⟩ : (L.next S ⟨p, base⟩).1.outcome = _ ∧ (L.next S ⟨p, base⟩).2 = _ :=
    next_filled empty unfinished filled
  rw [queued] at answer state ⊢
  obtain ⟨notes, hands, none⟩ := hands_ready L ready (p.refill L S base).2 queue []
  rw [List.append_nil] at hands
  have asked : (L.next S ⟨p, base⟩).1.notes = _ := notes_next empty unfinished
  refine ⟨(L.next S ⟨p, base⟩).1.notes ++ notes, .token answer ?_, ?_⟩
  · show (L.source S).Hands (L.next S ⟨p, base⟩).2 queue notes _
    rw [state]
    exact hands
  · rw [pulls_append, none, asked, Nat.add_zero]

/-- Rounds of raw tokens are delivered while just these are asked for. -/
theorem hands_settles {p later : Progress δ μ} {base : S.State} {settled left tokens : List Token}
    (settles : p.Settles L settled tokens later) (empty : p.queue = [])
    (unfinished : p.phase ≠ .finished) (drained : (S.drain base).tokens = settled ++ left) :
    ∃ notes further, (L.source S).Hands ⟨p, base⟩ tokens notes ⟨later, further⟩ ∧
      pulls notes = settled.length ∧ (S.drain further).tokens = left ∧
      (S.drain further).fault = (S.drain base).fault ∧ later.queue = [] ∧
      later.phase ≠ .finished := by
  induction settles generalizing base with
  | nothing => exact ⟨[], base, .nothing _, rfl, drained, rfl, empty, unfinished⟩
  | @round p mid ready later held raw tokens token gathered taken rest ih =>
    rw [List.append_assoc, List.cons_append] at drained
    obtain ⟨filled, asked, drained, kept⟩ := gathered.refill_round taken drained
    obtain ⟨body, nonempty⟩ := Progress.body_of_feed_ordinary (Progress.take_eq_ok taken).2
    obtain ⟨first, round, once⟩ := hands_refill empty unfinished filled nonempty
    obtain ⟨notes, further, hands, pulled, drained, fault, empty, unfinished⟩ :=
      ih rfl (by simp [body]) drained
    refine ⟨first ++ notes, further, round.append hands, ?_, drained, fault.trans kept, empty,
      unfinished⟩
    rw [pulls_append, once, asked, pulled, List.length_append, List.length_cons]
    omega

/-- Asked for no more than the given tokens, a layout delivers these on a text, no fault shows, and
just so many raw tokens are asked for; and a reading of the whole text starts with them. -/
def DeliversOn (L : Layout δ μ) (S : Source) (elsewhere : Cursor δ μ S.State) (text : String)
    (count : Nat) (tokens : List Token) : Prop :=
  let run := (L.source S).take tokens.length ((L.source S).reset elsewhere text none).2
  run.1 = tokens.map some ∧ run.2.1 = none ∧ pulls run.2.2.1 = count ∧
    tokens <+: ((L.source S).readFrom elsewhere text).tokens

variable {elsewhere : Cursor δ μ S.State} {text : String}

/-- A layout is reset where the source beneath is. -/
theorem reset_fresh (accepted : (S.reset elsewhere.base text none).1.outcome = .ok ()) :
    ((L.source S).reset elsewhere text none).1.outcome = .ok () ∧
      ((L.source S).reset elsewhere text none).2 =
        ⟨L.fresh, (S.reset elsewhere.base text none).2⟩ ∧
      pulls ((L.source S).reset elsewhere text none).1.notes = 0 :=
  ⟨reset_accepted.2 accepted, reset_back accepted, Quiet.bind rfl fun _ => quiet_deeper _⟩

/-- Rounds of raw tokens are delivered on every text that starts with them. -/
theorem deliversOn_of_settles {settled tokens : List Token} {later : Progress δ μ}
    (settles : L.fresh.Settles L settled tokens later)
    (comes : settled <+: (S.readFrom elsewhere.base text).tokens) :
    L.DeliversOn S elsewhere text settled.length tokens := by
  cases accepted : (S.reset elsewhere.base text none).1.outcome with
  | error fault =>
    rw [Source.readFrom_refused accepted, List.prefix_nil] at comes
    subst comes
    rcases settles.ends with ⟨_, rfl⟩ | ⟨front, token, _, split, _⟩
    · exact ⟨rfl, rfl, rfl, List.nil_prefix⟩
    · simp at split
  | ok _ =>
    obtain ⟨started, fresh, _⟩ := reset_fresh (L := L) accepted
    obtain ⟨left, drained⟩ := comes
    rw [Source.readFrom_accepted accepted] at drained
    obtain ⟨notes, further, hands, asked, _⟩ :=
      hands_settles settles rfl (by simp [Layout.fresh]) drained.symm
    have run := hands.take
    have whole := hands.drain
    unfold DeliversOn
    rw [fresh, run]
    refine ⟨rfl, rfl, asked, ?_⟩
    rw [Source.readFrom_accepted started, fresh, whole]
    exact List.prefix_append _ _

/-- Where a fault shows, one more raw token was asked for than was taken without one. -/
theorem pulls_of_stopped {settled held left tokens : List Token} {mid later : Progress δ μ}
    {refusal : Fault} (accepted : (S.reset elsewhere.base text none).1.outcome = .ok ())
    (split : (S.readFrom elsewhere.base text).tokens = settled ++ (held ++ left))
    (settles : L.fresh.Settles L settled tokens mid) (gathers : mid.Gathers L held later)
    (stops : later.Stops L left (S.readFrom elsewhere.base text).fault ([], some refusal)) :
    pulls ((L.source S).readFrom elsewhere text).notes = (settled ++ held).length + 1 := by
  obtain ⟨started, fresh, quiet⟩ := reset_fresh (L := L) accepted
  rw [Source.readFrom_accepted accepted] at split stops
  obtain ⟨notes, further, hands, asked, drained, kept, empty, unfinished⟩ :=
    hands_settles settles rfl (by simp [Layout.fresh]) split
  obtain ⟨refused, pulled⟩ := gathers.refill_stopped stops drained kept
  have answer : ((L.source S).next ⟨mid, further⟩).1.outcome = .error refusal :=
    next_refused empty unfinished refused
  have last : ((L.source S).next ⟨mid, further⟩).1.notes = (mid.refill L S further).1.notes :=
    notes_next empty unfinished
  rw [Source.readFrom_accepted started, fresh, hands.drain, Source.drain_fault answer, last]
  simp only [pulls_append, quiet, asked, pulled, List.length_append]
  omega

omit [Ord δ] [DecidableEq δ] [DecidableEq μ] in
/-- An ordinary token among rounds and what is gathered after them stands among the rounds. -/
theorem prefix_of_ordinary {front settled held : List Token} {token : Token}
    (ordinary : L.isOrdinary token = true) (structural : ∀ token ∈ held, L.isOrdinary token = false)
    (comes : front ++ [token] <+: settled ++ held) : front ++ [token] <+: settled := by
  obtain ⟨rest, split⟩ := comes
  rcases List.append_eq_append_iff.1 split with ⟨more, rfl, _⟩ | ⟨more, ends, inside⟩
  · exact List.prefix_append _ more
  · rcases List.eq_nil_or_concat more with rfl | ⟨before, last, rfl⟩
    · rw [List.append_nil] at ends
      exact ends ▸ List.prefix_refl _
    · rw [List.concat_eq_append, ← List.append_assoc] at ends
      obtain ⟨_, same⟩ := List.append_inj' ends rfl
      obtain rfl : token = last := by simpa using same
      have other := structural token (by simp [inside])
      rw [ordinary] at other
      cases other

/-- A reading delivers rounds of its raw tokens. Where a fault ends it, that is all, and of the raw
tokens no more are taken than these and some that are not ordinary; where none does, all are. -/
theorem read_cases (L : Layout δ μ) (S : Source) (elsewhere : Cursor δ μ S.State) (text : String) :
    let raw := (S.readFrom elsewhere.base text).tokens
    let reading := (L.source S).readFrom elsewhere text
    ∃ settled held tokens mid later, L.fresh.Settles L settled tokens mid ∧
      mid.Gathers L held later ∧ (reading.fault = none → raw = settled ++ held) ∧
      ∀ fault, reading.fault = some fault → reading.tokens = tokens ∧
        raw.take (pulls reading.notes - 1) = settled ++ held := by
  intro raw reading
  obtain ⟨settled, held, left, tokens, mid, later, ⟨rest, ending⟩, split, settles, gathers, stops,
    same⟩ := L.fresh.deliverRaw_cases L raw (S.readFrom elsewhere.base text).fault
  have read : (reading.tokens, reading.fault) = (tokens ++ rest, ending) :=
    (L.readFrom_eq_deliver S elsewhere text).trans same
  obtain ⟨delivered, ended⟩ := Prod.mk.inj read
  refine ⟨settled, held, tokens, mid, later, settles, gathers, ?_, ?_⟩
  · intro complete
    obtain rfl := complete.symm.trans ended
    obtain rfl := stops.whole
    rw [split, List.append_nil]
  · intro fault failed
    obtain rfl := failed.symm.trans ended
    obtain rfl := stops.nothing
    refine ⟨delivered.trans (List.append_nil tokens), ?_⟩
    -- a reset that is refused leaves no raw token, so what was asked for does not matter
    cases accepted : (S.reset elsewhere.base text none).1.outcome with
    | error refusal =>
      have empty : raw = [] := congrArg Source.Reading.tokens (Source.readFrom_refused accepted)
      rw [empty, List.nil_eq_append_iff, List.append_eq_nil_iff] at split
      obtain ⟨rfl, rfl, rfl⟩ := split
      rw [empty]
      exact List.take_nil
    | ok _ =>
      rw [pulls_of_stopped accepted split settles gathers stops, Nat.add_sub_cancel, split,
        ← List.append_assoc]
      exact List.take_left

/-- Where a fault ends a reading, what was delivered is what the layout delivers up to the last
ordinary token before the raw token that was asked for last, on every text that starts with these
raw tokens; it ends with that token, and is nothing if there is none. And wherever raw tokens up to
an ordinary one are taken without a fault, the same is delivered up to that token on every text that
starts with them. -/
theorem delivered_until_ordinary (L : Layout δ μ) (S : Source) (elsewhere : Cursor δ μ S.State)
    (text : String) :
    let raw := (S.readFrom elsewhere.base text).tokens
    let reading := (L.source S).readFrom elsewhere text
    (∀ fault, reading.fault = some fault →
      let settled := L.settled (raw.take (pulls reading.notes - 1))
      reading.tokens.getLast? = settled.getLast? ∧
        ∀ (T : Source) (there : Cursor δ μ T.State) (other : String),
          settled <+: (T.readFrom there.base other).tokens →
            L.DeliversOn T there other settled.length reading.tokens) ∧
      ∀ front token, L.classify token = .ok .ordinary → front ++ [token] <+: raw →
        (reading.fault ≠ none → (front ++ [token]).length < pulls reading.notes) →
          ∃ tokens, tokens.getLast? = some token ∧
            ∀ (T : Source) (there : Cursor δ μ T.State) (other : String),
              front ++ [token] <+: (T.readFrom there.base other).tokens →
                L.DeliversOn T there other (front ++ [token]).length tokens := by
  intro raw reading
  obtain ⟨settled, held, tokens, mid, later, settles, gathers, complete, cut⟩ :=
    L.read_cases S elsewhere text
  constructor
  · intro fault failed
    obtain ⟨delivered, taken⟩ := cut fault failed
    dsimp only
    rw [delivered, taken, settles.settled_eq gathers]
    exact ⟨settles.getLast?_eq, fun T there other starts => deliversOn_of_settles settles starts⟩
  · intro front token classified comes survives
    have ordinary : L.isOrdinary token = true := by rw [isOrdinary, classified]
    have among : front ++ [token] <+: settled ++ held := by
      cases failed : reading.fault with
      | none => exact complete failed ▸ comes
      | some fault =>
        have further := survives (by simp [failed])
        rw [← (cut fault failed).2]
        exact List.prefix_take_iff.2 ⟨comes, Nat.le_sub_one_of_lt further⟩
    obtain ⟨earlier, middle, rounds⟩ := settles.until_ordinary ordinary
      (prefix_of_ordinary ordinary gathers.structural among)
    refine ⟨earlier, ?_, ?_⟩
    · rw [rounds.getLast?_eq, List.getLast?_concat]
    · intro T there other starts
      exact deliversOn_of_settles rounds starts

end

/-- A line and a deeper one; and a text that goes on to a line that is misplaced. The words of the
first two lines are delivered of both, and nothing else is of the second. -/
theorem delivered_until_ordinary_stray :
    let L := standard
    let front : List Token := [⟨"WORD", "a", {}⟩, ⟨"NL", "\n", {}⟩, ⟨"WS", "    ", {}⟩]
    let word : Token := ⟨"WORD", "b", {}⟩
    let raw := front ++ [word, ⟨"NL", "\n", {}⟩, ⟨"WS", "  ", {}⟩, ⟨"WORD", "c", {}⟩]
    let S : Source := .scripted ((front ++ [word]).map some) []
    let T : Source := .scripted (raw.map some) []
    let failing := (L.source T).read ""
    failing.fault.isSome ∧ failing.tokens.map Token.face =
        [("WORD", "a"), ("eol", "\n"), ("indent", "    "), ("WORD", "b")] ∧
      failing.tokens.getLast? =
        (L.settled (raw.take (pulls failing.notes - 1))).getLast? ∧
      ∃ tokens, tokens.getLast? = some word ∧ L.DeliversOn S ⟨L.fresh, S.start⟩ "" 4 tokens ∧
        L.DeliversOn T ⟨L.fresh, T.start⟩ "" 4 tokens := by
  intro L front word raw S T failing
  obtain ⟨given, ended⟩ : (S.readFrom S.start "").tokens = front ++ [word] ∧
      (S.readFrom S.start "").fault = none := Source.readFrom_scripted _ [] 0 ""
  obtain ⟨givenT, endedT⟩ : (T.readFrom T.start "").tokens = raw ∧
      (T.readFrom T.start "").fault = none := Source.readFrom_scripted _ [] 0 ""
  have read := L.readFrom_eq_deliver S ⟨L.fresh, S.start⟩ ""
  have readT := L.readFrom_eq_deliver T ⟨L.fresh, T.start⟩ ""
  simp only [given, ended, givenT, endedT] at read readT
  obtain ⟨tokensT, faultT⟩ := Prod.mk.inj readT
  have stopped : failing.fault.isSome := (congrArg Option.isSome faultT).trans (by decide)
  have ordinary : L.classify word = .ok .ordinary := congrArg Except.ok (by decide)
  have complete : ((L.source S).readFrom ⟨L.fresh, S.start⟩ "").fault = none :=
    (Prod.mk.inj read).2.trans (Option.isNone_iff_eq_none.1 (by decide))
  refine ⟨stopped, (congrArg (List.map Token.face) tokensT).trans (by decide), ?_, ?_⟩
  · obtain ⟨fault, failed⟩ := Option.isSome_iff_exists.1 stopped
    have cut := (L.delivered_until_ordinary T ⟨L.fresh, T.start⟩ "").1 fault failed
    rw [givenT] at cut
    exact cut.1
  · obtain ⟨tokens, last, everywhere⟩ :=
      (L.delivered_until_ordinary S ⟨L.fresh, S.start⟩ "").2 front word ordinary
        (given ▸ List.prefix_refl _) fun failed => absurd complete failed
    refine ⟨tokens, last, ?_, ?_⟩
    · exact everywhere S ⟨L.fresh, S.start⟩ "" (given ▸ List.prefix_refl _)
    · exact everywhere T ⟨L.fresh, T.start⟩ "" (givenT ▸ by decide)

end Layout

end Offside
