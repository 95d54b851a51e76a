import Offside.Proofs.StartingOver

/-! When snapshots are equal. Snapshots leave the places of tokens aside, and yet two of them, taken
on the way through a text, are equal only where nothing happens any more between them: each token
that is delivered either shortens what is ready or moves the source beneath further on, and a source
that has moved on never shows an earlier snapshot again. So equal snapshots of a text are snapshots
of one and the same state. -/
namespace Offside

namespace Source

/-- From a state to another by a number of calls, none of which shows a fault. -/
inductive Walk (S : Source) (first : S.State) : Nat → S.State → Prop where
  | stay : Walk S first 0 first
  | call {count : Nat} {state : S.State} {answer : Option Token} (walked : Walk S first count state)
      (answered : (S.next state).1.outcome = .ok answer) : Walk S first (count + 1) (S.next state).2

section

variable {S : Source} {first one other : S.State} {i j : Nat}

theorem Walk.append (walked : S.Walk first i one) (further : S.Walk one j other) :
    S.Walk first (i + j) other := by
  induction further with
  | stay => exact walked
  | call further answered ih => exact .call ih answered

theorem Walk.of_call {answer : Option Token} (answered : (S.next first).1.outcome = .ok answer) :
    S.Walk first 1 (S.next first).2 :=
  .call .stay answered

theorem Walk.last {last : S.State} (walked : S.Walk first (i + 1) last) :
    ∃ state answer, S.Walk first i state ∧ (S.next state).1.outcome = .ok answer ∧
      last = (S.next state).2 := by
  cases walked with
  | call walked answered => exact ⟨_, _, walked, answered, rfl⟩

/-- Calls are answered in one way only. -/
theorem Walk.unique (walked : S.Walk first i one) (likewise : S.Walk first i other) :
    one = other := by
  induction walked generalizing other with
  | stay =>
    cases likewise
    rfl
  | call walked answered ih =>
    obtain ⟨state, answer, before, -, rfl⟩ := likewise.last
    rw [ih before]

/-- Of two walks from one state the longer goes on where the shorter ends. -/
theorem Walk.rest (walked : S.Walk first i one) (longer : S.Walk first (i + j) other) :
    S.Walk one j other := by
  induction j generalizing other with
  | zero =>
    rw [walked.unique longer]
    exact .stay
  | succ j ih =>
    obtain ⟨state, answer, before, answered, rfl⟩ := longer.last
    exact .call (ih before) answered

/-- Where a call changes nothing, no number of calls does. -/
theorem Walk.eq_of_rest (resting : (S.next first).2 = first) (walked : S.Walk first i one) :
    one = first := by
  induction walked with
  | stay => rfl
  | call walked answered ih =>
    rw [ih]
    exact resting

/-- Where a token was delivered, no later snapshot equals the one from before. -/
def MovesOn (S : Source) : Prop :=
  ∀ first later count token, (S.next first).1.outcome = .ok (some token) →
    S.Walk first (count + 1) later → S.agree (S.save first) (S.save later) = false

/-- Tokens that are delivered one after the other are a walk that starts with a token. -/
theorem Walk.of_delivers {later : S.State}
    (delivered : Relation.TransGen (Delivers S.next) later first) :
    ∃ count token, (S.next first).1.outcome = .ok (some token) ∧
      S.Walk first (count + 1) later := by
  induction delivered with
  | single delivers =>
    obtain ⟨token, answered, rfl⟩ := delivers
    exact ⟨0, token, answered, .of_call answered⟩
  | tail earlier delivers ih =>
    obtain ⟨token, answered, rfl⟩ := delivers
    obtain ⟨count, _, _, walked⟩ := ih
    refine ⟨count + 1, token, answered, ?_⟩
    rw [Nat.add_comm (count + 1) 1]
    exact (Walk.of_call answered).append walked

end

/-- A count that calls never lower, and that a delivered token raises, tells snapshots apart. -/
theorem movesOn_of_count {S : Source} (count : S.State → Nat)
    (agree : ∀ one other, S.agree (S.save one) (S.save other) = (count one == count other))
    (never_back : ∀ state, count state ≤ count (S.next state).2)
    (onward : ∀ state token, (S.next state).1.outcome = .ok (some token) →
      count state < count (S.next state).2) : S.MovesOn := by
  have kept : ∀ {first later calls}, S.Walk first calls later → count first ≤ count later := by
    intro first later calls walked
    induction walked with
    | stay => exact Nat.le_refl _
    | call walked answered ih => exact Nat.le_trans ih (never_back _)
  intro first later calls token delivered walked
  have further : S.Walk (S.next first).2 calls later := by
    rw [Nat.add_comm] at walked
    exact (Walk.of_call delivered).rest walked
  have raised := onward first token delivered
  have left := kept further
  rw [agree, beq_eq_false_iff_ne]
  omega

theorem movesOn_scripted (entries : List (Option Token)) (names : List String) :
    (scripted entries names).MovesOn := by
  let position (state : (scripted entries names).State) : Nat := state
  refine movesOn_of_count position (fun _ _ => rfl) ?_ ?_
  · intro state
    unfold scripted
    dsimp only
    split
    · exact Nat.le_refl (position state)
    · exact Nat.le_succ (position state)
  · intro state token delivered
    unfold scripted at delivered ⊢
    dsimp only at delivered ⊢
    split at delivered
    · cases delivered
    · exact Nat.lt_succ_self (position state)

end Source

theorem Lexicon.movesOn_source (L : Lexicon) : L.source.MovesOn := by
  refine Source.movesOn_of_count (S := L.source) (fun cursor => Cursor.delivered cursor)
    (fun _ _ => rfl) ?_ ?_
  · intro cursor
    show Cursor.delivered cursor ≤ (next cursor).2.delivered
    unfold next
    split
    · exact Nat.le_succ _
    · split <;> exact Nat.le_refl _
  · intro cursor token delivered
    have delivered : (next cursor).1.outcome = .ok (some token) := delivered
    show Cursor.delivered cursor < (next cursor).2.delivered
    unfold next at delivered ⊢
    split at delivered
    · exact Nat.lt_succ_self _
    · split at delivered <;> cases delivered

section

variable {δ μ : Type} [Ord δ] {L : Layout δ μ} {S : Source} {cursor : Layout.Cursor δ μ S.State}

namespace Layout

/-- What an answer does to a cursor: it takes a token that is ready; or the text has ended, and it
changes nothing; or more of the text is laid out, and the text ends or the source beneath delivers
tokens. -/
theorem next_moves {answer : Option Token}
    (answered : (L.next S cursor).1.outcome = .ok answer) :
    (∃ token queue, cursor.progress.queue = token :: queue ∧
      (L.next S cursor).2 = ⟨{ cursor.progress with queue }, cursor.base⟩) ∨
    (cursor.progress.queue = [] ∧ cursor.progress.phase = .finished ∧
      (L.next S cursor).2 = cursor) ∨
    (cursor.progress.phase ≠ .finished ∧ ((L.next S cursor).2.progress.phase = .finished ∨
      Relation.TransGen (Delivers S.next) (L.next S cursor).2.base cursor.base)) := by
  cases ready : cursor.progress.queue with
  | cons token queue =>
    rw [next_ready ready]
    exact .inl ⟨token, queue, rfl, rfl⟩
  | nil =>
    by_cases finished : cursor.progress.phase = .finished
    · rw [next_finished ready finished]
      exact .inr (.inl ⟨rfl, finished, rfl⟩)
    · cases filled : (cursor.progress.refill L S cursor.base).1.outcome with
      | error fault =>
        rw [next_refused ready finished filled] at answered
        cases answered
      | ok later =>
        have shrunk := Progress.refill_shrinks filled
        rw [(next_filled ready finished filled).2]
        exact .inr (.inr ⟨finished, shrunk⟩)

variable [DecidableEq δ] [DecidableEq μ]

/-- Where a walk leads to: either it only took tokens that were ready, and found no more of them
only if the text had ended; or more of the text was laid out on the way. -/
theorem walk_moves {count : Nat} {later : (L.source S).State}
    (walked : (L.source S).Walk cursor count later) :
    (later = ⟨{ cursor.progress with queue := cursor.progress.queue.drop count }, cursor.base⟩ ∧
      (count ≤ cursor.progress.queue.length ∨ cursor.progress.phase = .finished)) ∨
    (cursor.progress.phase ≠ .finished ∧ (later.progress.phase = .finished ∨
      Relation.TransGen (Delivers S.next) later.base cursor.base)) := by
  induction walked with
  | stay => exact .inl ⟨rfl, .inl (Nat.zero_le _)⟩
  | @call count state answer walked answered ih =>
    have moves := next_moves (show (L.next S state).1.outcome = .ok answer from answered)
    show ((L.next S state).2 = _ ∧ _) ∨
      (_ ∧ ((L.next S state).2.progress.phase = _ ∨
        Relation.TransGen _ (L.next S state).2.base cursor.base))
    rcases ih with ⟨rfl, within⟩ | ⟨unfinished, onward⟩
    · rcases moves with ⟨token, queue, ready, same⟩ | ⟨empty, finished, same⟩ | onward
      · refine .inl ⟨?_, ?_⟩
        · have rest : cursor.progress.queue.drop (count + 1) = queue := by
            rw [← List.tail_drop]
            exact congrArg List.tail ready
          rw [same, rest]
        · refine .inl ?_
          have more : 0 < (cursor.progress.queue.drop count).length := by
            rw [show cursor.progress.queue.drop count = _ from ready]
            exact Nat.succ_pos _
          rw [List.length_drop] at more
          omega
      · refine .inl ⟨?_, .inr finished⟩
        have empty : cursor.progress.queue.drop count = [] := empty
        have rest : cursor.progress.queue.drop (count + 1) = [] := by
          rw [← List.tail_drop, empty]
          rfl
        rw [same, empty, rest]
      · exact .inr onward
    · refine .inr ⟨unfinished, ?_⟩
      rcases moves with ⟨_, _, _, same⟩ | ⟨_, _, same⟩ | ⟨going, ended | further⟩
      · rw [same]
        exact onward
      · rw [same]
        exact onward
      · exact .inl ended
      · exact .inr (further.trans (onward.resolve_left going))

/-- Snapshots of a layout are equal where all parts of them are. -/
theorem agree_iff {one other : Cursor δ μ S.State} :
    (L.source S).agree ((L.source S).save one) ((L.source S).save other) = true ↔
      one.progress.Agrees other.progress ∧
        S.agree (S.save one.base) (S.save other.base) = true :=
  Bool.and_eq_true_iff.trans (and_congr_left' decide_eq_true_iff)

/-- A snapshot from before a walk equals the one from after it only if the text had ended and no
token was ready. -/
theorem finished_of_agree (beneath : S.MovesOn) {count : Nat} {later : (L.source S).State}
    (walked : (L.source S).Walk cursor (count + 1) later)
    (agree : (L.source S).agree ((L.source S).save cursor) ((L.source S).save later) = true) :
    cursor.progress.phase = .finished ∧ cursor.progress.queue = [] := by
  obtain ⟨⟨_, queue, phase, _⟩, agreeBase⟩ := agree_iff.1 agree
  rcases walk_moves walked with ⟨rfl, within⟩ | ⟨unfinished, ended | delivered⟩
  · have lengths := congrArg List.length queue
    simp only [List.length_map, List.length_drop] at lengths
    refine ⟨within.resolve_left ?_, List.length_eq_zero_iff.1 ?_⟩
    · omega
    · omega
  · exact absurd (phase.trans ended) unfinished
  · obtain ⟨calls, token, answered, onward⟩ := Source.Walk.of_delivers delivered
    rw [beneath cursor.base later.base calls token answered onward] at agreeBase
    cases agreeBase

/-- At the end of a text with no token ready, calls change nothing. -/
theorem next_at_end (finished : cursor.progress.phase = .finished)
    (empty : cursor.progress.queue = []) :
    (L.source S).next cursor = (pure none, cursor) :=
  next_finished empty finished

theorem movesOn_source (beneath : S.MovesOn) : (L.source S).MovesOn := by
  intro cursor later count token answered walked
  cases agree : (L.source S).agree ((L.source S).save cursor) ((L.source S).save later) with
  | false => rfl
  | true =>
    obtain ⟨finished, empty⟩ := finished_of_agree beneath walked agree
    rw [next_at_end finished empty] at answered
    cases answered

end Layout

end

namespace Stacked

variable {S : Source} {text : String}

theorem movesOn (stacked : Stacked S) : S.MovesOn := by
  induction stacked with
  | lexicon L => exact L.movesOn_source
  | scripted entries names => exact Source.movesOn_scripted entries names
  | layout L beneath ih => exact Layout.movesOn_source ih

theorem agree_symm (stacked : Stacked S) {one other : S.Snapshot}
    (agree : S.agree one other = true) : S.agree other one = true := by
  induction stacked with
  | lexicon L => exact beq_iff_eq.2 (beq_iff_eq (α := Nat).1 agree).symm
  | scripted entries names => exact beq_iff_eq.2 (beq_iff_eq (α := Nat).1 agree).symm
  | layout L beneath ih =>
    obtain ⟨same, agreeBase⟩ := Bool.and_eq_true_iff.1 agree
    obtain ⟨levels, queue, phase, last, indentation, margin, memories⟩ := of_decide_eq_true same
    refine Bool.and_eq_true_iff.2 ⟨decide_eq_true ?_, ih agreeBase⟩
    exact ⟨levels.symm, queue.symm, phase.symm, last.symm, indentation.symm, margin.symm,
      memories.symm⟩

/-- A source that goes back to the snapshot of a reached state is in that state again. -/
theorem back_of_accepted (stacked : Stacked S) {state elsewhere : S.State}
    (reached : S.Reached text state)
    (accepted : (S.reset elsewhere text (some (S.save state))).1.outcome = .ok ()) :
    (S.reset elsewhere text (some (S.save state))).2 = state := by
  induction stacked with
  | lexicon L =>
    obtain ⟨count, _, rfl⟩ := Lexicon.eq_after_of_reached reached
    exact (Lexicon.after_of_resume accepted).2
  | scripted entries names => rfl
  | @layout δ μ _ _ _ L S beneath ih =>
    obtain ⟨progress, base⟩ := elsewhere
    have accepted := Layout.reset_accepted.1 accepted
    have back := ih (Layout.reached_base reached) accepted
    exact (Layout.reset_back accepted).trans (congrArg (Layout.Cursor.mk state.progress) back)

/-- Every state that is reached on a text is reached by calls alone, from the state in which an
unused source is put on the text. -/
theorem walk_of_reached (stacked : Stacked S) {state : S.State} (reached : S.Reached text state) :
    ∃ count, S.Walk (S.reset S.start text none).2 count state := by
  induction reached with
  | @restarted elsewhere accepted =>
    rw [stacked.forgets.state elsewhere S.start text none accepted]
    exact ⟨0, .stay⟩
  | asked reached answered ih =>
    obtain ⟨count, walked⟩ := ih
    exact ⟨count + 1, .call walked answered⟩
  | resumed reached accepted ih =>
    rw [stacked.back_of_accepted reached accepted]
    exact ih

end Stacked

namespace Layout

variable {δ μ : Type} [Ord δ] [DecidableEq δ] [DecidableEq μ] {L : Layout δ μ} {S : Source}
  {text : String}

/-- Of two states on one walk the later one shows an equal snapshot only where it is the same. -/
theorem eq_of_agree_later (beneath : Stacked S) {first one other : (L.source S).State}
    {count more : Nat} (walked : (L.source S).Walk first count one)
    (longer : (L.source S).Walk first (count + more) other)
    (agree : (L.source S).agree ((L.source S).save one) ((L.source S).save other) = true) :
    other = one := by
  have onward := walked.rest longer
  cases more with
  | zero => exact longer.unique walked
  | succ more =>
    obtain ⟨finished, empty⟩ := finished_of_agree beneath.movesOn onward agree
    exact onward.eq_of_rest (congrArg Prod.snd (next_at_end finished empty))

/-- Reached states with equal snapshots are the same. -/
theorem eq_of_agree (beneath : Stacked S) {one other : (L.source S).State}
    (reachedOne : (L.source S).Reached text one) (reachedOther : (L.source S).Reached text other)
    (agree : (L.source S).agree ((L.source S).save one) ((L.source S).save other) = true) :
    one = other := by
  have stacked : Stacked (L.source S) := .layout L beneath
  obtain ⟨i, first⟩ := stacked.walk_of_reached reachedOne
  obtain ⟨j, second⟩ := stacked.walk_of_reached reachedOther
  by_cases earlier : i ≤ j
  · obtain ⟨more, rfl⟩ := Nat.exists_eq_add_of_le earlier
    exact (eq_of_agree_later beneath first second agree).symm
  · obtain ⟨more, rfl⟩ := Nat.exists_eq_add_of_le (Nat.le_of_not_le earlier)
    exact eq_of_agree_later beneath second first (stacked.agree_symm agree)

/-- Of two snapshots that are taken on the way through a text the later one equals the earlier one
exactly if the text had already ended at the earlier one, with no token left to be delivered. So
snapshots of a text that are equal, however they were reached, are taken up alike: the same calls
get the same answers, places of tokens included, although places are not compared. -/
theorem agree_iff_at_end (L : Layout δ μ) (beneath : Stacked S) (text : String) :
    (∀ (elsewhere one other : Cursor δ μ S.State) (i j : Nat),
      let first := (L.source S).reset elsewhere text none
      first.1.outcome = .ok () → i < j →
        (L.source S).Walk first.2 i one → (L.source S).Walk first.2 j other →
          ((L.source S).agree ((L.source S).save one) ((L.source S).save other) = true ↔
            one.progress.phase = .finished ∧ one.progress.queue = [])) ∧
      ∀ one other : (L.source S).State,
        (L.source S).Reached text one → (L.source S).Reached text other →
          (L.source S).agree ((L.source S).save one) ((L.source S).save other) = true →
            (∀ calls, (L.source S).perform calls one = (L.source S).perform calls other) ∧
              ∀ sessions elsewhere,
                (L.source S).rounds text ((L.source S).save one) sessions elsewhere =
                  (L.source S).rounds text ((L.source S).save other) sessions elsewhere := by
  constructor
  · intro elsewhere one other i j first accepted earlier walked longer
    obtain ⟨more, rfl⟩ := Nat.exists_eq_add_of_lt earlier
    have onward : (L.source S).Walk one (more + 1) other := walked.rest longer
    constructor
    · exact finished_of_agree beneath.movesOn onward
    · rintro ⟨finished, empty⟩
      have resting : ((L.source S).next one).2 = one :=
        congrArg Prod.snd (next_at_end finished empty)
      rw [onward.eq_of_rest resting]
      exact (Stacked.layout L beneath).agree_self _
  · intro one other reachedOne reachedOther agree
    obtain rfl := eq_of_agree beneath reachedOne reachedOther agree
    exact ⟨fun _ => rfl, fun _ _ => rfl⟩

/-- A text of one word: delivering the word makes a snapshot that differs from the one before. -/
theorem agree_iff_at_end_one_word :
    let S : Source := .scripted [some ⟨"WORD", "a", {}⟩] []
    let T := standard.source S
    let first := T.reset T.start "a" none
    let later := (T.next first.2).2
    Stacked S ∧ first.1.outcome = .ok () ∧ T.Walk first.2 0 first.2 ∧ T.Walk first.2 1 later ∧
      T.agree (T.save first.2) (T.save later) = false := by
  intro S T first later
  let base : S.State := (0 : Nat)
  have taken : (standard.fresh.refill standard S base).1.outcome.isOk = true := by
    unfold Progress.refill
    simp only [S, Source.scripted, base]
    decide
  have walked : T.Walk first.2 1 later := by
    cases filled : (standard.fresh.refill standard S base).1.outcome with
    | error fault => simp [filled, Except.isOk, Except.toBool] at taken
    | ok progress => exact .of_call (next_filled rfl (by decide) filled).1
  have stacked : Stacked S := .scripted _ _
  have exactly := (standard.agree_iff_at_end stacked "a").1 ⟨standard.fresh, base⟩ first.2 later
    0 1 rfl Nat.zero_lt_one .stay walked
  refine ⟨stacked, rfl, .stay, walked, ?_⟩
  rw [← Bool.not_eq_true, exactly]
  rintro ⟨finished, _⟩
  cases finished

end Layout

end Offside
