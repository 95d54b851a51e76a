import Mathlib
import Offside.Proofs.Rewinding

/-! Taking up a text again. A lexicon keeps no more of a text than the number of tokens that it
delivered, and finds its place by counting them off anew. `answerAt` is what a text answers at a
position, whoever asks and whatever was asked before; and to be put on a text at a number of its
tokens is to stand at that position, if the text has so many. -/
namespace Offside

/-- The state after a number of calls, whatever was answered to them. -/
def Source.advance (S : Source) : Nat → S.State → S.State
  | 0, state => state
  | calls + 1, state => S.advance calls (S.next state).2

namespace Lexicon

/-- What a text answers at a position: the token that stands there; right after the last token the
fault that ends the text, if one does; and nothing further on. -/
def answerAt (L : Lexicon) (text : String) (position : Nat) : Reply (Option Token) :=
  let (tokens, fault) := L.scan {} text.toList
  match tokens[position]? with
  | some token => pure (some token)
  | none => if position = tokens.length then fault.elim (pure none) Reply.fail else pure none

/-- What is seen of a lexicon that stands on a text after a number of its tokens. -/
structure StandsAt (L : Lexicon) (text : String) (count : Nat) (state : L.source.State) :
    Prop where
  /-- Call by call it goes on with the answers of the text from there. -/
  answered : ∀ calls,
    (L.source.next (L.source.advance calls state)).1 = L.answerAt text (count + calls)
  /-- Its snapshot counts the tokens that were delivered since. -/
  saved : ∀ calls, L.source.save (L.source.advance calls state) =
    count + (((L.scan {} text.toList).1.drop count).take calls).length

/-- Where a lexicon stands once a text was asked for its answers up to a position. -/
def past (L : Lexicon) (text : String) (position : Nat) : Cursor :=
  let (tokens, fault) := L.scan {} text.toList
  { text
    rest := tokens.drop position
    fault := if position ≤ tokens.length then fault else none
    delivered := min position tokens.length }

variable {L : Lexicon} {text : String} {count : Nat}

theorem after_eq_past (available : count ≤ (L.scan {} text.toList).1.length) :
    L.after text count = L.past text count := by
  simp only [past, if_pos available, Nat.min_eq_left available]
  rfl

/-- One call takes a lexicon from one position to the next, past the last token as before it. -/
theorem next_past (position : Nat) :
    L.source.next (L.past text position) =
      (L.answerAt text position, L.past text (position + 1)) := by
  show next (L.past text position) = _
  unfold past answerAt
  generalize L.scan {} text.toList = scanned
  obtain ⟨tokens, fault⟩ := scanned
  by_cases before : position < tokens.length
  · have first : tokens.drop position = tokens[position] :: tokens.drop (position + 1) :=
      List.drop_eq_getElem_cons before
    have here : position ≤ tokens.length := by omega
    have further : position + 1 ≤ tokens.length := by omega
    simp only [next, first, List.getElem?_eq_getElem before, if_pos here, if_pos further,
      Nat.min_eq_left here, Nat.min_eq_left further]
  · -- from here on nothing is left, and only the fault tells one position from another
    have past : tokens.length ≤ position := by omega
    have further : ¬position + 1 ≤ tokens.length := by omega
    have none : tokens[position]? = none := List.getElem?_eq_none past
    simp only [next, none, List.drop_eq_nil_of_le past,
      List.drop_eq_nil_of_le (Nat.le_succ_of_le past), if_neg further,
      Nat.min_eq_right past, Nat.min_eq_right (Nat.le_succ_of_le past)]
    by_cases here : position = tokens.length
    · rw [if_pos here, if_pos (by omega)]
      cases fault <;> rfl
    · rw [if_neg here, if_neg (by omega)]

theorem advance_past (calls position : Nat) :
    L.source.advance calls (L.past text position) = L.past text (position + calls) := by
  induction calls generalizing position with
  | zero => rfl
  | succ calls ih =>
    show L.source.advance calls (L.source.next (L.past text position)).2 = _
    rw [next_past, ih, Nat.add_right_comm, Nat.add_assoc]

theorem standsAt_past (available : count ≤ (L.scan {} text.toList).1.length) :
    L.StandsAt text count (L.past text count) := by
  constructor
  · intro calls
    rw [advance_past, next_past]
  · intro calls
    rw [advance_past, List.length_take, List.length_drop]
    show min (count + calls) (L.scan {} text.toList).1.length = _
    omega

/-- A count that can be one is accepted if the text has so many tokens. Where it has fewer, the
fault that ends the text shows, or else that the count is past its end; and then nothing of the text
is left. -/
theorem reset_counted (usable : (count : Int) < countLimit) (elsewhere : L.source.State) :
    L.source.reset elsewhere text (some count) =
      if count ≤ (L.scan {} text.toList).1.length then (pure (), L.past text count)
      else
        (Reply.fail ((L.scan {} text.toList).2.getD
          (.pastEnd count (L.scan {} text.toList).1.length)), { text }) := by
  have isCount : ¬((count : Int) < 0 ∨ countLimit ≤ count) := by omega
  show L.resume text (count : Int) = _
  simp only [resume, isCount, if_false, Int.toNat_natCast]
  by_cases available : count ≤ (L.begin text).rest.length
  · rw [if_pos available, if_pos (by exact available), ← after_eq_past available, after]
  · rw [if_neg available, if_neg (by exact available)]
    rfl

/-- A lexicon that is put on a text at a count stands after as many tokens exactly if the text has
so many, and so it does whenever it goes back to a snapshot that it takes on the way. Unless the
fault of the text has shown by then, going back changes nothing at all. Where the text is too short,
its fault shows, or else how far the count is past its end; the lexicon is on that text then, but
nothing of it is left. Where the lexicon was before plays no part in any of this. -/
theorem taken_up_anywhere (L : Lexicon) (text : String) (count : Nat)
    (usable : (count : Int) < countLimit) (elsewhere : L.source.State) :
    let tokens := (L.scan {} text.toList).1
    let fault := (L.scan {} text.toList).2
    let S := L.source
    let answer := S.reset elsewhere text (some count)
    (answer.1.outcome = .ok () ↔ count ≤ tokens.length) ∧
      (count ≤ tokens.length →
        L.StandsAt text count answer.2 ∧
          ∀ calls there,
            let now := S.advance calls answer.2
            let saved : Nat := S.save now
            let back := S.reset there text (some saved)
            (saved : Int) < countLimit →
              back.1.outcome = .ok () ∧ L.StandsAt text saved back.2 ∧
                (count + calls ≤ tokens.length → back.2 = now)) ∧
      (tokens.length < count →
        answer.1.outcome = .error (fault.getD (.pastEnd count tokens.length)) ∧
          (∀ token message,
            S.explain answer.2 token message = S.explain (L.begin text) token message) ∧
          ∀ calls, let now := S.advance calls answer.2
            (S.next now).1 = pure none ∧ S.save now = (0 : Nat)) := by
  intro tokens fault S answer
  have reset : answer = _ := reset_counted usable elsewhere
  by_cases available : count ≤ tokens.length
  · rw [if_pos available] at reset
    refine ⟨?_, fun _ => ?_, fun short => absurd available (by omega)⟩
    · rw [reset]
      exact iff_of_true rfl available
    · rw [reset]
      refine ⟨standsAt_past available, fun calls there => ?_⟩
      intro now saved back bounded
      have stands : now = L.past text (count + calls) := advance_past calls count
      have counted : saved = min (count + calls) tokens.length := congrArg L.source.save stands
      have within : saved ≤ tokens.length := by omega
      have again : back = (pure (), L.past text saved) :=
        (reset_counted bounded there).trans (if_pos within)
      rw [again]
      refine ⟨rfl, standsAt_past within, fun further => ?_⟩
      rw [counted, Nat.min_eq_left further, stands]
  · rw [if_neg available] at reset
    refine ⟨?_, fun enough => absurd enough available, fun _ => ?_⟩
    · rw [reset]
      exact iff_of_false nofun available
    · rw [reset]
      refine ⟨rfl, fun token message => rfl, fun calls => ?_⟩
      have stays : S.advance calls { text } = ({ text } : Cursor) := by
        induction calls with
        | zero => rfl
        | succ calls ih => exact ih
      intro now
      rw [show now = _ from stays]
      exact ⟨rfl, rfl⟩

/-- A text whose third character no terminal matches, taken up after one of its two tokens: the
other is delivered, the fault shows, and nothing more. After three tokens it cannot be taken up, and
the fault shows at once. -/
theorem taken_up_anywhere_stray :
    let L : Lexicon := ⟨[⟨⟨"A", true, ['a'], .text ['a'], false⟩, []⟩], ["A"]⟩
    let S := L.source
    let fault : Fault := .unmatched 1 3 2 'b'
    let kept := (S.reset S.start "aab" (some (1 : Nat))).2
    ((1 : Nat) : Int) < countLimit ∧ ((3 : Nat) : Int) < countLimit ∧
      (S.next kept).1 =
        pure (some ⟨"A", "a", ⟨some 1, some 1, some 2, some 1, some 3, some 2⟩⟩) ∧
      (S.next (S.advance 1 kept)).1 = Reply.fail fault ∧
      (∀ more, (S.next (S.advance (2 + more) kept)).1 = pure none) ∧
      S.save (S.advance 2 kept) = (2 : Nat) ∧
      (S.reset S.start "aab" (some (3 : Nat))).1.outcome = .error fault := by
  intro L S fault kept
  have scanned : L.scan {} "aab".toList =
      ([⟨"A", "a", ⟨some 0, some 1, some 1, some 1, some 2, some 1⟩⟩,
        ⟨"A", "a", ⟨some 1, some 1, some 2, some 1, some 3, some 2⟩⟩], some fault) := by cbv
  obtain ⟨-, stands, -⟩ := L.taken_up_anywhere "aab" 1 (by decide) S.start
  obtain ⟨-, -, short⟩ := L.taken_up_anywhere "aab" 3 (by decide) S.start
  simp only [scanned] at stands short
  obtain ⟨⟨answered, saved⟩, -⟩ := stands (by decide)
  simp only [answerAt, scanned] at answered saved
  refine ⟨by decide, by decide, answered 0, answered 1, fun more => ?_, saved 2,
    (short (by decide)).1⟩
  rw [answered (2 + more), List.getElem?_eq_none (by simp; omega)]
  exact if_neg (by simp; omega)

end Lexicon

end Offside
