import Mathlib
import Offside.Lexicon.Source
import Offside.Proofs.Reading

/-! Going back to a snapshot. A state that was reached without a fault is brought back as a whole
by its snapshot: a lexicon finds its place again by counting tokens, a layout holds all that it
needs besides the snapshot of the source beneath. So whatever is asked from there on is answered as
it was before, any number of times and however high layouts are stacked. -/
namespace Offside

namespace Source

/-- The states that are reached on a text: by starting over on it, by asking for tokens while no
fault shows, and by going back to a snapshot of such a state. Where the source was before it is put
on the text does not matter. -/
inductive Reached (S : Source) (text : String) : S.State → Prop where
  | restarted {elsewhere : S.State} (accepted : (S.reset elsewhere text none).1.outcome = .ok ()) :
      Reached S text (S.reset elsewhere text none).2
  | asked {state : S.State} {answer : Option Token} (reached : Reached S text state)
      (answered : (S.next state).1.outcome = .ok answer) : Reached S text (S.next state).2
  | resumed {earlier elsewhere : S.State} (reached : Reached S text earlier)
      (accepted : (S.reset elsewhere text (some (S.save earlier))).1.outcome = .ok ()) :
      Reached S text (S.reset elsewhere text (some (S.save earlier))).2

/-- Snapshots of reached states bring these back, wherever the source is. -/
def Rewinds (S : Source) (text : String) : Prop :=
  ∀ state, S.Reached text state → ∀ elsewhere,
    (S.reset elsewhere text (some (S.save state))).1.outcome = .ok () ∧
      (S.reset elsewhere text (some (S.save state))).2 = state

/-- What a source can be asked to do that does not put it elsewhere. -/
inductive Call where
  | next
  | save

/-- What a source answers to a call. -/
inductive Answer (S : Source) where
  | next (reply : Reply (Option Token))
  | save (snapshot : S.Snapshot)

/-- Makes calls one after the other, also after a fault, and lists the answers. -/
def perform (S : Source) : List Call → S.State → List S.Answer × S.State
  | [], state => ([], state)
  | .next :: calls, state =>
    let (reply, later) := S.next state
    let (answers, final) := S.perform calls later
    (.next reply :: answers, final)
  | .save :: calls, state =>
    let (answers, final) := S.perform calls state
    (.save (S.save state) :: answers, final)

/-- What is seen when a source goes back to a snapshot and calls are made from there. -/
structure Round (S : Source) where
  /-- Whether it could go back. -/
  outcome : Except Fault Unit
  /-- The snapshot that is taken right after. -/
  saved : S.Snapshot
  answers : List S.Answer

/-- Goes back to the same snapshot again and again, and makes calls each time. -/
def rounds (S : Source) (text : String) (snapshot : S.Snapshot) :
    List (List Call) → S.State → List S.Round
  | [], _ => []
  | calls :: sessions, state =>
    let (reply, back) := S.reset state text (some snapshot)
    let (answers, final) := S.perform calls back
    { outcome := reply.outcome, saved := S.save back, answers } ::
      S.rounds text snapshot sessions final

/-- Each round from the snapshot of a reached state is as the first calls from that state. -/
theorem Rewinds.rounds_eq {S : Source} {text : String} {state : S.State}
    (rewinds : S.Rewinds text) (reached : S.Reached text state) (sessions : List (List Call))
    (elsewhere : S.State) :
    S.rounds text (S.save state) sessions elsewhere =
      sessions.map fun calls =>
        { outcome := .ok (), saved := S.save state, answers := (S.perform calls state).1 } := by
  induction sessions generalizing elsewhere with
  | nil => rfl
  | cons calls sessions ih =>
    obtain ⟨accepted, back⟩ := rewinds state reached elsewhere
    simp only [rounds, accepted, back, ih, List.map_cons]

/-- A snapshot of a source of given tokens is its state. -/
theorem rewinds_scripted (entries : List (Option Token)) (names : List String) (text : String) :
    (scripted entries names).Rewinds text :=
  fun _ _ _ => ⟨rfl, rfl⟩

end Source

namespace Lexicon

variable {L : Lexicon} {text : String}

/-- Every token of a text has a character of its own. -/
theorem length_scan_le (L : Lexicon) (place : Place) (s : List Char) :
    (L.scan place s).1.length ≤ s.length := by
  fun_induction L.scan place s with
  | case1 place => exact Nat.le_refl 0
  | case2 place c rest found => exact Nat.zero_le _
  | case3 place c rest entry length found matched stop tokens fault scanned ih =>
    have advanced := firstMatch_pos found
    rw [scanned] at ih
    simp only [List.length_drop, List.length_cons] at ih ⊢
    omega

/-- Where a text stands after a number of its tokens. -/
def after (L : Lexicon) (text : String) (count : Nat) : Cursor :=
  { L.begin text with rest := (L.begin text).rest.drop count, delivered := count }

/-- A text that has so many tokens can be taken up after them. -/
theorem resume_eq_after (bounded : (text.length : Int) < countLimit) {count : Nat}
    (available : count ≤ (L.begin text).rest.length) :
    L.resume text count = (pure (), L.after text count) := by
  have tokens : (L.begin text).rest.length ≤ text.length := by
    rw [← String.length_toList]
    exact L.length_scan_le {} text.toList
  have isCount : ¬((count : Int) < 0 ∨ countLimit ≤ count) := by omega
  simp only [resume, isCount, if_false, Int.toNat_natCast, available, if_true, after]

/-- A lexicon that takes up a text after a number of tokens stands after as many. -/
theorem after_of_resume {count : Nat} (accepted : (L.resume text count).1.outcome = .ok ()) :
    count ≤ (L.begin text).rest.length ∧ (L.resume text count).2 = L.after text count := by
  unfold resume at accepted ⊢
  by_cases unusable : (count : Int) < 0 ∨ countLimit ≤ count
  · simp [unusable] at accepted
  · by_cases available : count ≤ (L.begin text).rest.length
    · refine ⟨available, ?_⟩
      simp only [unusable, if_false, Int.toNat_natCast, available, if_true, after]
    · simp [unusable, available] at accepted

/-- A token that is delivered is one more, and a fault is none. -/
theorem next_after {count : Nat} (available : count ≤ (L.begin text).rest.length)
    {answer : Option Token} (answered : (next (L.after text count)).1.outcome = .ok answer) :
    ∃ later ≤ (L.begin text).rest.length, (next (L.after text count)).2 = L.after text later := by
  cases left : (L.begin text).rest.drop count with
  | nil =>
    refine ⟨count, available, ?_⟩
    cases ended : (L.begin text).fault with
    | none => simp [next, after, left, ended]
    | some fault => simp [next, after, left, ended] at answered
  | cons token rest =>
    have more : count < (L.begin text).rest.length := by
      rw [← Nat.not_le, ← List.drop_eq_nil_iff, left]
      exact List.cons_ne_nil token rest
    refine ⟨count + 1, more, ?_⟩
    have tail : (L.begin text).rest.drop (count + 1) = rest := by
      rw [← List.tail_drop, left]
      rfl
    simp [next, after, left, tail]

/-- All that a reached state of a lexicon depends on is a number of tokens. -/
theorem eq_after_of_reached {cursor : L.source.State} (reached : L.source.Reached text cursor) :
    ∃ count ≤ (L.begin text).rest.length, cursor = L.after text count := by
  induction reached with
  | restarted accepted => exact ⟨0, after_of_resume accepted⟩
  | asked reached answered ih =>
    obtain ⟨count, available, rfl⟩ := ih
    exact next_after available answered
  | resumed reached accepted ih =>
    obtain ⟨count, _, rfl⟩ := ih
    exact ⟨count, after_of_resume accepted⟩

/-- A lexicon finds its place in a text again by counting tokens. -/
theorem rewinds_source (bounded : (text.length : Int) < countLimit) : L.source.Rewinds text := by
  intro cursor reached elsewhere
  obtain ⟨count, available, rfl⟩ := eq_after_of_reached reached
  have back : L.source.reset elsewhere text (some (L.source.save (L.after text count))) =
      (pure (), L.after text count) := resume_eq_after bounded available
  rw [back]
  exact ⟨rfl, rfl⟩

end Lexicon

section

variable {δ μ : Type} [Ord δ] {L : Layout δ μ} {S : Source}

/-- No raw token ends the text. -/
theorem Progress.unfinished_of_take {p later : Progress δ μ} {token : Token} {role : Role}
    (unfinished : p.phase ≠ .finished) (taken : (p.take L token).outcome = .ok (later, role)) :
    later.phase ≠ .finished := by
  have fed := (take_eq_ok taken).2
  cases role with
  | ordinary =>
    rw [(body_of_feed_ordinary fed).1]
    decide
  | indentation =>
    simp only [feed] at fed
    split at fed <;> cases fed <;> exact unfinished
  | lineBreak =>
    simp only [feed] at fed
    split at fed
    case h_1 =>
      obtain ⟨_, _, rfl⟩ := Attempt.outcome_map_eq_ok.1 fed
      exact Phase.noConfusion
    case h_2 =>
      cases fed
      exact Phase.noConfusion

/-- What holds before a refill, and after each raw token that it takes, and after the end of the
text, holds after it. -/
theorem Progress.refill_preserves {Holds : Progress δ μ → S.State → Prop}
    (taken : ∀ p base token later role, p.phase ≠ .finished → Holds p base →
      (S.next base).1.outcome = .ok (some token) →
      (p.take L token).outcome = .ok (later, role) → Holds later (S.next base).2)
    (ended : ∀ p base later, p.phase ≠ .finished → Holds p base →
      (S.next base).1.outcome = .ok none →
      (p.finish L).outcome = .ok later → Holds later (S.next base).2)
    {p later : Progress δ μ} {base : S.State} (unfinished : p.phase ≠ .finished)
    (before : Holds p base)
    (filled : (p.refill L S base).1.outcome = .ok later) :
    Holds later (p.refill L S base).2 := by
  fun_induction p.refill L S base with
  | case1 p base asked pulled fault answer =>
    rw [Attempt.refused_after_pull answer] at filled
    cases filled
  | case2 p base asked pulled answer =>
    obtain ⟨_, _, finished⟩ := Attempt.outcome_bind_eq_ok.1 filled
    exact ended p base later unfinished before answer finished
  | case3 p base asked pulled token answer took fault failed =>
    simp [Attempt.outcome_map, failed, Except.map] at filled
  | case4 p base asked pulled token answer took next succeeded =>
    obtain ⟨_, _, fed⟩ := Attempt.outcome_bind_eq_ok.1 succeeded
    obtain rfl : next = later := by
      simpa [Attempt.outcome_map, succeeded, Except.map] using filled
    exact taken p base token next .ordinary unfinished before answer fed
  | case5 p base asked pulled token answer took next role succeeded structural rest ih =>
    obtain ⟨_, _, fed⟩ := Attempt.outcome_bind_eq_ok.1 succeeded
    obtain ⟨_, _, filled⟩ := Attempt.outcome_bind_eq_ok.1 filled
    have going := unfinished_of_take unfinished fed
    exact ih going (taken p base token next role unfinished before answer fed) filled

namespace Layout

variable {cursor : Cursor δ μ S.State} {text : String}

/-- An answer either takes what is ready or comes from a refill. -/
theorem next_answered {answer : Option Token}
    (answered : (L.next S cursor).1.outcome = .ok answer) :
    (∃ queue, (L.next S cursor).2 = ⟨{ cursor.progress with queue }, cursor.base⟩) ∨
      ∃ later, cursor.progress.phase ≠ .finished ∧
        (cursor.progress.refill L S cursor.base).1.outcome = .ok later ∧
        (L.next S cursor).2 =
          ⟨{ later with queue := later.queue.tail },
            (cursor.progress.refill L S cursor.base).2⟩ := by
  cases ready : cursor.progress.queue with
  | cons token queue => exact .inl ⟨queue, by rw [next_ready ready]⟩
  | nil =>
    by_cases finished : cursor.progress.phase = .finished
    · exact .inl ⟨cursor.progress.queue, by rw [next_finished ready finished]⟩
    · cases filled : (cursor.progress.refill L S cursor.base).1.outcome with
      | error fault =>
        rw [next_refused ready finished filled] at answered
        cases answered
      | ok later => exact .inr ⟨later, finished, rfl, (next_filled ready finished filled).2⟩

omit [Ord δ] in
/-- A reset goes through where the source beneath can be reset. -/
theorem reset_accepted {snapshot : Option (Cursor δ μ S.Snapshot)} :
    (L.reset S cursor text snapshot).1.outcome = .ok () ↔
      (S.reset cursor.base text (snapshot.map (·.base))).1.outcome = .ok () := by
  cases beneath : (S.reset cursor.base text (snapshot.map (·.base))).1.outcome with
  | error fault => simp [reset, Attempt.outcome_bind, Except.bind, beneath]
  | ok _ => simp [reset, Attempt.outcome_bind, Except.bind, beneath]

omit [Ord δ] in
/-- A reset that goes through brings back what the snapshot holds, or starts afresh. -/
theorem reset_back {snapshot : Option (Cursor δ μ S.Snapshot)}
    (accepted : (S.reset cursor.base text (snapshot.map (·.base))).1.outcome = .ok ()) :
    (L.reset S cursor text snapshot).2 =
      ⟨(snapshot.map (·.progress)).getD L.fresh,
        (S.reset cursor.base text (snapshot.map (·.base))).2⟩ := by
  simp only [reset, accepted]

variable [DecidableEq δ] [DecidableEq μ]

/-- What holds of a layout that starts afresh, and goes on to hold whichever raw token is taken,
at the end of the text, when a token is delivered, and when the source beneath goes back, holds of
every state that is reached. -/
theorem reached_preserves {Holds : Progress δ μ → S.State → Prop}
    (fresh : ∀ elsewhere, (S.reset elsewhere text none).1.outcome = .ok () →
      Holds L.fresh (S.reset elsewhere text none).2)
    (taken : ∀ p base token later role, p.phase ≠ .finished → Holds p base →
      (S.next base).1.outcome = .ok (some token) →
      (p.take L token).outcome = .ok (later, role) → Holds later (S.next base).2)
    (ended : ∀ p base later, p.phase ≠ .finished → Holds p base →
      (S.next base).1.outcome = .ok none →
      (p.finish L).outcome = .ok later → Holds later (S.next base).2)
    (delivered : ∀ p base queue, Holds p base → Holds { p with queue } base)
    (resumed : ∀ p base elsewhere, Holds p base →
      (S.reset elsewhere text (some (S.save base))).1.outcome = .ok () →
      Holds p (S.reset elsewhere text (some (S.save base))).2)
    {cursor : (L.source S).State} (reached : (L.source S).Reached text cursor) :
    Holds cursor.progress cursor.base := by
  induction reached with
  | @restarted elsewhere accepted =>
    obtain ⟨progress, base⟩ := elsewhere
    have beneath : (S.reset base text none).1.outcome = .ok () := reset_accepted.1 accepted
    have back : (L.reset S ⟨progress, base⟩ text none).2 =
        ⟨L.fresh, (S.reset base text none).2⟩ := reset_back beneath
    show Holds (L.reset S ⟨progress, base⟩ text none).2.progress
      (L.reset S ⟨progress, base⟩ text none).2.base
    rw [back]
    exact fresh base beneath
  | @asked cursor answer reached answered ih =>
    obtain ⟨progress, base⟩ := cursor
    show Holds (L.next S ⟨progress, base⟩).2.progress (L.next S ⟨progress, base⟩).2.base
    rcases next_answered answered with ⟨queue, moved⟩ | ⟨later, unfinished, filled, moved⟩
    · rw [moved]
      exact delivered progress base queue ih
    · rw [moved]
      exact delivered later _ _ (Progress.refill_preserves taken ended unfinished ih filled)
  | @resumed earlier elsewhere reached accepted ih =>
    obtain ⟨progress, base⟩ := elsewhere
    obtain ⟨held, beneath⟩ := earlier
    have accepted : (S.reset base text (some (S.save beneath))).1.outcome = .ok () :=
      reset_accepted.1 accepted
    have back : (L.reset S ⟨progress, base⟩ text (some ⟨held, S.save beneath⟩)).2 =
        ⟨held, (S.reset base text (some (S.save beneath))).2⟩ := reset_back accepted
    show Holds (L.reset S ⟨progress, base⟩ text (some ⟨held, S.save beneath⟩)).2.progress
      (L.reset S ⟨progress, base⟩ text (some ⟨held, S.save beneath⟩)).2.base
    rw [back]
    exact resumed held beneath base ih accepted

/-- While a layout meets no fault, neither does the source beneath. -/
theorem reached_base {cursor : (L.source S).State} (reached : (L.source S).Reached text cursor) :
    S.Reached text cursor.base := by
  let Beneath : Progress δ μ → S.State → Prop := fun _ base => S.Reached text base
  show Beneath cursor.progress cursor.base
  refine reached_preserves ?_ ?_ ?_ ?_ ?_ reached
  · intro elsewhere accepted
    exact .restarted accepted
  · intro p base token later role unfinished reached answered taken
    exact .asked reached answered
  · intro p base later unfinished reached answered ended
    exact .asked reached answered
  · intro p base queue reached
    exact reached
  · intro p base elsewhere reached accepted
    exact .resumed reached accepted

/-- A layout can go back where the source beneath can. -/
theorem rewinds_source (rewinds : S.Rewinds text) : (L.source S).Rewinds text := by
  intro cursor reached elsewhere
  obtain ⟨accepted, back⟩ := rewinds cursor.base (reached_base reached) elsewhere.base
  refine ⟨reset_accepted.2 accepted, (reset_back accepted).trans ?_⟩
  exact congrArg (Cursor.mk cursor.progress) back

end Layout

end

/-- Lexicons and sources of given tokens, with any number of layouts on top of each other. -/
inductive Stacked : Source → Prop where
  | lexicon (L : Lexicon) : Stacked L.source
  | scripted (entries : List (Option Token)) (names : List String) :
      Stacked (.scripted entries names)
  | layout {δ μ : Type} [Ord δ] [DecidableEq δ] [DecidableEq μ] (L : Layout δ μ) {S : Source}
      (beneath : Stacked S) : Stacked (L.source S)

namespace Stacked

variable {S : Source}

theorem rewinds (stacked : Stacked S) {text : String}
    (bounded : (text.length : Int) < Lexicon.countLimit) : S.Rewinds text := by
  induction stacked with
  | lexicon L => exact L.rewinds_source bounded
  | scripted entries names => exact Source.rewinds_scripted entries names text
  | layout L beneath ih => exact Layout.rewinds_source ih

/-- A snapshot is equal to itself. -/
theorem agree_self (stacked : Stacked S) (snapshot : S.Snapshot) :
    S.agree snapshot snapshot = true := by
  induction stacked with
  | lexicon L => exact beq_self_eq_true (α := Nat) snapshot
  | scripted entries names => exact beq_self_eq_true (α := Nat) snapshot
  | layout L beneath ih =>
    refine Bool.and_eq_true_iff.2 ⟨decide_eq_true ?_, ih snapshot.base⟩
    exact ⟨rfl, rfl, rfl, rfl, rfl, rfl, rfl⟩

/-- From the snapshot of a reached state a source can start over any number of times, wherever it
is and whatever was asked of it. It is in that state again, so the snapshot taken right after is
the same, and any calls are answered as they would have been in the first place. A lexicon needs
to count its tokens for that, and no text that fits into memory has more than can be counted. -/
theorem rounds_from_snapshot (stacked : Stacked S) {text : String}
    (bounded : (text.length : Int) < Lexicon.countLimit) {state : S.State}
    (reached : S.Reached text state) (elsewhere : S.State) (sessions : List (List Source.Call)) :
    S.rounds text (S.save state) sessions elsewhere =
        sessions.map (fun calls =>
          { outcome := .ok (), saved := S.save state, answers := (S.perform calls state).1 }) ∧
      S.agree (S.save state) (S.save state) = true :=
  ⟨(stacked.rewinds bounded).rounds_eq reached sessions elsewhere, stacked.agree_self _⟩

/-- The last line lands on no level. What was ready when its first word was refused is delivered by
the calls after that one, in each round. -/
theorem rounds_from_snapshot_after_word :
    let token (kind text : String) (start : Int) : Token := ⟨kind, text, { start := some start }⟩
    let c := token "WORD" "c" 10
    let raw := [token "WORD" "a" 0, token "NEWLINE" "\n" 1, token "WS" "    " 2,
      token "WORD" "b" 6, token "NEWLINE" "\n" 7, token "WS" "  " 8, c]
    let S := Layout.standard.source (.scripted (raw.map some) [])
    let state := (S.next (S.reset S.start "" none).2).2
    let calls : List Source.Call := .replicate 7 .next
    let sessions := [calls, [.next, .save, .next], calls]
    S.Reached "" state ∧
      S.rounds "" (S.save state) sessions S.start = (sessions.map fun calls =>
        { outcome := .ok (), saved := S.save state, answers := (S.perform calls state).1 }) ∧
      (S.perform calls state).1.map (fun answer : S.Answer => match answer with
          | .next reply => reply.outcome
          | .save _ => .ok none) =
        [.ok (token "eol" "\n" 1), .ok (token "indent" "    " 6), .ok (token "WORD" "b" 6),
          .error (.strayDedent c (.int 2)), .ok (token "eol" "\n" 7),
          .ok (token "dedent" "  " 10), .ok none] := by
  intro token c raw S state calls sessions
  have first : (S.next (S.reset S.start "" none).2).1.outcome = .ok (token "WORD" "a" 0) := by cbv
  have reached : S.Reached "" state := .asked (.restarted rfl) first
  have stacked : Stacked S := .layout Layout.standard (.scripted _ _)
  refine ⟨reached, (stacked.rounds_from_snapshot (by decide) reached S.start sessions).1, ?_⟩
  cbv

end Stacked

end Offside
