import Offside.Proofs.CurrentLine
import Offside.Proofs.Sessions

/-! The output of raw tokens. What a layout has ready makes no difference to what it does next, so
nothing changes if it keeps there what it would deliver. `Takes` is a run that takes raw tokens one
after the other and delivers none of what they come to, and `Lays` is such a run with or without the
end of the text. Every session and every reading comes down to one of these: what was delivered and
what is ready are together what the raw tokens pulled so far have come to. -/
namespace Offside

variable {δ μ : Type}

/-- What closes all levels but the outermost after the given last token. -/
def Layout.closing (L : Layout δ μ) (levels : List (Level δ)) (last : Token) : List Token :=
  levels.tail.map fun level => L.build dedentKind level.margin last

namespace Progress

variable {L : Layout δ μ} {p mid later : Progress δ μ} {words more : Words} {events : List Event}

/-- Has some tokens ready ahead of its own. -/
def holding (p : Progress δ μ) (held : List Token) : Progress δ μ :=
  { p with queue := held ++ p.queue }

@[simp] theorem holding_nil (p : Progress δ μ) : p.holding [] = p := rfl

/-- What is ready may be set aside and put back. -/
theorem holding_queue (p : Progress δ μ) : { p with queue := [] }.holding p.queue = p := by
  simp only [holding, List.append_nil]

theorem settle_holding [Ord δ] (depth : δ) (token : Token) (held : List Token) :
    ((p.holding held).settle L depth token).outcome =
      (p.settle L depth token).outcome.map (·.holding held) := by
  obtain ⟨levels, queue, phase, last, indentation, margin, memories⟩ := p
  simp only [settle, holding]
  cases levels with
  | nil => rfl
  | cons top outside =>
    dsimp only
    split
    · rfl
    · simp only [Attempt.outcome_bind, Attempt.outcome_note, Except.bind, enqueue,
        List.append_assoc]
      rfl
    · split
      · rfl
      · simp only [Attempt.outcome_bind, Attempt.outcome_note, Except.bind, enqueue,
          List.append_assoc]
        rfl

/-- A raw token that is taken is the last one. -/
theorem Taken.last_eq [Ord δ] {token : Token} {role : Role}
    (taken : Taken L p token role events later) : later.last = some token := by
  cases taken <;> rfl

/-- A step does the same whatever is ready ahead. -/
theorem Taken.holding [Ord δ] {token : Token} {role : Role}
    (taken : Taken L p token role events later) (held : List Token) :
    Taken L (p.holding held) token role events (later.holding held) := by
  cases taken with
  | indents start => exact .indents start
  | endsBlank start told =>
    have step : Taken L (p.holding held) token _ _ _ :=
      .endsBlank (p := p.holding held) start told
    simp only [Progress.holding, List.append_assoc] at step ⊢
    exact step
  | @begins start memories levels tokens told settled built =>
    have settled : ({ p.holding held with last := some token, memories }.settle L
        (L.depth.measure p.indentation p.margin) token).outcome = .ok
          { p.holding held with
            last := some token, memories, levels, queue := held ++ p.queue ++ tokens } := by
      refine (settle_holding (p := { p with last := some token, memories })
        (L.depth.measure p.indentation p.margin) token held).trans ?_
      rw [settled, List.append_assoc]
      rfl
    have step : Taken L (p.holding held) token _ _ _ :=
      .begins (p := p.holding held) start told settled built
    simp only [Progress.holding, List.append_assoc] at step ⊢
    exact step
  | passes inside =>
    have step : Taken L (p.holding held) token _ _ _ := .passes inside
    simp only [Progress.holding, List.append_assoc] at step ⊢
    exact step
  | ends inside =>
    have step : Taken L (p.holding held) token _ _ _ := .ends inside
    simp only [Progress.holding, List.append_assoc] at step ⊢
    exact step
  | continues inside =>
    have step : Taken L (p.holding held) token _ _ _ := .continues inside
    simp only [Progress.holding, List.append_assoc] at step ⊢
    exact step

/-- So does the end of the text. -/
theorem Ended.holding (ended : Ended L p events later) (held : List Token) :
    Ended L (p.holding held) events (later.holding held) := by
  cases ended with
  | body inside =>
    have step : Ended L (p.holding held) _ _ := .body inside
    simp only [Progress.holding, List.append_assoc] at step ⊢
    exact step
  | blank outside told =>
    have step : Ended L (p.holding held) _ _ := .blank (p := p.holding held) outside told
    simp only [Progress.holding, List.append_assoc] at step ⊢
    exact step

/-- The end of the text ends the last line, and then closes every level but the outermost. -/
theorem Ended.queue_eq (ended : Ended L p events later) :
    let last := p.last.getD L.fallback
    later.queue = p.queue ++
      (if p.phase = .body then [L.build eolKind last.text last] else L.blank L.build last none) ++
      L.closing p.levels last := by
  intro last
  cases ended with
  | body inside =>
    rw [if_pos inside, List.append_assoc]
    rfl
  | blank outside told =>
    rw [if_neg outside]
    rfl

/-- Takes raw tokens one after the other, and keeps ready all that they come to. -/
inductive Takes [Ord δ] (L : Layout δ μ) (p : Progress δ μ) : Words → Progress δ μ → Prop where
  | nothing : Takes L p [] p
  | more {words : Words} {mid later : Progress δ μ} {token : Token} {role : Role}
      {events : List Event} (takes : Takes L p words mid)
      (classified : L.classify token = .ok role) (taken : Taken L mid token role events later) :
      Takes L p (words ++ [(token, role)]) later

/-- Lays out raw tokens from where a layout stands, and the end of the text after them or not. -/
inductive Lays [Ord δ] (L : Layout δ μ) (p : Progress δ μ) (words : Words) :
    Progress δ μ → Prop where
  | midway {later : Progress δ μ} (takes : Takes L p words later) : Lays L p words later
  | ended {mid later : Progress δ μ} {events : List Event} (takes : Takes L p words mid)
      (ended : Ended L mid events later) : Lays L p words later

section

variable [Ord δ]

theorem Takes.one {token : Token} {role : Role} (classified : L.classify token = .ok role)
    (taken : Taken L p token role events later) : Takes L p [(token, role)] later :=
  .more .nothing classified taken

theorem Takes.trans (first : Takes L p words mid) (second : Takes L mid more later) :
    Takes L p (words ++ more) later := by
  induction second with
  | nothing => simpa using first
  | more takes classified taken ih =>
    rw [← List.append_assoc]
    exact .more ih classified taken

theorem Takes.holding (takes : Takes L p words later) (held : List Token) :
    Takes L (p.holding held) words (later.holding held) := by
  induction takes with
  | nothing => exact .nothing
  | more takes classified taken ih => exact .more ih classified (taken.holding held)

/-- No raw token ends the text. -/
theorem Takes.unfinished (takes : Takes L p words later) (unfinished : p.phase ≠ .finished) :
    later.phase ≠ .finished := by
  induction takes with
  | nothing => exact unfinished
  | more takes classified taken ih => exact taken.outside_end ih

theorem Takes.classified (takes : Takes L p words later) :
    ∀ word ∈ words, L.classify word.1 = .ok word.2 := by
  induction takes with
  | nothing => simp
  | more takes classified taken ih =>
    exact List.forall_mem_append.2 ⟨ih, List.forall_mem_singleton.2 classified⟩

/-- The last raw token is known. -/
theorem Takes.last (takes : Takes L L.fresh words later) :
    later.last = (words.map (·.1)).getLast? := by
  cases takes with
  | nothing => rfl
  | more takes classified taken =>
    rw [List.map_append, List.map_singleton, List.getLast?_concat]
    exact taken.last_eq

/-- The line that is being read is known as well. -/
theorem Takes.reads (takes : Takes L L.fresh words later) : later.Reads words := by
  induction takes with
  | nothing => exact reads_fresh L
  | more takes classified taken ih => exact ih.taken (takes.unfinished nofun) taken

theorem Lays.classified (lays : Lays L p words later) :
    ∀ word ∈ words, L.classify word.1 = .ok word.2 := by
  cases lays with
  | midway takes => exact takes.classified
  | ended takes ended => exact takes.classified

theorem Lays.after (takes : Takes L p words mid) (lays : Lays L mid more later) :
    Lays L p (words ++ more) later := by
  cases lays with
  | midway further => exact .midway (takes.trans further)
  | ended further ended => exact .ended (takes.trans further) ended

theorem Lays.holding (lays : Lays L p words later) (held : List Token) :
    Lays L (p.holding held) words (later.holding held) := by
  cases lays with
  | midway takes => exact .midway (takes.holding held)
  | ended takes ended => exact .ended (takes.holding held) (ended.holding held)

/-- A refill is a run of such steps. -/
theorem Refills.lays (refills : Refills L p words events later) : Lays L p words later := by
  induction refills with
  | ended ended => exact .ended .nothing ended
  | settled classified taken => exact .midway (.one classified taken)
  | more classified structural taken rest ih => exact .after (.one classified taken) ih

end

/-- What is delivered of raw tokens is what a run over them has ready in the end; or where a fault
shows, the first part of what a run over the first of them has ready. -/
theorem lays_of_deliverRaw [Ord δ] (L : Layout δ μ) (p : Progress δ μ) (raw : List Token)
    (fault : Option Fault) :
    ∃ words later, words.map (·.1) <+: raw ∧ Lays L p words later ∧
      (p.deliverRaw L raw fault).1 <+: later.queue ∧
      ((p.deliverRaw L raw fault).2 = none → words.map (·.1) = raw ∧
        later.phase = .finished ∧ (p.deliverRaw L raw fault).1 = later.queue) := by
  induction raw generalizing p with
  | nil =>
    cases fault with
    | some fault =>
      refine ⟨[], p, List.nil_prefix, .midway .nothing, List.nil_prefix, fun ended => ?_⟩
      exact absurd ended (Option.some_ne_none fault)
    | none =>
      cases finished : (p.finish L).outcome with
      | error refusal =>
        refine ⟨[], p, List.nil_prefix, .midway .nothing, ?_, ?_⟩ <;>
          simp [deliverRaw, Layout.words, deliver, finished]
      | ok later =>
        have ended := ended_of_finish finished
        refine ⟨[], later, List.nil_prefix, .ended .nothing ended, ?_, ?_⟩ <;>
          simp [deliverRaw, Layout.words, deliver, finished, ended.finished]
  | cons token raw ih =>
    rw [deliverRaw_cons]
    cases took : (p.take L token).outcome with
    | error refusal =>
      refine ⟨[], p, List.nil_prefix, .midway .nothing, List.nil_prefix, fun ended => ?_⟩
      exact absurd ended (Option.some_ne_none refusal)
    | ok next =>
      obtain ⟨next, role⟩ := next
      obtain ⟨classified, taken⟩ := taken_of_take took
      have first : Takes L p [(token, role)] next := .one classified taken
      dsimp only
      split
      · -- an ordinary token lets go of what is ready, which is put back ahead of what comes later
        obtain ⟨words, later, comes, lays, delivered, complete⟩ := ih { next with queue := [] }
        have lays := lays.holding next.queue
        rw [holding_queue] at lays
        refine ⟨(token, role) :: words, later.holding next.queue, ?_, .after first lays, ?_, ?_⟩
        · exact (List.prefix_cons_inj token).2 comes
        · exact (List.prefix_append_right_inj next.queue).2 delivered
        · intro ended
          obtain ⟨whole, finished, all⟩ := complete ended
          exact ⟨congrArg (token :: ·) whole, finished, congrArg (next.queue ++ ·) all⟩
      · obtain ⟨words, later, comes, lays, delivered, complete⟩ := ih next
        refine ⟨(token, role) :: words, later, ?_, .after first lays, delivered, ?_⟩
        · exact (List.prefix_cons_inj token).2 comes
        · intro ended
          obtain ⟨whole, rest⟩ := complete ended
          exact ⟨congrArg (token :: ·) whole, rest⟩

end Progress

namespace Layout

variable [Ord δ] [DecidableEq δ] [DecidableEq μ] {L : Layout δ μ} {S : Source} {text : String}

/-- What was delivered in a session and what is ready are what the raw tokens that were pulled have
come to. -/
theorem Session.lays {answers : List (Option Token)} {raw : List Token}
    {state : (L.source S).State} (session : L.Session S text answers raw state) :
    ∃ words : Words, raw = words.map (·.1) ∧
      L.fresh.Lays L words (state.progress.holding answers.reduceOption) := by
  let Holds : Progress δ μ → List (Option Token) → Words → Prop :=
    fun p answers words => L.fresh.Lays L words (p.holding answers.reduceOption)
  -- a token that is delivered is moved from one part to the other
  have hands : ∀ (p : Progress δ μ) (answers : List (Option Token)),
      { p with queue := p.queue.tail }.holding (answers ++ [p.queue.head?]).reduceOption =
        p.holding answers.reduceOption := by
    intro p answers
    cases ready : p.queue <;> simp [Progress.holding, List.reduceOption_append, ready]
  have held : ∃ words : Words, raw = words.map (·.1) ∧
      (∀ word ∈ words, L.classify word.1 = .ok word.2) ∧ Holds state.progress answers words := by
    refine session.preserves ?_ ?_ ?_ ?_
    · exact .midway .nothing
    · intro p answers words token queue lays ready
      have same := hands p answers
      rw [ready, List.tail_cons, List.head?_cons] at same
      show L.fresh.Lays L words _
      rw [same]
      exact lays
    · intro p answers words lays empty finished
      have same := hands p answers
      have bare : { p with queue := p.queue.tail } = p := by rw [empty, List.tail_nil, ← empty]
      rw [bare, empty] at same
      show L.fresh.Lays L words _
      exact same.symm ▸ lays
    · intro p answers words more events later lays empty unfinished refills
      show L.fresh.Lays L (words ++ more) _
      rw [hands later answers]
      cases lays with
      | midway takes => exact .after takes (refills.lays.holding _)
      | ended takes ended => exact absurd ended.finished unfinished
  obtain ⟨words, pulled, -, lays⟩ := held
  exact ⟨words, pulled, lays⟩

/-- What a reading delivers is what its raw tokens come to, or some of it where a fault shows. -/
theorem lays_of_read (L : Layout δ μ) (S : Source) (elsewhere : Cursor δ μ S.State)
    (text : String) :
    let raw := (S.readFrom elsewhere.base text).tokens
    let reading := (L.source S).readFrom elsewhere text
    ∃ words later, words.map (·.1) <+: raw ∧ L.fresh.Lays L words later ∧
      reading.tokens <+: later.queue ∧
      (reading.fault = none → words.map (·.1) = raw ∧ later.phase = .finished ∧
        reading.tokens = later.queue) := by
  intro raw reading
  have read : (reading.tokens, reading.fault) =
      L.fresh.deliverRaw L raw (S.readFrom elsewhere.base text).fault :=
    L.readFrom_eq_deliver S elsewhere text
  obtain ⟨tokens, fault⟩ := Prod.ext_iff.1 read
  rw [show reading.tokens = _ from tokens, show reading.fault = _ from fault]
  exact L.fresh.lays_of_deliverRaw L raw _

end Layout

end Offside
