import Offside.Proofs.Refills

/-! What observers hear. The questions of a run say which lines each observer was told of, and what
an observer remembers is what it makes of these, one after the other from its start; so its memory
is accounted for by the journal alone. `heard_of_tell` says this of one line, also of a line that an
observer refuses, and `Taken.heard` and `Ended.heard` of the steps of a layout. -/
namespace Offside

open Attempt

variable {δ μ : Type}

/-- What an observer, given by its position, is told, if anything. -/
def Event.toldTo? (observer : Nat) : Event → Option LineReport
  | .reported position report => if position = observer then some report else none
  | _ => none

/-- What an observer remembers after it was told of lines in turn, or why it refuses one. -/
def Observer.hears (observer : Observer μ) (reports : List LineReport) : Except Fault μ :=
  reports.foldlM observer.observe observer.start

/-- What an observer, given by its position, is told among some questions. -/
def toldTo (observer : Nat) (asked : List Event) : List LineReport :=
  asked.filterMap (Event.toldTo? observer)

theorem toldTo_append (observer : Nat) (asked more : List Event) :
    toldTo observer (asked ++ more) = toldTo observer asked ++ toldTo observer more :=
  List.filterMap_append

theorem toldTo_reported (observer : Nat) (report : LineReport) :
    toldTo observer [.reported observer report] = [report] := by
  simp [toldTo, Event.toldTo?]

theorem toldTo_other {observer other : Nat} (different : other ≠ observer) (report : LineReport) :
    toldTo observer [.reported other report] = [] := by
  simp [toldTo, Event.toldTo?, different]

theorem Observer.hears_concat (observer : Observer μ) (reports : List LineReport)
    (report : LineReport) :
    observer.hears (reports ++ [report]) =
      (observer.hears reports).bind fun memory => observer.observe memory report := by
  rw [hears, List.foldlM_append]
  simp only [List.foldlM_cons, List.foldlM_nil, bind_pure]
  rfl

namespace Layout

/-- The observers from a position on remember what they make of what they were told. -/
def Heard (position : Nat) (observers : List (Observer μ)) (asked : List Event)
    (memories : List μ) : Prop :=
  ∀ (i : Nat) (observer : Observer μ), observers[i]? = some observer →
    ∃ memory, memories[i]? = some memory ∧
      observer.hears (toldTo (position + i) asked) = .ok memory

/-- Of the observers from a position on, all were told of a line last. -/
def ToldLast (position : Nat) (observers : List (Observer μ)) (asked : List Event)
    (report : LineReport) : Prop :=
  ∀ i < observers.length, (toldTo (position + i) asked).getLast? = some report

/-- Of the observers from a position on, just one refuses the line that it was told of last. -/
def OneRefuses (position : Nat) (observers : List (Observer μ)) (asked : List Event)
    (report : LineReport) (fault : Fault) : Prop :=
  ∃ (i : Nat) (observer : Observer μ), observers[i]? = some observer ∧
    observer.hears (toldTo (position + i) asked) = .error fault ∧
    (toldTo (position + i) asked).getLast? = some report ∧
    ∀ (j : Nat) (other : Observer μ), j ≠ i → observers[j]? = some other →
      ∃ memory, other.hears (toldTo (position + j) asked) = .ok memory

section

variable {report : LineReport} {position : Nat} {observer : Observer μ}
  {observers : List (Observer μ)} {memories : List μ} {past : List Event}

/-- An observer that refuses the line is the last that is told. -/
theorem tell_refused {fault : Fault}
    (refuses : observer.observe (memories.head?.getD observer.start) report = .error fault) :
    let told := tell report position (observer :: observers) memories
    told.outcome = .error fault ∧ questions told.notes = [.reported position report] := by
  simp only [tell, notes_bind, outcome_bind, outcome_note, outcome_ofExcept, refuses, Except.bind,
    questions_append]
  exact ⟨trivial, rfl⟩

/-- After an observer that accepts the line the others are told. -/
theorem tell_accepted {memory : μ}
    (accepts : observer.observe (memories.head?.getD observer.start) report = .ok memory) :
    let told := tell report position (observer :: observers) memories
    let rest := tell report (position + 1) observers memories.tail
    told.outcome = rest.outcome.map (memory :: ·) ∧
      questions told.notes = [.reported position report] ++ questions rest.notes := by
  intro told rest
  have first : questions (note (.reported position report) : Attempt (List μ) Unit).notes =
      [.reported position report] := rfl
  have quiet : questions (Attempt.ofExcept memories (.ok memory)).notes = [] := rfl
  simp only [told, tell, notes_bind, outcome_bind, outcome_note, outcome_ofExcept, outcome_mapLeft,
    notes_mapLeft, accepts, Except.bind, questions_append, first, quiet, List.nil_append]
  cases (tell report (position + 1) observers memories.tail).outcome with
  | error fault => exact ⟨rfl, congrArg _ (List.append_nil _)⟩
  | ok rest => exact ⟨rfl, congrArg _ (List.append_nil _)⟩

/-- Telling the observers of a line asks nothing else. -/
theorem reported_of_tell {event : Event}
    (asked : event ∈ questions (tell report position observers memories).notes) :
    ∃ i, position ≤ i ∧ event = .reported i report := by
  induction observers generalizing position memories with
  | nil => cases asked
  | cons observer observers ih =>
    cases verdict : observer.observe (memories.head?.getD observer.start) report with
    | error fault =>
      rw [(tell_refused verdict).2, List.mem_singleton] at asked
      exact ⟨position, Nat.le_refl _, asked⟩
    | ok memory =>
      rw [(tell_accepted verdict).2] at asked
      rcases List.mem_append.1 asked with here | later
      · exact ⟨position, Nat.le_refl _, List.mem_singleton.1 here⟩
      · obtain ⟨i, above, same⟩ := ih later
        exact ⟨i, Nat.le_of_succ_le above, same⟩

/-- Observers that heard the same as before remember the same. -/
theorem Heard.of_same {asked : List Event} (heard : Heard position observers past memories)
    (same : ∀ i, toldTo i asked = toldTo i past) : Heard position observers asked memories := by
  intro i observer registered
  rw [same]
  exact heard i observer registered

/-- What tells no observer of a line is not heard. -/
theorem Heard.silent {more : List Event} (heard : Heard position observers past memories)
    (silent : ∀ i, toldTo i more = []) : Heard position observers (past ++ more) memories :=
  heard.of_same fun i => by rw [toldTo_append, silent, List.append_nil]

theorem shift_position (position i : Nat) : position + 1 + i = position + (i + 1) := by omega

/-- What the first of the observers is told is nothing to the others. -/
theorem Heard.tail (heard : Heard position (observer :: observers) past memories)
    (report : LineReport) :
    Heard (position + 1) observers (past ++ [.reported position report]) memories.tail := by
  intro i other registered
  obtain ⟨memory, remembers, accepts⟩ := heard (i + 1) other registered
  refine ⟨memory, by rwa [List.getElem?_tail], ?_⟩
  rwa [shift_position, toldTo_append, toldTo_other (by omega), List.append_nil]

theorem Heard.cons {asked : List Event} {memory : μ}
    (first : observer.hears (toldTo position asked) = .ok memory)
    (heard : Heard (position + 1) observers asked memories) :
    Heard position (observer :: observers) asked (memory :: memories) := by
  intro i other registered
  cases i with
  | zero =>
    cases registered
    exact ⟨memory, rfl, first⟩
  | succ i => exact shift_position position i ▸ heard i other registered

theorem ToldLast.cons {asked : List Event}
    (first : (toldTo position asked).getLast? = some report)
    (told : ToldLast (position + 1) observers asked report) :
    ToldLast position (observer :: observers) asked report := by
  intro i registered
  cases i with
  | zero => exact first
  | succ i => exact shift_position position i ▸ told i (Nat.lt_of_succ_lt_succ registered)

theorem OneRefuses.cons {asked : List Event} {memory : μ} {fault : Fault}
    (first : observer.hears (toldTo position asked) = .ok memory)
    (refuses : OneRefuses (position + 1) observers asked report fault) :
    OneRefuses position (observer :: observers) asked report fault := by
  obtain ⟨i, refuser, registered, refused, last, others⟩ := refuses
  rw [shift_position] at refused last
  refine ⟨i + 1, refuser, registered, refused, last, fun j other different listens => ?_⟩
  cases j with
  | zero =>
    cases listens
    exact ⟨memory, first⟩
  | succ j => exact shift_position position j ▸ others j other (by omega) listens

/-- The observers after one are told nothing that counts for it. -/
theorem toldTo_of_tell_later :
    toldTo position (questions (tell report (position + 1) observers memories).notes) = [] :=
  List.filterMap_eq_nil_iff.2 fun event member => by
    obtain ⟨i, above, rfl⟩ := reported_of_tell member
    simp [Event.toldTo?, Nat.ne_of_gt above]

/-- The first of the observers remembers what it made of what it was told. -/
theorem Heard.head (heard : Heard position (observer :: observers) past memories) :
    observer.hears (toldTo position past) = .ok (memories.head?.getD observer.start) := by
  obtain ⟨memory, remembered, before⟩ := heard 0 observer rfl
  rw [List.head?_eq_getElem?, remembered]
  exact before

/-- Once it was told of a line and then only others were told of it, the line is what it was told
of last. -/
theorem toldTo_first {more : List Event} (silent : toldTo position more = []) :
    toldTo position (past ++ ([.reported position report] ++ more)) =
      toldTo position past ++ [report] := by
  rw [toldTo_append, toldTo_append, toldTo_reported, silent]
  rfl

theorem Heard.hears_first (heard : Heard position (observer :: observers) past memories)
    {more : List Event} (silent : toldTo position more = []) :
    observer.hears (toldTo position (past ++ ([.reported position report] ++ more))) =
      observer.observe (memories.head?.getD observer.start) report := by
  rw [toldTo_first silent, observer.hears_concat, heard.head]
  rfl

/-- Where the first of the observers refuses the line, the others were not told of it. -/
theorem OneRefuses.first {fault : Fault}
    (heard : Heard position (observer :: observers) past memories)
    (refuses : observer.observe (memories.head?.getD observer.start) report = .error fault) :
    OneRefuses position (observer :: observers) (past ++ [.reported position report]) report
      fault := by
  have silent : toldTo position [] = [] := rfl
  have last : toldTo position (past ++ ([.reported position report] ++ [])) =
      toldTo position past ++ [report] := toldTo_first silent
  refine ⟨0, observer, rfl, ?_, ?_, fun j other different registered => ?_⟩
  · exact (heard.hears_first silent).trans refuses
  · rw [List.append_nil] at last
    rw [Nat.add_zero, last, List.getLast?_concat]
  · cases j with
    | zero => exact absurd rfl different
    | succ j =>
      obtain ⟨memory, _, accepts⟩ := heard.tail report j other registered
      rw [shift_position] at accepts
      exact ⟨memory, accepts⟩

/-- Where the observers are told of a line, they all hear it; or one of them refuses it, and the
others heard nothing that they refuse. -/
theorem heard_of_tell (heard : Heard position observers past memories) :
    let told := tell report position observers memories
    let asked := past ++ questions told.notes
    (∀ later, told.outcome = .ok later →
      Heard position observers asked later ∧ ToldLast position observers asked report) ∧
    ∀ fault, told.outcome = .error fault →
      OneRefuses position observers asked report fault := by
  induction observers generalizing position memories past with
  | nil =>
    intro told asked
    refine ⟨fun _ _ => ⟨?_, ?_⟩, fun fault refused => ?_⟩
    · intro i observer registered
      cases registered
    · intro i registered
      exact absurd registered (Nat.not_lt_zero i)
    · have outcome : told.outcome = .ok [] := rfl
      rw [outcome] at refused
      cases refused
  | cons observer observers ih =>
    intro told asked
    cases verdict : observer.observe (memories.head?.getD observer.start) report with
    | error refusal =>
      obtain ⟨outcome, notes⟩ : told.outcome = _ ∧ questions told.notes = _ := tell_refused verdict
      refine ⟨fun later accepted => absurd (outcome.symm.trans accepted) (by simp), ?_⟩
      intro fault refused
      obtain rfl : refusal = fault := Except.error.inj (outcome.symm.trans refused)
      rw [show asked = past ++ [.reported position report] from congrArg (past ++ ·) notes]
      exact .first heard verdict
    | ok next =>
      obtain ⟨outcome, notes⟩ : told.outcome = _ ∧ questions told.notes = _ :=
        tell_accepted verdict
      have last : toldTo position asked = toldTo position past ++ [report] := by
        rw [← toldTo_first toldTo_of_tell_later, ← notes]
      have accepts : observer.hears (toldTo position asked) = .ok next := by
        rw [← verdict, ← heard.hears_first toldTo_of_tell_later, ← notes]
      obtain ⟨others, refusals⟩ := ih (heard.tail report)
      rw [List.append_assoc, ← notes] at others refusals
      cases told' : (tell report (position + 1) observers memories.tail).outcome with
      | error refusal =>
        rw [told'] at outcome
        refine ⟨fun later told => absurd (outcome.symm.trans told) (by simp [Except.map]), ?_⟩
        intro fault refused
        obtain rfl : refusal = fault := Except.error.inj (outcome.symm.trans refused)
        exact (refusals refusal told').cons accepts
      | ok rest =>
        rw [told'] at outcome
        refine ⟨fun later told => ?_, fun fault refused =>
          absurd (outcome.symm.trans refused) (by simp [Except.map])⟩
        obtain rfl : next :: rest = later := Except.ok.inj (outcome.symm.trans told)
        obtain ⟨heard, lasts⟩ := others rest told'
        exact ⟨heard.cons accepts, lasts.cons (last ▸ List.getLast?_concat)⟩

end

/-- Before a text the observers have heard nothing. -/
theorem heard_fresh (L : Layout δ μ) : Heard 0 L.observers [] L.fresh.memories :=
  fun _ observer registered => ⟨observer.start, by simp [fresh, registered], rfl⟩

end Layout

namespace Progress

variable {L : Layout δ μ} {p later : Progress δ μ} {past events : List Event}

/-- Observers that are told of the current line hear it. -/
theorem Told.heard {breaker : Option Token} {blank : Bool} {memories : List μ}
    (told : p.Told L breaker blank memories) (heard : Layout.Heard 0 L.observers past p.memories) :
    Layout.Heard 0 L.observers
      (past ++ L.tellings ⟨p.margin, p.indentation, breaker, blank⟩) memories := by
  rw [Layout.tellings, List.range_eq_range', ← Layout.questions_tell told]
  exact ((Layout.heard_of_tell heard).1 memories told).1

/-- With a raw token the observers hear just what the journal says. -/
theorem Taken.heard [Ord δ] {token : Token} {role : Role}
    (taken : Taken L p token role events later)
    (heard : Layout.Heard 0 L.observers past p.memories) :
    Layout.Heard 0 L.observers (past ++ .pulled :: events) later.memories := by
  cases taken with
  | endsBlank start told =>
    have before : Layout.Heard 0 L.observers (past ++ [.pulled, .blankLine token]) p.memories :=
      heard.silent fun _ => rfl
    have hears := told.heard before
    rwa [List.append_assoc] at hears
  | begins start told settled built =>
    have before : Layout.Heard 0 L.observers
        (past ++ [.pulled, .measured p.indentation p.margin]) p.memories :=
      heard.silent fun _ => rfl
    have hears := told.heard before
    rwa [List.append_assoc] at hears
  | indents | passes | ends | continues => exact heard.silent fun _ => rfl

/-- And so it is with the end of the text. -/
theorem Ended.heard (ended : Ended L p events later)
    (heard : Layout.Heard 0 L.observers past p.memories) :
    Layout.Heard 0 L.observers (past ++ .pulled :: events) later.memories := by
  cases ended with
  | body inside => exact heard.silent fun _ => rfl
  | blank outside told =>
    have before : Layout.Heard 0 L.observers (past ++ [.pulled, .blankLine none]) p.memories :=
      heard.silent fun _ => rfl
    have hears := told.heard before
    rwa [List.append_assoc] at hears

end Progress

end Offside
