import Offside.Proofs.Refills

/-! Where tokens and faults come from. A layout delivers raw tokens as they are, tokens that it
builds itself, and those of its rule for blank lines, and nothing else; and the only faults that it
adds to those of the source beneath are roles that the classifier does not know, lines that land on
no level, and refusals of its observers. -/
namespace Offside

open Attempt

variable {δ μ : Type}

/-- The faults that a layout may find in a text. -/
inductive Layout.Finds (L : Layout δ μ) : Fault → Prop where
  | unknown {token : Token} {answer : Datum} (unclassified : L.classify token = .error answer) :
      Finds L (.unknownRole answer token)
  | stray (token : Token) (depth : δ) : Finds L (.strayDedent token (L.depth.shown depth))
  | refused {observer : Observer μ} {memory : μ} {report : LineReport} {fault : Fault}
      (listens : observer ∈ L.observers) (refuses : observer.observe memory report = .error fault) :
      Finds L fault

/-- What holds of all tokens that a layout makes of its own. -/
structure Layout.Makes (L : Layout δ μ) (Holds : Token → Prop) : Prop where
  built : ∀ kind ∈ layoutKinds, ∀ text base, Holds (L.build kind text base)
  blank : ∀ last breaker, ∀ token ∈ L.blank L.build last breaker, Holds token

namespace Progress

variable {L : Layout δ μ} {p later : Progress δ μ} {fault : Fault}

theorem refused_of_tell {report : LineReport} {position : Nat} {observers : List (Observer μ)}
    {memories : List μ}
    (failed : (Layout.tell report position observers memories).outcome = .error fault) :
    ∃ observer ∈ observers, ∃ memory, observer.observe memory report = .error fault := by
  induction observers generalizing position memories with
  | nil => cases failed
  | cons observer observers ih =>
    rcases outcome_bind_eq_error.1 failed with failed | ⟨_, _, failed⟩
    · cases failed
    · rcases outcome_bind_eq_error.1 failed with refuses | ⟨memory, _, failed⟩
      · rw [outcome_ofExcept] at refuses
        exact ⟨observer, List.mem_cons_self, _, refuses⟩
      · rcases outcome_bind_eq_error.1 failed with others | ⟨_, _, failed⟩
        · rw [outcome_mapLeft] at others
          obtain ⟨other, listens, refuses⟩ := ih others
          exact ⟨other, List.mem_cons_of_mem _ listens, refuses⟩
        · cases failed

theorem finds_of_report {breaker : Option Token} {blank : Bool}
    (failed : (p.report L breaker blank).outcome = .error fault) : L.Finds fault := by
  rcases outcome_bind_eq_error.1 failed with told | ⟨_, _, failed⟩
  · rw [outcome_mapLeft] at told
    obtain ⟨observer, listens, memory, refuses⟩ := refused_of_tell told
    exact .refused listens refuses
  · cases failed

theorem finds_of_endBlank {breaker : Option Token}
    (failed : (p.endBlank L breaker).outcome = .error fault) : L.Finds fault := by
  rcases outcome_bind_eq_error.1 failed with failed | ⟨_, _, reported⟩
  · cases failed
  · exact finds_of_report reported

theorem finds_of_finish (failed : (p.finish L).outcome = .error fault) : L.Finds fault := by
  have failed := outcome_map_eq_error.1 failed
  unfold endLast at failed
  split at failed
  · cases failed
  · exact finds_of_endBlank failed

section

variable [Ord δ]

theorem finds_of_settle {depth : δ} {token : Token}
    (failed : (p.settle L depth token).outcome = .error fault) : L.Finds fault := by
  unfold settle at failed
  split at failed
  · cases failed
  · split at failed
    · cases failed
    · cases failed
    · dsimp only at failed
      split at failed
      · cases failed
        exact .stray token depth
      · cases failed

theorem finds_of_beginBody {token : Token}
    (failed : (p.beginBody L token).outcome = .error fault) : L.Finds fault := by
  rcases outcome_bind_eq_error.1 failed with failed | ⟨_, _, failed⟩
  · cases failed
  · rcases outcome_bind_eq_error.1 failed with reported | ⟨_, _, settled⟩
    · exact finds_of_report reported
    · exact finds_of_settle settled

theorem finds_of_take {token : Token} (failed : (p.take L token).outcome = .error fault) :
    L.Finds fault := by
  unfold take at failed
  split at failed
  case h_1 answer unclassified =>
    cases failed
    exact .unknown unclassified
  case h_2 role classified =>
    have failed := outcome_map_eq_error.1 failed
    cases role with
    | indentation =>
      simp only [feed] at failed
      split at failed <;> cases failed
    | lineBreak =>
      simp only [feed] at failed
      split at failed
      · exact finds_of_endBlank (outcome_map_eq_error.1 failed)
      · cases failed
    | ordinary =>
      simp only [feed] at failed
      split at failed
      · exact finds_of_beginBody (outcome_map_eq_error.1 failed)
      · cases failed

/-- A fault that ends what is delivered ends the raw tokens, or is found by the layout. -/
theorem fault_of_deliverRaw {raw : List Token} {ending : Option Fault}
    (failed : (p.deliverRaw L raw ending).2 = some fault) :
    ending = some fault ∨ L.Finds fault := by
  induction raw generalizing p with
  | nil =>
    cases ending with
    | some refusal => exact .inl failed
    | none =>
      refine .inr ?_
      cases ended : (p.finish L).outcome with
      | error refusal =>
        obtain rfl : refusal = fault := by
          simpa [deliverRaw, Layout.words, deliver, ended] using failed
        exact finds_of_finish ended
      | ok later => simp [deliverRaw, Layout.words, deliver, ended] at failed
  | cons token raw ih =>
    rw [deliverRaw_cons] at failed
    cases taken : (p.take L token).outcome with
    | error refusal =>
      rw [taken] at failed
      cases failed
      exact .inr (finds_of_take taken)
    | ok next =>
      obtain ⟨later, role⟩ := next
      simp only [taken] at failed
      split at failed <;> exact ih failed

/-- What holds of the tokens that are ready, of a raw token and of what a layout makes of its own
holds of the tokens that are ready after the raw token is taken. -/
theorem Taken.all {Holds : Token → Prop} {token : Token} {role : Role} {events : List Event}
    (taken : Taken L p token role events later) (makes : L.Makes Holds) (raw : Holds token)
    (ready : ∀ made ∈ p.queue, Holds made) : ∀ made ∈ later.queue, Holds made := by
  have self : ∀ made ∈ [token], Holds made := List.forall_mem_singleton.2 raw
  cases taken with
  | indents start => exact ready
  | endsBlank start told => exact List.forall_mem_append.2 ⟨ready, makes.blank _ _⟩
  | begins start told settled built =>
    refine List.forall_mem_append.2 ⟨List.forall_mem_append.2 ⟨ready, fun made member => ?_⟩, self⟩
    obtain ⟨kind, layout, rfl⟩ := built made member
    exact makes.built kind layout _ _
  | passes inside => exact List.forall_mem_append.2 ⟨ready, self⟩
  | ends inside =>
    exact List.forall_mem_append.2
      ⟨ready, List.forall_mem_singleton.2 (makes.built _ (by simp [layoutKinds]) _ _)⟩
  | continues inside => exact List.forall_mem_append.2 ⟨ready, self⟩

end

theorem Ended.all {Holds : Token → Prop} {events : List Event} (ended : Ended L p events later)
    (makes : L.Makes Holds) (ready : ∀ made ∈ p.queue, Holds made) :
    ∀ made ∈ later.queue, Holds made := by
  have closing (last : Token) : ∀ made ∈ p.levels.tail.map fun level =>
      L.build dedentKind level.margin last, Holds made := by
    intro made member
    obtain ⟨level, _, rfl⟩ := List.mem_map.1 member
    exact makes.built _ (by simp [layoutKinds]) _ _
  cases ended with
  | body inside =>
    exact List.forall_mem_append.2 ⟨ready, List.forall_mem_cons.2
      ⟨makes.built _ (by simp [layoutKinds]) _ _, closing _⟩⟩
  | blank outside told =>
    exact List.forall_mem_append.2
      ⟨List.forall_mem_append.2 ⟨ready, makes.blank _ _⟩, closing _⟩

/-- All that is delivered was ready, or is a raw token, or is made by the layout. -/
theorem all_of_deliverRaw [Ord δ] {Holds : Token → Prop} (makes : L.Makes Holds) {raw : List Token}
    (raws : ∀ token ∈ raw, Holds token) {ending : Option Fault}
    (ready : ∀ made ∈ p.queue, Holds made) :
    ∀ made ∈ (p.deliverRaw L raw ending).1, Holds made := by
  induction raw generalizing p with
  | nil =>
    cases ending with
    | some refusal => simp [deliverRaw, Layout.words, deliver]
    | none =>
      cases ended : (p.finish L).outcome with
      | error refusal => simp [deliverRaw, Layout.words, deliver, ended]
      | ok later =>
        have queue := (ended_of_finish ended).all makes ready
        simpa [deliverRaw, Layout.words, deliver, ended] using queue
  | cons token raw ih =>
    obtain ⟨first, raws⟩ := List.forall_mem_cons.1 raws
    rw [deliverRaw_cons]
    cases took : (p.take L token).outcome with
    | error refusal => simp
    | ok next =>
      obtain ⟨later, role⟩ := next
      have queue := (taken_of_take took).2.all makes first ready
      dsimp only
      split
      · exact List.forall_mem_append.2 ⟨queue, ih raws (by simp)⟩
      · exact ih raws queue

end Progress

namespace Layout

variable [Ord δ] [DecidableEq δ] [DecidableEq μ] {L : Layout δ μ} {S : Source}
  {elsewhere : Cursor δ μ S.State} {text : String}

/-- A fault that ends a reading comes from the source beneath or is found by the layout. -/
theorem fault_of_read {fault : Fault}
    (failed : ((L.source S).readFrom elsewhere text).fault = some fault) :
    (S.readFrom elsewhere.base text).fault = some fault ∨ L.Finds fault :=
  Progress.fault_of_deliverRaw
    ((congrArg Prod.snd (L.readFrom_eq_deliver S elsewhere text)).symm.trans failed)

/-- The tokens of a reading are raw tokens and tokens that the layout makes. -/
theorem all_of_read {Holds : Token → Prop} (makes : L.Makes Holds)
    (raws : ∀ token ∈ (S.readFrom elsewhere.base text).tokens, Holds token) :
    ∀ token ∈ ((L.source S).readFrom elsewhere text).tokens, Holds token := by
  let raw := S.readFrom elsewhere.base text
  have read := congrArg Prod.fst (L.readFrom_eq_deliver S elsewhere text)
  have all : ∀ made ∈ (L.fresh.deliverRaw L raw.tokens raw.fault).1, Holds made :=
    L.fresh.all_of_deliverRaw makes raws (by simp [fresh])
  intro token member
  exact all token (read ▸ member)

end Layout

end Offside
