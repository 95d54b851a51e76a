import Offside.Proofs.SideBySide

/-! Observers can refuse a line, and do nothing else. A layout without its observers is taken beside
it: as long as none of them refuses a line, the two do the same and differ in what is remembered
alone; where one does, the layout stops at that line, with what came before it. What an observer has
been told says whether it refused the last line of that: it may be told all of it again. -/
namespace Offside

open Attempt

variable {δ μ : Type}

/-- Whether an event tells an observer of a line. -/
def Event.isReport : Event → Bool
  | .reported _ _ => true
  | _ => false

namespace Layout

/-- No observer refuses a line that it is told of. -/
def Accepts (L : Layout δ μ) (asked : List Event) : Prop :=
  ∀ (i : Nat) (observer : Observer μ), L.observers[i]? = some observer →
    ∃ memory, observer.hears (toldTo i asked) = .ok memory

/-- The same hooks without observers. -/
def unobserved (L : Layout δ μ) : Layout δ μ := { L with observers := [] }

/-- The line of a report comes after the given raw tokens: at the start of a text or after a line
break come its indentation and what ends that. -/
structure LineAt (L : Layout δ μ) (raw front : List Token) (report : LineReport) : Prop where
  start : front = [] ∨ ∃ before breaker, front = before ++ [breaker] ∧ L.isBreak breaker = true
  indentation : ∀ token ∈ report.indentation, L.classify token = .ok .indentation
  split : ∃ rest, raw = front ++ (report.indentation ++ rest) ∧ rest.head? = report.breaker

/-- A report is of the line whose indentation the raw tokens asked for so far end with, but for the
last, which ends that indentation. -/
def ReportedAt (L : Layout δ μ) (raw : List Token) (asked : List Event) (report : LineReport) :
    Prop :=
  ∃ front, L.LineAt raw front report ∧
    asked.countP Event.isPull = (front ++ report.indentation).length + 1

/-- What is compared of a layout and the same without observers: what else than reports is asked,
and the fault. Where both fail, no observer refused a line; a line that goes back to no open level
was shown to all observers before. Where the first fails alone, one of them refused the line that
it was told of last. -/
def refusalLikeness (L : Layout δ μ) (raw : List Token) : Likeness where
  shared event := !event.isReport
  Alike asked fault other := fault = other ∧ L.Accepts asked ∧
    ∀ token depth, fault = .strayDedent token depth → asked.countP Event.isPull ≤ raw.length →
      ∃ report, L.ReportedAt raw asked report ∧ ToldLast 0 L.observers asked report
  Alone asked fault := ∃ report, OneRefuses 0 L.observers asked report fault ∧
    L.ReportedAt raw asked report

theorem accepts_of_heard {L : Layout δ μ} {asked : List Event} {memories : List μ}
    (heard : Heard 0 L.observers asked memories) : L.Accepts asked := by
  intro i observer registered
  obtain ⟨memory, _, accepts⟩ := heard i observer registered
  exact ⟨memory, Nat.zero_add i ▸ accepts⟩

end Layout

/-- A layout without observers knows the same, but remembers nothing for them. -/
def Progress.unobserved (p : Progress δ μ) : Progress δ μ := { p with memories := [] }

/-- A layout and the same without observers keep abreast, and the observers remember what they make
of what they are told. -/
abbrev Layout.RefusalsAbreast (L : Layout δ μ) (raw : List Token) (past : List Event)
    (one two : Attempt (Progress δ μ) (Progress δ μ)) : Prop :=
  Abreast (L.refusalLikeness raw) past (fun a b => b = a.unobserved)
    (fun asked a b => b = a.unobserved ∧ Heard 0 L.observers asked a.memories) one two

section

open Layout

variable {L : Layout δ μ} {raw : List Token} {p : Progress δ μ} {past : List Event}
  {report : LineReport}

/-- Telling observers of a line is all that a layout without them leaves out, and asks the source
for nothing. -/
theorem tell_left_out (raw : List Token) (report : LineReport) (memories : List μ) :
    let asked := questions (tell report 0 L.observers memories).notes
    asked.filter (L.refusalLikeness raw).shared = [] ∧ asked.countP Event.isPull = 0 := by
  constructor
  · refine List.filter_eq_nil_iff.2 fun event member => ?_
    obtain ⟨i, _, rfl⟩ := reported_of_tell member
    simp [refusalLikeness, Event.isReport]
  · refine List.countP_eq_zero.2 fun event member => ?_
    obtain ⟨i, _, rfl⟩ := reported_of_tell member
    simp [Event.isPull]

/-- Observers that are told of a line all hear it, or one of them refuses it. -/
theorem tell_unobserved {memories : List μ} (heard : Heard 0 L.observers past memories)
    (here : L.ReportedAt raw past report) :
    Abreast (L.refusalLikeness raw) past (fun _ _ => False)
      (fun asked memories none => none = [] ∧ Heard 0 L.observers asked memories ∧
        ToldLast 0 L.observers asked report ∧ L.ReportedAt raw asked report)
      (tell report 0 L.observers memories) (tell report 0 ([] : List (Observer μ)) []) := by
  obtain ⟨quiet, pulls⟩ := tell_left_out (L := L) raw report memories
  have told : _ ∧ ∀ fault, (tell report 0 L.observers memories).outcome = .error fault → _ :=
    heard_of_tell heard
  have here : L.ReportedAt raw (past ++ questions (tell report 0 L.observers memories).notes)
      report := by
    obtain ⟨front, line, count⟩ := here
    exact ⟨front, line, by rw [List.countP_append, pulls, Nat.add_zero, count]⟩
  cases outcome : (tell report 0 L.observers memories).outcome with
  | ok later =>
    obtain ⟨heard, last⟩ := told.1 later outcome
    exact .results outcome rfl ⟨rfl, heard, last, here⟩ quiet
  | error fault =>
    exact .alone outcome ⟨report, told.2 fault outcome, here⟩ (quiet ▸ List.nil_prefix)

theorem report_unobserved {breaker : Option Token} {blank : Bool}
    (heard : Heard 0 L.observers past p.memories)
    (here : L.ReportedAt raw past ⟨p.margin, p.indentation, breaker, blank⟩) :
    Abreast (L.refusalLikeness raw) past (fun a b => b = a.unobserved)
      (fun asked a b => b = a.unobserved ∧ Heard 0 L.observers asked a.memories ∧
        ToldLast 0 L.observers asked ⟨p.margin, p.indentation, breaker, blank⟩ ∧
        L.ReportedAt raw asked ⟨p.margin, p.indentation, breaker, blank⟩)
      (p.report L breaker blank) (p.unobserved.report L.unobserved breaker blank) := by
  refine ((tell_unobserved heard here).mapLeft fun _ _ => False.elim).bind ?_
  rintro memories _ _ ⟨rfl, heard, last, here⟩
  exact .pure ⟨rfl, heard, last, here⟩

/-- Other events are not heard. -/
theorem heard_note (event : Event) {memories : List μ} (other : event.isReport = false)
    (heard : Heard 0 L.observers past memories) :
    Heard 0 L.observers (past ++ questions [⟨0, event⟩]) memories := by
  refine heard.silent fun i => ?_
  cases event with
  | reported => cases other
  | _ => rfl

/-- As long as the source is not asked, a report is of the same line. -/
theorem reportedAt_note (event : Event) (other : event.isPull = false)
    (here : L.ReportedAt raw past report) :
    L.ReportedAt raw (past ++ questions [⟨0, event⟩]) report := by
  obtain ⟨front, line, count⟩ := here
  refine ⟨front, line, ?_⟩
  rw [List.countP_append, count]
  cases event with
  | pulled => cases other
  | _ => rfl

theorem endBlank_unobserved {breaker : Option Token} (heard : Heard 0 L.observers past p.memories)
    (here : L.ReportedAt raw past ⟨p.margin, p.indentation, breaker, breaker.isSome⟩) :
    L.RefusalsAbreast raw past
      (p.endBlank L breaker) (p.unobserved.endBlank L.unobserved breaker) := by
  refine (Abreast.note _).bind fun _ _ _ _ => ?_
  have told := report_unobserved (p := p.enqueue (L.blank L.build p.last breaker))
    (heard_note (.blankLine breaker) rfl heard) (reportedAt_note (.blankLine breaker) rfl here)
  exact told.imp (fun _ _ => id) fun _ _ _ same => ⟨same.1, same.2.1⟩

/-- Settling a line is nothing to the observers. -/
theorem settle_unobserved [Ord δ] (heard : Heard 0 L.observers past p.memories)
    (last : ToldLast 0 L.observers past report) (here : L.ReportedAt raw past report)
    (depth : δ) (token : Token) :
    L.RefusalsAbreast raw past
      (p.settle L depth token) (p.unobserved.settle L.unobserved depth token) := by
  have quiet : questions (p.settle L depth token).notes = [] := Progress.questions_settle _ _
  have quiet' : questions (p.unobserved.settle L.unobserved depth token).notes = [] :=
    Progress.questions_settle _ _
  have same : (p.unobserved.settle L.unobserved depth token).result =
      ((p.settle L depth token).result.map Progress.unobserved).mapError fun halt =>
        ⟨halt.fault, halt.left.unobserved⟩ := by
    unfold Progress.settle
    obtain ⟨levels, queue, phase, lastToken, indentation, margin, memories⟩ := p
    cases levels with
    | nil => rfl
    | cons top levels =>
      simp only [Progress.unobserved]
      cases compare depth top.depth with
      | eq => rfl
      | gt => rfl
      | lt =>
        dsimp only
        generalize (top :: levels).dropWhile _ = outer
        cases outer <;> rfl
  cases settled : (p.settle L depth token).result with
  | error halt =>
    rw [settled] at same
    refine .faults settled same ?_ rfl (by rw [quiet, quiet'])
    rw [quiet, List.append_nil]
    exact ⟨rfl, accepts_of_heard heard, fun _ _ _ _ => ⟨report, here, last⟩⟩
  | ok later =>
    rw [settled] at same
    refine .results (outcome_eq_ok.2 settled) (outcome_eq_ok.2 same) ⟨rfl, ?_⟩
      (by rw [quiet, quiet'])
    obtain ⟨tokens, levels, rfl, _⟩ := Progress.settle_eq_ok (outcome_eq_ok.2 settled)
    rw [quiet, List.append_nil]
    exact heard

theorem beginBody_unobserved [Ord δ] {token : Token} (heard : Heard 0 L.observers past p.memories)
    (here : L.ReportedAt raw past ⟨p.margin, p.indentation, some token, false⟩) :
    L.RefusalsAbreast raw past
      (p.beginBody L token) (p.unobserved.beginBody L.unobserved token) := by
  refine (Abreast.note _).bind fun _ _ _ _ => ?_
  refine (report_unobserved (heard_note _ rfl heard) (reportedAt_note _ rfl here)).bind ?_
  rintro a _ _ ⟨rfl, heard, last, here⟩
  exact settle_unobserved heard last here _ token

/-- The line that raw tokens leave off in comes first, or after a line break. -/
theorem Words.split_current (words : Words) :
    ∃ front, words = front ++ words.current ∧
      (front = [] ∨ ∃ before breaker, front = before ++ [(breaker, .lineBreak)]) := by
  induction words using List.reverseRecOn with
  | nil => exact ⟨[], rfl, .inl rfl⟩
  | append_singleton words word ih =>
    obtain ⟨token, role⟩ := word
    by_cases breaks : role = .lineBreak
    · subst breaks
      rw [current_break]
      exact ⟨_, (List.append_nil _).symm, .inr ⟨words, token, rfl⟩⟩
    · obtain ⟨front, split, starts⟩ := ih
      rw [current_other words breaks]
      refine ⟨front, ?_, starts⟩
      rw [← List.append_assoc, ← split]

/-- The indentation of a line that is all there is of it so far. -/
theorem Words.indentation_of_blank {words : Words} (blank : words.body = []) :
    words.map (·.1) = words.indentation := by
  rw [indentation, List.takeWhile_eq_self_iff.2]
  intro word member
  simpa using body_eq_nil_iff.1 blank word member

/-- At the start of a line, what a layout asks for next ends the indentation that it knows of. -/
theorem Progress.Midway.reportedAt {left : List Token} {words : Words} {asked : List Event}
    (midway : p.Midway L raw left words asked) (start : p.phase = .margin) (blank : Bool) :
    L.ReportedAt raw (asked ++ [.pulled]) ⟨p.margin, p.indentation, left.head?, blank⟩ := by
  obtain ⟨-, known, split, reads, pulls⟩ := midway
  have blankLine := reads.start start
  have indentation : p.indentation = words.current.map (·.1) := by
    rw [reads.indentation, Words.indentation_of_blank blankLine]
  obtain ⟨front, whole, starts⟩ := words.split_current
  refine ⟨front.map (·.1), ⟨?_, ?_, left, ?_, rfl⟩, ?_⟩
  · rcases starts with rfl | ⟨before, breaker, rfl⟩
    · exact .inl rfl
    · have member : (breaker, Role.lineBreak) ∈ words := by
        rw [whole]
        simp
      refine .inr ⟨before.map (·.1), breaker, by simp, ?_⟩
      rw [Layout.isBreak, known _ member]
  · intro token member
    obtain ⟨word, among, rfl⟩ := List.mem_map.1 (indentation ▸ member)
    have white := Words.body_eq_nil_iff.1 blankLine word among
    rw [known word (whole ▸ List.mem_append_right _ among), white]
  · dsimp only
    rw [split, indentation, ← List.append_assoc, ← List.map_append, ← whole]
  · dsimp only
    rw [List.countP_append, pulls, indentation, ← List.map_append, ← whole, List.length_map]
    rfl

theorem feed_unobserved [Ord δ] (token : Token) (role : Role)
    (heard : Heard 0 L.observers past p.memories)
    (here : p.phase = .margin → ∀ blank,
      L.ReportedAt raw past ⟨p.margin, p.indentation, some token, blank⟩) :
    L.RefusalsAbreast raw past
      (p.feed L token role) (p.unobserved.feed L.unobserved token role) := by
  obtain ⟨levels, queue, phase, last, indentation, margin, memories⟩ := p
  cases role with
  | indentation =>
    cases phase with
    | margin => exact .pure ⟨rfl, heard⟩
    | body | finished => exact .pure ⟨rfl, heard⟩
  | lineBreak =>
    cases phase with
    | margin =>
      refine (endBlank_unobserved heard (here rfl true)).map ?_
      rintro a _ _ ⟨rfl, heard⟩
      exact ⟨rfl, heard⟩
    | body | finished => exact .pure ⟨rfl, heard⟩
  | ordinary =>
    cases phase with
    | margin =>
      refine (beginBody_unobserved heard (here rfl false)).map ?_
      rintro a _ _ ⟨rfl, heard⟩
      exact ⟨rfl, heard⟩
    | body | finished => exact .pure ⟨rfl, heard⟩

theorem take_unobserved [Ord δ] {left : List Token} {words : Words} {asked : List Event}
    {token : Token} (midway : p.Midway L raw (token :: left) words asked)
    (heard : Heard 0 L.observers asked p.memories) :
    Abreast (L.refusalLikeness raw) (asked ++ [.pulled]) (fun a b => b = a.unobserved)
      (fun asked a b => a.2 = b.2 ∧ b.1 = a.1.unobserved ∧ Heard 0 L.observers asked a.1.memories)
      (p.take L token) (p.unobserved.take L.unobserved token) := by
  have heard : Heard 0 L.observers (asked ++ [.pulled]) p.memories := heard_note .pulled rfl heard
  unfold Progress.take
  rw [show L.unobserved.classify = L.classify from rfl]
  cases classified : L.classify token with
  | error answer =>
    refine .faults rfl rfl ⟨rfl, ?_, fun _ _ stray => by cases stray⟩ rfl rfl
    exact (List.append_nil (asked ++ [.pulled])).symm ▸ accepts_of_heard heard
  | ok role =>
    have fed := feed_unobserved (p := { p with last := some token }) token role heard
      midway.reportedAt
    exact fed.map fun a b _ same => ⟨rfl, same⟩

theorem finish_unobserved {words : Words} {asked : List Event}
    (midway : p.Midway L raw [] words asked) (heard : Heard 0 L.observers asked p.memories) :
    L.RefusalsAbreast raw (asked ++ [.pulled]) (p.finish L)
      (p.unobserved.finish L.unobserved) := by
  have heard : Heard 0 L.observers (asked ++ [.pulled]) p.memories := heard_note .pulled rfl heard
  have here := fun start => midway.reportedAt start false
  have unfinished := midway.unfinished
  unfold Progress.finish
  suffices ended : L.RefusalsAbreast raw (asked ++ [.pulled])
      (({ p with last := some (p.last.getD L.fallback) } : Progress δ μ).endLast L
        (p.last.getD L.fallback))
      (({ p with last := some (p.last.getD L.fallback) } : Progress δ μ).unobserved.endLast
        L.unobserved (p.last.getD L.fallback)) by
    refine ended.map ?_
    rintro a _ _ ⟨rfl, heard⟩
    exact ⟨rfl, heard⟩
  obtain ⟨levels, queue, phase, last, indentation, margin, memories⟩ := p
  cases phase with
  | margin => exact endBlank_unobserved heard (here rfl)
  | body => exact .pure ⟨rfl, heard⟩
  | finished => exact absurd rfl unfinished

/-- A layout and the same without observers, side by side. -/
def Layout.refusalComparison [Ord δ] (L : Layout δ μ) (raw : List Token) (ending : Option Fault) :
    Comparison L L.unobserved raw ending where
  like := L.refusalLikeness raw
  pulled := rfl
  Beside asked p q := q = p.unobserved ∧ Heard 0 L.observers asked p.memories
  Left p q := q = p.unobserved
  left beside := beside.1
  fresh := ⟨rfl, L.heard_fresh⟩
  phase := by rintro _ p _ ⟨rfl, -⟩; rfl
  queue := by rintro _ p _ ⟨rfl, -⟩; rfl
  delivered := by
    rintro _ p _ ⟨rfl, heard⟩ queue
    exact ⟨rfl, heard⟩
  broken := by
    rintro words asked p _ fault midway ⟨rfl, heard⟩ -
    refine ⟨rfl, accepts_of_heard (heard_note .pulled rfl heard), fun _ _ _ inside => ?_⟩
    -- where the source fails, it was asked once more than it has raw tokens
    rw [midway.split, List.countP_append, midway.pulls] at inside
    simp [Event.isPull] at inside
  take := by
    rintro token left words asked p _ midway ⟨rfl, heard⟩
    exact take_unobserved midway heard
  finish := by
    rintro words asked p _ midway ⟨rfl, heard⟩
    exact finish_unobserved midway heard

/-- What it means that calls to a layout and to the same without observers come together: no
observer refused a line, and they came to the same; or one did, and the first stopped there. -/
theorem Layout.cases_of_together [Ord δ] {ending : Option Fault} {S : Source}
    {first second : List (Option Token) × Option Fault × List Note × Cursor δ μ S.State}
    (together : (L.refusalComparison raw ending).Together [] first second) :
    let asked := questions first.2.2.1
    (L.Accepts asked ∧ first.1 = second.1 ∧ first.2.1 = second.2.1 ∧
      second.2.2.2 = ⟨first.2.2.2.progress.unobserved, first.2.2.2.base⟩ ∧
      pulls first.2.2.1 = pulls second.2.2.1 ∧
      ∀ token depth, first.2.1 = some (.strayDedent token depth) →
        pulls first.2.2.1 ≤ raw.length →
          ∃ report, L.ReportedAt raw asked report ∧ ToldLast 0 L.observers asked report) ∨
    ∃ fault report, first.2.1 = some fault ∧ OneRefuses 0 L.observers asked report fault ∧
      L.ReportedAt raw asked report ∧ first.1 <+: second.1 ∧
      pulls first.2.2.1 ≤ pulls second.2.2.1 := by
  have pulled (notes : List Note) : pulls notes =
      ((questions notes).filter (L.refusalLikeness raw).shared).countP Event.isPull := by
    rw [Likeness.countP_shared rfl, pulls_eq_questions]
  cases together with
  | onwards standing asked =>
    refine .inl ⟨accepts_of_heard standing.beside.2, rfl, rfl, ?_, ?_,
      fun _ _ stray => by cases stray⟩
    · exact congrArg₂ Cursor.mk standing.beside.1 standing.base.symm
    · rw [pulled, pulled]
      exact congrArg _ asked
  | stopped alike remain asked =>
    obtain ⟨rfl, accepts, stray⟩ := alike
    obtain ⟨base, same⟩ := remain
    refine .inl ⟨accepts, rfl, rfl, congrArg₂ Cursor.mk same base.symm, ?_, ?_⟩
    · rw [pulled, pulled]
      exact congrArg _ asked
    · intro token depth fault inside
      rw [pulls_eq_questions] at inside
      exact stray token depth (Option.some.inj fault) inside
  | alone own comes asked =>
    obtain ⟨report, refuses, here⟩ := own
    refine .inr ⟨_, report, rfl, refuses, here, comes, ?_⟩
    rw [pulled, pulled]
    exact asked.sublist.countP_le

/-- An observer that refuses a line is the one that does. -/
theorem Layout.OneRefuses.only {asked : List Event} {fault other : Fault} {i : Nat}
    {observer : Observer μ} (refuses : OneRefuses 0 L.observers asked report fault)
    (registered : L.observers[i]? = some observer)
    (refused : observer.hears (toldTo i asked) = .error other) :
    other = fault ∧ (toldTo i asked).getLast? = some report := by
  obtain ⟨j, refuser, listens, refusal, last, others⟩ := refuses
  rw [Nat.zero_add] at refusal last
  by_cases same : i = j
  · subst same
    cases registered.symm.trans listens
    exact ⟨Except.error.inj (refused.symm.trans refusal), last⟩
  · obtain ⟨memory, accepts⟩ := others i observer same registered
    rw [Nat.zero_add, refused] at accepts
    cases accepts

theorem Layout.OneRefuses.not_accepts {asked : List Event} {fault : Fault}
    (refuses : OneRefuses 0 L.observers asked report fault) : ¬L.Accepts asked := by
  obtain ⟨i, observer, registered, refusal, -⟩ := refuses
  intro accepts
  obtain ⟨memory, heard⟩ := accepts i observer registered
  rw [Nat.zero_add, heard] at refusal
  cases refusal

theorem Layout.Accepts.not_refused {asked : List Event} {fault : Fault} {i : Nat}
    {observer : Observer μ} (accepts : L.Accepts asked)
    (registered : L.observers[i]? = some observer) :
    observer.hears (toldTo i asked) ≠ .error fault := by
  obtain ⟨memory, heard⟩ := accepts i observer registered
  rw [heard]
  nofun

/-- No indentation is kept when the tokens after the last ordinary one are dropped. -/
theorem Layout.settled_append {front indentation : List Token}
    (white : ∀ token ∈ indentation, L.classify token = .ok .indentation) :
    L.settled (front ++ indentation) = L.settled front := by
  rw [Layout.settled, List.rdropWhile, List.reverse_append, List.dropWhile_append_of_pos]
  · rfl
  · intro token member
    simp [Layout.isOrdinary, white token (List.mem_reverse.1 member)]

/-- The raw tokens up to the end of a line's indentation. -/
theorem Layout.LineAt.take_raw {front : List Token} (line : L.LineAt raw front report) :
    raw.take (front ++ report.indentation).length = front ++ report.indentation := by
  obtain ⟨rest, split, -⟩ := line.split
  rw [split, ← List.append_assoc, List.take_left]

/-- Observers refuse lines, and do nothing else. As long as no observer refuses a line that it is
told of, the same tokens are delivered without observers, the same fault ends them, and call by call
all is the same but for what observers remember. Where one refuses a line, its fault shows, and what
was delivered is the beginning of what is delivered without observers, up to the last ordinary token
before the line. And where a layout without observers fails, it fails with them at the same raw
token or before; a line that goes back to no open level only after every observer was told of it. -/
theorem Layout.observers_only_refuse [Ord δ] [DecidableEq δ] [DecidableEq μ] (L : Layout δ μ)
    (S : Source) (p q : Progress δ μ) (base : S.State) (text : String) :
    let raw := (S.readFrom base text).tokens
    let M := L.unobserved
    let watched := (L.source S).readFrom ⟨p, base⟩ text
    let plain := (M.source S).readFrom ⟨q, base⟩ text
    let asked := questions watched.notes
    (L.Accepts asked → watched.tokens = plain.tokens ∧ watched.fault = plain.fault) ∧
    (∀ (i : Nat) (observer : Observer μ) (fault : Fault), L.observers[i]? = some observer →
      observer.hears (toldTo i asked) = .error fault →
        watched.fault = some fault ∧ watched.tokens <+: plain.tokens ∧
        ∃ report front, (toldTo i asked).getLast? = some report ∧ L.LineAt raw front report ∧
          pulls watched.notes = (front ++ report.indentation).length + 1 ∧
          watched.tokens.getLast? = (L.settled front).getLast?) ∧
    (∀ fault, plain.fault = some fault → ∃ own, watched.fault = some own ∧
      pulls watched.notes ≤ pulls plain.notes ∧
      (L.Accepts asked → own = fault ∧ pulls watched.notes = pulls plain.notes ∧
        ∀ token depth, fault = .strayDedent token depth → pulls plain.notes - 1 < raw.length →
          ∃ report front, L.LineAt raw front report ∧
            pulls plain.notes = (front ++ report.indentation).length + 1 ∧
            ∀ i < L.observers.length, (toldTo i asked).getLast? = some report)) ∧
    ((S.reset base text none).1.outcome = .ok () → ∀ count,
      let one := (L.source S).take count ((L.source S).reset ⟨p, base⟩ text none).2
      let two := (M.source S).take count ((M.source S).reset ⟨q, base⟩ text none).2
      L.Accepts (questions one.2.2.1) → one.1 = two.1 ∧ one.2.1 = two.2.1 ∧
        two.2.2.2 = ⟨one.2.2.2.progress.unobserved, one.2.2.2.base⟩) := by
  intro raw M watched plain asked
  cases accepted : (S.reset base text none).1.outcome with
  | error fault =>
    obtain ⟨tokens, failed, silent⟩ := readFrom_of_refused (L := L) accepted p
    obtain ⟨tokens', failed', silent'⟩ := readFrom_of_refused (L := M) accepted q
    have accepts : L.Accepts asked := fun i observer _ =>
      ⟨observer.start, by rw [show asked = [] from silent]; rfl⟩
    have none : raw = [] := congrArg Source.Reading.tokens (Source.readFrom_refused accepted)
    have count : pulls watched.notes = pulls plain.notes := by
      rw [pulls_eq_questions, pulls_eq_questions, silent, silent']
    refine ⟨fun _ => ⟨tokens.trans tokens'.symm, failed.trans failed'.symm⟩, ?_, ?_, nofun⟩
    · intro i observer fault registered refused
      exact absurd refused (accepts.not_refused registered)
    · intro fault ended
      refine ⟨fault, failed.trans (failed'.symm.trans ended), count.le, fun _ => ⟨rfl, count, ?_⟩⟩
      intro _ _ _ inside
      rw [none] at inside
      cases inside
  | ok _ =>
    obtain ⟨whole, calls⟩ := (L.refusalComparison raw (S.readFrom base text).fault).together
      accepted p q
    refine ⟨?_, ?_, ?_, fun _ count accepts => ?_⟩
    · intro accepts
      rcases cases_of_together whole with ⟨-, same, fault, -⟩ | ⟨_, _, _, refuses, -⟩
      · exact ⟨List.map_injective_iff.2 (Option.some_injective _) same, fault⟩
      · exact absurd accepts refuses.not_accepts
    · intro i observer fault registered refused
      rcases cases_of_together whole with ⟨accepts, -⟩ |
        ⟨shown, report, failed, refuses, ⟨front, line, count⟩, comes, -⟩
      · exact absurd refused (accepts.not_refused registered)
      obtain ⟨rfl, last⟩ := refuses.only registered refused
      have pulled : pulls watched.notes = (front ++ report.indentation).length + 1 :=
        (pulls_eq_questions _).trans count
      refine ⟨failed, ?_, report, front, last, line, pulled, ?_⟩
      · exact (List.prefix_map_iff_of_injective (Option.some_injective _)).1 comes
      · have ordinary : watched.tokens.getLast? =
            (L.settled (raw.take (pulls watched.notes - 1))).getLast? :=
          ((L.delivered_until_ordinary S ⟨p, base⟩ text).1 _ failed).1
        rwa [pulled, Nat.add_sub_cancel, line.take_raw, settled_append line.indentation] at ordinary
    · intro fault ended
      rcases cases_of_together whole with ⟨accepts, -, same, -, count, stray⟩ |
        ⟨shown, report, failed, refuses, -, -, count⟩
      · have count : pulls watched.notes = pulls plain.notes := count
        refine ⟨fault, same.trans ended, count.le, fun _ => ⟨rfl, count, ?_⟩⟩
        rintro token depth rfl inside
        obtain ⟨report, ⟨front, line, pulled⟩, told⟩ := stray token depth (same.trans ended)
          (show pulls watched.notes ≤ raw.length by omega)
        refine ⟨report, front, line, ?_, fun i registered => ?_⟩
        · rw [← count, pulls_eq_questions]
          exact pulled
        · exact Nat.zero_add i ▸ told i registered
      · exact ⟨shown, failed, count, fun accepts => absurd accepts refuses.not_accepts⟩
    · rcases cases_of_together (calls count) with ⟨-, answers, fault, state, -⟩ |
        ⟨_, _, _, refuses, -⟩
      · exact ⟨answers, fault, state⟩
      · exact absurd accepts refuses.not_accepts

/-- A tab under two blanks goes back to no open level, but an observer refuses it first. -/
theorem Layout.observers_only_refuse_tab :
    let L := standard
    let c : Token := ⟨"WORD", "c", {}⟩
    let raw : List Token := [⟨"WORD", "a", {}⟩, ⟨"NL", "\n", {}⟩, ⟨"WS", "  ", {}⟩,
      ⟨"WORD", "b", {}⟩, ⟨"NL", "\n", {}⟩, ⟨"WS", "\t", {}⟩, c]
    let S : Source := .scripted (raw.map some) []
    let watched := (L.source S).readFrom ⟨L.fresh, S.start⟩ ""
    let plain := (L.unobserved.source S).readFrom ⟨L.fresh, S.start⟩ ""
    plain.fault = some (.strayDedent c (.int 1)) ∧
      watched.fault = some (.clashingMargins "  " "\t" (some c)) ∧
      watched.tokens.map Token.face =
        [("WORD", "a"), ("eol", "\n"), ("indent", "  "), ("WORD", "b")] ∧
      pulls watched.notes ≤ pulls plain.notes := by
  intro L c raw S watched plain
  obtain ⟨given, ended⟩ : (S.readFrom S.start "").tokens = raw ∧
      (S.readFrom S.start "").fault = none := Source.readFrom_scripted _ [] 0 ""
  have read := L.readFrom_eq_deliver S ⟨L.fresh, S.start⟩ ""
  have read' := L.unobserved.readFrom_eq_deliver S ⟨L.fresh, S.start⟩ ""
  simp only [given, ended] at read read'
  have stray : plain.fault = some (.strayDedent c (.int 1)) :=
    (Prod.mk.inj read').2.trans (by cbv)
  obtain ⟨_, _, failing, _⟩ := L.observers_only_refuse S L.fresh L.fresh S.start ""
  obtain ⟨_, _, before, _⟩ := failing _ stray
  refine ⟨stray, ?_, ?_, before⟩
  · exact (Prod.mk.inj read).2.trans (by cbv)
  · exact (congrArg _ (Prod.mk.inj read).1).trans (by decide)

end

end Offside
