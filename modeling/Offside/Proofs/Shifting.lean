import Offside.Proofs.Margins
import Offside.Proofs.Questions
import Offside.Proofs.Stopping

/-! Texts that are moved to the right as a whole. Every line with content gets the same white space
in front, and so does a last line without content. Where depths add up over a margin this changes
the depths of all open levels by the same amount, so lines open and close the same levels; and an
enforcer compares margins that have the same beginning, so it refuses the same lines. -/
namespace Offside

/-- The depth of a margin is the sum of what its parts are worth, whatever tokens it is made of. -/
structure DepthRule.Additive (rule : DepthRule Int) (width : String → Int) : Prop where
  measure : ∀ indentation margin, rule.measure indentation margin = width margin
  append : ∀ front rest, width (front ++ rest) = width front + width rest
  shown : rule.shown = .int

theorem DepthRule.additive_length :
    DepthRule.length.Additive fun margin => (margin.length : Int) where
  measure _ _ := rfl
  append front rest := by rw [String.length_append, Nat.cast_add]
  shown := rfl

theorem DepthRule.additive_tabs {tab : Int} {rule : DepthRule Int}
    (usable : DepthRule.tabs tab = .ok rule) : rule.Additive (widthWith tab) := by
  obtain rfl : { measure := fun _ margin => widthWith tab margin, shown := .int } = rule := by
    unfold tabs at usable
    split at usable
    · cases usable
    · exact Except.ok.inj usable
  refine ⟨fun _ _ => rfl, fun front rest => ?_, rfl⟩
  rw [widthWith, String.toList_append, width_append]
  rfl

theorem compare_add (a b c : Int) : compare (a + c) (b + c) = compare a b := by
  simp only [Int.compare_eq_ite_lt, add_lt_add_iff_right]

theorem comparable_append {front a b : String} :
    Comparable (front ++ a) (front ++ b) ↔ Comparable a b := by
  simp only [Comparable, String.toList_append, List.prefix_append_right_inj]

/-- A level whose margin has further white space in front, which is worth the given depth. -/
def Level.shifted (shift : String) (further : Int) (level : Level Int) : Level Int :=
  ⟨level.depth + further, shift ++ level.margin⟩

/-- The margin that an enforcer compares the next line with, if that is who remembers. -/
def comparedMargin (memories : List Memory) : String :=
  (memories.head?.getD (.margin "")).lastMargin

/-- An enforcer compares the next line with a margin that was shifted, or with none so far. -/
def Remembering (shift : String) (memories others : List Memory) : Prop :=
  comparedMargin others = shift ++ comparedMargin memories ∨
    comparedMargin memories = "" ∧ comparedMargin others = ""

/-- Faults in a text and in the same with further white space in front of its lines. The depths that
they tell are larger by what that is worth, and the margins start with it. What ended the text
beneath the layout, or was no role, is the same. -/
inductive Fault.Shifted (shift : String) (further : Int) (ending : Option Fault) :
    Fault → Fault → Prop where
  | ending {fault : Fault} (own : ending = some fault) : Shifted shift further ending fault fault
  | stray (token : Option Token) (depth : Int) :
      Shifted shift further ending (.strayDedent token (.int depth))
        (.strayDedent token (.int (depth + further)))
  | clash (previous current : String) (token : Option Token) :
      Shifted shift further ending (.clashingMargins previous current token)
        (.clashingMargins (shift ++ previous) (shift ++ current) token)

/-- Two outcomes side by side: results, or faults. -/
inductive Alongside {α β : Type} (Fails : Fault → Fault → Prop) (Same : α → β → Prop) :
    Except Fault α → Except Fault β → Prop where
  | results {a : α} {b : β} (same : Same a b) : Alongside Fails Same (.ok a) (.ok b)
  | faults {fault other : Fault} (fails : Fails fault other) :
      Alongside Fails Same (.error fault) (.error other)

theorem Alongside.bind {α β γ κ : Type} {Fails : Fault → Fault → Prop} {Same : α → β → Prop}
    {After : γ → κ → Prop} {one : Except Fault α} {two : Except Fault β}
    {next : α → Except Fault γ} {following : β → Except Fault κ}
    (first : Alongside Fails Same one two)
    (onwards : ∀ a b, Same a b → Alongside Fails After (next a) (following b)) :
    Alongside Fails After (one.bind next) (two.bind following) := by
  cases first with
  | results same => exact onwards _ _ same
  | faults fails => exact .faults fails

theorem Alongside.map {α β γ κ : Type} {Fails : Fault → Fault → Prop} {Same : α → β → Prop}
    {After : γ → κ → Prop} {one : Except Fault α} {two : Except Fault β} {f : α → γ} {g : β → κ}
    (first : Alongside Fails Same one two)
    (onwards : ∀ a b, one = .ok a → Same a b → After (f a) (g b)) :
    Alongside Fails After (one.map f) (two.map g) := by
  cases first with
  | results same => exact .results (onwards _ _ rfl same)
  | faults fails => exact .faults fails

theorem Alongside.imp {α β : Type} {Fails : Fault → Fault → Prop} {Same After : α → β → Prop}
    {one : Except Fault α} {two : Except Fault β} (first : Alongside Fails Same one two)
    (onwards : ∀ a b, Same a b → After a b) : Alongside Fails After one two := by
  cases first with
  | results same => exact .results (onwards _ _ same)
  | faults fails => exact .faults fails

theorem Alongside.cases {α β : Type} {Fails : Fault → Fault → Prop} {Same : α → β → Prop}
    {one : Except Fault α} {two : Except Fault β} (first : Alongside Fails Same one two) :
    (∃ a b, one = .ok a ∧ two = .ok b ∧ Same a b) ∨
      ∃ fault other, one = .error fault ∧ two = .error other ∧ Fails fault other := by
  cases first with
  | results same => exact .inl ⟨_, _, rfl, rfl, same⟩
  | faults fails => exact .inr ⟨_, _, rfl, rfl, fails⟩

theorem Alongside.unlike {α β : Type} {Fails : Fault → Fault → Prop} {Same : α → β → Prop}
    {one : Except Fault α} {two : Except Fault β} (first : Alongside Fails Same one two) :
    Alongside (fun _ _ => True) Same one two := by
  cases first with
  | results same => exact .results same
  | faults => exact .faults trivial

section

variable {shift : String} {further : Int} {ending : Option Fault}

theorem Level.shifted_depth (level : Level Int) :
    (level.shifted shift further).depth = level.depth + further := rfl

theorem Level.isAt_shifted (depth : Int) (level : Level Int) :
    (level.shifted shift further).isAt (depth + further) = level.isAt depth := by
  rw [isAt, isAt, shifted_depth, compare_add]

theorem Level.isDeeper_shifted (depth : Int) (level : Level Int) :
    (level.shifted shift further).isDeeper (depth + further) = level.isDeeper depth := by
  rw [isDeeper, isDeeper, shifted_depth, compare_add]

theorem Ordered.shifted {levels : List (Level Int)} (ordered : Ordered levels) :
    Ordered (levels.map (Level.shifted shift further)) := by
  refine List.pairwise_map.2 (ordered.imp fun {inner outer} deeper => ?_)
  rwa [Level.shifted_depth, Level.shifted_depth, compare_add]

variable {μ : Type} {L : Layout Int μ}

/-- With further white space in front a line opens and closes the same levels. -/
theorem Layout.opening_shifted (borrows : L.build = .borrow) (shown : L.depth.shown = .int)
    (levels : List (Level Int)) (depth : Int) (margin : String) (first : Token) :
    Alongside (Fault.Shifted shift further ending)
      (fun one two => two.1 = one.1.map (fun token => { token with text := shift ++ token.text }) ∧
        two.2 = one.2.map (Level.shifted shift further))
      (L.opening levels depth margin first)
      (L.opening (levels.map (Level.shifted shift further)) (depth + further) (shift ++ margin)
        first) := by
  cases levels with
  | nil => exact .results ⟨rfl, rfl⟩
  | cons top levels =>
    have landing : ((top :: levels).map (Level.shifted shift further)).any
        (·.isAt (depth + further)) = (top :: levels).any (·.isAt depth) := by
      simp only [List.any_map, Function.comp_def, Level.isAt_shifted]
    have deeper : ((top :: levels).map (Level.shifted shift further)).any
        (·.isDeeper (depth + further)) = (top :: levels).any (·.isDeeper depth) := by
      simp only [List.any_map, Function.comp_def, Level.isDeeper_shifted]
    rw [opening_nonempty (by simp), opening_nonempty (by simp), landing, deeper, borrows, shown]
    split
    · refine .results ⟨?_, ?_⟩
      · simp only [List.filter_map, List.map_map, Function.comp_def, Level.isDeeper_shifted,
          Builder.borrow]
      · simp only [List.filter_map, Function.comp_def, Level.isDeeper_shifted]
    · split
      · exact .faults (.stray first depth)
      · exact .results ⟨rfl, rfl⟩

end

/-- Observers that only enforce consistent margins, or none, refuse a line with further white space
in front where they refuse it without. Of a line that is blank they do not mind. -/
theorem Layout.tell_shifted {shift : String} {further : Int} {ending : Option Fault}
    {observers : List (Observer Memory)} (watch : observers = [] ∨ observers = [.consistent])
    {memories others : List Memory} (remember : Remembering shift memories others)
    (report other : LineReport) (blank : other.blank = report.blank)
    (margin : report.blank = false → other.margin = shift ++ report.margin)
    (breaker : other.breaker = report.breaker) :
    Alongside (Fault.Shifted shift further ending) (Remembering shift)
      (tell report 0 observers memories).outcome (tell other 0 observers others).outcome := by
  rcases watch with rfl | rfl
  · exact .results (.inr ⟨rfl, rfl⟩)
  simp only [tell, Attempt.outcome_bind, Attempt.outcome_note, Attempt.outcome_ofExcept,
    Attempt.outcome_pure, Except.bind, Observer.consistent, blank]
  cases ended : report.blank with
  | true => exact .results remember
  | false =>
    rw [margin ended, breaker]
    have same : Comparable (comparedMargin others) (shift ++ report.margin) ↔
        Comparable (comparedMargin memories) report.margin := by
      rcases remember with shifted | ⟨none, none'⟩
      · rw [shifted, comparable_append]
      · rw [none, none']
        exact iff_of_true (.inl List.nil_prefix) (.inl List.nil_prefix)
    by_cases fits : Comparable (comparedMargin memories) report.margin
    · have fits' := same.2 fits
      unfold comparedMargin at fits fits'
      simp only [fits, fits', if_true, Bool.false_eq_true, if_false]
      exact .results (.inl rfl)
    · have clash := mt same.1 fits
      rcases remember with shifted | ⟨none, -⟩
      · rw [shifted] at clash
        unfold comparedMargin at fits clash shifted
        simp only [fits, clash, if_false, Bool.false_eq_true, shifted]
        exact .faults (.clash _ _ _)
      · exact absurd (none ▸ .inl List.nil_prefix) fits

/-- The hooks with which a text may be moved: tokens that are built where their base stands, blank
lines that contribute nothing, at most an observer that enforces consistent margins, and depths that
add up. -/
structure Layout.Movable (L : Layout Int Memory) (width : String → Int) : Prop where
  borrows : L.build = .borrow
  ignores : L.blank = .ignore
  watch : L.observers = [] ∨ L.observers = [.consistent]
  depth : L.depth.Additive width

/-- Raw tokens, and the same where each line has an indentation token of the given text in front:
every line that is not blank, and a last line without content that no line break ends. An empty last
line may have it or not. -/
inductive Layout.Relocated {μ : Type} (L : Layout Int μ) (shift : String) :
    List Token → List Token → Prop where
  | blank {white raw moved : List Token} {breaker : Token}
      (indents : ∀ token ∈ white, L.classify token = .ok .indentation)
      (ends : L.classify breaker = .ok .lineBreak) (rest : Relocated L shift raw moved) :
      Relocated L shift (white ++ breaker :: raw) (white ++ breaker :: moved)
  | line {line raw moved : List Token} {pad breaker : Token}
      (pads : L.classify pad = .ok .indentation) (text : pad.text = shift)
      (within : ∀ token ∈ line, L.isBreak token = false)
      (content : ∃ token ∈ line, L.classify token ≠ .ok .indentation)
      (ends : L.classify breaker = .ok .lineBreak) (rest : Relocated L shift raw moved) :
      Relocated L shift (line ++ breaker :: raw) (pad :: line ++ breaker :: moved)
  | last {line : List Token} {pad : Token} (pads : L.classify pad = .ok .indentation)
      (text : pad.text = shift) (within : ∀ token ∈ line, L.isBreak token = false) :
      Relocated L shift line (pad :: line)
  | ended : Relocated L shift [] []

/-- Two layouts of which the second has the same levels open as the first, all of them shifted. -/
structure Progress.Shifted (shift : String) (further : Int) (p moved : Progress Int Memory) :
    Prop where
  ordered : Ordered p.levels
  levels : moved.levels = p.levels.map (Level.shifted shift further)
  phase : moved.phase = p.phase
  memories : Remembering shift p.memories moved.memories

namespace Progress

variable {L : Layout Int Memory} {width : String → Int} {shift : String}
  {p moved : Progress Int Memory}

theorem Shifted.released {further : Int} (same : p.Shifted shift further moved) (role : Role) :
    (p.released role).Shifted shift further (moved.released role) := by
  cases role with
  | ordinary => exact ⟨same.ordered, same.levels, same.phase, same.memories⟩
  | indentation | lineBreak => exact same

/-- With the first ordinary token of a line both open and close the same levels. -/
theorem Shifted.beginBody (movable : L.Movable width) (same : p.Shifted shift (width shift) moved)
    (margin : moved.margin = shift ++ p.margin) (first : Token) (ending : Option Fault) :
    Alongside (Fault.Shifted shift (width shift) ending)
      (fun a b => a.Shifted shift (width shift) b) (p.beginBody L first).outcome
      (moved.beginBody L first).outcome := by
  have ordered : Ordered moved.levels := same.levels ▸ same.ordered.shifted
  rw [outcome_beginBody same.ordered, outcome_beginBody ordered]
  refine (Layout.tell_shifted movable.watch same.memories ⟨p.margin, p.indentation, first, false⟩
    ⟨moved.margin, moved.indentation, first, false⟩ rfl (fun _ => margin) rfl).bind ?_
  intro memories others remember
  have depth : L.depth.measure moved.indentation moved.margin =
      L.depth.measure p.indentation p.margin + width shift := by
    rw [movable.depth.measure, movable.depth.measure, margin, movable.depth.append, add_comm]
  rw [depth, margin, same.levels]
  refine (Layout.opening_shifted movable.borrows movable.depth.shown _ _ _ _).map ?_
  intro opened _ opening levels
  exact ⟨(Layout.opened_of_opening same.ordered opening).ordered same.ordered, levels.2,
    same.phase, remember⟩

/-- Within a line both come past a token, or both refuse it. -/
theorem Shifted.feed (movable : L.Movable width) (same : p.Shifted shift (width shift) moved)
    (margin : p.phase = .margin → moved.margin = shift ++ p.margin) (token : Token) {role : Role}
    (within : role ≠ .lineBreak) :
    Alongside (fun _ _ => True)
      (fun a b => a.Shifted shift (width shift) b ∧
        (a.phase = .margin → b.margin = shift ++ a.margin))
      (p.feed L token role).outcome (moved.feed L token role).outcome := by
  unfold Progress.feed
  rw [same.phase]
  cases role with
  | lineBreak => exact absurd rfl within
  | indentation =>
    cases start : p.phase with
    | margin =>
      refine .results ⟨⟨same.ordered, same.levels, rfl, same.memories⟩, fun _ => ?_⟩
      show moved.margin ++ token.text = shift ++ (p.margin ++ token.text)
      rw [margin start, String.append_assoc]
    | body | finished =>
      refine .results ⟨⟨same.ordered, same.levels, same.phase, same.memories⟩, fun again => ?_⟩
      cases start.symm.trans again
  | ordinary =>
    cases start : p.phase with
    | margin =>
      simp only [Attempt.outcome_map]
      refine ((same.beginBody movable (margin start) token none).unlike).map fun a b _ same => ?_
      exact ⟨⟨same.ordered, same.levels, rfl, same.memories⟩, nofun⟩
    | body | finished =>
      exact .results ⟨⟨same.ordered, same.levels, rfl, same.memories⟩, nofun⟩

/-- Within a line both take a token, or both refuse it. -/
theorem Shifted.take (movable : L.Movable width) (same : p.Shifted shift (width shift) moved)
    (margin : p.phase = .margin → moved.margin = shift ++ p.margin) {token : Token}
    (within : L.isBreak token = false) :
    Alongside (fun _ _ => True)
      (fun a b => b.2 = a.2 ∧ a.1.Shifted shift (width shift) b.1 ∧
        (a.1.phase = .margin → b.1.margin = shift ++ a.1.margin))
      (p.take L token).outcome (moved.take L token).outcome := by
  unfold Progress.take
  cases classified : L.classify token with
  | error answer => exact .faults trivial
  | ok role =>
    have inside : role ≠ .lineBreak := by
      rintro rfl
      simp [Layout.isBreak, classified] at within
    have known : Shifted shift (width shift) { p with last := some token }
        { moved with last := some token } :=
      ⟨same.ordered, same.levels, same.phase, same.memories⟩
    simp only [Attempt.outcome_map]
    exact (known.feed movable margin token inside).map fun a b _ same => ⟨rfl, same⟩

/-- A blank line contributes nothing, and is shown to the observers. -/
theorem outcome_endBlank (ignores : L.blank = .ignore) (breaker : Option Token) :
    (p.endBlank L breaker).outcome =
      (Layout.tell ⟨p.margin, p.indentation, breaker, breaker.isSome⟩ 0 L.observers
        p.memories).outcome.map fun memories => { p with memories } := by
  have silent : p.enqueue [] = p := by rw [enqueue, List.append_nil]
  simp only [endBlank, ignores, BlankRule.ignore, silent, outcome_report, Attempt.outcome_bind,
    Attempt.outcome_note, Except.bind]

/-- A line break leaves both at the start of a line. -/
theorem Shifted.lineBreak (movable : L.Movable width) (same : p.Shifted shift (width shift) moved)
    {breaker : Token} (ends : L.classify breaker = .ok .lineBreak) :
    Alongside (fun _ _ => True)
      (fun a b => a.2 = .lineBreak ∧ b.2 = .lineBreak ∧ a.1.Shifted shift (width shift) b.1 ∧
        a.1.newLine = a.1 ∧ b.1.newLine = b.1)
      (p.take L breaker).outcome (moved.take L breaker).outcome := by
  simp only [Progress.take, ends, Progress.feed, same.phase]
  cases start : p.phase with
  | margin =>
    have told : Alongside (Fault.Shifted shift (width shift) none) _ _ _ :=
      Layout.tell_shifted movable.watch same.memories ⟨p.margin, p.indentation, breaker, true⟩
        ⟨moved.margin, moved.indentation, breaker, true⟩ rfl (by simp) rfl
    simp only [Attempt.outcome_map, outcome_endBlank movable.ignores]
    rcases told.cases with ⟨memories, others, one, two, remember⟩ | ⟨fault, other, one, two, -⟩
    · rw [Option.isSome_some, one, two]
      exact .results ⟨rfl, rfl, ⟨same.ordered, same.levels, rfl, remember⟩, rfl, rfl⟩
    · rw [Option.isSome_some, one, two]
      exact .faults trivial
  | body | finished =>
    exact .results ⟨rfl, rfl, ⟨same.ordered, same.levels, rfl, same.memories⟩, rfl, rfl⟩

/-- White space at the start of a line is gathered. -/
theorem accepts_white (start : p.phase = .margin) {white : List Token}
    (indents : ∀ token ∈ white, L.classify token = .ok .indentation) (raw : List Token) :
    ∃ last indentation, p.accepts L (white ++ raw) =
      white ++ ({ p with
        last, indentation
        margin := white.foldl (fun margin token => margin ++ token.text) p.margin
        } : Progress Int Memory).accepts L raw := by
  induction white generalizing p with
  | nil => exact ⟨p.last, p.indentation, rfl⟩
  | cons token white ih =>
    obtain ⟨indent, indents⟩ := List.forall_mem_cons.1 indents
    have taken : (p.take L token).outcome = .ok ({ p with
        last := some token
        indentation := p.indentation ++ [token]
        margin := p.margin ++ token.text }, .indentation) := by
      simp only [Progress.take, indent, Progress.feed, start, Attempt.outcome_map]
      rfl
    obtain ⟨last, indentation, gathered⟩ := ih (p := { p with
        last := some token
        indentation := p.indentation ++ [token]
        margin := p.margin ++ token.text }) start indents
    refine ⟨last, indentation, ?_⟩
    rw [List.cons_append, accepts_taken taken, released, gathered]
    rfl

/-- As many line breaks come after a token that both take. -/
theorem countP_accepts_cons {token : Token} {raw other : List Token}
    (same : Alongside (fun _ _ => True)
      (fun a b => b.2 = a.2 ∧ ((a.1.released a.2).accepts L raw).countP L.isBreak =
        ((b.1.released b.2).accepts L other).countP L.isBreak)
      (p.take L token).outcome (moved.take L token).outcome) :
    (p.accepts L (token :: raw)).countP L.isBreak =
      (moved.accepts L (token :: other)).countP L.isBreak := by
  rcases same.cases with ⟨a, b, one, two, -, same⟩ | ⟨fault, refusal, one, two, -⟩
  · rw [accepts_taken one, accepts_taken two, List.countP_cons, List.countP_cons, same]
  · rw [accepts_refused one, accepts_refused two]

/-- Both refuse the same token of a line, or none. -/
theorem Shifted.accepts_line (movable : L.Movable width) {line rest other : List Token}
    (within : ∀ token ∈ line, L.isBreak token = false)
    (same : p.Shifted shift (width shift) moved)
    (margin : p.phase = .margin → moved.margin = shift ++ p.margin)
    (onwards : ∀ a b : Progress Int Memory, a.Shifted shift (width shift) b →
      (a.accepts L rest).countP L.isBreak = (b.accepts L other).countP L.isBreak) :
    (p.accepts L (line ++ rest)).countP L.isBreak =
      (moved.accepts L (line ++ other)).countP L.isBreak := by
  induction line generalizing p moved with
  | nil => exact onwards p moved same
  | cons token line ih =>
    obtain ⟨inside, within⟩ := List.forall_mem_cons.1 within
    refine countP_accepts_cons ((same.take movable margin inside).imp ?_)
    rintro ⟨a, role⟩ ⟨b, _⟩ ⟨rfl, same, margin⟩
    refine ⟨rfl, ih within (same.released _) fun start => ?_⟩
    rw [released_phase] at start
    rw [released_margin, released_margin, margin start]

/-- After a line break both are at the start of a line. -/
theorem Shifted.accepts_break (movable : L.Movable width)
    (same : p.Shifted shift (width shift) moved) {breaker : Token} {raw other : List Token}
    (ends : L.classify breaker = .ok .lineBreak)
    (onwards : ∀ a b : Progress Int Memory, a.Shifted shift (width shift) b → a.newLine = a →
      b.newLine = b → (a.accepts L raw).countP L.isBreak = (b.accepts L other).countP L.isBreak) :
    (p.accepts L (breaker :: raw)).countP L.isBreak =
      (moved.accepts L (breaker :: other)).countP L.isBreak := by
  refine countP_accepts_cons ((same.lineBreak movable ends).imp ?_)
  rintro ⟨a, _⟩ ⟨b, _⟩ ⟨rfl, rfl, same, home, home'⟩
  exact ⟨rfl, onwards a b same home home'⟩

/-- Both refuse the same token of a line that was moved, or none. -/
theorem Shifted.accepts_padded (movable : L.Movable width)
    (same : p.Shifted shift (width shift) moved) (home : p.newLine = p)
    (home' : moved.newLine = moved) {line rest other : List Token} {pad : Token}
    (pads : L.classify pad = .ok .indentation) (text : pad.text = shift)
    (within : ∀ token ∈ line, L.isBreak token = false)
    (onwards : ∀ a b : Progress Int Memory, a.Shifted shift (width shift) b →
      (a.accepts L rest).countP L.isBreak = (b.accepts L other).countP L.isBreak) :
    (p.accepts L (line ++ rest)).countP L.isBreak =
      (moved.accepts L (pad :: line ++ other)).countP L.isBreak := by
  have start : moved.phase = .margin := (congrArg Progress.phase home').symm
  obtain ⟨last, indentation, gathered⟩ :=
    accepts_white start (List.forall_mem_singleton.2 pads) (line ++ other)
  have inside : L.isBreak pad = false := by simp [Layout.isBreak, pads]
  have margins : ("" : String) = p.margin ∧ "" = moved.margin :=
    ⟨congrArg Progress.margin home, congrArg Progress.margin home'⟩
  rw [show pad :: line ++ other = [pad] ++ (line ++ other) from rfl, gathered, List.countP_append,
    List.countP_singleton, inside, if_neg Bool.false_ne_true, Nat.zero_add]
  refine Shifted.accepts_line movable within
    ⟨same.ordered, same.levels, same.phase, same.memories⟩ (fun _ => ?_) onwards
  show moved.margin ++ pad.text = shift ++ p.margin
  rw [← margins.1, ← margins.2, text, String.append_empty, String.empty_append]

/-- A layout refuses a text in the line in which it refuses it where it is moved. -/
theorem Shifted.accepts_relocated (movable : L.Movable width) {raw other : List Token}
    (texts : L.Relocated shift raw other) (same : p.Shifted shift (width shift) moved)
    (home : p.newLine = p) (home' : moved.newLine = moved) :
    (p.accepts L raw).countP L.isBreak = (moved.accepts L other).countP L.isBreak := by
  induction texts generalizing p moved with
  | ended => rfl
  | @blank white raw other breaker indents ends rest ih =>
    have start : p.phase = .margin := (congrArg Progress.phase home).symm
    obtain ⟨last, indentation, gathered⟩ := accepts_white start indents (breaker :: raw)
    obtain ⟨last', indentation', gathered'⟩ :=
      accepts_white (same.phase.trans start) indents (breaker :: other)
    rw [gathered, gathered', List.countP_append, List.countP_append]
    refine congrArg _ (Shifted.accepts_break movable ?_ ends fun a b => ih)
    exact ⟨same.ordered, same.levels, same.phase, same.memories⟩
  | @line line raw other pad breaker pads text within content ends rest ih =>
    exact same.accepts_padded movable home home' pads text within fun a b same =>
      same.accepts_break movable ends fun a b => ih
  | @last line pad pads text within =>
    have through : (p.accepts L (line ++ [])).countP L.isBreak =
        (moved.accepts L (pad :: line ++ [])).countP L.isBreak :=
      same.accepts_padded movable home home' pads text within fun _ _ _ => rfl
    rwa [List.append_nil, List.append_nil] at through

end Progress

end Offside
