import Mathlib.Data.List.TakeWhile
import Offside.Proofs.Reading

/-! Open levels. A level is deeper than those outside it, so which levels a line closes is a matter
of depth alone: those that are deeper than the line, provided that one of the others is as deep as
it. `opening` says so without going from level to level, and `outcome_settle` that it is what
settling a line does. -/
namespace Offside

variable {δ μ : Type}

theorem eol_ne_indent : eolKind ≠ indentKind := by decide

theorem eol_ne_dedent : eolKind ≠ dedentKind := by decide

theorem indent_ne_dedent : indentKind ≠ dedentKind := by decide

/-- Neither opens nor closes a level. -/
def Token.Neutral (token : Token) : Prop :=
  token.kind ≠ indentKind ∧ token.kind ≠ dedentKind

instance (token : Token) : Decidable token.Neutral :=
  inferInstanceAs (Decidable (_ ∧ _))

theorem Token.neutral_of_eol {token : Token} (ends : token.kind = eolKind) : token.Neutral := by
  rw [Neutral, ends]
  exact ⟨eol_ne_indent, eol_ne_dedent⟩

namespace Level

variable [Ord δ]

/-- Whether a level is as deep as a line. -/
def isAt (depth : δ) (level : Level δ) : Bool := compare level.depth depth == .eq

/-- Whether a level is deeper than a line. -/
def isDeeper (depth : δ) (level : Level δ) : Bool := compare level.depth depth == .gt

end Level

/-- Each level is deeper than those outside it. -/
def Ordered [Ord δ] (levels : List (Level δ)) : Prop :=
  levels.Pairwise fun inner outer => compare outer.depth inner.depth = .lt

/-- The tokens before the content of a line, and the levels that are open in it. The first line
opens the outermost level without a token. A line as deep as an open level closes the levels
deeper than itself, each with a token; a line deeper than all of them opens a level with a token;
a line between them is misplaced. -/
def Layout.opening [Ord δ] (L : Layout δ μ) (levels : List (Level δ)) (depth : δ) (margin : String)
    (first : Token) : Except Fault (List Token × List (Level δ)) :=
  match levels with
  | [] => .ok ([], [⟨depth, margin⟩])
  | _ :: _ =>
    if levels.any (·.isAt depth) then
      .ok ((levels.filter (·.isDeeper depth)).map fun _ => L.build dedentKind margin first,
        levels.filter fun level => !level.isDeeper depth)
    else if levels.any (·.isDeeper depth) then .error (.strayDedent first (L.depth.shown depth))
    else .ok ([L.build indentKind margin first], ⟨depth, margin⟩ :: levels)

namespace Ordered

variable [Ord δ] [Std.TransOrd δ] {top : Level δ} {levels : List (Level δ)} {depth : δ}

/-- A level as deep as a line separates the levels deeper than it from the others. -/
theorem split_at (ordered : Ordered levels) (landing : levels.any (·.isAt depth)) :
    ∃ closed level outside, levels = closed ++ level :: outside ∧
      (∀ inner ∈ closed, compare inner.depth depth = .gt) ∧
      compare level.depth depth = .eq ∧ ∀ outer ∈ outside, compare outer.depth depth = .lt := by
  obtain ⟨level, member, same⟩ := List.any_eq_true.1 landing
  have same : compare level.depth depth = .eq := by simpa [Level.isAt] using same
  obtain ⟨closed, outside, rfl⟩ := List.append_of_mem member
  obtain ⟨_, fromLevel, across⟩ := List.pairwise_append.1 ordered
  refine ⟨closed, level, outside, rfl, fun inner inside => ?_, same, fun outer beyond => ?_⟩
  · have deeper := across inner inside level List.mem_cons_self
    exact Std.TransCmp.gt_of_gt_of_eq (Std.OrientedCmp.gt_of_lt deeper) same
  · have shallower := (List.pairwise_cons.1 fromLevel).1 outer beyond
    exact Std.TransCmp.lt_of_lt_of_eq shallower same

/-- Where any level is deeper than a line, the innermost one is. -/
theorem top_deeper (ordered : Ordered (top :: levels))
    (deeper : (top :: levels).any (·.isDeeper depth)) : compare top.depth depth = .gt := by
  obtain ⟨level, member, deeper⟩ := List.any_eq_true.1 deeper
  have below : compare level.depth depth = .gt := by simpa [Level.isDeeper] using deeper
  rcases List.mem_cons.1 member with rfl | outside
  · exact below
  · have inside := (List.pairwise_cons.1 ordered).1 level outside
    exact Std.TransCmp.gt_trans (Std.OrientedCmp.gt_of_lt inside) below

end Ordered

/-- A line that is not deeper than any open level, nor as deep as one, is deeper than all. -/
theorem Level.shallower_of_apart [Ord δ] {levels : List (Level δ)} {depth : δ}
    (missed : levels.any (·.isAt depth) = false)
    (shallow : levels.any (·.isDeeper depth) = false) :
    ∀ level ∈ levels, compare level.depth depth = .lt := by
  intro level member
  have apart := List.any_eq_false.1 missed level member
  have above := List.any_eq_false.1 shallow level member
  cases position : compare level.depth depth with
  | lt => rfl
  | eq => simp [isAt, position] at apart
  | gt => simp [isDeeper, position] at above

section

variable [Ord δ] {L : Layout δ μ} {depth : δ} {margin : String} {first : Token}

/-- Unless no level is open, a line lands, is misplaced, or opens a level. -/
theorem Layout.opening_nonempty {levels : List (Level δ)} (nonempty : levels ≠ []) :
    L.opening levels depth margin first =
      if levels.any (·.isAt depth) then
        .ok ((levels.filter (·.isDeeper depth)).map fun _ => L.build dedentKind margin first,
          levels.filter fun level => !level.isDeeper depth)
      else if levels.any (·.isDeeper depth) then .error (.strayDedent first (L.depth.shown depth))
      else .ok ([L.build indentKind margin first], ⟨depth, margin⟩ :: levels) := by
  cases levels with
  | nil => exact absurd rfl nonempty
  | cons top levels => rfl

/-- A line that lands on a level closes those inside it. -/
theorem Layout.opening_landing {closed outside : List (Level δ)} {level : Level δ}
    (deeper : ∀ inner ∈ closed, compare inner.depth depth = .gt)
    (same : compare level.depth depth = .eq)
    (shallower : ∀ outer ∈ outside, compare outer.depth depth = .lt) :
    L.opening (closed ++ level :: outside) depth margin first =
      .ok (closed.map fun _ => L.build dedentKind margin first, level :: outside) := by
  have landing : (closed ++ level :: outside).any (·.isAt depth) = true := by
    simp [Level.isAt, same]
  have inner : closed.filter (·.isDeeper depth) = closed :=
    List.filter_eq_self.2 fun level member => by simp [Level.isDeeper, deeper level member]
  have innerLeft : closed.filter (fun level => !level.isDeeper depth) = [] :=
    List.filter_eq_nil_iff.2 fun level member => by simp [Level.isDeeper, deeper level member]
  have outer : outside.filter (·.isDeeper depth) = [] :=
    List.filter_eq_nil_iff.2 fun level member => by simp [Level.isDeeper, shallower level member]
  have outerLeft : outside.filter (fun level => !level.isDeeper depth) = outside :=
    List.filter_eq_self.2 fun level member => by simp [Level.isDeeper, shallower level member]
  have here : level.isDeeper depth = false := by simp [Level.isDeeper, same]
  rw [opening_nonempty (by simp), if_pos landing]
  simp [inner, innerLeft, outer, outerLeft, here]

end

/-- Settling a line adds the tokens of `opening` and leaves its levels open. -/
theorem Progress.outcome_settle [Ord δ] [Std.TransOrd δ] {L : Layout δ μ} {p : Progress δ μ}
    {depth : δ} {first : Token} (ordered : Ordered p.levels) :
    (p.settle L depth first).outcome =
      (L.opening p.levels depth p.margin first).map fun (tokens, levels) =>
        { p with levels }.enqueue tokens := by
  cases landing : p.levels.any (·.isAt depth) with
  | true =>
    obtain ⟨closed, level, outside, split, deeper, same, shallower⟩ := ordered.split_at landing
    rw [split, Layout.opening_landing deeper same shallower]
    cases closed with
    | nil =>
      have stays : { p with levels := level :: outside } = p := by
        rw [← List.nil_append (level :: outside), ← split]
      have position : compare depth level.depth = .eq := Std.OrientedCmp.eq_symm same
      simp [settle, split, position, Except.map, enqueue, stays]
    | cons top closed =>
      have position : compare depth top.depth = .lt :=
        Std.OrientedCmp.lt_of_gt (deeper top List.mem_cons_self)
      have passed : ∀ inner ∈ top :: closed, (compare inner.depth depth != .eq) = true :=
        fun inner inside => by simp [deeper inner inside]
      have left : (top :: (closed ++ level :: outside)).dropWhile
          (fun level => compare level.depth depth != .eq) = level :: outside := by
        rw [← List.cons_append, List.dropWhile_append_of_pos passed]
        simp [same]
      have taken : (top :: (closed ++ level :: outside)).takeWhile
          (fun level => compare level.depth depth != .eq) = top :: closed := by
        rw [← List.cons_append, List.takeWhile_append_of_pos passed]
        simp [same]
      simp only [settle, split, List.cons_append, position, left, taken]
      rfl
  | false =>
    cases opened : p.levels with
    | nil => simp [settle, opened, Layout.opening, Except.map, enqueue]
    | cons top levels =>
      rw [opened] at ordered landing
      rw [Layout.opening_nonempty (by simp), landing]
      cases deeper : (top :: levels).any (·.isDeeper depth) with
      | true =>
        have position : compare depth top.depth = .lt :=
          Std.OrientedCmp.lt_of_gt (ordered.top_deeper deeper)
        have left : (top :: levels).dropWhile
            (fun level => compare level.depth depth != .eq) = [] :=
          List.dropWhile_eq_nil_iff.2 fun level member => by
            simpa [Level.isAt, bne] using List.any_eq_false.1 landing level member
        simp only [settle, opened, position, left]
        rfl
      | false =>
        have position : compare depth top.depth = .gt :=
          Std.OrientedCmp.gt_of_lt (Level.shallower_of_apart landing deeper top List.mem_cons_self)
        simp only [settle, opened, position]
        rfl

/-- The first ordinary token of a line is shown to the observers, and only then settles how deep the
line is. -/
theorem Progress.outcome_beginBody [Ord δ] [Std.TransOrd δ] {L : Layout δ μ} {p : Progress δ μ}
    {first : Token} (ordered : Ordered p.levels) :
    (p.beginBody L first).outcome =
      (Layout.tell ⟨p.margin, p.indentation, some first, false⟩ 0 L.observers
        p.memories).outcome.bind fun memories =>
        (L.opening p.levels (L.depth.measure p.indentation p.margin) p.margin first).map
          fun (tokens, levels) => { p with levels, memories }.enqueue tokens := by
  simp only [beginBody, outcome_report, Attempt.outcome_bind, Attempt.outcome_note, Except.bind]
  cases (Layout.tell ⟨p.margin, p.indentation, some first, false⟩ 0 L.observers
      p.memories).outcome with
  | error refusal => rfl
  | ok memories => exact outcome_settle (p := { p with memories }) ordered

/-- What `opening` does where it succeeds: it opens the outermost level; or it lands on a level and
closes those inside it; or it opens a level deeper than all others. -/
inductive Opened [Ord δ] (L : Layout δ μ) (depth : δ) (margin : String) (first : Token) :
    List (Level δ) → List Token → List (Level δ) → Prop where
  | outermost : Opened L depth margin first [] [] [⟨depth, margin⟩]
  | landed (closed outside : List (Level δ)) (level : Level δ)
      (same : compare level.depth depth = .eq) :
      Opened L depth margin first (closed ++ level :: outside)
        (closed.map fun _ => L.build dedentKind margin first) (level :: outside)
  | deepened (top : Level δ) (levels : List (Level δ))
      (shallower : ∀ outer ∈ top :: levels, compare outer.depth depth = .lt) :
      Opened L depth margin first (top :: levels) [L.build indentKind margin first]
        (⟨depth, margin⟩ :: top :: levels)

theorem Layout.opened_of_opening [Ord δ] [Std.TransOrd δ] {L : Layout δ μ} {depth : δ}
    {margin : String} {first : Token} {levels after : List (Level δ)} {tokens : List Token}
    (ordered : Ordered levels)
    (opening : L.opening levels depth margin first = .ok (tokens, after)) :
    Opened L depth margin first levels tokens after := by
  cases levels with
  | nil =>
    cases opening
    exact .outermost
  | cons top levels =>
    cases landing : (top :: levels).any (·.isAt depth) with
    | true =>
      obtain ⟨closed, level, outside, split, deeper, same, shallower⟩ := ordered.split_at landing
      rw [split, opening_landing deeper same shallower] at opening
      cases opening
      rw [split]
      exact .landed closed outside level same
    | false =>
      rw [opening_nonempty (by simp), landing] at opening
      cases deeper : (top :: levels).any (·.isDeeper depth) with
      | true => simp [deeper] at opening
      | false =>
        simp only [deeper] at opening
        cases opening
        exact .deepened top levels (Level.shallower_of_apart landing deeper)

/-- The levels that are open in a line are ordered as those before it were. -/
theorem Opened.ordered [Ord δ] {L : Layout δ μ} {depth : δ} {margin : String} {first : Token}
    {levels after : List (Level δ)} {tokens : List Token}
    (opened : Opened L depth margin first levels tokens after) (ordered : Ordered levels) :
    Ordered after := by
  cases opened with
  | outermost => exact List.pairwise_singleton _ _
  | landed closed outside level same => exact (List.pairwise_append.1 ordered).2.1
  | deepened top levels shallower => exact List.pairwise_cons.2 ⟨shallower, ordered⟩

end Offside
