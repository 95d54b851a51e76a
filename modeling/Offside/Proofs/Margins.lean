import Mathlib.Data.List.Infix
import Offside.Proofs.Levels
import Offside.Proofs.Rewinding

/-! Margins of open levels. The enforcer of consistent margins compares a line with the one before
it and knows nothing of levels; levels are found by depth and keep the margin of the line that
opened them. Where depth grows with the margin the two agree: the margins of the open levels extend
one another, and in the content of a line the innermost of them is the margin of that line, which
is what the enforcer remembers. -/
namespace Offside

variable {δ μ : Type}

/-- One margin starts with another and goes on after it. -/
def Extends (margin longer : String) : Prop :=
  margin.toList <+: longer.toList ∧ margin ≠ longer

instance (margin longer : String) : Decidable (Extends margin longer) :=
  inferInstanceAs (Decidable (_ ∧ _))

theorem Extends.trans {a b c : String} (first : Extends a b) (second : Extends b c) :
    Extends a c := by
  refine ⟨first.1.trans second.1, ?_⟩
  rintro rfl
  have same : a.toList = b.toList := first.1.eq_of_length_le second.1.length_le
  exact first.2 (String.toList_inj.1 same)

theorem Extends.irrefl (margin : String) : ¬Extends margin margin := fun extended =>
  extended.2 rfl

theorem Extends.asymm {a b : String} (extended : Extends a b) : ¬Extends b a := fun back =>
  irrefl a (extended.trans back)

theorem Extends.exists_rest {margin longer : String} (extended : Extends margin longer) :
    ∃ rest, rest ≠ [] ∧ longer.toList = margin.toList ++ rest := by
  obtain ⟨⟨rest, split⟩, apart⟩ := extended
  refine ⟨rest, ?_, split.symm⟩
  rintro rfl
  rw [List.append_nil] at split
  exact apart (String.toList_inj.1 split)

theorem Comparable.equal_or_extends {a b : String} (comparable : Comparable a b) :
    a = b ∨ Extends a b ∨ Extends b a := by
  by_cases same : a = b
  · exact .inl same
  · rcases comparable with before | after
    · exact .inr (.inl ⟨before, same⟩)
    · exact .inr (.inr ⟨after, Ne.symm same⟩)

/-- What a margin starts with is comparable with all that the margin is comparable with. -/
theorem Comparable.of_prefix {a b c : String} (before : a.toList <+: b.toList)
    (comparable : Comparable b c) : Comparable a c := by
  rcases comparable with left | right
  · exact .inl (before.trans left)
  · exact List.prefix_or_prefix_of_prefix before right

/-- The depth of a line is a matter of its margin alone, and a longer margin is deeper. -/
structure DepthRule.Grows [Ord δ] (rule : DepthRule δ) : Prop where
  ofText : ∀ indentation others margin,
    rule.measure indentation margin = rule.measure others margin
  deeper : ∀ indentation margin longer, Extends margin longer →
    compare (rule.measure indentation margin) (rule.measure indentation longer) = .lt

namespace DepthRule

theorem grows_length : length.Grows := by
  constructor
  · intro indentation others margin
    rfl
  · intro indentation margin longer extended
    obtain ⟨rest, more, split⟩ := extended.exists_rest
    have further : margin.length < longer.length := by
      rw [← String.length_toList, ← String.length_toList, split, List.length_append]
      have := List.length_pos_iff.2 more
      omega
    exact Int.compare_eq_lt.2 (Int.ofNat_lt.2 further)

theorem width_append (tab : Int) (front rest : List Char) :
    (front ++ rest).foldr (fun c width => (if c = '\t' then tab else 1) + width) 0 =
      front.foldr (fun c width => (if c = '\t' then tab else 1) + width) 0 +
        rest.foldr (fun c width => (if c = '\t' then tab else 1) + width) 0 := by
  induction front with
  | nil => simp
  | cons c front ih =>
    rw [List.cons_append, List.foldr_cons, List.foldr_cons, ih]
    omega

theorem width_pos {tab : Int} (wide : 1 ≤ tab) {rest : List Char} (more : rest ≠ []) :
    0 < rest.foldr (fun c width => (if c = '\t' then tab else 1) + width) 0 := by
  induction rest with
  | nil => exact absurd rfl more
  | cons c rest ih =>
    rw [List.foldr_cons]
    by_cases last : rest = []
    · subst last
      simp only [List.foldr_nil]
      split <;> omega
    · have := ih last
      split <;> omega

theorem grows_tabs {tab : Int} (wide : 1 ≤ tab) : ∃ rule, tabs tab = .ok rule ∧ rule.Grows := by
  refine ⟨{ measure := fun _ margin => widthWith tab margin, shown := .int }, ?_, ?_⟩
  · rw [tabs, if_neg (by omega)]
  constructor
  · intro indentation others margin
    rfl
  · intro indentation margin longer extended
    obtain ⟨rest, more, split⟩ := extended.exists_rest
    have further : widthWith tab margin < widthWith tab longer := by
      rw [widthWith, widthWith, split, width_append]
      have := width_pos wide more
      omega
    exact Int.compare_eq_lt.2 further

end DepthRule

/-- Behaves as the enforcer of consistent margins does, where the given function tells the margin
that it remembers. -/
structure Observer.Enforces (observer : Observer μ) (remembered : μ → String) : Prop where
  start : remembered observer.start = ""
  observe : ∀ memory report, (observer.observe memory report).map remembered =
    if report.blank then .ok (remembered memory)
    else if Comparable (remembered memory) report.margin then .ok report.margin
    else .error (.clashingMargins (remembered memory) report.margin report.breaker)

namespace Observer

theorem enforces_consistent : consistent.Enforces Memory.lastMargin := by
  constructor
  · rfl
  · intro memory report
    simp only [consistent]
    split
    · rfl
    · split <;> rfl

variable {observer : Observer μ} {remembered : μ → String} {memory later : μ} {report : LineReport}

theorem Enforces.after_blank (enforces : observer.Enforces remembered)
    (blank : report.blank = true) (told : observer.observe memory report = .ok later) :
    remembered later = remembered memory := by
  have rule := enforces.observe memory report
  rw [told, if_pos blank] at rule
  exact Except.ok.inj rule

theorem Enforces.after_content (enforces : observer.Enforces remembered)
    (filled : report.blank = false) (told : observer.observe memory report = .ok later) :
    Comparable (remembered memory) report.margin ∧ remembered later = report.margin := by
  have rule := enforces.observe memory report
  rw [told, filled] at rule
  by_cases comparable : Comparable (remembered memory) report.margin
  · rw [if_neg Bool.false_ne_true, if_pos comparable] at rule
    exact ⟨comparable, Except.ok.inj rule⟩
  · rw [if_neg Bool.false_ne_true, if_neg comparable] at rule
    cases rule

end Observer

/-- The margin of the innermost open level, and no margin where none is open. -/
def topMargin : List (Level δ) → String
  | [] => ""
  | top :: _ => top.margin

/-- Each level's margin extends those of the levels outside it, and levels are as deep as their
margins. -/
structure Layout.Chained (L : Layout δ μ) (levels : List (Level δ)) : Prop where
  chain : levels.Pairwise fun inner outer => Extends outer.margin inner.margin
  measured : ∀ level ∈ levels, ∀ indentation,
    L.depth.measure indentation level.margin = level.depth

section

variable [Ord δ] {L : Layout δ μ} {levels after : List (Level δ)} {indentation : List Token}
  {margin : String} {first : Token} {tokens : List Token}

theorem Layout.Chained.ordered (chained : L.Chained levels) (grows : L.depth.Grows) :
    Ordered levels := by
  refine chained.chain.imp_of_mem fun {inner outer} inside outside extended => ?_
  rw [← chained.measured inner inside [], ← chained.measured outer outside []]
  exact grows.deeper [] outer.margin inner.margin extended

omit [Ord δ] in
/-- Where a margin is comparable with that of the innermost level, it is with those of all. -/
theorem Layout.Chained.comparable (chained : L.Chained levels)
    (close : Comparable (topMargin levels) margin) {level : Level δ} (member : level ∈ levels) :
    Comparable level.margin margin := by
  cases levels with
  | nil => cases member
  | cons top outside =>
    rcases List.mem_cons.1 member with rfl | outer
    · exact close
    · exact Comparable.of_prefix ((List.pairwise_cons.1 chained.chain).1 level outer).1 close

/-- A level is as deep as a line, less deep or deeper as its margin is that of the line, starts it
or goes on after it. -/
theorem Layout.Chained.position [Std.TransOrd δ] (chained : L.Chained levels)
    (grows : L.depth.Grows) (close : Comparable (topMargin levels) margin)
    (indentation : List Token) {level : Level δ} (member : level ∈ levels) :
    let depth := L.depth.measure indentation margin
    (compare level.depth depth = .eq ∧ level.margin = margin) ∨
      (compare level.depth depth = .lt ∧ Extends level.margin margin) ∨
        (compare level.depth depth = .gt ∧ Extends margin level.margin) := by
  intro depth
  rw [← chained.measured level member indentation]
  rcases (chained.comparable close member).equal_or_extends with same | longer | shorter
  · refine .inl ⟨?_, same⟩
    rw [same]
    exact Std.ReflOrd.compare_self
  · exact .inr (.inl ⟨grows.deeper indentation _ _ longer, longer⟩)
  · have above := Std.OrientedCmp.gt_of_lt (grows.deeper indentation _ _ shorter)
    exact .inr (.inr ⟨above, shorter⟩)

/-- A line whose margin is comparable with that of the innermost level leaves levels open whose
margins extend one another, and the innermost of them has the margin of the line. -/
theorem Opened.chained [Std.TransOrd δ] (grows : L.depth.Grows) (before : L.Chained levels)
    (close : Comparable (topMargin levels) margin)
    (opened : Opened L (L.depth.measure indentation margin) margin first levels tokens after) :
    L.Chained after ∧ ∃ top outside, after = top :: outside ∧ top.margin = margin := by
  cases opened with
  | outermost =>
    refine ⟨⟨List.pairwise_singleton _ _, ?_⟩, _, [], rfl, rfl⟩
    intro level member others
    obtain rfl := List.mem_singleton.1 member
    exact grows.ofText others indentation margin
  | landed closed outside level same =>
    have left := (List.pairwise_append.1 before.chain).2.1
    have member : level ∈ closed ++ level :: outside := by simp
    have landed : level.margin = margin := by
      rcases before.position grows close indentation member with
        ⟨-, landed⟩ | ⟨below, -⟩ | ⟨above, -⟩
      · exact landed
      · rw [same] at below
        cases below
      · rw [same] at above
        cases above
    refine ⟨⟨left, ?_⟩, level, outside, rfl, landed⟩
    intro inner member
    exact before.measured inner (List.mem_append_right _ member)
  | deepened top levels shallower =>
    have extended : ∀ outer ∈ top :: levels, Extends outer.margin margin := by
      intro outer member
      have below := shallower outer member
      rcases before.position grows close indentation member with
        ⟨same, -⟩ | ⟨-, extended⟩ | ⟨above, -⟩
      · rw [below] at same
        cases same
      · exact extended
      · rw [below] at above
        cases above
    refine ⟨⟨List.pairwise_cons.2 ⟨extended, before.chain⟩, ?_⟩, _, top :: levels, rfl, rfl⟩
    intro level member others
    rcases List.mem_cons.1 member with rfl | outside
    · exact grows.ofText others indentation margin
    · exact before.measured level outside others

/-- Each observer is told of a line, and what it remembers then stands in its place. -/
theorem Layout.told_at {report : LineReport} {position count : Nat}
    {observers : List (Observer μ)} {memories later : List μ} {observer : Observer μ}
    (told : (tell report count observers memories).outcome = .ok later)
    (present : observers[position]? = some observer) :
    ∃ memory, later[position]? = some memory ∧
      observer.observe (memories[position]?.getD observer.start) report = .ok memory := by
  induction observers generalizing position count memories later with
  | nil => simp at present
  | cons other observers ih =>
    obtain ⟨memory, rest, observed, others, rfl⟩ := tell_cons_eq_ok.1 told
    cases position with
    | zero =>
      obtain rfl : other = observer := by simpa using present
      refine ⟨memory, rfl, ?_⟩
      rw [← List.head?_eq_getElem?]
      exact observed
    | succ position =>
      obtain ⟨held, kept, observed⟩ := ih others (by simpa using present)
      refine ⟨held, by simpa using kept, ?_⟩
      rw [← List.getElem?_tail]
      exact observed

end

/-- The observer at a position remembers a margin. -/
def Remembers (remembered : μ → String) (position : Nat) (memories : List μ) (margin : String) :
    Prop :=
  ∃ memory, memories[position]? = some memory ∧ remembered memory = margin

section

variable {remembered : μ → String} {position : Nat} {observer : Observer μ}
  {observers : List (Observer μ)} {memories later : List μ} {report : LineReport} {margin : String}

theorem Remembers.after_blank (held : Remembers remembered position memories margin)
    (present : observers[position]? = some observer) (enforces : observer.Enforces remembered)
    (blank : report.blank = true)
    (told : (Layout.tell report 0 observers memories).outcome = .ok later) :
    Remembers remembered position later margin := by
  obtain ⟨before, kept, rfl⟩ := held
  obtain ⟨memory, stored, observed⟩ := Layout.told_at told present
  rw [kept, Option.getD_some] at observed
  exact ⟨memory, stored, enforces.after_blank blank observed⟩

theorem Remembers.after_content (held : Remembers remembered position memories margin)
    (present : observers[position]? = some observer) (enforces : observer.Enforces remembered)
    (filled : report.blank = false)
    (told : (Layout.tell report 0 observers memories).outcome = .ok later) :
    Comparable margin report.margin ∧ Remembers remembered position later report.margin := by
  obtain ⟨before, kept, rfl⟩ := held
  obtain ⟨memory, stored, observed⟩ := Layout.told_at told present
  rw [kept, Option.getD_some] at observed
  obtain ⟨comparable, same⟩ := enforces.after_content filled observed
  exact ⟨comparable, memory, stored, same⟩

end

/-- Levels, the enforcer at a position and the current line agree on margins. Once the text has
ended, what the enforcer remembers is the margin of the last line, which may be blank. -/
structure Progress.Aligned (L : Layout δ μ) (remembered : μ → String) (position : Nat)
    (p : Progress δ μ) : Prop where
  chained : L.Chained p.levels
  remembers : p.phase ≠ .finished →
    Remembers remembered position p.memories (topMargin p.levels)
  current : p.phase = .body → p.levels ≠ [] ∧ topMargin p.levels = p.margin

namespace Progress

variable {L : Layout δ μ} {remembered : μ → String} {position : Nat} {observer : Observer μ}
  {p later : Progress δ μ}

theorem aligned_fresh (present : L.observers[position]? = some observer)
    (enforces : observer.Enforces remembered) : L.fresh.Aligned L remembered position := by
  refine ⟨⟨.nil, by simp [Layout.fresh]⟩, ?_, ?_⟩
  · intro _
    exact ⟨observer.start, by simp [Layout.fresh, present], enforces.start⟩
  · intro body
    cases body

/-- A line that a line break ends before any content changes no margin. -/
theorem Aligned.endBlank {token : Token} (aligned : p.Aligned L remembered position)
    (present : L.observers[position]? = some observer) (enforces : observer.Enforces remembered)
    (start : p.phase = .margin) (ended : (p.endBlank L (some token)).outcome = .ok later) :
    later.newLine.Aligned L remembered position := by
  obtain ⟨_, _, reported⟩ := Attempt.outcome_bind_eq_ok.1 ended
  obtain ⟨memories, told, rfl⟩ := report_eq_ok.1 reported
  have held := aligned.remembers (by simp [start])
  refine ⟨aligned.chained, ?_, ?_⟩
  · intro _
    exact held.after_blank present enforces rfl told
  · intro body
    cases body

/-- The first ordinary token of a line makes its margin that of the innermost level. -/
theorem Aligned.beginBody [Ord δ] [Std.TransOrd δ] {token : Token}
    (aligned : p.Aligned L remembered position) (grows : L.depth.Grows)
    (present : L.observers[position]? = some observer) (enforces : observer.Enforces remembered)
    (start : p.phase = .margin) (begun : (p.beginBody L token).outcome = .ok later) :
    (later.content token).Aligned L remembered position := by
  rw [outcome_beginBody (aligned.chained.ordered grows)] at begun
  cases told : (Layout.tell ⟨p.margin, p.indentation, some token, false⟩ 0 L.observers
      p.memories).outcome with
  | error refusal =>
    rw [told] at begun
    cases begun
  | ok memories =>
    rw [told] at begun
    have held := aligned.remembers (by simp [start])
    obtain ⟨comparable, held⟩ := held.after_content present enforces rfl told
    cases opening : L.opening p.levels (L.depth.measure p.indentation p.margin) p.margin token with
    | error stray =>
      simp only [Except.bind, opening, Except.map] at begun
      cases begun
    | ok opened =>
      obtain ⟨tokens, levels⟩ := opened
      simp only [Except.bind, opening, Except.map] at begun
      cases begun
      have opened := Layout.opened_of_opening (aligned.chained.ordered grows) opening
      obtain ⟨chained, top, outside, rfl, margin⟩ :=
        opened.chained grows aligned.chained comparable
      refine ⟨chained, ?_, ?_⟩
      · intro _
        show Remembers remembered position memories top.margin
        rw [margin]
        exact held
      · intro _
        exact ⟨List.cons_ne_nil top outside, margin⟩

theorem Aligned.feed [Ord δ] [Std.TransOrd δ] {token : Token} {role : Role}
    (aligned : p.Aligned L remembered position) (grows : L.depth.Grows)
    (present : L.observers[position]? = some observer) (enforces : observer.Enforces remembered)
    (unfinished : p.phase ≠ .finished) (fed : (p.feed L token role).outcome = .ok later) :
    later.Aligned L remembered position := by
  obtain ⟨levels, queue, phase, last, indentation, margin, memories⟩ := p
  cases phase with
  | finished => exact absurd rfl unfinished
  | margin =>
    cases role with
    | indentation =>
      cases fed
      refine ⟨aligned.chained, aligned.remembers, ?_⟩
      intro body
      cases body
    | lineBreak =>
      obtain ⟨blank, ended, rfl⟩ := Attempt.outcome_map_eq_ok.1 fed
      exact aligned.endBlank present enforces rfl ended
    | ordinary =>
      obtain ⟨begun, started, rfl⟩ := Attempt.outcome_map_eq_ok.1 fed
      exact aligned.beginBody grows present enforces rfl started
  | body =>
    cases role with
    | indentation =>
      cases fed
      exact ⟨aligned.chained, aligned.remembers, aligned.current⟩
    | lineBreak =>
      cases fed
      refine ⟨aligned.chained, fun _ => aligned.remembers unfinished, ?_⟩
      intro body
      cases body
    | ordinary =>
      cases fed
      exact ⟨aligned.chained, aligned.remembers, aligned.current⟩

theorem levels_of_finish (ended : (p.finish L).outcome = .ok later) :
    later.levels = p.levels.getLast?.toList := by
  obtain ⟨closed, closing, rfl⟩ := Attempt.outcome_map_eq_ok.1 ended
  have same : closed.levels = p.levels := by
    unfold endLast at closing
    split at closing
    · cases closing
      rfl
    · obtain ⟨_, _, reported⟩ := Attempt.outcome_bind_eq_ok.1 closing
      obtain ⟨_, _, same⟩ := Attempt.outcome_bind_eq_ok.1 reported
      cases same
      rfl
  rw [← same]
  rfl

/-- At the end of the text the outermost level is left. -/
theorem Aligned.finish (aligned : p.Aligned L remembered position)
    (ended : (p.finish L).outcome = .ok later) : later.Aligned L remembered position := by
  have finished := phase_of_finish ended
  refine ⟨?_, ?_, ?_⟩
  · rw [levels_of_finish ended]
    constructor
    · cases p.levels.getLast? with
      | none => exact .nil
      | some level => exact List.pairwise_singleton _ _
    · intro level member
      exact aligned.chained.measured level (List.mem_of_getLast? (by simpa using member))
  · intro unfinished
    exact absurd finished unfinished
  · intro body
    rw [finished] at body
    cases body

end Progress

/-- In every state that a layout reaches without a fault, levels, the enforcer and the current line
agree on margins. -/
theorem Layout.aligned_of_reached [Ord δ] [Std.TransOrd δ] [DecidableEq δ] [DecidableEq μ]
    {L : Layout δ μ} {S : Source} {text : String} {remembered : μ → String} {position : Nat}
    {observer : Observer μ} (grows : L.depth.Grows)
    (present : L.observers[position]? = some observer) (enforces : observer.Enforces remembered)
    {cursor : (L.source S).State} (reached : (L.source S).Reached text cursor) :
    cursor.progress.Aligned L remembered position := by
  let Holds : Progress δ μ → S.State → Prop := fun p _ => p.Aligned L remembered position
  show Holds cursor.progress cursor.base
  refine reached_preserves ?_ ?_ ?_ ?_ ?_ reached
  · intro _ _
    exact Progress.aligned_fresh present enforces
  · intro p base token later role unfinished aligned answered taken
    have held : { p with last := some token }.Aligned L remembered position :=
      ⟨aligned.chained, aligned.remembers, aligned.current⟩
    exact held.feed grows present enforces unfinished (Progress.take_eq_ok taken).2
  · intro p base later unfinished aligned answered ended
    exact aligned.finish ended
  · intro p base queue aligned
    exact ⟨aligned.chained, aligned.remembers, aligned.current⟩
  · intro p base elsewhere aligned accepted
    exact aligned

end Offside
