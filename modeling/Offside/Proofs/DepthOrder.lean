import Offside.Proofs.Origins
import Offside.Proofs.SideBySide

/-! Depths matter only by their order. Of two rules that order the lines of a text alike, one may
stand for the other: the same tokens are delivered, the same is asked, and the same goes wrong at
the same token, but for the depth that a message shows. The open levels of two such layouts belong
to the same lines, level by level, and `Alike` says so of all that they know. -/
namespace Offside

open Attempt

variable {δ μ ε : Type}

/-- The depth that a rule gives to a line. -/
def Words.depth (rule : DepthRule δ) (words : Words) : δ :=
  rule.measure words.indentation words.margin

/-- Two rules order the lines with content of a page alike. -/
def DepthRule.OrdersLike [Ord δ] [Ord ε] (rule : DepthRule δ) (other : DepthRule ε)
    (page : Page) : Prop :=
  ∀ a ∈ page.parts, a.body ≠ [] → ∀ b ∈ page.parts, b.body ≠ [] →
    compare (a.depth rule) (b.depth rule) = compare (a.depth other) (b.depth other)

/-- The same hooks with another rule for depths. -/
def Layout.measuredBy (L : Layout δ μ) (depth : DepthRule ε) : Layout ε μ where
  classify := L.classify
  build := L.build
  depth := depth
  blank := L.blank
  observers := L.observers
  fallback := L.fallback

/-- The fault that two rules for depths end a text with, of which a fault of the source may be the
end: the same one, but of a misplaced line each shows its own depth. -/
inductive Layout.SameFault (L : Layout δ μ) (depth : DepthRule ε) (page : Page)
    (ending : Option Fault) : Fault → Fault → Prop where
  | beneath {fault : Fault} (own : ending = some fault) : SameFault L depth page ending fault fault
  | unknown {token : Token} {answer : Datum} (unclassified : L.classify token = .error answer) :
      SameFault L depth page ending (.unknownRole answer token) (.unknownRole answer token)
  | refused {observer : Observer μ} {memory : μ} {report : LineReport} {fault : Fault}
      (listens : observer ∈ L.observers) (refuses : observer.observe memory report = .error fault) :
      SameFault L depth page ending fault fault
  | stray {line more : Words} {first : Token} {role : Role} (among : line ∈ page.parts)
      (starts : line.body = (first, role) :: more) :
      SameFault L depth page ending (.strayDedent first (L.depth.shown (line.depth L.depth)))
        (.strayDedent first (depth.shown (line.depth depth)))

/-- Levels that the same line opened, as deep as each rule says. -/
structure Level.SameLine (rule : DepthRule δ) (other : DepthRule ε) (page : Page) (a : Level δ)
    (b : Level ε) : Prop where
  margin : a.margin = b.margin
  line : ∃ line ∈ page.parts, line.body ≠ [] ∧ a.depth = line.depth rule ∧
    b.depth = line.depth other

/-- Two layouts know the same, but for the depths of their levels. -/
structure Progress.SameLines (Same : Level δ → Level ε → Prop) (p : Progress δ μ)
    (q : Progress ε μ) : Prop where
  levels : List.Forall₂ Same p.levels q.levels
  queue : p.queue = q.queue
  phase : p.phase = q.phase
  last : p.last = q.last
  indentation : p.indentation = q.indentation
  margin : p.margin = q.margin
  memories : p.memories = q.memories

/-- What is related item by item stays so up to an item, and from there on. -/
theorem forall₂_split {α β : Type} {Same : α → β → Prop} {f : α → Bool} {g : β → Bool}
    (agree : ∀ a b, Same a b → f a = g b) {as : List α} {bs : List β}
    (same : List.Forall₂ Same as bs) :
    (as.takeWhile f).length = (bs.takeWhile g).length ∧
      List.Forall₂ Same (as.dropWhile f) (bs.dropWhile g) := by
  induction same with
  | nil => exact ⟨rfl, .nil⟩
  | @cons a b as bs first rest ih =>
    simp only [List.takeWhile_cons, List.dropWhile_cons, agree a b first]
    cases g b with
    | true => exact ⟨by simpa using ih.1, ih.2⟩
    | false => exact ⟨rfl, .cons first rest⟩

theorem forall₂_getLast {α β : Type} {Same : α → β → Prop} {as : List α} {bs : List β}
    (same : List.Forall₂ Same as bs) :
    List.Forall₂ Same as.getLast?.toList bs.getLast?.toList := by
  induction same with
  | nil => exact .nil
  | @cons a b as bs first rest ih =>
    cases rest with
    | nil => exact .cons first .nil
    | cons second rest => simpa only [List.getLast?_cons_cons] using ih

/-- The levels of two such layouts have the same margins. -/
theorem Progress.SameLines.margins {rule : DepthRule δ} {other : DepthRule ε} {page : Page}
    {p : Progress δ μ} {q : Progress ε μ} (same : p.SameLines (Level.SameLine rule other page) q) :
    p.levels.map (·.margin) = q.levels.map (·.margin) := by
  have levels := same.levels
  generalize p.levels = as, q.levels = bs at levels ⊢
  induction levels with
  | nil => rfl
  | cons first rest ih => exact congrArg₂ _ first.margin ih

section

variable [Ord δ] [Ord ε] {L : Layout δ μ} {depth : DepthRule ε} {page : Page}
  {ending : Option Fault} {p : Progress δ μ} {q : Progress ε μ} {past : List Event}

/-- What is compared of a layout with another rule for depths: all questions, and each fault. -/
def Layout.depthLikeness (L : Layout δ μ) (depth : DepthRule ε) (page : Page)
    (ending : Option Fault) : Likeness where
  shared _ := true
  Alike _ := L.SameFault depth page ending
  Alone _ _ := False

/-- Two layouts that know the same keep abreast, and go on to know the same, at a fault too. -/
abbrev Layout.DepthsAbreast (L : Layout δ μ) (depth : DepthRule ε) (page : Page)
    (ending : Option Fault) (past : List Event) (one : Attempt (Progress δ μ) (Progress δ μ))
    (two : Attempt (Progress ε μ) (Progress ε μ)) : Prop :=
  Abreast (L.depthLikeness depth page ending) past
    (Progress.SameLines (Level.SameLine L.depth depth page))
    (fun _ => Progress.SameLines (Level.SameLine L.depth depth page)) one two

theorem settle_abreast (ordered : L.depth.OrdersLike depth page)
    (same : p.SameLines (Level.SameLine L.depth depth page) q) {line more : Words} {first : Token}
    {role : Role} (among : line ∈ page.parts) (starts : line.body = (first, role) :: more) :
    L.DepthsAbreast depth page ending past
      (p.settle L (line.depth L.depth) first)
      (q.settle (L.measuredBy depth) (line.depth depth) first) := by
  have content : line.body ≠ [] := starts ▸ List.cons_ne_nil _ _
  obtain ⟨levels, queue, phase, last, indentation, margin, memories⟩ := p
  obtain ⟨levels', queue', phase', last', indentation', margin', memories'⟩ := q
  obtain ⟨related, rfl, rfl, rfl, rfl, rfl, rfl⟩ := same
  cases related with
  | nil =>
    exact .pure ⟨.cons ⟨rfl, line, among, content, rfl, rfl⟩ .nil, rfl, rfl, rfl, rfl, rfl, rfl⟩
  | @cons top top' levels levels' opened rest =>
    have compared : ∀ a b, Level.SameLine L.depth depth page a b →
        compare a.depth (line.depth L.depth) = compare b.depth (line.depth depth) ∧
          compare (line.depth L.depth) a.depth = compare (line.depth depth) b.depth := by
      rintro a b ⟨_, other, part, body, deep, deep'⟩
      rw [deep, deep']
      exact ⟨ordered _ part body _ among content, ordered _ among content _ part body⟩
    have position := (compared top top' opened).2
    unfold Progress.settle
    dsimp only
    rw [position]
    cases compare (line.depth depth) top'.depth with
    | eq => exact .pure ⟨.cons opened rest, rfl, rfl, rfl, rfl, rfl, rfl⟩
    | gt =>
      refine .results rfl rfl ⟨.cons ⟨rfl, line, among, content, rfl, rfl⟩ (.cons opened rest),
        rfl, rfl, rfl, rfl, rfl, rfl⟩ rfl
    | lt =>
      obtain ⟨closed, left⟩ := forall₂_split
        (f := fun level => compare level.depth (line.depth L.depth) != .eq)
        (g := fun level => compare level.depth (line.depth depth) != .eq)
        (fun a b same => by rw [(compared a b same).1]) (.cons opened rest)
      dsimp only
      generalize (top :: levels).dropWhile _ = outer at left ⊢
      generalize (top' :: levels').dropWhile _ = outer' at left ⊢
      cases left with
      | nil =>
        refine .faults rfl rfl (.stray among starts) ⟨.nil, ?_, rfl, rfl, rfl, rfl, rfl⟩ rfl
        simp only [Progress.enqueue, List.map_const', List.tail_cons, rest.length_eq]
        rfl
      | cons landed left =>
        refine .results rfl rfl ⟨.cons landed left, ?_, rfl, rfl, rfl, rfl, rfl⟩ rfl
        simp only [Progress.enqueue, List.map_const', closed]
        rfl

omit [Ord δ] [Ord ε] in
theorem report_abreast (same : p.SameLines (Level.SameLine L.depth depth page) q)
    (breaker : Option Token) (blank : Bool) :
    L.DepthsAbreast depth page ending past
      (p.report L breaker blank) (q.report (L.measuredBy depth) breaker blank) := by
  obtain ⟨levels, queue, phase, last, indentation, margin, memories⟩ := p
  obtain ⟨levels', queue', phase', last', indentation', margin', memories'⟩ := q
  obtain ⟨related, rfl, rfl, rfl, rfl, rfl, rfl⟩ := same
  have told : Abreast (L.depthLikeness depth page ending) past Eq (fun _ => Eq)
      (Layout.tell ⟨margin, indentation, breaker, blank⟩ 0 L.observers memories)
      (Layout.tell ⟨margin, indentation, breaker, blank⟩ 0 L.observers memories) := by
    refine .refl (fun _ => rfl) (fun _ => rfl) fun fault failed => ?_
    obtain ⟨observer, listens, memory, refuses⟩ := Progress.refused_of_tell failed
    exact .refused listens refuses
  refine (told.mapLeft ?_).bind ?_
  · rintro memories _ rfl
    exact ⟨related, rfl, rfl, rfl, rfl, rfl, rfl⟩
  · rintro memories _ _ rfl
    exact .pure ⟨related, rfl, rfl, rfl, rfl, rfl, rfl⟩

omit [Ord δ] [Ord ε] in
theorem endBlank_abreast (same : p.SameLines (Level.SameLine L.depth depth page) q)
    (token : Option Token) :
    L.DepthsAbreast depth page ending past
      (p.endBlank L token) (q.endBlank (L.measuredBy depth) token) := by
  have queue : p.queue ++ L.blank L.build p.last token =
      q.queue ++ L.blank L.build q.last token := by rw [same.queue, same.last]
  have same : (p.enqueue (L.blank L.build p.last token)).SameLines
      (Level.SameLine L.depth depth page) (q.enqueue (L.blank L.build q.last token)) :=
    ⟨same.levels, queue, same.phase, same.last, same.indentation, same.margin, same.memories⟩
  refine (Abreast.note _).bind fun _ _ _ _ => ?_
  exact report_abreast same token token.isSome

theorem beginBody_abreast (ordered : L.depth.OrdersLike depth page)
    (same : p.SameLines (Level.SameLine L.depth depth page) q) {line more : Words} {first : Token}
    {role : Role} (among : line ∈ page.parts) (starts : line.body = (first, role) :: more)
    (indentation : line.indentation = p.indentation) (margin : line.margin = p.margin) :
    L.DepthsAbreast depth page ending past
      (p.beginBody L first) (q.beginBody (L.measuredBy depth) first) := by
  have deep : L.depth.measure p.indentation p.margin = line.depth L.depth := by
    rw [Words.depth, indentation, margin]
  have deep' : depth.measure q.indentation q.margin = line.depth depth := by
    rw [Words.depth, indentation, margin, same.indentation, same.margin]
  unfold Progress.beginBody
  rw [show (L.measuredBy depth).depth = depth from rfl, deep, deep', ← same.indentation,
    ← same.margin]
  refine (Abreast.note _).bind fun _ _ _ _ => ?_
  exact (report_abreast same (some first) false).bind
    fun _ _ _ same => settle_abreast ordered same among starts

omit [Ord δ] [Ord ε] in
theorem closeAll_same (same : p.SameLines (Level.SameLine L.depth depth page) q) (last : Token) :
    (p.closeAll L last).SameLines (Level.SameLine L.depth depth page)
      (q.closeAll (L.measuredBy depth) last) := by
  refine ⟨?_, ?_, same.phase, same.last, same.indentation, same.margin, same.memories⟩
  · exact forall₂_getLast same.levels
  · have closed := congrArg (·.tail.map (L.build dedentKind · last)) same.margins
    simp only [← List.map_tail, List.map_map] at closed
    exact congrArg₂ _ same.queue closed

omit [Ord δ] [Ord ε] in
theorem endLast_abreast (same : p.SameLines (Level.SameLine L.depth depth page) q) (last : Token) :
    L.DepthsAbreast depth page ending past
      (p.endLast L last) (q.endLast (L.measuredBy depth) last) := by
  have blank : L.DepthsAbreast depth page ending past
      (p.endBlank L none) (q.endBlank (L.measuredBy depth) none) := endBlank_abreast same none
  obtain ⟨levels, queue, phase, last, indentation, margin, memories⟩ := p
  obtain ⟨levels', queue', phase', last', indentation', margin', memories'⟩ := q
  obtain ⟨related, rfl, rfl, rfl, rfl, rfl, rfl⟩ := same
  cases phase with
  | body => exact .pure ⟨related, rfl, rfl, rfl, rfl, rfl, rfl⟩
  | margin | finished => exact blank

omit [Ord δ] [Ord ε] in
theorem finish_abreast (same : p.SameLines (Level.SameLine L.depth depth page) q) :
    L.DepthsAbreast depth page ending past
      (p.finish L) (q.finish (L.measuredBy depth)) := by
  unfold Progress.finish
  rw [show (L.measuredBy depth).fallback = L.fallback from rfl, ← same.last]
  have same : { p with last := some (p.last.getD L.fallback) }.SameLines
      (Level.SameLine L.depth depth page) { q with last := some (p.last.getD L.fallback) } :=
    ⟨same.levels, same.queue, same.phase, rfl, same.indentation, same.margin, same.memories⟩
  refine (endLast_abreast same (p.last.getD L.fallback)).map fun _ _ _ same => ?_
  have same := closeAll_same same (p.last.getD L.fallback)
  exact ⟨same.levels, same.queue, rfl, same.last, same.indentation, same.margin, same.memories⟩

/-- The line that starts with the given token, as far as a layout knows it, is one of the page. -/
def Progress.OnPage (p : Progress δ μ) (page : Page) (token : Token) : Prop :=
  ∃ line ∈ page.parts, line.indentation = p.indentation ∧ line.margin = p.margin ∧
    ∃ more, line.body = (token, .ordinary) :: more

theorem feed_abreast (ordered : L.depth.OrdersLike depth page)
    (same : p.SameLines (Level.SameLine L.depth depth page) q) {token : Token} {role : Role}
    (among : role = .ordinary → p.phase = .margin → p.OnPage page token) :
    L.DepthsAbreast depth page ending past
      (p.feed L token role) (q.feed (L.measuredBy depth) token role) := by
  have whole := same
  obtain ⟨levels, queue, phase, last, indentation, margin, memories⟩ := p
  obtain ⟨levels', queue', phase', last', indentation', margin', memories'⟩ := q
  obtain ⟨related, rfl, rfl, rfl, rfl, rfl, rfl⟩ := same
  have stays (queue : List Token) (phase : Phase) (indentation : List Token) (margin : String) :
      Progress.SameLines (Level.SameLine L.depth depth page)
        ⟨levels, queue, phase, last, indentation, margin, memories⟩
        ⟨levels', queue, phase, last, indentation, margin, memories⟩ :=
    ⟨related, rfl, rfl, rfl, rfl, rfl, rfl⟩
  cases role with
  | indentation =>
    cases phase with
    | margin => exact .pure (stays _ _ _ _)
    | body | finished => exact .pure (stays _ _ _ _)
  | lineBreak =>
    cases phase with
    | margin =>
      refine (endBlank_abreast whole (some token)).map fun _ _ _ same => ?_
      exact ⟨same.levels, same.queue, rfl, same.last, rfl, rfl, same.memories⟩
    | body | finished => exact .pure (stays _ _ _ _)
  | ordinary =>
    cases phase with
    | margin =>
      obtain ⟨line, part, indented, flush, more, starts⟩ := among rfl rfl
      refine (beginBody_abreast ordered whole part starts indented flush).map fun _ _ _ same => ?_
      refine ⟨same.levels, ?_, rfl, same.last, same.indentation, same.margin, same.memories⟩
      simp only [Progress.content, Progress.enqueue, same.queue]
    | body | finished => exact .pure (stays _ _ _ _)

theorem take_abreast (ordered : L.depth.OrdersLike depth page)
    (same : p.SameLines (Level.SameLine L.depth depth page) q) {token : Token}
    (among : L.classify token = .ok .ordinary → p.phase = .margin → p.OnPage page token) :
    Abreast (L.depthLikeness depth page ending) past
      (Progress.SameLines (Level.SameLine L.depth depth page))
      (fun _ a b => a.2 = b.2 ∧ a.1.SameLines (Level.SameLine L.depth depth page) b.1)
      (p.take L token) (q.take (L.measuredBy depth) token) := by
  have seen : { p with last := some token }.SameLines (Level.SameLine L.depth depth page)
      { q with last := some token } :=
    ⟨same.levels, same.queue, same.phase, rfl, same.indentation, same.margin, same.memories⟩
  unfold Progress.take
  rw [show (L.measuredBy depth).classify = L.classify from rfl]
  cases classified : L.classify token with
  | error answer => exact .faults rfl rfl (.unknown classified) seen rfl
  | ok role =>
    exact (feed_abreast ordered seen fun ordinary => among (classified.trans (ordinary ▸ rfl))).map
      fun _ _ _ same => ⟨rfl, same⟩

end

namespace Page

theorem rest_cut (fault : Option Fault) (words : Words) :
    (cut fault words).rest = words.current := by
  induction words using List.reverseRecOn with
  | nil => rfl
  | append_singleton words word ih =>
    obtain ⟨token, role⟩ := word
    by_cases breaks : role = .lineBreak
    · subst breaks
      rw [cut_break, Words.current_break]
      rfl
    · rw [cut_other words breaks, Words.current_other words breaks, ← ih]
      rfl

theorem mem_parts {page : Page} {line : Words} :
    line ∈ page.parts ↔ line ∈ page.lines.map (·.1) ∨ line = page.rest := by
  rw [parts, List.mem_append, List.mem_singleton]

/-- The line that raw tokens leave off in goes on in a line of every text that they begin. -/
theorem exists_part (fault : Option Fault) (words more : Words) :
    ∃ line ∈ (cut fault (words ++ more)).parts, words.current <+: line := by
  induction more using List.reverseRecOn with
  | nil =>
    rw [List.append_nil, ← rest_cut fault]
    exact ⟨_, mem_parts.2 (.inr rfl), List.prefix_refl _⟩
  | append_singleton more word ih =>
    obtain ⟨token, role⟩ := word
    obtain ⟨line, among, comes⟩ := ih
    rw [← List.append_assoc]
    by_cases breaks : role = .lineBreak
    · subst breaks
      rw [cut_break]
      refine ⟨line, mem_parts.2 (.inl ?_), comes⟩
      simpa [close] using mem_parts.1 among
    · rw [cut_other _ breaks]
      rcases mem_parts.1 among with inside | rfl
      · exact ⟨line, mem_parts.2 (.inl inside), comes⟩
      · exact ⟨_, mem_parts.2 (.inr rfl), comes.trans (List.prefix_append _ _)⟩

end Page

/-- A line starts as it began, with the first token that is not indentation. -/
theorem Words.starts_of_begun {words line : Words} {token : Token} (blank : words.body = [])
    (comes : words ++ [(token, .ordinary)] <+: line) :
    line.indentation = words.indentation ∧ line.margin = words.margin ∧
      ∃ more, line.body = (token, .ordinary) :: more := by
  obtain ⟨more, rfl⟩ := comes
  have white : ∀ word ∈ words, decide (word.2 = .indentation) = true := fun word member =>
    decide_eq_true (body_eq_nil_iff.1 blank word member)
  have indentation : indentation (words ++ [(token, .ordinary)] ++ more) = words.indentation := by
    rw [Words.indentation, Words.indentation, List.append_assoc,
      List.takeWhile_append_of_pos white, List.takeWhile_eq_self_iff.2 white]
    simp
  refine ⟨indentation, by rw [margin, margin, indentation], more, ?_⟩
  rw [body, List.append_assoc, List.dropWhile_append_of_pos white]
  simp

/-- Before the first ordinary token of a line, what a layout knows of that line is on the page. -/
theorem Progress.Midway.onPage {L : Layout δ μ} {raw left : List Token} {words : Words}
    {asked : List Event} {p : Progress δ μ} {token : Token} {ending : Option Fault}
    (midway : p.Midway L raw (token :: left) words asked)
    (ordinary : L.classify token = .ok .ordinary) (start : p.phase = .margin) :
    p.OnPage (L.page raw ending) token := by
  obtain ⟨-, known, split, reads, -⟩ := midway
  have blank := reads.start start
  have words_eq : (L.words raw ending).1 =
      words ++ [(token, .ordinary)] ++ (L.words left ending).1 := by
    rw [split, Layout.words_append known, Layout.words, ordinary, List.append_assoc]
    rfl
  have begun : Words.current (words ++ [(token, .ordinary)]) =
      words.current ++ [(token, .ordinary)] := words.current_other (by simp)
  obtain ⟨line, among, comes⟩ := Page.exists_part (L.words raw ending).2
    (words ++ [(token, .ordinary)]) (L.words left ending).1
  rw [← words_eq] at among
  rw [begun] at comes
  obtain ⟨indentation, margin, more, starts⟩ := Words.starts_of_begun blank comes
  exact ⟨line, among, indentation.trans reads.indentation.symm, margin.trans reads.margin.symm,
    more, starts⟩

/-- Layouts with two rules for depths that order the lines of a text alike, side by side. -/
def Layout.depthComparison [Ord δ] [Ord ε] (L : Layout δ μ) (depth : DepthRule ε)
    (raw : List Token) (ending : Option Fault)
    (ordered : L.depth.OrdersLike depth (L.page raw ending)) :
    Comparison L (L.measuredBy depth) raw ending where
  like := L.depthLikeness depth (L.page raw ending) ending
  pulled := rfl
  Beside _ p q := p.SameLines (Level.SameLine L.depth depth (L.page raw ending)) q
  Left p q := p.SameLines (Level.SameLine L.depth depth (L.page raw ending)) q
  left same := same
  fresh := ⟨.nil, rfl, rfl, rfl, rfl, rfl, rfl⟩
  phase same := same.phase
  queue same := same.queue
  delivered same _ :=
    ⟨same.levels, rfl, same.phase, same.last, same.indentation, same.margin, same.memories⟩
  broken _ _ own := .beneath own
  take midway same := take_abreast ordered same midway.onPage
  finish _ same := finish_abreast same

section

variable [Ord δ] [Ord ε] [DecidableEq δ] [DecidableEq ε] [DecidableEq μ]

omit [DecidableEq δ] [DecidableEq ε] [DecidableEq μ] in
theorem Layout.same_of_together {L : Layout δ μ} {depth : DepthRule ε} {raw : List Token}
    {ending : Option Fault} {ordered : L.depth.OrdersLike depth (L.page raw ending)} {S : Source}
    {past : List Event}
    {first : List (Option Token) × Option Fault × List Note × Cursor δ μ S.State}
    {second : List (Option Token) × Option Fault × List Note × Cursor ε μ S.State}
    (together : (L.depthComparison depth raw ending ordered).Together past first second) :
    first.1 = second.1 ∧
      Option.Rel (L.SameFault depth (L.page raw ending) ending) first.2.1 second.2.1 ∧
      questions first.2.2.1 = questions second.2.2.1 ∧
      first.2.2.2.base = second.2.2.2.base ∧
      first.2.2.2.progress.SameLines (Level.SameLine L.depth depth (L.page raw ending))
        second.2.2.2.progress := by
  have all (events : List Event) :
      events.filter (L.depthComparison depth raw ending ordered).like.shared = events :=
    List.filter_eq_self.2 fun _ _ => rfl
  cases together with
  | onwards standing asked =>
    rw [all, all] at asked
    exact ⟨rfl, .none, asked, standing.base, standing.beside⟩
  | stopped alike remain asked =>
    rw [all, all] at asked
    exact ⟨rfl, .some alike, asked, remain⟩
  | alone own => exact own.elim

/-- Two rules for depths that order the lines with content of a text alike lead to the same tokens,
the same questions and, but for the depth of a misplaced line, the same fault; and so it is for any
number of calls, after which the open levels belong to the same lines. -/
theorem Layout.same_for_same_order (L : Layout δ μ) (depth : DepthRule ε) (S : Source)
    (p : Progress δ μ) (q : Progress ε μ) (base : S.State) (text : String)
    (ordered : L.depth.OrdersLike depth
      (L.page (S.readFrom base text).tokens (S.readFrom base text).fault)) :
    let raw := S.readFrom base text
    let page := L.page raw.tokens raw.fault
    let M := L.measuredBy depth
    let one := (L.source S).readFrom ⟨p, base⟩ text
    let two := (M.source S).readFrom ⟨q, base⟩ text
    one.tokens = two.tokens ∧ questions one.notes = questions two.notes ∧
      Option.Rel (L.SameFault depth page raw.fault) one.fault two.fault ∧
      ((S.reset base text none).1.outcome = .ok () → ∀ count,
        let one := (L.source S).take count ((L.source S).reset ⟨p, base⟩ text none).2
        let two := (M.source S).take count ((M.source S).reset ⟨q, base⟩ text none).2
        one.1 = two.1 ∧ Option.Rel (L.SameFault depth page raw.fault) one.2.1 two.2.1 ∧
          questions one.2.2.1 = questions two.2.2.1 ∧ one.2.2.2.base = two.2.2.2.base ∧
          one.2.2.2.progress.SameLines (Level.SameLine L.depth depth page)
            two.2.2.2.progress) := by
  intro raw page M one two
  cases accepted : (S.reset base text none).1.outcome with
  | ok _ =>
    obtain ⟨whole, calls⟩ :=
      (L.depthComparison depth raw.tokens raw.fault ordered).together accepted p q
    obtain ⟨tokens, fault, asked, -⟩ := same_of_together whole
    exact ⟨List.map_injective_iff.2 (Option.some_injective _) tokens, asked, fault,
      fun _ count => same_of_together (calls count)⟩
  | error fault =>
    obtain ⟨tokens, failed, asked⟩ := readFrom_of_refused (L := L) accepted p
    obtain ⟨tokens', failed', asked'⟩ := readFrom_of_refused (L := M) accepted q
    have ending : raw.fault = some fault :=
      congrArg Source.Reading.fault (Source.readFrom_refused accepted)
    refine ⟨tokens.trans tokens'.symm, asked.trans asked'.symm, ?_, fun started => ?_⟩
    · rw [show one.fault = some fault from failed, show two.fault = some fault from failed']
      exact .some (.beneath ending)
    · cases started

end

/-- A word, a deeper one and one between them, measured by length and compared as texts. -/
theorem Layout.same_for_same_order_between :
    let L := standard
    let c : Token := ⟨"WORD", "c", {}⟩
    let raw : List Token := [⟨"WORD", "a", {}⟩, ⟨"NL", "\n", {}⟩, ⟨"WS", "    ", {}⟩,
      ⟨"WORD", "b", {}⟩, ⟨"NL", "\n", {}⟩, ⟨"WS", "  ", {}⟩, c]
    let S : Source := .scripted (raw.map some) []
    let one := (L.source S).readFrom ⟨L.fresh, S.start⟩ ""
    let two := ((L.measuredBy .text).source S).readFrom ⟨(L.measuredBy .text).fresh, S.start⟩ ""
    L.depth.OrdersLike DepthRule.text (L.page raw none) ∧ one.tokens = two.tokens ∧
      questions one.notes = questions two.notes ∧
      one.tokens.map Token.face =
        [("WORD", "a"), ("eol", "\n"), ("indent", "    "), ("WORD", "b")] ∧
      one.fault = some (.strayDedent c (.int 2)) ∧
      two.fault = some (.strayDedent c (.str "  ")) := by
  intro L c raw S one two
  obtain ⟨given, ended⟩ : (S.readFrom S.start "").tokens = raw ∧
      (S.readFrom S.start "").fault = none := Source.readFrom_scripted _ [] 0 ""
  have ordered : L.depth.OrdersLike DepthRule.text (L.page raw none) := by
    unfold DepthRule.OrdersLike
    decide
  have read := L.readFrom_eq_deliver S ⟨L.fresh, S.start⟩ ""
  have read' := (L.measuredBy .text).readFrom_eq_deliver S ⟨(L.measuredBy .text).fresh, S.start⟩ ""
  simp only [given, ended] at read read'
  obtain ⟨tokens, fault⟩ := Prod.mk.inj read
  obtain ⟨tokens, asked, -⟩ := L.same_for_same_order .text S L.fresh (L.measuredBy .text).fresh
    S.start "" (by rw [given, ended]; exact ordered)
  refine ⟨ordered, tokens, asked, ?_, ?_, ?_⟩
  · exact (congrArg _ (Prod.mk.inj read).1).trans (by decide)
  · exact fault.trans (by cbv)
  · exact (Prod.mk.inj read').2.trans (by cbv)
end Offside
