import Offside.Proofs.LineByLine
import Offside.Proofs.Margins

/-! Which texts are laid out. With the usual hooks a line with content is refused where its margin
and that of the content line before are not comparable, and where it goes back to a margin at which
no level is open any more. `openMargins` tells the open levels from the margins of the lines alone,
and `firstObjection` the first line that is refused; neither knows of depths, of levels kept in a
stack, or of what an observer remembers. `refused_exactly` says that these are all the refusals. -/
namespace Offside

/-- A line with content, as far as the layout of other lines depends on it. -/
structure ContentLine where
  margin : String
  /-- Its first ordinary token. -/
  first : Token
deriving DecidableEq

/-- What a line of raw tokens is to others, if it has content. -/
def Words.contentLine? (words : Words) : Option ContentLine :=
  words.body.head?.map fun word => ⟨words.margin, word.1⟩

/-- The lines with content. -/
def Page.contentLines (page : Page) : List ContentLine :=
  page.parts.filterMap Words.contentLine?

/-- The margins of the levels that are open after lines with the given margins, the last of them
first: its own, and those of the levels open before it that it goes beyond. -/
def openMargins : List String → List String
  | [] => []
  | last :: earlier => last :: (openMargins earlier).filter fun outer => Extends outer last

/-- The last of some margins, which come last one first; no margin where there is none. -/
def lastMargin (margins : List String) : String := margins.head?.getD ""

/-- The margins of some lines after the given ones, the last of them first. -/
def marginsAfter (earlier : List String) (lines : List ContentLine) : List String :=
  lines.foldl (fun earlier line => line.margin :: earlier) earlier

/-- Why a line with content is refused, if it is, after lines with the given margins. -/
def ContentLine.objection (earlier : List String) (line : ContentLine) : Option Fault :=
  if ¬Comparable (lastMargin earlier) line.margin then
    some (.clashingMargins (lastMargin earlier) line.margin line.first)
  else if Extends line.margin (lastMargin earlier) ∧ line.margin ∉ openMargins earlier then
    some (.strayDedent line.first (.int line.margin.length))
  else none

/-- Why the first line that is refused is so. -/
def firstObjection (earlier : List String) : List ContentLine → Option Fault
  | [] => none
  | line :: lines => (line.objection earlier).or (firstObjection (line.margin :: earlier) lines)

/-- Why the end of a text is refused, if it is, where the last line has no content. -/
def Page.endObjection (page : Page) (earlier : List String) : Option Fault :=
  if page.rest.body = [] ∧ ¬Comparable (lastMargin earlier) page.rest.margin then
    some (.clashingMargins (lastMargin earlier) page.rest.margin none)
  else none

/-- Why a text is refused that goes on with the given page, after lines with the given margins. -/
def Page.refusal (page : Page) (earlier : List String) : Option Fault :=
  ((firstObjection earlier page.contentLines).or page.fault).or
    (page.endObjection (marginsAfter earlier page.contentLines))

/-- A level is open after some lines if one of them has its margin and every later one starts with
that margin. -/
theorem mem_openMargins {margin : String} {margins : List String} :
    margin ∈ openMargins margins ↔ ∃ later earlier, margins = later ++ margin :: earlier ∧
      ∀ other ∈ later, margin.toList <+: other.toList := by
  induction margins with
  | nil => simp [openMargins]
  | cons last margins ih =>
    simp only [openMargins, List.mem_cons, List.mem_filter, ih, decide_eq_true_eq]
    constructor
    · rintro (rfl | ⟨⟨later, earlier, rfl, within⟩, extended⟩)
      · exact ⟨[], margins, rfl, by simp⟩
      · exact ⟨last :: later, earlier, rfl, List.forall_mem_cons.2 ⟨extended.1, within⟩⟩
    · rintro ⟨later, earlier, split, within⟩
      by_cases same : margin = last
      · exact .inl same
      · cases later with
        | nil => exact absurd (List.cons.inj split).1.symm same
        | cons other later =>
          obtain ⟨rfl, rfl⟩ := List.cons.inj split
          obtain ⟨starts, within⟩ := List.forall_mem_cons.1 within
          exact .inr ⟨⟨later, earlier, rfl, within⟩, starts, same⟩

-- back from a deep line to the margin of the first one, and on to another
example : openMargins ["\t", "", "    ", "  ", ""] = ["\t", ""] := by decide

/-- The first line that is refused comes after lines that are not. -/
theorem firstObjection_eq_some_iff {earlier : List String} {lines : List ContentLine}
    {fault : Fault} :
    firstObjection earlier lines = some fault ↔ ∃ before line after,
      lines = before ++ line :: after ∧ firstObjection earlier before = none ∧
        line.objection (marginsAfter earlier before) = some fault := by
  induction lines generalizing earlier with
  | nil => simp [firstObjection]
  | cons line lines ih =>
    rw [firstObjection, Option.or_eq_some_iff, ih]
    constructor
    · rintro (refused | ⟨passed, before, other, after, rfl, clear, refused⟩)
      · exact ⟨[], line, lines, rfl, rfl, refused⟩
      · exact ⟨line :: before, other, after, rfl, by simp [firstObjection, passed, clear], refused⟩
    · rintro ⟨before, other, after, split, clear, refused⟩
      cases before with
      | nil =>
        obtain ⟨rfl, rfl⟩ := List.cons.inj split
        exact .inl refused
      | cons first before =>
        obtain ⟨rfl, rfl⟩ := List.cons.inj split
        obtain ⟨passed, clear⟩ := Option.or_eq_none_iff.1 clear
        exact .inr ⟨passed, before, other, after, rfl, clear, refused⟩

example :
    firstObjection [] [⟨"", ⟨"A", "a", {}⟩⟩, ⟨"    ", ⟨"B", "b", {}⟩⟩, ⟨"  ", ⟨"C", "c", {}⟩⟩] =
      some (.strayDedent (some ⟨"C", "c", {}⟩) (.int 2)) := rfl

theorem head?_openMargins (margins : List String) :
    (openMargins margins).head? = margins.head? := by
  cases margins <;> rfl

section

variable {words : Words} {lines : List (Words × Token)} {rest : Words} {fault : Option Fault}
  {breaker : Token} {earlier : List String}

theorem Words.contentLine?_blank (blank : words.body = []) : words.contentLine? = none := by
  rw [contentLine?, blank]
  rfl

theorem Words.contentLine?_content {first : Token} {role : Role} {more : Words}
    (starts : words.body = (first, role) :: more) :
    words.contentLine? = some ⟨words.margin, first⟩ := by
  rw [contentLine?, starts]
  rfl

theorem Page.contentLines_blank (blank : words.body = []) :
    Page.contentLines { lines := (words, breaker) :: lines, rest, fault } =
      Page.contentLines { lines, rest, fault } := by
  exact List.filterMap_cons_none (Words.contentLine?_blank blank)

theorem Page.contentLines_content {first : Token} {role : Role} {more : Words}
    (starts : words.body = (first, role) :: more) :
    Page.contentLines { lines := (words, breaker) :: lines, rest, fault } =
      ⟨words.margin, first⟩ :: Page.contentLines { lines, rest, fault } := by
  exact List.filterMap_cons_some (Words.contentLine?_content starts)

/-- A blank line that a line break ends has no part in what is refused. -/
theorem Page.refusal_blank (blank : words.body = []) :
    Page.refusal { lines := (words, breaker) :: lines, rest, fault } earlier =
      Page.refusal { lines, rest, fault } earlier := by
  rw [refusal, contentLines_blank blank]
  rfl

theorem Page.refusal_content {first : Token} {role : Role} {more : Words}
    (starts : words.body = (first, role) :: more) :
    Page.refusal { lines := (words, breaker) :: lines, rest, fault } earlier =
      (ContentLine.objection earlier ⟨words.margin, first⟩).or
        (Page.refusal { lines, rest, fault } (words.margin :: earlier)) := by
  rw [refusal, contentLines_content starts, firstObjection, Option.or_assoc, Option.or_assoc,
    refusal, Option.or_assoc]
  rfl

/-- The last line, where it has no content, is refused only at the end of the text. -/
theorem Page.refusal_last_blank (blank : rest.body = []) :
    Page.refusal { rest, fault } earlier =
      fault.or (Page.endObjection { rest, fault } earlier) := by
  have none : Page.contentLines { rest, fault } = [] :=
    List.filterMap_cons_none (Words.contentLine?_blank blank)
  rw [refusal, none]
  rfl

theorem Page.refusal_last_content {first : Token} {role : Role} {more : Words}
    (starts : rest.body = (first, role) :: more) :
    Page.refusal { rest, fault } earlier =
      (ContentLine.objection earlier ⟨rest.margin, first⟩).or fault := by
  have one : Page.contentLines { rest, fault } = [⟨rest.margin, first⟩] :=
    List.filterMap_cons_some (Words.contentLine?_content starts)
  have last (earlier : List String) : Page.endObjection { rest, fault } earlier = none := by
    rw [endObjection, if_neg fun ended => List.cons_ne_nil _ _ (starts.symm.trans ended.1)]
  rw [refusal, one, firstObjection, firstObjection, Option.or_none, last, Option.or_none]

/-- Blank lines that a line break ends are no lines with content. -/
theorem Page.contentLines_filled (page : Page) :
    page.contentLines = (page.lines.filter fun line => line.1.body ≠ []).filterMap
      (fun line => line.1.contentLine?) ++ [page.rest].filterMap Words.contentLine? := by
  rw [contentLines, parts, List.filterMap_append, List.filterMap_map, List.filterMap_filter]
  refine congrArg (· ++ _) (List.filterMap_congr fun line _ => ?_)
  by_cases blank : line.1.body = []
  · simp [blank, Words.contentLine?_blank blank]
  · simp [blank]

end

section

variable {δ μ : Type} {L : Layout δ μ} {levels after : List (Level δ)} {margin : String}
  {first : Token} {tokens : List Token}

/-- The levels that are open after lines with the given margins. -/
structure Layout.OpenAfter (L : Layout δ μ) (levels : List (Level δ)) (margins : List String) :
    Prop where
  chained : L.Chained levels
  margins : levels.map (·.margin) = openMargins margins

theorem Layout.openAfter_nil (L : Layout δ μ) : L.OpenAfter [] [] :=
  ⟨⟨.nil, by simp⟩, rfl⟩

theorem Layout.OpenAfter.topMargin_eq {margins : List String}
    (opened : L.OpenAfter levels margins) : topMargin levels = lastMargin margins := by
  have first := congrArg List.head? opened.margins
  rw [head?_openMargins] at first
  rw [lastMargin, ← first]
  cases levels <;> rfl

variable [Ord δ] [Std.TransOrd δ] (indentation : List Token)

theorem Layout.Chained.any_isAt (grows : L.depth.Grows) (chained : L.Chained levels)
    (close : Comparable (topMargin levels) margin) :
    levels.any (·.isAt (L.depth.measure indentation margin)) = true ↔
      margin ∈ levels.map (·.margin) := by
  rw [List.any_eq_true, List.mem_map]
  refine exists_congr fun level => and_congr_right fun member => ?_
  rcases chained.position grows close indentation member with
    ⟨place, same⟩ | ⟨place, apart⟩ | ⟨place, apart⟩
  · simp [Level.isAt, place, same]
  · simp [Level.isAt, place, apart.2]
  · simp [Level.isAt, place, apart.2.symm]

theorem Layout.Chained.any_isDeeper (grows : L.depth.Grows) (chained : L.Chained levels)
    (close : Comparable (topMargin levels) margin) :
    levels.any (·.isDeeper (L.depth.measure indentation margin)) = true ↔
      Extends margin (topMargin levels) := by
  cases levels with
  | nil =>
    have nothing : ¬Extends margin "" := fun extended =>
      extended.2 (String.toList_inj.1 (List.prefix_nil.1 extended.1))
    simpa [topMargin] using nothing
  | cons top outside =>
    have member : top ∈ top :: outside := List.mem_cons_self
    constructor
    · intro deeper
      have place := (chained.ordered grows).top_deeper deeper
      rcases chained.position grows close indentation member with
        ⟨other, -⟩ | ⟨other, -⟩ | ⟨-, extended⟩
      · rw [place] at other
        cases other
      · rw [place] at other
        cases other
      · exact extended
    · intro extended
      rcases chained.position grows close indentation member with
        ⟨-, same⟩ | ⟨-, longer⟩ | ⟨place, -⟩
      · exact absurd same.symm extended.2
      · exact absurd longer extended.asymm
      · exact List.any_eq_true.2 ⟨top, member, by simp [Level.isDeeper, place]⟩

/-- A line that is comparable with the one before is misplaced exactly if it goes back to a margin
at which no level is open. -/
theorem Layout.Chained.opening_eq_error_iff (grows : L.depth.Grows) (chained : L.Chained levels)
    (close : Comparable (topMargin levels) margin) {fault : Fault} :
    L.opening levels (L.depth.measure indentation margin) margin first = .error fault ↔
      (Extends margin (topMargin levels) ∧ margin ∉ levels.map (·.margin)) ∧
        fault = .strayDedent first (L.depth.shown (L.depth.measure indentation margin)) := by
  rw [← chained.any_isDeeper indentation grows close,
    ← chained.any_isAt indentation grows close]
  cases levels with
  | nil => simp [opening]
  | cons top outside =>
    rw [opening_nonempty (List.cons_ne_nil _ _)]
    cases (top :: outside).any (·.isAt (L.depth.measure indentation margin)) with
    | true => simp
    | false =>
      cases (top :: outside).any (·.isDeeper (L.depth.measure indentation margin)) with
      | true => simp [eq_comm]
      | false => simp

variable {indentation}

/-- A line that is comparable with the one before leaves open what it goes beyond. -/
theorem Opened.margins (grows : L.depth.Grows) (chained : L.Chained levels)
    (close : Comparable (topMargin levels) margin)
    (opened : Opened L (L.depth.measure indentation margin) margin first levels tokens after) :
    after.map (·.margin) =
      margin :: (levels.map (·.margin)).filter fun outer => Extends outer margin := by
  obtain ⟨⟨chain, -⟩, top, outside, rfl, same⟩ := opened.chained grows chained close
  have within : (outside.map (·.margin)).filter (fun outer => Extends outer margin) =
      outside.map (·.margin) := by
    refine List.filter_eq_self.2 (List.forall_mem_map.2 fun level member => ?_)
    rw [← same]
    exact decide_eq_true ((List.pairwise_cons.1 chain).1 level member)
  cases opened with
  | outermost => rfl
  | landed closed outside level =>
    have beyond : (closed.map (·.margin)).filter (fun outer => Extends outer margin) = [] := by
      refine List.filter_eq_nil_iff.2 (List.forall_mem_map.2 fun inner member => ?_)
      have inside := (List.pairwise_append.1 chained.chain).2.2 inner member top List.mem_cons_self
      rw [same] at inside
      simpa using inside.asymm
    rw [List.map_append, List.filter_append, beyond, List.map_cons, same,
      List.filter_cons_of_neg (by simpa using Extends.irrefl margin), within]
    rfl
  | deepened top levels => rw [within, List.map_cons]

/-- A line that is let through after others with content leaves open the levels of `openMargins`. -/
theorem Layout.OpenAfter.line {margins : List String} (grows : L.depth.Grows)
    (before : L.OpenAfter levels margins) (close : Comparable (lastMargin margins) margin)
    (opening : L.opening levels (L.depth.measure indentation margin) margin first =
      .ok (tokens, after)) : L.OpenAfter after (margin :: margins) := by
  rw [← before.topMargin_eq] at close
  have opened := opened_of_opening (before.chained.ordered grows) opening
  refine ⟨(opened.chained grows before.chained close).1, ?_⟩
  rw [opened.margins grows before.chained close, before.margins]
  rfl

end

section

variable {L : Layout Int Memory} {levels after : List (Level Int)} {words rest : Words}
  {lines : List (Words × Token)} {fault : Option Fault} {breaker first last : Token} {role : Role}
  {more : Words} {margins : List String}

/-- The one observer compares a line with the one before it, and remembers its margin. -/
theorem Layout.tell_consistent (watched : L.observers = [.consistent]) (previous : String)
    (report : LineReport) :
    (tell report 0 L.observers [.margin previous]).outcome =
      (Observer.consistent.observe (.margin previous) report).map ([·]) := by
  rw [watched]
  cases told : Observer.consistent.observe (.margin previous) report <;>
    simp [tell, Attempt.outcome_bind, Except.bind, Except.map, told]

theorem Layout.told_blank (watched : L.observers = [.consistent]) (previous : String)
    (blank : words.body = []) :
    (tell (words.report (some breaker)) 0 L.observers [.margin previous]).outcome =
      .ok [.margin previous] := by
  rw [tell_consistent watched, Words.report_blank blank]
  rfl

/-- Every other line is compared. -/
theorem Layout.told_line (watched : L.observers = [.consistent]) (previous margin : String)
    (indentation : List Token) (breaker : Option Token) :
    (tell ⟨margin, indentation, breaker, false⟩ 0 L.observers [.margin previous]).outcome =
      if Comparable previous margin then .ok [.margin margin]
      else .error (.clashingMargins previous margin breaker) := by
  rw [tell_consistent watched]
  show Except.map _ (if Comparable previous margin then _ else _) = _
  split <;> rfl

theorem Layout.told_end (watched : L.observers = [.consistent]) (previous : String)
    (blank : rest.body = []) :
    (tell (rest.report none) 0 L.observers [.margin previous]).outcome =
      if Comparable previous rest.margin then .ok [.margin rest.margin]
      else .error (.clashingMargins previous rest.margin none) := by
  rw [Words.report_end blank]
  exact told_line watched previous rest.margin rest.indentation none

theorem Layout.told_content (watched : L.observers = [.consistent]) (previous : String)
    (starts : words.body = (first, role) :: more) (breaker : Option Token) :
    (tell (words.report breaker) 0 L.observers [.margin previous]).outcome =
      if Comparable previous words.margin then .ok [.margin words.margin]
      else .error (.clashingMargins previous words.margin first) := by
  rw [Words.report_content starts]
  exact told_line watched previous words.margin words.indentation first

theorem ContentLine.objection_clash {margin : String}
    (clash : ¬Comparable (lastMargin margins) margin) :
    ContentLine.objection margins ⟨margin, first⟩ =
      some (.clashingMargins (lastMargin margins) margin first) := by
  rw [objection, if_pos clash]

/-- What becomes of a line with content that is comparable with the one before: it is misplaced, or
it is laid out and leaves open the levels that it goes beyond, and its own. -/
theorem Layout.composeLine_close (measured : L.depth = .length)
    (before : L.OpenAfter levels margins)
    (close : Comparable (lastMargin margins) words.margin) (first : Token) :
    match ContentLine.objection margins ⟨words.margin, first⟩ with
    | some fault => L.composeLine levels words first = .error fault
    | none => ∃ line after, L.composeLine levels words first = .ok (line, after) ∧
        L.OpenAfter after (words.margin :: margins) := by
  have grows : L.depth.Grows := measured ▸ DepthRule.grows_length
  have misplaced {fault : Fault} : L.composeLine levels words first = .error fault ↔
      (Extends words.margin (lastMargin margins) ∧ words.margin ∉ openMargins margins) ∧
        fault = .strayDedent first (.int words.margin.length) := by
    have top : Comparable (topMargin levels) words.margin := before.topMargin_eq ▸ close
    rw [composeLine_eq_error, before.chained.opening_eq_error_iff words.indentation grows top,
      before.topMargin_eq, before.margins, measured]
    rfl
  unfold ContentLine.objection
  rw [if_neg (not_not_intro close)]
  by_cases gone : Extends words.margin (lastMargin margins) ∧ words.margin ∉ openMargins margins
  · rw [if_pos gone]
    exact misplaced.2 ⟨gone, rfl⟩
  · rw [if_neg gone]
    cases composed : L.composeLine levels words first with
    | error stray => exact absurd (misplaced.1 composed).1 gone
    | ok laid =>
      obtain ⟨line, after⟩ := laid
      obtain ⟨tokens, opening, -⟩ := composeLine_eq_ok.1 composed
      exact ⟨line, after, rfl, before.line grows close opening⟩

/-- What the observers leave of a page ends in the fault that `refusal` tells; and nothing is cut
off where it tells none. -/
structure Layout.Judged (L : Layout Int Memory) (last : Token) (levels : List (Level Int))
    (margins : List String) (page left : Page) : Prop where
  fault : (L.compose last left.rest left.fault levels left.lines).2 = page.refusal margins
  whole : page.refusal margins = none → left = page

namespace Layout.Judged

variable {page left : Page} {line : List Piece}

theorem refused {refusal : Fault} (refused : page.refusal margins = some refusal)
    (composed : (L.compose last left.rest left.fault levels left.lines).2 = some refusal) :
    L.Judged last levels margins page left := by
  refine ⟨composed.trans refused.symm, fun passed => ?_⟩
  rw [refused] at passed
  cases passed

/-- A line that the observer refuses is the end of what it leaves. -/
theorem cut {refusal : Fault} (refused : page.refusal margins = some refusal) :
    L.Judged last levels margins page { fault := some refusal } :=
  .refused refused (congrArg Prod.snd (compose_refused refusal))

theorem blank (blank : words.body = [])
    (tail : L.Judged last levels margins { lines, rest, fault } left) :
    L.Judged last levels margins { lines := (words, breaker) :: lines, rest, fault }
      { left with lines := (words, breaker) :: left.lines } := by
  refine ⟨?_, fun passed => ?_⟩
  · rw [Page.refusal_blank blank]
    exact (congrArg Prod.snd (compose_blank blank)).trans tail.fault
  · rw [Page.refusal_blank blank] at passed
    rw [tail.whole passed]

theorem stray {stray : Fault} (starts : words.body = (first, role) :: more)
    (objected : ContentLine.objection margins ⟨words.margin, first⟩ = some stray)
    (composed : L.composeLine levels words first = .error stray) :
    L.Judged last levels margins { lines := (words, breaker) :: lines, rest, fault }
      { left with lines := (words, breaker) :: left.lines } := by
  refine .refused ?_ (congrArg Prod.snd (compose_stray starts composed))
  rw [Page.refusal_content starts, objected]
  rfl

theorem content (starts : words.body = (first, role) :: more)
    (passed : ContentLine.objection margins ⟨words.margin, first⟩ = none)
    (composed : L.composeLine levels words first = .ok (line, after))
    (tail : L.Judged last after (words.margin :: margins) { lines, rest, fault } left) :
    L.Judged last levels margins { lines := (words, breaker) :: lines, rest, fault }
      { left with lines := (words, breaker) :: left.lines } := by
  have same : Page.refusal { lines := (words, breaker) :: lines, rest, fault } margins =
      Page.refusal { lines, rest, fault } (words.margin :: margins) := by
    rw [Page.refusal_content starts, passed]
    rfl
  refine ⟨?_, fun passed => ?_⟩
  · rw [same]
    exact (congrArg Prod.snd (compose_content starts composed)).trans tail.fault
  · rw [tail.whole (same ▸ passed)]

end Layout.Judged

/-- The last line, where it has no content, and the end of the text. -/
theorem Layout.judged_last_blank (watched : L.observers = [.consistent]) (blank : rest.body = []) :
    L.Judged last levels margins { rest, fault }
      (L.admitted rest fault [.margin (lastMargin margins)] []) := by
  cases fault with
  | some fault =>
    rw [admitted_cut ⟨blank, rfl⟩]
    refine ⟨?_, fun _ => rfl⟩
    rw [Page.refusal_last_blank blank]
    exact congrArg Prod.snd (composeLast_cut blank fault)
  | none =>
    have told := told_end watched (lastMargin margins) blank
    by_cases close : Comparable (lastMargin margins) rest.margin
    · rw [if_pos close] at told
      rw [admitted_last told]
      refine ⟨?_, fun _ => rfl⟩
      rw [Page.refusal_last_blank blank, Page.endObjection, if_neg fun clash => clash.2 close]
      exact congrArg Prod.snd (composeLast_blank blank)
    · rw [if_neg close] at told
      rw [admitted_last_refused (by simp) told]
      apply Judged.cut
      rw [Page.refusal_last_blank blank, Page.endObjection, if_pos ⟨blank, close⟩]
      rfl

/-- The last line, where it has content, and the end of the text. -/
theorem Layout.judged_last_content (watched : L.observers = [.consistent])
    (measured : L.depth = .length) (before : L.OpenAfter levels margins)
    (starts : rest.body = (first, role) :: more) :
    L.Judged last levels margins { rest, fault }
      (L.admitted rest fault [.margin (lastMargin margins)] []) := by
  have told := told_content watched (lastMargin margins) starts none
  by_cases close : Comparable (lastMargin margins) rest.margin
  · rw [if_pos close] at told
    rw [admitted_last told]
    refine ⟨?_, fun _ => rfl⟩
    rw [Page.refusal_last_content starts]
    have laid := composeLine_close measured before close first
    cases objected : ContentLine.objection margins ⟨rest.margin, first⟩ with
    | some stray =>
      rw [objected] at laid
      exact congrArg Prod.snd (composeLast_stray starts laid)
    | none =>
      rw [objected] at laid
      obtain ⟨line, after, composed, -⟩ := laid
      cases fault with
      | some fault => exact congrArg Prod.snd (composeLast_stopped starts composed fault)
      | none => exact congrArg Prod.snd (composeLast_content starts composed)
  · rw [if_neg close] at told
    have filled : rest.body ≠ [] := starts ▸ List.cons_ne_nil _ _
    rw [admitted_last_refused (fun ended => filled ended.1) told]
    apply Judged.cut
    rw [Page.refusal_last_content starts, ContentLine.objection_clash close]
    rfl

/-- A text from any line on. The levels, what the observer remembers and the margins of the lines so
far go into the induction together. -/
theorem Layout.judged_admitted (watched : L.observers = [.consistent])
    (measured : L.depth = .length) (before : L.OpenAfter levels margins) :
    L.Judged last levels margins { lines, rest, fault }
      (L.admitted rest fault [.margin (lastMargin margins)] lines) := by
  induction lines generalizing levels margins with
  | nil =>
    cases starts : rest.body with
    | nil => exact judged_last_blank watched starts
    | cons word more => exact judged_last_content watched measured before starts
  | cons line lines ih =>
    obtain ⟨words, breaker⟩ := line
    cases starts : words.body with
    | nil =>
      rw [admitted_line (told_blank watched _ starts)]
      exact .blank starts (ih before)
    | cons word more =>
      obtain ⟨first, role⟩ := word
      have told := told_content watched (lastMargin margins) starts (some breaker)
      by_cases close : Comparable (lastMargin margins) words.margin
      · rw [if_pos close] at told
        rw [admitted_line told]
        have laid := composeLine_close measured before close first
        cases objected : ContentLine.objection margins ⟨words.margin, first⟩ with
        | some stray =>
          rw [objected] at laid
          exact .stray starts objected laid
        | none =>
          rw [objected] at laid
          obtain ⟨line, after, composed, opened⟩ := laid
          exact .content starts objected composed (ih opened)
      · rw [if_neg close] at told
        rw [admitted_refused told]
        apply Judged.cut
        rw [Page.refusal_content starts, ContentLine.objection_clash close]
        rfl

end

/-- Where every role is known, raw tokens end in what ended them. -/
theorem Layout.fault_page {δ μ : Type} {L : Layout δ μ} {raw : List Token} {fault : Option Fault}
    (known : ∀ token ∈ raw, ∃ role, L.classify token = .ok role) :
    (L.page raw fault).fault = fault := by
  rw [page, Page.fault_cut]
  induction raw with
  | nil => rfl
  | cons token raw ih =>
    obtain ⟨role, classified⟩ := known token List.mem_cons_self
    simp only [words, classified]
    exact ih fun token member => known token (List.mem_cons_of_mem _ member)

/-- Where one observer compares margins and depth is their length, a text is refused as its page
says, and is delivered to its end where the page says nothing. -/
theorem Layout.read_refusal {L : Layout Int Memory} (watched : L.observers = [.consistent])
    (measured : L.depth = .length) (S : Source) (elsewhere : Cursor Int Memory S.State)
    (text : String) :
    let raw := S.readFrom elsewhere.base text
    let page := L.page raw.tokens raw.fault
    let reading := (L.source S).readFrom elsewhere text
    reading.fault = page.refusal [] ∧
      (page.refusal [] = none → reading.tokens =
        (L.stream (L.lastOf raw.tokens raw.fault) page).1.map Piece.token) := by
  intro raw page reading
  have left : L.observed raw.tokens raw.fault =
      L.admitted page.rest page.fault [.margin (lastMargin [])] page.lines := by
    rw [observed, watched]
    rfl
  have judged : L.Judged (L.lastOf raw.tokens raw.fault) [] [] page
      (L.observed raw.tokens raw.fault) := left ▸ judged_admitted watched measured L.openAfter_nil
  obtain ⟨tokens, fault⟩ := L.read_eq_observed S elsewhere text
  have refused : reading.fault = page.refusal [] := fault.trans judged.fault
  refine ⟨refused, fun passed => ?_⟩
  have ended : (L.stream (L.lastOf raw.tokens raw.fault) (L.observed raw.tokens raw.fault)).2 =
      none := judged.fault.trans passed
  rw [ended, judged.whole passed] at tokens
  exact tokens

/-- With the usual hooks, whatever the builder and the base of tokens in an empty text, a text is
refused exactly in these cases, of which the earliest counts: a line with content whose margin is
not comparable with that of the content line before, or which goes back to a margin at which no
level is open; raw tokens that end in a fault; and a last line without content whose margin is not
comparable with that of the content line before. A text that is not refused is delivered to its
end. Blank lines that a line break ends have no part in this. -/
theorem Layout.refused_exactly (build : Builder) (fallback : Token) (S : Source)
    (elsewhere : Cursor Int Memory S.State) (text : String) :
    let L : Layout Int Memory := { standard with build, fallback }
    let raw := S.readFrom elsewhere.base text
    let page := L.page raw.tokens raw.fault
    let reading := (L.source S).readFrom elsewhere text
    (∀ fault, reading.fault = some fault ↔
      (∃ before line after, page.contentLines = before ++ line :: after ∧
        firstObjection [] before = none ∧
          line.objection (marginsAfter [] before) = some fault) ∨
      (firstObjection [] page.contentLines = none ∧ (raw.fault = some fault ∨
        (raw.fault = none ∧
          page.endObjection (marginsAfter [] page.contentLines) = some fault)))) ∧
      (reading.fault = none → reading.tokens =
        (L.stream (L.lastOf raw.tokens raw.fault) page).1.map Piece.token) ∧
      ∀ (T : Source) (there : Cursor Int Memory T.State) (other : String),
        let otherRaw := T.readFrom there.base other
        let otherPage := L.page otherRaw.tokens otherRaw.fault
        otherPage.lines.filter (fun line => line.1.body ≠ []) =
            page.lines.filter (fun line => line.1.body ≠ []) →
          otherPage.rest = page.rest → otherRaw.fault = raw.fault →
            ((L.source T).readFrom there other).fault = reading.fault := by
  intro L raw page reading
  have known (raw : List Token) (fault : Option Fault) : (L.page raw fault).fault = fault :=
    fault_page fun token _ => ⟨Role.ofText token.text, rfl⟩
  obtain ⟨refused, whole⟩ := read_refusal (L := L) rfl rfl S elsewhere text
  refine ⟨?_, fun passed => whole (refused.symm.trans passed), ?_⟩
  · intro fault
    rw [show reading.fault = _ from refused, Page.refusal, known, Option.or_assoc,
      Option.or_eq_some_iff, Option.or_eq_some_iff, firstObjection_eq_some_iff]
  · intro T there other otherRaw otherPage filled last ended
    have lines : otherPage.contentLines = page.contentLines := by
      rw [Page.contentLines_filled, Page.contentLines_filled, filled, last]
    have fault : otherPage.fault = page.fault := by
      rw [known, known, ended]
    have same : otherPage.refusal [] = page.refusal [] := by
      rw [Page.refusal, Page.refusal, Page.endObjection, Page.endObjection, lines, last, fault]
    exact (read_refusal (L := L) rfl rfl T there other).1.trans (same.trans refused.symm)

/-- A line and a deeper one are let through, and so they are with a blank line between them, with
which the deeper one would clash if that line had content. A third line between the two in depth is
refused. -/
theorem Layout.refused_exactly_third_line :
    let first : List Token := [⟨"WORD", "a", {}⟩, ⟨"NL", "\n", {}⟩]
    let blank : List Token := [⟨"WS", "\t", {}⟩, ⟨"NL", "\n", {}⟩]
    let second : List Token := [⟨"WS", "    ", {}⟩, ⟨"WORD", "b", {}⟩]
    let third : List Token := [⟨"NL", "\n", {}⟩, ⟨"WS", "  ", {}⟩, ⟨"WORD", "c", {}⟩]
    let S : Source := .scripted ((first ++ second).map some) []
    let T : Source := .scripted ((first ++ blank ++ second).map some) []
    let U : Source := .scripted ((first ++ second ++ third).map some) []
    ((standard.source S).read "").fault = none ∧
      ((standard.source S).read "").tokens.map Token.face =
        [("WORD", "a"), ("eol", "\n"), ("indent", "    "), ("WORD", "b"), ("eol", "b"),
          ("dedent", "")] ∧
      ((standard.source T).read "").fault = none ∧
      ((standard.source U).read "").fault =
        some (.strayDedent (some ⟨"WORD", "c", {}⟩) (.int 2)) := by
  intro first blank second third S T U
  obtain ⟨given, ended⟩ : (S.readFrom S.start "").tokens = first ++ second ∧
      (S.readFrom S.start "").fault = none := Source.readFrom_scripted _ [] 0 ""
  obtain ⟨givenT, endedT⟩ : (T.readFrom T.start "").tokens = first ++ blank ++ second ∧
      (T.readFrom T.start "").fault = none := Source.readFrom_scripted _ [] 0 ""
  obtain ⟨givenU, endedU⟩ : (U.readFrom U.start "").tokens = first ++ second ++ third ∧
      (U.readFrom U.start "").fault = none := Source.readFrom_scripted _ [] 0 ""
  obtain ⟨_, whole, same⟩ :=
    refused_exactly .borrow .placeholder S ⟨standard.fresh, S.start⟩ ""
  have same := same T ⟨standard.fresh, T.start⟩ ""
  have refused := (read_refusal (L := standard) rfl rfl S ⟨standard.fresh, S.start⟩ "").1
  have stray := (refused_exactly .borrow .placeholder U ⟨standard.fresh, U.start⟩ "").1
    (.strayDedent (some ⟨"WORD", "c", {}⟩) (.int 2))
  simp only [given, ended, givenT, endedT, givenU, endedU] at refused whole same stray
  have passed := refused.trans (Option.isNone_iff_eq_none.1 (by decide))
  refine ⟨passed, ?_, (same (by decide) (by decide) trivial).trans passed, ?_⟩
  · exact (congrArg (List.map Token.face) (whole passed)).trans (by decide)
  · refine stray.2 (.inl ⟨[⟨"", ⟨"WORD", "a", {}⟩⟩, ⟨"    ", ⟨"WORD", "b", {}⟩⟩],
      ⟨"  ", ⟨"WORD", "c", {}⟩⟩, [], ?_, rfl, rfl⟩)
    decide

end Offside
