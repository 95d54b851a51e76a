import Offside.Proofs.Refills

/-! The current line. Of the raw tokens that a layout has taken, those since the last line break are
the line that it is in: whether it is still at the start of that line, which indentation it has
gathered and which margin, is a matter of these alone. `Reads` says so, and every step keeps it. -/
namespace Offside

variable {δ μ : Type}

/-- The raw tokens since the last line break. -/
def Words.current (words : Words) : Words := (Page.cut none words).rest

namespace Page

/-- Ends the last line with a line break. -/
def close (page : Page) (token : Token) : Page :=
  { page with lines := page.lines ++ [(page.rest, token)], rest := [] }

/-- Puts a raw token after the last one. -/
def extend (page : Page) (word : Token × Role) : Page :=
  { page with rest := page.rest ++ [word] }

theorem push_close (page : Page) (token : Token) (word : Token × Role) :
    (page.close token).push word = (page.push word).close token := by
  cases lines : page.lines with
  | nil => simp [push, close, lines]
  | cons line lines => simp [push, close, lines]

theorem push_extend (page : Page) (word other : Token × Role) :
    (page.extend other).push word = (page.push word).extend other := by
  cases lines : page.lines with
  | nil => simp [push, extend, lines]
  | cons line lines => simp [push, extend, lines]

variable {fault : Option Fault}

/-- A line break at the end ends the last line. -/
theorem cut_break (words : Words) (token : Token) :
    cut fault (words ++ [(token, .lineBreak)]) = (cut fault words).close token := by
  induction words with
  | nil => rfl
  | cons word words ih =>
    obtain ⟨first, role⟩ := word
    cases role with
    | lineBreak => simp only [List.cons_append, cut, ih, close]
    | ordinary => simp only [List.cons_append, cut, ih, push_close]
    | indentation => simp only [List.cons_append, cut, ih, push_close]

/-- Any other raw token at the end belongs to the last line. -/
theorem cut_other (words : Words) {word : Token × Role} (other : word.2 ≠ .lineBreak) :
    cut fault (words ++ [word]) = (cut fault words).extend word := by
  induction words with
  | nil =>
    obtain ⟨token, role⟩ := word
    cases role with
    | lineBreak => exact absurd rfl other
    | ordinary => rfl
    | indentation => rfl
  | cons first words ih =>
    obtain ⟨token, role⟩ := first
    cases role with
    | lineBreak => simp only [List.cons_append, cut, ih, extend]
    | ordinary => simp only [List.cons_append, cut, ih, push_extend]
    | indentation => simp only [List.cons_append, cut, ih, push_extend]

end Page

namespace Words

theorem current_break (words : Words) (token : Token) :
    current (words ++ [(token, .lineBreak)]) = [] := by
  rw [current, Page.cut_break]
  rfl

theorem current_other (words : Words) {word : Token × Role} (other : word.2 ≠ .lineBreak) :
    current (words ++ [word]) = words.current ++ [word] := by
  rw [current, Page.cut_other words other]
  rfl

variable {words : Words} {word : Token × Role} {token : Token}

/-- The body of a line starts with its first ordinary token, and every further token belongs to
it. -/
theorem body_concat (past : words.body ≠ [] ∨ word.2 ≠ .indentation) :
    body (words ++ [word]) = words.body ++ [word] := by
  by_cases blank : words.body = []
  · have other := past.resolve_left (absurd blank)
    simp only [body, List.dropWhile_append] at blank ⊢
    rw [if_pos (by simpa using blank), blank]
    simp [other]
  · simp only [body, List.dropWhile_append] at blank ⊢
    rw [if_neg (by simpa using blank)]

theorem body_concat_blank (blank : words.body = []) :
    body (words ++ [(token, .indentation)]) = [] := by
  simp only [body, List.dropWhile_append] at blank ⊢
  rw [if_pos (by simpa using blank)]
  rfl

/-- A line is blank as long as there is nothing but indentation in it. -/
theorem body_eq_nil_iff : words.body = [] ↔ ∀ word ∈ words, word.2 = .indentation := by
  simp [body]

/-- The indentation of a line goes on only where the line is blank. -/
theorem indentation_concat_blank (blank : words.body = []) :
    indentation (words ++ [(token, .indentation)]) = words.indentation ++ [token] := by
  have whole : ∀ word ∈ words, decide (word.2 = .indentation) = true := fun word member =>
    decide_eq_true (body_eq_nil_iff.1 blank word member)
  rw [indentation, indentation, List.takeWhile_append_of_pos whole,
    List.takeWhile_eq_self_iff.2 whole]
  simp

theorem indentation_concat (past : words.body ≠ [] ∨ word.2 ≠ .indentation) :
    indentation (words ++ [word]) = words.indentation := by
  rw [indentation, indentation, List.takeWhile_append]
  split
  case isTrue whole =>
    have all : words.takeWhile (fun word => word.2 = .indentation) = words :=
      (List.takeWhile_prefix _).eq_of_length whole
    have blank : words.body = [] := body_eq_nil_iff.2 fun word member => by
      simpa using List.takeWhile_eq_self_iff.1 all word member
    simp [all, past.resolve_left (absurd blank)]
  case isFalse => rfl

end Words

/-- Raw tokens whose roles are known come with these, whatever comes after them. -/
theorem Layout.words_append {L : Layout δ μ} {words : Words}
    (known : ∀ word ∈ words, L.classify word.1 = .ok word.2) (raw : List Token)
    (fault : Option Fault) :
    L.words (words.map (·.1) ++ raw) fault =
      (words ++ (L.words raw fault).1, (L.words raw fault).2) := by
  induction words with
  | nil => rfl
  | cons word words ih =>
    obtain ⟨first, rest⟩ := List.forall_mem_cons.1 known
    simp only [List.map_cons, List.cons_append, Layout.words, first, ih rest]

/-- Raw tokens whose roles are known keep them. -/
theorem Layout.words_of_classified {L : Layout δ μ} {words : Words}
    (classified : ∀ word ∈ words, L.classify word.1 = .ok word.2) (fault : Option Fault) :
    L.words (words.map (·.1)) fault = (words, fault) := by
  have known := L.words_append classified [] fault
  simpa [Layout.words] using known

/-- What a layout that has taken the given raw tokens knows of the line that it is in. -/
structure Progress.Reads (p : Progress δ μ) (words : Words) : Prop where
  start : p.phase = .margin → words.current.body = []
  inside : p.phase = .body → words.current.body ≠ []
  indentation : p.indentation = words.current.indentation
  margin : p.margin = words.current.margin

namespace Progress

variable {L : Layout δ μ} {p later : Progress δ μ} {words : Words} {events : List Event}

theorem reads_fresh (L : Layout δ μ) : L.fresh.Reads [] := ⟨fun _ => rfl, nofun, rfl, rfl⟩

/-- After a line break a new line is read. -/
theorem reads_break {token : Token} (start : p.phase = .margin) (bare : p.indentation = [])
    (flush : p.margin = "") : p.Reads (words ++ [(token, .lineBreak)]) := by
  have line := words.current_break token
  refine ⟨fun _ => by rw [line]; rfl, ?_, ?_, ?_⟩
  · intro inside
    cases start.symm.trans inside
  · rw [line, bare]
    rfl
  · rw [line, flush]
    rfl

/-- A token of the body of a line changes neither its indentation nor its margin. -/
theorem Reads.content {word : Token × Role} (reads : p.Reads words) (other : word.2 ≠ .lineBreak)
    (past : words.current.body ≠ [] ∨ word.2 ≠ .indentation) (inside : later.phase = .body)
    (indentation : later.indentation = p.indentation) (margin : later.margin = p.margin) :
    later.Reads (words ++ [word]) := by
  have line := words.current_other other
  have same : (words.current ++ [word]).indentation = words.current.indentation :=
    Words.indentation_concat past
  refine ⟨?_, ?_, ?_, ?_⟩
  · intro start
    cases start.symm.trans inside
  · intro _
    rw [line, Words.body_concat past]
    exact List.append_ne_nil_of_right_ne_nil _ (by simp)
  · rw [line, same, indentation, reads.indentation]
  · rw [line, Words.margin, same, ← Words.margin, margin, reads.margin]

/-- Taking a raw token keeps a layout informed of its line. -/
theorem Reads.taken [Ord δ] {token : Token} {role : Role} (reads : p.Reads words)
    (unfinished : p.phase ≠ .finished) (taken : Taken L p token role events later) :
    later.Reads (words ++ [(token, role)]) := by
  cases taken with
  | indents start =>
    have blank := reads.start start
    have line : Words.current (words ++ [(token, .indentation)]) =
        words.current ++ [(token, .indentation)] := words.current_other nofun
    have gathered : Words.indentation (words.current ++ [(token, .indentation)]) =
        words.current.indentation ++ [token] := Words.indentation_concat_blank blank
    refine ⟨?_, ?_, ?_, ?_⟩
    · intro _
      rw [line, Words.body_concat_blank blank]
    · intro inside
      cases start.symm.trans inside
    · rw [line, gathered, ← reads.indentation]
    · rw [line, Words.margin, gathered, List.foldl_append, ← Words.margin, ← reads.margin]
      rfl
  | endsBlank start told => exact reads_break start rfl rfl
  | begins start told settled built => exact reads.content nofun (.inr nofun) rfl rfl rfl
  | passes inside =>
    have body := body_of_inside unfinished inside
    exact reads.content nofun (.inl (reads.inside body)) body rfl rfl
  | ends inside => exact reads_break rfl rfl rfl
  | continues inside => exact reads.content nofun (.inr nofun) rfl rfl rfl

theorem Reads.ended (reads : p.Reads words) (ended : Ended L p events later) :
    later.Reads words := by
  cases ended with
  | body inside => exact ⟨nofun, nofun, reads.indentation, reads.margin⟩
  | blank outside told => exact ⟨nofun, nofun, reads.indentation, reads.margin⟩

end Progress

end Offside
