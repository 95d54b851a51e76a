import Mathlib.Data.List.DropRight
import Offside.Proofs.Levels

/-! Texts line by line. The raw tokens of a text are cut at the line breaks, and each line is laid
out as a whole: the tokens that open or close levels, its content as it stands, and the token that
ends it. `compose` is this description; it knows nothing of phases, of a queue, or of refills.
Observers have no part in it but one: they may cut a text short, and `admitted` is what they leave
of it. -/
namespace Offside

variable {δ μ : Type}

namespace Words

/-- The indentation tokens at the start of a line. -/
def indentation (words : Words) : List Token :=
  (words.takeWhile fun word => word.2 = .indentation).map (·.1)

/-- The text of the indentation tokens at the start of a line. -/
def margin (words : Words) : String :=
  words.indentation.foldl (fun margin token => margin ++ token.text) ""

/-- What comes after the indentation of a line. Nothing does if the line is blank. -/
def body (words : Words) : Words :=
  words.dropWhile fun word => word.2 = .indentation

/-- The last of raw tokens, or the one before them. -/
def lastToken (before : Option Token) (words : Words) : Option Token :=
  words.foldl (fun _ word => some word.1) before

/-- What observers are told of a line that the given line break ends, or the end of the text. -/
def report (words : Words) (breaker : Option Token) : LineReport :=
  match words.body with
  | [] => ⟨words.margin, words.indentation, breaker, breaker.isSome⟩
  | (first, _) :: _ => ⟨words.margin, words.indentation, some first, false⟩

end Words

/-- A text cut at its line breaks. -/
structure Page where
  /-- The lines that a line break ends, each with that line break. -/
  lines : List (Words × Token) := []
  /-- The last line, which none ends. -/
  rest : Words := []
  /-- What ended the text within that line, if it did not come to its end. -/
  fault : Option Fault := none

namespace Page

/-- Puts a raw token before the first line. -/
def push (page : Page) (word : Token × Role) : Page :=
  match page.lines with
  | [] => { page with rest := word :: page.rest }
  | (words, breaker) :: lines => { page with lines := (word :: words, breaker) :: lines }

/-- The raw tokens of all lines, line breaks included. -/
def words (page : Page) : Words :=
  page.lines.flatMap (fun line => line.1 ++ [(line.2, .lineBreak)]) ++ page.rest

/-- The lines, without the line breaks that end them. -/
def parts (page : Page) : List Words := page.lines.map (·.1) ++ [page.rest]

/-- Cuts raw tokens at the line breaks. -/
def cut (fault : Option Fault) : Words → Page
  | [] => { fault }
  | (token, .lineBreak) :: words =>
    let page := cut fault words
    { page with lines := ([], token) :: page.lines }
  | word :: words => (cut fault words).push word

end Page

/-- A token of the stream that a layout delivers. -/
structure Piece where
  token : Token
  /-- The margin of the line whose content it belongs to, or whose end it is. -/
  line : Option String := none
  /-- Whether it is an ordinary raw token. -/
  ordinary : Bool := false
deriving DecidableEq

namespace Piece

/-- A token between the contents of lines. -/
def between (token : Token) : Piece := { token }

/-- A raw token of the content of a line. -/
def content (margin : String) (word : Token × Role) : Piece :=
  { token := word.1, line := margin, ordinary := word.2 = .ordinary }

/-- The token that ends a line with content. -/
def ending (margin : String) (token : Token) : Piece := { token, line := margin }

/-- What is delivered of a stream. A fault takes along what comes after the last ordinary token. -/
def delivered (pieces : List Piece) : Option Fault → List Piece
  | none => pieces
  | some _ => pieces.rdropWhile fun piece => !piece.ordinary

end Piece

namespace Layout

/-- A line with content, without the token that ends it, and the levels that are open in it. -/
def composeLine [Ord δ] (L : Layout δ μ) (levels : List (Level δ)) (words : Words)
    (first : Token) : Except Fault (List Piece × List (Level δ)) :=
  let depth := L.depth.measure words.indentation words.margin
  (L.opening levels depth words.margin first).map fun (opening, levels) =>
    (opening.map .between ++ words.body.map (.content words.margin), levels)

/-- The last line and the end of the text, where every level but the outermost is closed. -/
def composeLast [Ord δ] (L : Layout δ μ) (last : Token) (rest : Words) (fault : Option Fault)
    (levels : List (Level δ)) : List Piece × Option Fault :=
  let closing := fun levels : List (Level δ) =>
    levels.tail.map fun level => Piece.between (L.build dedentKind level.margin last)
  match rest.body, fault with
  | [], some fault => ([], some fault)
  | [], none => ((L.blank L.build last none).map .between ++ closing levels, none)
  | (first, _) :: _, fault =>
    match L.composeLine levels rest first, fault with
    | .error stray, _ => ([], some stray)
    | .ok (line, _), some fault => (line, some fault)
    | .ok (line, levels), none =>
      (line ++ .ending rest.margin (L.build eolKind last.text last) :: closing levels, none)

/-- The stream of a text, line by line, where the given levels are open and the given token is the
last of the text; and the fault that ends it if there is one. -/
def compose [Ord δ] (L : Layout δ μ) (last : Token) (rest : Words) (fault : Option Fault) :
    List (Level δ) → List (Words × Token) → List Piece × Option Fault
  | levels, [] => L.composeLast last rest fault levels
  | levels, (words, breaker) :: lines =>
    match words.body with
    | [] =>
      let (pieces, fault) := L.compose last rest fault levels lines
      ((L.blank L.build breaker breaker).map .between ++ pieces, fault)
    | (first, _) :: _ =>
      match L.composeLine levels words first with
      | .error stray => ([], some stray)
      | .ok (line, levels) =>
        let (pieces, fault) := L.compose last rest fault levels lines
        (line ++ .ending words.margin (L.build eolKind breaker.text breaker) :: pieces, fault)

/-- What the observers leave of a text: a line that one of them refuses, and all after it, is cut
off. -/
def admitted (L : Layout δ μ) (rest : Words) (fault : Option Fault) :
    List μ → List (Words × Token) → Page
  | memories, [] =>
    if rest.body = [] ∧ fault.isSome then { rest, fault }
    else
      match (tell (rest.report none) 0 L.observers memories).outcome with
      | .error refusal => { fault := some refusal }
      | .ok _ => { rest, fault }
  | memories, (words, breaker) :: lines =>
    match (tell (words.report breaker) 0 L.observers memories).outcome with
    | .error refusal => { fault := some refusal }
    | .ok memories =>
      let page := L.admitted rest fault memories lines
      { page with lines := (words, breaker) :: page.lines }

/-- The page of raw tokens, up to the first whose role is unknown. -/
def page (L : Layout δ μ) (raw : List Token) (fault : Option Fault) : Page :=
  Page.cut (L.words raw fault).2 (L.words raw fault).1

/-- What the observers leave of that page. -/
def observed (L : Layout δ μ) (raw : List Token) (fault : Option Fault) : Page :=
  L.admitted (L.page raw fault).rest (L.page raw fault).fault (L.observers.map (·.start))
    (L.page raw fault).lines

/-- The last raw token, on which the tokens at the end of the text are based. -/
def lastOf (L : Layout δ μ) (raw : List Token) (fault : Option Fault) : Token :=
  ((L.words raw fault).1.lastToken none).getD L.fallback

/-- The stream of a page, of which the given token is the last. -/
def stream [Ord δ] (L : Layout δ μ) (last : Token) (page : Page) : List Piece × Option Fault :=
  L.compose last page.rest page.fault [] page.lines

end Layout

section

variable [Ord δ] {L : Layout δ μ} {levels after : List (Level δ)} {words : Words} {first : Token}

theorem Layout.composeLine_eq_ok {line : List Piece} :
    L.composeLine levels words first = .ok (line, after) ↔
      ∃ tokens, L.opening levels (L.depth.measure words.indentation words.margin) words.margin
          first = .ok (tokens, after) ∧
        line = tokens.map .between ++ words.body.map (.content words.margin) := by
  simp only [composeLine]
  cases L.opening levels (L.depth.measure words.indentation words.margin) words.margin first with
  | error stray => simp [Except.map]
  | ok opened => simp [Except.map, Prod.ext_iff, eq_comm, and_comm]

theorem Layout.ordered_of_composeLine [Std.TransOrd δ] {line : List Piece}
    (ordered : Ordered levels) (composed : L.composeLine levels words first = .ok (line, after)) :
    Ordered after := by
  obtain ⟨tokens, opened, -⟩ := composeLine_eq_ok.1 composed
  exact (opened_of_opening ordered opened).ordered ordered

theorem Layout.composeLine_eq_error {stray : Fault} :
    L.composeLine levels words first = .error stray ↔
      L.opening levels (L.depth.measure words.indentation words.margin) words.margin first =
        .error stray := by
  simp only [composeLine]
  cases L.opening levels (L.depth.measure words.indentation words.margin) words.margin first with
  | error stray => simp [Except.map]
  | ok opened => simp [Except.map]

variable {last : Token} {fault : Option Fault} {role : Role} {more : Words}

theorem Layout.composeLast_cut (blank : words.body = []) (fault : Fault) :
    L.composeLast last words (some fault) levels = ([], some fault) := by
  unfold composeLast
  rw [blank]

theorem Layout.composeLast_blank (blank : words.body = []) :
    L.composeLast last words none levels =
      ((L.blank L.build last none).map .between ++
        levels.tail.map fun level => .between (L.build dedentKind level.margin last), none) := by
  unfold composeLast
  rw [blank]

theorem Layout.composeLast_stray {stray : Fault} (starts : words.body = (first, role) :: more)
    (misplaced : L.composeLine levels words first = .error stray) :
    L.composeLast last words fault levels = ([], some stray) := by
  unfold composeLast
  rw [starts]
  simp only [misplaced]

theorem Layout.composeLast_stopped {line : List Piece} (starts : words.body = (first, role) :: more)
    (composed : L.composeLine levels words first = .ok (line, after)) (fault : Fault) :
    L.composeLast last words (some fault) levels = (line, some fault) := by
  unfold composeLast
  rw [starts]
  simp only [composed]

theorem Layout.composeLast_content {line : List Piece} (starts : words.body = (first, role) :: more)
    (composed : L.composeLine levels words first = .ok (line, after)) :
    L.composeLast last words none levels =
      (line ++ .ending words.margin (L.build eolKind last.text last) ::
        after.tail.map fun level => .between (L.build dedentKind level.margin last), none) := by
  unfold composeLast
  rw [starts]
  simp only [composed]

variable {rest : Words} {lines : List (Words × Token)} {breaker : Token}

/-- Nothing is left of a text whose next line is refused. -/
theorem Layout.compose_refused (refusal : Fault) :
    L.compose last [] (some refusal) levels [] = ([], some refusal) :=
  composeLast_cut rfl refusal

theorem Layout.compose_blank (blank : words.body = []) :
    L.compose last rest fault levels ((words, breaker) :: lines) =
      ((L.blank L.build breaker breaker).map .between ++
        (L.compose last rest fault levels lines).1,
        (L.compose last rest fault levels lines).2) := by
  rw [compose, blank]

theorem Layout.compose_stray {stray : Fault} (starts : words.body = (first, role) :: more)
    (misplaced : L.composeLine levels words first = .error stray) :
    L.compose last rest fault levels ((words, breaker) :: lines) = ([], some stray) := by
  rw [compose, starts]
  simp only [misplaced]

theorem Layout.compose_content {line : List Piece} (starts : words.body = (first, role) :: more)
    (composed : L.composeLine levels words first = .ok (line, after)) :
    L.compose last rest fault levels ((words, breaker) :: lines) =
      (line ++ .ending words.margin (L.build eolKind breaker.text breaker) ::
        (L.compose last rest fault after lines).1,
        (L.compose last rest fault after lines).2) := by
  rw [compose, starts]
  simp only [composed]

end

section

variable {L : Layout δ μ} {rest words : Words} {fault : Option Fault} {memories later : List μ}
  {breaker : Token} {lines : List (Words × Token)} {refusal : Fault}

theorem Layout.admitted_cut (cut : rest.body = [] ∧ fault.isSome) :
    L.admitted rest fault memories [] = { rest, fault } := by
  rw [admitted, if_pos cut]

theorem Layout.admitted_last
    (told : (tell (rest.report none) 0 L.observers memories).outcome = .ok later) :
    L.admitted rest fault memories [] = { rest, fault } := by
  rw [admitted]
  simp only [told, ite_self]

theorem Layout.admitted_last_refused (uncut : ¬(rest.body = [] ∧ fault.isSome))
    (told : (tell (rest.report none) 0 L.observers memories).outcome = .error refusal) :
    L.admitted rest fault memories [] = { fault := some refusal } := by
  rw [admitted, if_neg uncut]
  simp only [told]

theorem Layout.admitted_line
    (told : (tell (words.report breaker) 0 L.observers memories).outcome = .ok later) :
    L.admitted rest fault memories ((words, breaker) :: lines) =
      { L.admitted rest fault later lines with
        lines := (words, breaker) :: (L.admitted rest fault later lines).lines } := by
  rw [admitted]
  simp only [told]

theorem Layout.admitted_refused
    (told : (tell (words.report breaker) 0 L.observers memories).outcome = .error refusal) :
    L.admitted rest fault memories ((words, breaker) :: lines) = { fault := some refusal } := by
  rw [admitted]
  simp only [told]

theorem Layout.lines_admitted_nil (L : Layout δ μ) (rest : Words) (fault : Option Fault)
    (memories : List μ) : (L.admitted rest fault memories []).lines = [] := by
  unfold admitted
  split
  · rfl
  · split <;> rfl

end

namespace Words

variable {words : Words}

/-- A line is its indentation and its body. -/
theorem split (words : Words) :
    words = (words.takeWhile fun word => word.2 = .indentation) ++ words.body :=
  List.takeWhile_append_dropWhile.symm

theorem report_blank (blank : words.body = []) (breaker : Token) :
    words.report (some breaker) = ⟨words.margin, words.indentation, some breaker, true⟩ := by
  unfold report
  rw [blank]
  rfl

theorem report_end (blank : words.body = []) :
    words.report none = ⟨words.margin, words.indentation, none, false⟩ := by
  unfold report
  rw [blank]
  rfl

theorem report_content {first : Token} {role : Role} {more : Words}
    (starts : words.body = (first, role) :: more) (breaker : Option Token) :
    words.report breaker = ⟨words.margin, words.indentation, some first, false⟩ := by
  unfold report
  rw [starts]

/-- The body of a line starts with an ordinary token. -/
theorem ordinary_of_body {first : Token} {role : Role} {more : Words}
    (unbroken : ∀ word ∈ words, word.2 ≠ .lineBreak) (starts : words.body = (first, role) :: more) :
    role = .ordinary := by
  have outside := List.head?_dropWhile_not (fun word : Token × Role => word.2 = .indentation) words
  rw [show words.dropWhile (fun word => word.2 = .indentation) = _ from starts] at outside
  have inside : (first, role) ∈ words := by
    rw [split words, starts]
    simp
  cases role with
  | ordinary => rfl
  | indentation => simp at outside
  | lineBreak => exact absurd rfl (unbroken _ inside)

theorem unbroken_body (unbroken : ∀ word ∈ words, word.2 ≠ .lineBreak) :
    ∀ word ∈ words.body, word.2 ≠ .lineBreak := fun word member =>
  unbroken word ((List.dropWhile_sublist _).subset member)

end Words

namespace Piece

/-- A fault takes along all of what no ordinary token is among. -/
theorem delivered_held {held : List Piece} (structural : ∀ piece ∈ held, piece.ordinary = false)
    (fault : Fault) : delivered held (some fault) = [] :=
  List.rdropWhile_eq_nil_iff.2 fun piece member => by simp [structural piece member]

/-- An ordinary token makes sure of itself and of what comes before it. -/
theorem delivered_ordinary {piece : Piece} (ordinary : piece.ordinary = true)
    (held pieces : List Piece) (fault : Option Fault) :
    delivered (held ++ piece :: pieces) fault = held ++ piece :: delivered pieces fault := by
  cases fault with
  | none => rfl
  | some fault =>
    have stops : (piece :: held.reverse).dropWhile (fun piece => !piece.ordinary) =
        piece :: held.reverse := by simp [ordinary]
    simp only [delivered, List.rdropWhile, List.reverse_append, List.reverse_cons,
      List.append_assoc, List.singleton_append, List.dropWhile_append, stops]
    split
    case isTrue empty => simp [List.isEmpty_iff.1 empty]
    case isFalse => simp

end Piece

namespace Page

variable {fault : Option Fault}

theorem words_push (page : Page) (word : Token × Role) :
    (page.push word).words = word :: page.words := by
  unfold push
  split
  case h_1 none => simp [Page.words, none]
  case h_2 words breaker lines some => simp [Page.words, some]

theorem fault_push (page : Page) (word : Token × Role) :
    (page.push word).fault = page.fault := by
  unfold push
  split <;> rfl

/-- No line holds a line break. -/
structure Unbroken (page : Page) : Prop where
  lines : ∀ line ∈ page.lines, ∀ word ∈ line.1, word.2 ≠ .lineBreak
  rest : ∀ word ∈ page.rest, word.2 ≠ .lineBreak

theorem Unbroken.push {page : Page} {word : Token × Role} (unbroken : page.Unbroken)
    (other : word.2 ≠ .lineBreak) : (page.push word).Unbroken := by
  obtain ⟨lines, rest⟩ := unbroken
  unfold Page.push
  split
  case h_1 none => exact ⟨by simp [none], by simpa [other] using rest⟩
  case h_2 words breaker more some =>
    rw [some] at lines
    refine ⟨fun line member => ?_, rest⟩
    rcases List.mem_cons.1 member with rfl | member
    · simpa [other] using lines (words, breaker) List.mem_cons_self
    · exact lines line (List.mem_cons_of_mem _ member)

/-- Cutting at the line breaks loses nothing. -/
theorem words_cut (words : Words) : (cut fault words).words = words := by
  induction words with
  | nil => rfl
  | cons word words ih =>
    obtain ⟨token, role⟩ := word
    cases role with
    | lineBreak => simpa [cut, Page.words] using ih
    | ordinary => simpa [cut, words_push] using ih
    | indentation => simpa [cut, words_push] using ih

theorem fault_cut (words : Words) : (cut fault words).fault = fault := by
  induction words with
  | nil => rfl
  | cons word words ih =>
    obtain ⟨token, role⟩ := word
    cases role with
    | lineBreak => simpa [cut] using ih
    | ordinary => simpa [cut, fault_push] using ih
    | indentation => simpa [cut, fault_push] using ih

/-- What is cut at the line breaks holds none. -/
theorem unbroken_cut (words : Words) : (cut fault words).Unbroken := by
  induction words with
  | nil => exact ⟨by simp [cut], by simp [cut]⟩
  | cons word words ih =>
    obtain ⟨token, role⟩ := word
    cases role with
    | lineBreak => exact ⟨by simpa [cut] using ih.lines, by simpa [cut] using ih.rest⟩
    | ordinary => exact ih.push (by simp)
    | indentation => exact ih.push (by simp)

/-- A line that a line break ends is cut off as a whole. -/
theorem cut_unbroken {words : Words} (unbroken : ∀ word ∈ words, word.2 ≠ .lineBreak)
    (breaker : Token) (more : Words) : cut fault (words ++ (breaker, .lineBreak) :: more) =
      { cut fault more with lines := (words, breaker) :: (cut fault more).lines } := by
  induction words with
  | nil => rfl
  | cons word words ih =>
    obtain ⟨token, role⟩ := word
    obtain ⟨first, others⟩ := List.forall_mem_cons.1 unbroken
    cases role with
    | lineBreak => exact absurd rfl first
    | ordinary => simp only [List.cons_append, cut, ih others, push]
    | indentation => simp only [List.cons_append, cut, ih others, push]

/-- Raw tokens without a line break are one line. -/
theorem cut_rest {words : Words} (unbroken : ∀ word ∈ words, word.2 ≠ .lineBreak) :
    cut fault words = { rest := words, fault } := by
  induction words with
  | nil => rfl
  | cons word words ih =>
    obtain ⟨token, role⟩ := word
    obtain ⟨first, others⟩ := List.forall_mem_cons.1 unbroken
    cases role with
    | lineBreak => exact absurd rfl first
    | ordinary => simp only [cut, ih others, push]
    | indentation => simp only [cut, ih others, push]

/-- The lines are runs of the raw tokens. -/
theorem infix_of_parts {page : Page} {words : Words} (part : words ∈ page.parts) :
    words <:+: page.words := by
  rcases List.mem_append.1 part with inside | last
  · obtain ⟨line, member, rfl⟩ := List.mem_map.1 inside
    obtain ⟨before, after, split⟩ := List.append_of_mem member
    rw [Page.words, split, List.flatMap_append, List.flatMap_cons]
    refine ⟨before.flatMap fun line => line.1 ++ [(line.2, .lineBreak)],
      (line.2, .lineBreak) :: after.flatMap (fun line => line.1 ++ [(line.2, .lineBreak)]) ++
        page.rest, ?_⟩
    simp
  · obtain rfl := List.mem_singleton.1 last
    exact (List.suffix_append _ _).isInfix

end Page

/-- Refuses no line. -/
def Observer.Tolerant (observer : Observer μ) : Prop :=
  ∀ memory report, ∃ later, observer.observe memory report = .ok later

namespace Layout

variable {L : Layout δ μ}

/-- The raw tokens whose roles are known come first. -/
theorem words_known (L : Layout δ μ) (raw : List Token) (fault : Option Fault) :
    (L.words raw fault).1.map (·.1) <+: raw ∧
      ∀ word ∈ (L.words raw fault).1, L.classify word.1 = .ok word.2 := by
  fun_induction L.words raw fault with
  | case1 fault => exact ⟨List.prefix_refl _, by simp⟩
  | case2 token raw fault answer classified => exact ⟨List.nil_prefix, by simp⟩
  | case3 token raw fault role classified words ended rest ih =>
    obtain ⟨comes, known⟩ := ih
    rw [rest] at comes known
    refine ⟨by simpa using comes, fun word member => ?_⟩
    rcases List.mem_cons.1 member with rfl | member
    · exact classified
    · exact known word member

/-- The lines of a text are made of its raw tokens. -/
theorem raw_of_parts {raw : List Token} {fault : Option Fault} {words : Words}
    (part : words ∈ (L.page raw fault).parts) {word : Token × Role} (member : word ∈ words) :
    word.1 ∈ raw := by
  have inside : word ∈ (L.words raw fault).1 := by
    rw [← Page.words_cut (L.words raw fault).1]
    exact (Page.infix_of_parts part).subset member
  exact (L.words_known raw fault).1.subset (List.mem_map_of_mem inside)

theorem tell_tolerated (report : LineReport) (position : Nat) {observers : List (Observer μ)}
    (tolerant : ∀ observer ∈ observers, observer.Tolerant) (memories : List μ) :
    ∃ later, (tell report position observers memories).outcome = .ok later := by
  induction observers generalizing position memories with
  | nil => exact ⟨[], rfl⟩
  | cons observer observers ih =>
    obtain ⟨memory, observed⟩ := tolerant observer List.mem_cons_self
      (memories.head?.getD observer.start) report
    obtain ⟨later, told⟩ := ih (position + 1)
      (fun observer member => tolerant observer (List.mem_cons_of_mem _ member)) memories.tail
    exact ⟨memory :: later, by simp [tell, Attempt.outcome_bind, Except.bind, observed, told]⟩

/-- Observers that refuse no line leave a text as it is. -/
theorem admitted_tolerated (tolerant : ∀ observer ∈ L.observers, observer.Tolerant)
    (rest : Words) (fault : Option Fault) (memories : List μ) (lines : List (Words × Token)) :
    L.admitted rest fault memories lines = { lines, rest, fault } := by
  induction lines generalizing memories with
  | nil =>
    obtain ⟨later, told⟩ := tell_tolerated (rest.report none) 0 tolerant memories
    simp [admitted, told]
  | cons line lines ih =>
    obtain ⟨later, told⟩ := tell_tolerated (line.1.report line.2) 0 tolerant memories
    simp [admitted, told, ih later]

end Layout

end Offside
