import Offside.Proofs.CurrentLine
import Offside.Proofs.Sessions

/-! Conservation of raw tokens. What a layout has delivered and what it has ready are the contents
of the lines whose raw tokens it pulled, each token once, in order and as it was, among the tokens
that the layout made itself. Nothing is lost or repeated where a refill begins or ends, nor where a
session goes back to a snapshot in the middle of what was ready. -/
namespace Offside

variable {δ μ : Type}

/-- The raw tokens of a page that a layout passes on: of each line what follows its indentation. -/
def Page.contents (page : Page) : List Token := (page.parts.flatMap Words.body).map (·.1)

/-- The tokens that a layout makes of its own are told apart from raw tokens by their kind. -/
structure Layout.Distinct (L : Layout δ μ) (made : String → Bool) (raw : List Token) : Prop where
  built : ∀ kind ∈ layoutKinds, ∀ text base, made (L.build kind text base).kind = true
  blank : ∀ last breaker, ∀ token ∈ L.blank L.build last breaker, made token.kind = true
  raw : ∀ token ∈ raw, made token.kind = false

/-- Tokens without those that a layout made. -/
def withoutMade (made : String → Bool) (tokens : List Token) : List Token :=
  tokens.filter fun token => !made token.kind

namespace Page

variable {page : Page}

theorem contents_close (token : Token) : (page.close token).contents = page.contents := by
  simp [contents, parts, close, Words.body]

theorem contents_extend (word : Token × Role) (past : page.rest.body ≠ [] ∨ word.2 ≠ .indentation) :
    (page.extend word).contents = page.contents ++ [word.1] := by
  simp [contents, parts, extend, Words.body_concat past]

theorem contents_extend_blank {token : Token} (blank : page.rest.body = []) :
    (page.extend (token, .indentation)).contents = page.contents := by
  simp [contents, parts, extend, Words.body_concat_blank blank, blank]

end Page

/-- The raw tokens among those that a layout has taken that it passes on. -/
def Words.contents (words : Words) : List Token := (Page.cut none words).contents

namespace Words

theorem contents_break (words : Words) (token : Token) :
    contents (words ++ [(token, .lineBreak)]) = words.contents := by
  rw [contents, Page.cut_break, Page.contents_close, contents]

theorem contents_within (words : Words) {word : Token × Role} (other : word.2 ≠ .lineBreak)
    (past : words.current.body ≠ [] ∨ word.2 ≠ .indentation) :
    contents (words ++ [word]) = words.contents ++ [word.1] := by
  rw [contents, Page.cut_other words other, Page.contents_extend word past, contents]

theorem contents_margin (words : Words) {token : Token} (blank : words.current.body = []) :
    contents (words ++ [(token, .indentation)]) = words.contents := by
  have line : Page.cut none (words ++ [(token, .indentation)]) =
      (Page.cut none words).extend (token, .indentation) := Page.cut_other words nofun
  rw [contents, line, Page.contents_extend_blank blank, contents]

end Words

section

variable {made : String → Bool}

theorem withoutMade_append (tokens more : List Token) :
    withoutMade made (tokens ++ more) = withoutMade made tokens ++ withoutMade made more :=
  List.filter_append ..

theorem withoutMade_made {tokens : List Token} (all : ∀ token ∈ tokens, made token.kind = true) :
    withoutMade made tokens = [] :=
  List.filter_eq_nil_iff.2 fun token member => by simp [all token member]

theorem withoutMade_raw {token : Token} (raw : made token.kind = false) :
    withoutMade made [token] = [token] :=
  List.filter_eq_self.2 fun other member => by
    obtain rfl := List.mem_singleton.1 member
    simp [raw]

namespace Progress

variable {L : Layout δ μ} {p later : Progress δ μ} {words : Words} {events : List Event}
  {raw : List Token}

/-- Taking a raw token gets ready just that token or none of the raw ones, as it is passed on or
not. -/
theorem Taken.conserves [Ord δ] {token : Token} {role : Role} (distinct : L.Distinct made raw)
    (original : made token.kind = false) (reads : p.Reads words) (unfinished : p.phase ≠ .finished)
    (taken : Taken L p token role events later) :
    ∃ passed, withoutMade made later.queue = withoutMade made p.queue ++ passed ∧
      Words.contents (words ++ [(token, role)]) = words.contents ++ passed := by
  cases taken with
  | indents start =>
    exact ⟨[], by simp, by simp [words.contents_margin (reads.start start)]⟩
  | endsBlank start told =>
    have blank := withoutMade_made (distinct.blank (some token) (some token))
    exact ⟨[], by simp [withoutMade_append, blank], by simp [words.contents_break]⟩
  | begins start told settled built =>
    have opening := withoutMade_made (fun token member => by
      obtain ⟨kind, layout, rfl⟩ := built token member
      exact distinct.built kind layout _ _)
    exact ⟨[token], by simp [withoutMade_append, opening, withoutMade_raw original],
      words.contents_within nofun (.inr nofun)⟩
  | passes inside =>
    have body := reads.inside (body_of_inside unfinished inside)
    exact ⟨[token], by simp [withoutMade_append, withoutMade_raw original],
      words.contents_within nofun (.inl body)⟩
  | ends inside =>
    have ending := withoutMade_made (List.forall_mem_singleton.2
      (distinct.built eolKind (by simp [layoutKinds]) token.text token))
    exact ⟨[], by simp [withoutMade_append, ending], by simp [words.contents_break]⟩
  | continues inside =>
    exact ⟨[token], by simp [withoutMade_append, withoutMade_raw original],
      words.contents_within nofun (.inr nofun)⟩

/-- The end of the text gets no raw token ready. -/
theorem Ended.conserves (distinct : L.Distinct made raw) (ended : Ended L p events later) :
    withoutMade made later.queue = withoutMade made p.queue := by
  have closing : ∀ (levels : List (Level δ)) (last : Token),
      withoutMade made (levels.map fun level => L.build dedentKind level.margin last) = [] := by
    intro levels last
    refine withoutMade_made fun token member => ?_
    obtain ⟨level, _, rfl⟩ := List.mem_map.1 member
    exact distinct.built dedentKind (by simp [layoutKinds]) _ _
  cases ended with
  | body inside =>
    have ending := withoutMade_made (List.forall_mem_singleton.2
      (distinct.built eolKind (by simp [layoutKinds]) (p.last.getD L.fallback).text
        (p.last.getD L.fallback)))
    rw [← List.singleton_append]
    simp only [withoutMade_append, ending, closing, List.append_nil]
  | blank outside told =>
    have blank := withoutMade_made (distinct.blank (p.last.getD L.fallback) none)
    simp only [withoutMade_append, blank, closing, List.append_nil]

/-- What holds of a layout that has delivered the given tokens, and taken the given raw ones: these
and those that are ready are the contents of the lines that it took. -/
structure Conserves (made : String → Bool) (delivered : List Token) (p : Progress δ μ)
    (words : Words) : Prop where
  reads : p.Reads words
  conserved : (∀ word ∈ words, made word.1.kind = false) →
    withoutMade made (delivered ++ p.queue) = words.contents

variable {delivered : List Token}

theorem Conserves.taken [Ord δ] {token : Token} {role : Role} (distinct : L.Distinct made raw)
    (conserves : p.Conserves made delivered words) (unfinished : p.phase ≠ .finished)
    (taken : Taken L p token role events later) :
    later.Conserves made delivered (words ++ [(token, role)]) := by
  refine ⟨conserves.reads.taken unfinished taken, fun original => ?_⟩
  obtain ⟨before, here⟩ := List.forall_mem_append.1 original
  obtain ⟨passed, queued, contents⟩ :=
    taken.conserves distinct (here _ List.mem_cons_self) conserves.reads unfinished
  have earlier := conserves.conserved before
  rw [withoutMade_append] at earlier ⊢
  rw [queued, contents, ← earlier, List.append_assoc]

theorem Conserves.ended (distinct : L.Distinct made raw)
    (conserves : p.Conserves made delivered words) (ended : Ended L p events later) :
    later.Conserves made delivered words := by
  refine ⟨conserves.reads.ended ended, fun original => ?_⟩
  have earlier := conserves.conserved original
  rw [withoutMade_append] at earlier ⊢
  rw [ended.conserves distinct, earlier]

/-- A refill loses none of the raw tokens that it takes. -/
theorem Conserves.refills [Ord δ] {more : Words} (distinct : L.Distinct made raw)
    (conserves : p.Conserves made delivered words) (unfinished : p.phase ≠ .finished)
    (refills : Refills L p more events later) :
    later.Conserves made delivered (words ++ more) := by
  let Holds : Progress δ μ → Words → List Event → Prop :=
    fun p words _ => p.Conserves made delivered words
  show Holds later (words ++ more) ([] ++ events)
  refine refills.preserves ?_ ?_ unfinished conserves
  · intro p words events token role asked later unfinished conserves classified taken
    exact conserves.taken distinct unfinished taken
  · intro p words events asked later unfinished conserves ended
    exact conserves.ended distinct ended

/-- Delivering the first of the tokens that are ready moves it from one side to the other. -/
theorem Conserves.hands {answers : List (Option Token)}
    (conserves : p.Conserves made answers.reduceOption words) :
    { p with queue := p.queue.tail }.Conserves made
      (answers ++ [p.queue.head?]).reduceOption words := by
  refine ⟨⟨conserves.reads.start, conserves.reads.inside, conserves.reads.indentation,
    conserves.reads.margin⟩, fun original => ?_⟩
  rw [← conserves.conserved original, List.reduceOption_append, List.append_assoc]
  cases p.queue with
  | nil => rfl
  | cons token queue => rfl

end Progress

/-- In every state that a layout reaches on a text without a fault, what it delivered on the way
there and what is ready are, but for the tokens that it made, the raw tokens that it pulled on the
way, but for the line breaks and the indentation of the lines. -/
theorem Layout.conserved_of_session [Ord δ] [DecidableEq δ] [DecidableEq μ] {L : Layout δ μ}
    {S : Source} {text : String} {answers : List (Option Token)} {raw : List Token}
    {state : (L.source S).State} (session : L.Session S text answers raw state)
    (distinct : L.Distinct made raw) :
    (L.page raw none).words.map (·.1) = raw ∧
      withoutMade made
          (answers.reduceOption ++ ((L.source S).save state).progress.queue) =
        (L.page raw none).contents := by
  let Holds : Progress δ μ → List (Option Token) → Words → Prop :=
    fun p answers words => p.Conserves made answers.reduceOption words
  have held : ∃ words : Words, raw = words.map (·.1) ∧
      (∀ word ∈ words, L.classify word.1 = .ok word.2) ∧ Holds state.progress answers words := by
    refine session.preserves ?_ ?_ ?_ ?_
    · exact ⟨Progress.reads_fresh L, fun _ => rfl⟩
    · intro p answers words token queue conserves ready
      have delivered := conserves.hands
      rw [ready] at delivered
      exact delivered
    · intro p answers words conserves empty finished
      have delivered := conserves.hands
      have same : { p with queue := p.queue.tail } = p := by rw [empty, List.tail_nil, ← empty]
      rw [same, empty] at delivered
      exact delivered
    · intro p answers words more events later conserves empty unfinished refills
      exact (conserves.refills distinct unfinished refills).hands
  obtain ⟨words, rfl, classified, conserves⟩ := held
  have known : L.page (words.map (·.1)) none = Page.cut none words := by
    rw [page, words_of_classified classified]
  have original : ∀ word ∈ words, made word.1.kind = false := fun word member =>
    distinct.raw word.1 (List.mem_map_of_mem member)
  rw [known, Page.words_cut]
  exact ⟨rfl, conserves.conserved original⟩

end

/-- A line and a deeper one, after going back to where the end of the first had been delivered: the
words of both lines are conserved, of which the second is still ready. -/
theorem Layout.conserved_of_session_resumed :
    let L := standard
    let made : String → Bool := layoutKinds.contains
    let a : Token := ⟨"WORD", "a", {}⟩
    let b : Token := ⟨"WORD", "b", {}⟩
    let raw : List Token := [a, ⟨"NL", "\n", {}⟩, ⟨"WS", "  ", {}⟩, b]
    let S : Source := .scripted (raw.map some) []
    let T := L.source S
    let earlier := (T.next (T.next (T.reset T.start "" none).2).2).2
    let state := (T.reset (T.next earlier).2 "" (some (T.save earlier))).2
    L.Session S "" [some a, some ⟨"eol", "\n", {}⟩] raw state ∧ L.Distinct made raw ∧
      (T.save state).progress.queue = [⟨"indent", "  ", {}⟩, b] ∧
      withoutMade made
        ([some a, some ⟨"eol", "\n", {}⟩].reduceOption ++ (T.save state).progress.queue) = [a, b] ∧
      (L.page raw none).contents = [a, b] := by
  intro L made a b raw S T earlier state
  obtain ⟨session, _, queue⟩ := session_second_line
  have resumed : L.Session S "" [some a, some ⟨"eol", "\n", {}⟩] raw state :=
    .resumed session rfl
  have distinct : L.Distinct made raw := by
    refine ⟨fun kind layout text base => List.contains_iff_mem.2 layout, ?_, by decide⟩
    exact fun last breaker token none => absurd none List.not_mem_nil
  have contents : (L.page raw none).contents = [a, b] := by decide
  have conserved := (conserved_of_session resumed distinct).2
  exact ⟨resumed, distinct, queue, conserved.trans contents, contents⟩

end Offside
