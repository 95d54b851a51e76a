import Offside.Proofs.Output
import Offside.Proofs.Questions

/-! Blank lines. Where blank lines contribute nothing and the observers only enforce consistent
margins, a blank line leaves no trace in a layout but that it is the last of the raw tokens. So two
texts of which one has more blank lines than the other are laid out alike: two layouts that read
them differ at the start of a line in their last raw token, and nowhere else. At the end of the text
that token gives the closing tokens their place. -/
namespace Offside

variable {δ : Type}

namespace Layout

variable {μ : Type}

/-- Raw tokens, and the same with further blank lines, each of them any indentation and a line
break. They may stand at the start of a line, which is where the tokens are if the flag is set. -/
inductive Padded (L : Layout δ μ) : Bool → List Token → List Token → Prop where
  | done {start : Bool} : Padded L start [] []
  | token {start : Bool} {token : Token} {raw padded : List Token}
      (rest : Padded L (L.isBreak token) raw padded) :
      Padded L start (token :: raw) (token :: padded)
  | blank {indents : List Token} {breaker : Token} {raw padded : List Token}
      (indent : ∀ token ∈ indents, L.classify token = .ok .indentation)
      (ends : L.classify breaker = .ok .lineBreak) (rest : Padded L true raw padded) :
      Padded L true raw (indents ++ breaker :: padded)

/-- Each observer remembers something. -/
theorem length_of_tell {report : LineReport} {position : Nat} {observers : List (Observer μ)}
    {memories later : List μ}
    (told : (tell report position observers memories).outcome = .ok later) :
    later.length = observers.length := by
  induction observers generalizing position memories later with
  | nil =>
    cases told
    rfl
  | cons observer observers ih =>
    obtain ⟨memory, rest, _, others, rfl⟩ := tell_cons_eq_ok.1 told
    rw [List.length_cons, List.length_cons, ih others]

/-- Enforcers of consistent margins remember nothing of a blank line, and do not refuse it. -/
theorem tell_blank {observers : List (Observer Memory)} {memories : List Memory}
    (enforce : ∀ observer ∈ observers, observer = .consistent)
    (remember : memories.length = observers.length) (margin : String) (indentation : List Token)
    (breaker : Option Token) (position : Nat) :
    (tell ⟨margin, indentation, breaker, true⟩ position observers memories).outcome =
      .ok memories := by
  induction observers generalizing memories position with
  | nil => rw [List.eq_nil_of_length_eq_zero remember]; rfl
  | cons observer observers ih =>
    obtain ⟨rfl, others⟩ := List.forall_mem_cons.1 enforce
    obtain ⟨memory, memories, rfl⟩ := List.exists_cons_of_length_eq_add_one remember
    have rest := ih others (Nat.succ.inj remember) (position + 1)
    simp [tell, Attempt.outcome_bind, Except.bind, Observer.consistent, rest]

end Layout

/-- What two texts that differ in blank lines come to. They end in the same fault, and then all that
was delivered is the same; if they come to their ends, the tokens that close the levels there are
built on the last raw token of each, and all others are the same. -/
structure Alike {μ : Type} (L : Layout δ μ) (last other : Token)
    (one two : List Token × Option Fault) : Prop where
  fault : two.2 = one.2
  refused : one.2 ≠ none → two.1 = one.1
  complete : one.2 = none → ∃ front levels,
    one.1 = front ++ L.closing levels last ∧ two.1 = front ++ L.closing levels other

theorem Alike.of_fault {μ : Type} (L : Layout δ μ) (last other : Token) (fault : Fault) :
    Alike L last other ([], some fault) ([], some fault) :=
  ⟨rfl, fun _ => rfl, nofun⟩

/-- They stay alike behind tokens that come first in both. -/
theorem Alike.behind {μ : Type} {L : Layout δ μ} {last other : Token}
    {one two : List Token × Option Fault} (alike : Alike L last other one two)
    (held : List Token) : Alike L last other (held ++ one.1, one.2) (held ++ two.1, two.2) := by
  refine ⟨alike.fault, fun faulty => ?_, fun ended => ?_⟩
  · exact congrArg (held ++ ·) (alike.refused faulty)
  · obtain ⟨front, levels, first, second⟩ := alike.complete ended
    refine ⟨held ++ front, levels, ?_, ?_⟩
    · show held ++ one.1 = _
      rw [first, List.append_assoc]
    · show held ++ two.1 = _
      rw [second, List.append_assoc]

namespace Progress

section

variable {μ : Type} {L : Layout δ μ} {p later : Progress δ μ} {token : Token} {events : List Event}

/-- The last raw token of a text of which the given tokens are left. -/
def lastOf (L : Layout δ μ) (p : Progress δ μ) (raw : List Token) : Token :=
  (raw.getLast?.or p.last).getD L.fallback

theorem lastOf_cons (L : Layout δ μ) (p : Progress δ μ) (raw : List Token)
    (known : later.last = some token) : p.lastOf L (token :: raw) = later.lastOf L raw := by
  rw [lastOf, lastOf, known, List.getLast?_cons]
  cases raw.getLast? <;> rfl

/-- After a line break nothing is known of a line. -/
theorem Taken.newLine_eq [Ord δ] (taken : Taken L p token .lineBreak events later) :
    later.newLine = later := by
  cases taken with
  | endsBlank start told => simp only [newLine, start]
  | ends inside => rfl

theorem Taken.remembers [Ord δ] {role : Role} (taken : Taken L p token role events later)
    (remember : p.memories.length = L.observers.length) :
    later.memories.length = L.observers.length := by
  cases taken with
  | endsBlank start told => exact Layout.length_of_tell told
  | begins start told settled built => exact Layout.length_of_tell told
  | indents | passes | ends | continues => exact remember

theorem deliverRaw_nil [Ord δ] (L : Layout δ μ) (p : Progress δ μ) :
    p.deliverRaw L [] none =
      match (p.finish L).outcome with
      | .error refusal => ([], some refusal)
      | .ok ended => (ended.queue, none) := rfl

/-- Two layouts that differ only in the last raw token take the next one alike. -/
theorem take_of_same [Ord δ] {q : Progress δ μ} (same : { p with last := q.last } = q)
    (token : Token) : q.take L token = p.take L token := by
  rw [← same]
  rfl

/-- At the end of the text a blank line is observed, and what it leaves does not depend on the last
raw token but for the tokens that close the levels. -/
theorem finish_blank (ignored : L.blank = .ignore) (start : p.phase = .margin) :
    (p.finish L).outcome =
      (Layout.tell ⟨p.margin, p.indentation, none, false⟩ 0 L.observers p.memories).outcome.map
        fun memories => { p with
          levels := p.levels.getLast?.toList
          last := some (p.last.getD L.fallback)
          memories
          queue := p.queue ++ L.closing p.levels (p.last.getD L.fallback)
          phase := .finished } := by
  obtain ⟨levels, queue, phase, last, indentation, margin, memories⟩ := p
  subst start
  simp only [finish, endLast, endBlank, outcome_report, Attempt.outcome_map, Attempt.outcome_bind,
    ignored, Attempt.outcome_note, Except.bind, enqueue, Option.isSome_none]
  cases (Layout.tell ⟨margin, indentation, none, false⟩ 0 L.observers memories).outcome with
  | error refusal => rfl
  | ok memories =>
    show Except.ok _ = Except.ok _
    simp only [closeAll, enqueue, BlankRule.ignore, List.append_nil]
    rfl

end

section

variable {L : Layout δ Memory} {p : Progress δ Memory}

/-- A blank line is taken without a trace, but for its line break being the last raw token. -/
theorem deliverRaw_blank_line [Ord δ] (ignored : L.blank = .ignore)
    (enforce : ∀ observer ∈ L.observers, observer = .consistent) {indents raw : List Token}
    {breaker : Token} (start : p.phase = .margin)
    (remember : p.memories.length = L.observers.length)
    (indent : ∀ token ∈ indents, L.classify token = .ok .indentation)
    (ends : L.classify breaker = .ok .lineBreak) (fault : Option Fault) :
    p.deliverRaw L (indents ++ breaker :: raw) fault =
      { p.newLine with last := some breaker }.deliverRaw L raw fault := by
  induction indents generalizing p with
  | nil =>
    have took : (p.take L breaker).outcome =
        .ok ({ p.newLine with last := some breaker }, .lineBreak) := by
      have told := Layout.tell_blank enforce remember p.margin p.indentation (some breaker) 0
      simp only [take, ends, feed, start, endBlank, enqueue, outcome_report, ignored,
        BlankRule.ignore, Attempt.outcome_map, Attempt.outcome_bind, Attempt.outcome_note,
        Except.bind, Option.isSome_some, told, List.append_nil]
      rfl
    rw [List.nil_append, deliverRaw_cons, took]
    rfl
  | cons token indents ih =>
    obtain ⟨white, indent⟩ := List.forall_mem_cons.1 indent
    have took : (p.take L token).outcome = .ok ({ p with
        last := some token
        indentation := p.indentation ++ [token]
        margin := p.margin ++ token.text }, .indentation) := by
      simp only [take, white, feed, start, Attempt.outcome_map]
      rfl
    rw [List.cons_append, deliverRaw_cons, took]
    exact ih start remember indent

/-- Two layouts that differ at most in the last raw token, and that only at the start of a line,
come to the same with and without further blank lines. -/
theorem alike_of_padded [Ord δ] (ignored : L.blank = .ignore)
    (enforce : ∀ observer ∈ L.observers, observer = .consistent) {start : Bool}
    {raw padded : List Token} (texts : L.Padded start raw padded) (p q : Progress δ Memory)
    (same : { p with last := q.last } = q) (home : start = true → p.newLine = p)
    (fit : start = false → q = p) (remember : p.memories.length = L.observers.length)
    (fault : Option Fault) :
    Alike L (p.lastOf L raw) (q.lastOf L padded) (p.deliverRaw L raw fault)
      (q.deliverRaw L padded fault) := by
  induction texts generalizing p q with
  | @done start =>
    cases fault with
    | some fault => exact .of_fault L _ _ fault
    | none =>
      rw [deliverRaw_nil, deliverRaw_nil]
      cases start with
      | true =>
        have margin : p.phase = .margin := (congrArg phase (home rfl)).symm
        obtain ⟨last, rfl⟩ : ∃ last, q = { p with last } := ⟨q.last, same.symm⟩
        rw [finish_blank ignored margin, finish_blank (p := { p with last }) ignored margin]
        let report : LineReport := ⟨p.margin, p.indentation, none, false⟩
        cases (Layout.tell report 0 L.observers p.memories).outcome with
        | error refusal => exact .of_fault L _ _ refusal
        | ok memories => exact ⟨rfl, absurd rfl, fun _ => ⟨p.queue, p.levels, rfl, rfl⟩⟩
      | false =>
        obtain rfl := fit rfl
        cases finished : (q.finish L).outcome with
        | error refusal => exact .of_fault L _ _ refusal
        | ok later =>
          have queued := (ended_of_finish finished).queue_eq
          exact ⟨rfl, absurd rfl, fun _ => ⟨_, q.levels, queued, queued⟩⟩
  | @token start token raw padded rest ih =>
    rw [deliverRaw_cons, deliverRaw_cons, take_of_same same]
    cases took : (p.take L token).outcome with
    | error refusal => exact .of_fault L _ _ refusal
    | ok next =>
      obtain ⟨later, role⟩ := next
      obtain ⟨classified, taken⟩ := taken_of_take took
      rw [lastOf_cons L p raw taken.last_eq, lastOf_cons L q padded taken.last_eq]
      have remember := taken.remembers remember
      dsimp only
      split
      case isTrue ordinary =>
        subst ordinary
        have inside : L.isBreak token = false := by simp [Layout.isBreak, classified]
        have alike := ih { later with queue := [] } { later with queue := [] } rfl
          (by simp [inside]) (fun _ => rfl) remember
        exact alike.behind later.queue
      case isFalse structural =>
        apply ih later later rfl _ (fun _ => rfl) remember
        intro breaks
        cases role with
        | lineBreak => exact taken.newLine_eq
        | ordinary | indentation => simp [Layout.isBreak, classified] at breaks
  | @blank indents breaker raw padded indent ends rest ih =>
    -- the second layout goes over the blank line while the first stays where it is
    have margin : p.phase = .margin := (congrArg phase (home rfl)).symm
    have passed : q.deliverRaw L (indents ++ breaker :: padded) fault =
        { p with last := some breaker }.deliverRaw L padded fault := by
      rw [← same, deliverRaw_blank_line (p := { p with last := q.last }) ignored enforce margin
        remember indent ends fault]
      exact congrArg (fun p : Progress δ Memory =>
        { p with last := some breaker }.deliverRaw L padded fault) (home rfl)
    have least : q.lastOf L (indents ++ breaker :: padded) =
        { p with last := some breaker }.lastOf L padded := by
      rw [lastOf, lastOf, List.getLast?_append, List.getLast?_cons]
      cases padded.getLast? <;> rfl
    rw [passed, least]
    exact ih p { p with last := some breaker } rfl home (by simp) remember

end

end Progress

namespace Layout

/-- Their kinds and texts do not depend on the last token. -/
theorem faces_closing {μ : Type} {L : Layout δ μ} (build : L.build = .borrow) (last other : Token)
    (levels : List (Level δ)) :
    (L.closing levels other).map Token.face = (L.closing levels last).map Token.face := by
  rw [closing, closing, build, List.map_map, List.map_map]
  rfl

variable [Ord δ] [DecidableEq δ]

/-- Further blank lines, each of any indentation and a line break, at the start of a text or right
after any of its line breaks, change nothing of what is delivered and of the fault that ends it, but
for the place of the tokens that close the levels at the end of the text. Where a fault ends the
text not even these differ. -/
theorem read_padded {L : Layout δ Memory} (build : L.build = .borrow) (ignored : L.blank = .ignore)
    (enforce : ∀ observer ∈ L.observers, observer = .consistent) {S T : Source}
    (here : Cursor δ Memory S.State) (there : Cursor δ Memory T.State) (text other : String)
    (texts : L.Padded true (S.readFrom here.base text).tokens (T.readFrom there.base other).tokens)
    (faults : (T.readFrom there.base other).fault = (S.readFrom here.base text).fault) :
    let plain := (L.source S).readFrom here text
    let padded := (L.source T).readFrom there other
    let last := (S.readFrom here.base text).tokens.getLast?.getD L.fallback
    let least := (T.readFrom there.base other).tokens.getLast?.getD L.fallback
    padded.fault = plain.fault ∧ padded.tokens.map Token.face = plain.tokens.map Token.face ∧
      (plain.fault ≠ none → padded.tokens = plain.tokens) ∧
      (plain.fault = none → ∃ front levels,
        plain.tokens = front ++ L.closing levels last ∧
          padded.tokens = front ++ L.closing levels least) := by
  intro plain padded last least
  have first : (plain.tokens, plain.fault) = _ := L.readFrom_eq_deliver S here text
  have second : (padded.tokens, padded.fault) = _ := L.readFrom_eq_deliver T there other
  have alike := Progress.alike_of_padded ignored enforce texts L.fresh L.fresh rfl (fun _ => rfl)
    (fun _ => rfl) (List.length_map _) (S.readFrom here.base text).fault
  rw [← first, ← faults, ← second] at alike
  obtain ⟨fault, refused, complete⟩ := alike
  have ended : L.fresh.lastOf L (S.readFrom here.base text).tokens = last :=
    congrArg (Option.getD · L.fallback) (Option.or_none ..)
  have other : L.fresh.lastOf L (T.readFrom there.base other).tokens = least :=
    congrArg (Option.getD · L.fallback) (Option.or_none ..)
  rw [ended, other] at complete
  refine ⟨fault, ?_, refused, complete⟩
  by_cases whole : plain.fault = none
  · obtain ⟨front, levels, one, two⟩ := complete whole
    rw [show plain.tokens = _ from one, show padded.tokens = _ from two, List.map_append,
      List.map_append, faces_closing build last least]
  · exact congrArg (List.map Token.face) (refused whole)

/-- A line, a deeper one, and a line break after it. Blank lines before the first, between the two
and at the end change only where the deeper line is closed. -/
theorem read_padded_two_lines :
    let L : Layout Int Memory := standard
    let nl (start : Int) : Token := ⟨"NL", "\n", { start }⟩
    let a : Token := ⟨"WORD", "a", { start := some 1 }⟩
    let b : Token := ⟨"WORD", "b", { start := some 5 }⟩
    let deep : Token := ⟨"WS", "  ", { start := some 4 }⟩
    let tab : Token := ⟨"WS", "\t", { start := some 7 }⟩
    let S : Source := .scripted ([a, nl 2, deep, b, nl 6].map some) []
    let T : Source := .scripted ([nl 0, a, nl 2, nl 3, deep, b, nl 6, tab, tab, nl 8].map some) []
    let plain := (L.source S).readFrom (L.source S).start ""
    let padded := (L.source T).readFrom (L.source T).start ""
    plain.fault = none ∧ padded.fault = none ∧
      padded.tokens.map Token.face = plain.tokens.map Token.face ∧
      padded.tokens.map Token.face =
        [("WORD", "a"), ("eol", "\n"), ("indent", "  "), ("WORD", "b"), ("eol", "\n"),
          ("dedent", "")] := by
  intro L nl a b deep tab S T plain padded
  obtain ⟨given, ended⟩ : (S.readFrom S.start "").tokens = [a, nl 2, deep, b, nl 6] ∧
      (S.readFrom S.start "").fault = none := Source.readFrom_scripted _ [] 0 ""
  obtain ⟨wider, stopped⟩ : (T.readFrom T.start "").tokens =
      [nl 0, a, nl 2, nl 3, deep, b, nl 6, tab, tab, nl 8] ∧
      (T.readFrom T.start "").fault = none := Source.readFrom_scripted _ [] 0 ""
  have ends (start : Int) : L.classify (nl start) = .ok .lineBreak :=
    congrArg Except.ok (show Role.ofText "\n" = .lineBreak by decide)
  have white : L.classify tab = .ok .indentation :=
    congrArg Except.ok (show Role.ofText "\t" = .indentation by decide)
  have breaks (start : Int) : L.isBreak (nl start) = true := by rw [isBreak, ends]
  have last : L.Padded (L.isBreak (nl 6)) [] ([tab, tab] ++ nl 8 :: []) := by
    rw [breaks]
    exact .blank (by simp [white]) (ends 8) .done
  have second : L.Padded (L.isBreak (nl 2)) [deep, b, nl 6]
      ([] ++ nl 3 :: deep :: b :: nl 6 :: ([tab, tab] ++ nl 8 :: [])) := by
    rw [breaks]
    exact .blank (by simp) (ends 3) (.token (.token (.token last)))
  have texts : L.Padded true (S.readFrom S.start "").tokens (T.readFrom T.start "").tokens := by
    rw [given, wider]
    exact show L.Padded true _ ([] ++ nl 0 :: _) from
      .blank (by simp) (ends 0) (.token (.token second))
  obtain ⟨fault, faces, -, -⟩ := read_padded (L := L) rfl rfl (by simp [L, standard])
    (L.source S).start (L.source T).start "" "" texts (stopped.trans ended.symm)
  have read := L.readFrom_eq_deliver S (L.source S).start ""
  simp only [show (L.source S).start.base = S.start from rfl, given, ended] at read
  have complete : plain.fault = none :=
    (Prod.mk.inj read).2.trans (Option.isNone_iff_eq_none.1 (by decide))
  refine ⟨complete, fault.trans complete, faces, faces.trans ?_⟩
  rw [show plain.tokens = _ from (Prod.mk.inj read).1]
  decide

end Layout

end Offside
