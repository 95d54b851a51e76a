import Offside.Grammar.Frontend
import Offside.Proofs.Origins
import Offside.Proofs.Scanning
import Offside.Proofs.StandardTable

/-! Lexers for grammars, and what is left of a text when the next is lexed. A layout that names its
own tokens for grammars delivers what the plain layout delivers, token by token, and ends in the
same fault; and whatever the lexers of a class share, a new one begins as if it were the first. -/
namespace Offside

open Attempt

variable {δ μ : Type}

/-- A token with its kind in upper case, if that is the kind of a token that carries the layout. -/
def Token.forGrammar (token : Token) : Token :=
  if token.kind ∈ layoutKinds then { token with kind := Unicode.upperCase token.kind } else token

theorem Token.forGrammar_borrow {kind : String} (layout : kind ∈ layoutKinds) (text : String)
    (base : Token) : (Builder.borrow kind text base).forGrammar = Builder.upper kind text base :=
  if_pos layout

/-- A layout whose tokens stand where their bases stand, those of blank lines like the others. -/
structure Layout.Borrows (L : Layout δ μ) : Prop where
  build : L.build = .borrow
  blank : ∀ last breaker,
    L.blank .upper last breaker = (L.blank .borrow last breaker).map Token.forGrammar

namespace Layout.Borrows

variable {L : Layout δ μ} (borrows : L.Borrows)
include borrows

theorem forGrammar_build {kind : String} (layout : kind ∈ layoutKinds) (text : String)
    (base : Token) : L.forGrammar.build kind text base = (L.build kind text base).forGrammar := by
  rw [borrows.build, Token.forGrammar_borrow layout]
  rfl

theorem forGrammar_blank (last breaker : Option Token) :
    L.forGrammar.blank L.forGrammar.build last breaker =
      (L.blank L.build last breaker).map Token.forGrammar := by
  rw [borrows.build]
  exact borrows.blank last breaker

end Layout.Borrows

namespace Progress

/-- The same stand, with the tokens that are ready named for grammars. -/
def forGrammar (p : Progress δ μ) : Progress δ μ :=
  { p with queue := p.queue.map Token.forGrammar }

theorem forGrammar_enqueue (p : Progress δ μ) (tokens : List Token) :
    (p.enqueue tokens).forGrammar = p.forGrammar.enqueue (tokens.map Token.forGrammar) := by
  simp [enqueue, forGrammar]

variable {L : Layout δ μ} {p : Progress δ μ}

theorem report_forGrammar (breaker : Option Token) (blank : Bool) :
    (p.forGrammar.report L.forGrammar breaker blank).outcome =
      (p.report L breaker blank).outcome.map forGrammar := by
  rw [outcome_report, outcome_report]
  show (Layout.tell ⟨p.margin, p.indentation, breaker, blank⟩ 0 L.observers p.memories).outcome.map
    _ = _
  cases (Layout.tell ⟨p.margin, p.indentation, breaker, blank⟩ 0 L.observers p.memories).outcome <;>
    rfl

theorem endBlank_forGrammar (borrows : L.Borrows) (breaker : Option Token) :
    (p.forGrammar.endBlank L.forGrammar breaker).outcome =
      (p.endBlank L breaker).outcome.map forGrammar := by
  simp only [endBlank, outcome_bind, outcome_note, Except.bind]
  rw [← report_forGrammar, forGrammar_enqueue, ← borrows.forGrammar_blank]
  rfl

theorem content_forGrammar {token : Token} (raw : token.forGrammar = token) :
    p.forGrammar.content token = (p.content token).forGrammar := by
  simp [content, enqueue, forGrammar, raw]

theorem closeAll_forGrammar (borrows : L.Borrows) (last : Token) :
    p.forGrammar.closeAll L.forGrammar last = (p.closeAll L last).forGrammar := by
  have closing : L.forGrammar.build dedentKind = fun text base =>
      (L.build dedentKind text base).forGrammar := by
    funext text base
    exact borrows.forGrammar_build (by simp [layoutKinds]) text base
  simp [closeAll, forGrammar_enqueue, closing, Function.comp_def]
  rfl

theorem finish_forGrammar (borrows : L.Borrows) :
    (p.forGrammar.finish L.forGrammar).outcome = (p.finish L).outcome.map forGrammar := by
  obtain ⟨levels, queue, phase, last, indentation, margin, memories⟩ := p
  let base := last.getD L.fallback
  let p : Progress δ μ := ⟨levels, queue, phase, some base, indentation, margin, memories⟩
  have ended : (p.forGrammar.endLast L.forGrammar base).outcome =
      (p.endLast L base).outcome.map forGrammar := by
    cases phase with
    | body =>
      have line := borrows.forGrammar_build (by simp [layoutKinds] : eolKind ∈ layoutKinds)
        base.text base
      show Except.ok (p.forGrammar.enqueue [L.forGrammar.build eolKind base.text base]) =
        Except.ok (p.enqueue [L.build eolKind base.text base]).forGrammar
      rw [line, forGrammar_enqueue]
      rfl
    | margin => exact endBlank_forGrammar borrows none
    | finished => exact endBlank_forGrammar borrows none
  show ((fun p => { p.closeAll L.forGrammar base with phase := .finished }) <$>
    p.forGrammar.endLast L.forGrammar base).outcome =
      ((fun p => { p.closeAll L base with phase := .finished }) <$> p.endLast L base).outcome.map
        forGrammar
  rw [outcome_map, outcome_map, ended]
  cases (p.endLast L base).outcome with
  | error fault => rfl
  | ok later =>
    simp only [Except.map, closeAll_forGrammar borrows]
    rfl

section

variable [Ord δ]

theorem settle_forGrammar (borrows : L.Borrows) (depth : δ) (token : Token) :
    (p.forGrammar.settle L.forGrammar depth token).outcome =
      (p.settle L depth token).outcome.map forGrammar := by
  have opens := borrows.forGrammar_build (by simp [layoutKinds] : indentKind ∈ layoutKinds)
    p.margin token
  have closes := borrows.forGrammar_build (by simp [layoutKinds] : dedentKind ∈ layoutKinds)
    p.margin token
  obtain ⟨levels, queue, phase, last, indentation, margin, memories⟩ := p
  cases levels with
  | nil => rfl
  | cons top outer =>
    cases position : compare depth top.depth with
    | eq =>
      simp only [settle, forGrammar, position]
      rfl
    | gt =>
      simp only [settle, forGrammar, position, outcome_bind, outcome_note, Except.bind]
      simp only [Layout.forGrammar] at opens
      simp [opens, enqueue, Except.map, Layout.forGrammar, forGrammar]
    | lt =>
      simp only [settle, forGrammar, position]
      simp only [Layout.forGrammar] at closes
      cases landing : (top :: outer).dropWhile fun level => compare level.depth depth != .eq with
      | nil => simp [Layout.forGrammar, Except.map]
      | cons level outside =>
        simp [closes, Layout.forGrammar, outcome_bind, Except.map, Except.bind, enqueue, forGrammar]

theorem beginBody_forGrammar (borrows : L.Borrows) (token : Token) :
    (p.forGrammar.beginBody L.forGrammar token).outcome =
      (p.beginBody L token).outcome.map forGrammar := by
  simp only [beginBody, outcome_bind, outcome_note, Except.bind, report_forGrammar]
  cases (p.report L (some token) false).outcome with
  | error fault => rfl
  | ok told => exact settle_forGrammar borrows _ token

theorem feed_forGrammar (borrows : L.Borrows) {token : Token} (raw : token.forGrammar = token)
    (role : Role) : (p.forGrammar.feed L.forGrammar token role).outcome =
      (p.feed L token role).outcome.map forGrammar := by
  by_cases start : p.phase = .margin
  · have same : p.forGrammar.phase = .margin := start
    cases role with
    | indentation =>
      simp only [feed, start, same]
      rfl
    | lineBreak =>
      simp only [feed, start, same, outcome_map, endBlank_forGrammar borrows]
      cases (p.endBlank L token).outcome <;> rfl
    | ordinary =>
      simp only [feed, start, same, outcome_map, beginBody_forGrammar borrows]
      cases (p.beginBody L token).outcome with
      | error fault => rfl
      | ok begun => simp [Except.map, content_forGrammar raw]
  · have inside : ¬p.forGrammar.phase = .margin := start
    have line := borrows.forGrammar_build (by simp [layoutKinds] : eolKind ∈ layoutKinds)
      token.text token
    cases role with
    | indentation => simp [feed, enqueue, forGrammar, raw, Except.map]
    | lineBreak =>
      simp only [feed, line]
      simp [enqueue, newLine, forGrammar, Except.map]
    | ordinary => simp [feed, content_forGrammar raw, Except.map]

theorem take_forGrammar (borrows : L.Borrows) {token : Token} (raw : token.forGrammar = token) :
    (p.forGrammar.take L.forGrammar token).outcome =
      (p.take L token).outcome.map (Prod.map forGrammar id) := by
  have same : L.forGrammar.classify token = L.classify token := rfl
  simp only [take, same]
  cases L.classify token with
  | error answer => rfl
  | ok role =>
    have fed := feed_forGrammar (p := { p with last := some token }) borrows raw role
    show ((·, role) <$> _ : Attempt _ _).outcome = ((·, role) <$> _ : Attempt _ _).outcome.map _
    rw [outcome_map, outcome_map]
    refine (congrArg (Except.map (·, role)) fed).trans ?_
    cases ({ p with last := some token }.feed L token role).outcome <;> rfl

/-- Naming the tokens of a layout for grammars changes nothing else about what it delivers, provided
that it leaves raw tokens as they are. -/
theorem deliverRaw_forGrammar (borrows : L.Borrows) {raw : List Token}
    (raws : ∀ token ∈ raw, token.forGrammar = token) (ending : Option Fault) :
    p.forGrammar.deliverRaw L.forGrammar raw ending =
      Prod.map (·.map Token.forGrammar) id (p.deliverRaw L raw ending) := by
  induction raw generalizing p with
  | nil =>
    cases ending with
    | some fault => rfl
    | none =>
      simp only [deliverRaw, Layout.words, deliver, finish_forGrammar borrows]
      cases (p.finish L).outcome <;> rfl
  | cons token raw ih =>
    obtain ⟨first, raws⟩ := List.forall_mem_cons.1 raws
    rw [deliverRaw_cons, deliverRaw_cons, take_forGrammar borrows first]
    cases (p.take L token).outcome with
    | error refusal => rfl
    | ok taken =>
      obtain ⟨later, role⟩ := taken
      have emptied : { later.forGrammar with queue := [] }.deliverRaw L.forGrammar raw ending = _ :=
        @ih { later with queue := [] } raws
      simp only [Except.map, Prod.map_apply, id]
      split
      · rw [emptied]
        simp [forGrammar]
      · exact @ih later raws

end

end Progress

/-- Naming the tokens of a layout for grammars changes nothing else about a reading. -/
theorem Layout.read_forGrammar [Ord δ] [DecidableEq δ] [DecidableEq μ] {L : Layout δ μ}
    (borrows : L.Borrows) {S : Source} (text : String)
    (raws : ∀ token ∈ (S.read text).tokens, token.forGrammar = token) :
    ((L.forGrammar.source S).read text).tokens =
        ((L.source S).read text).tokens.map Token.forGrammar ∧
      ((L.forGrammar.source S).read text).fault = ((L.source S).read text).fault := by
  have plain := L.readFrom_eq_deliver S (L.source S).start text
  have named := L.forGrammar.readFrom_eq_deliver S (L.forGrammar.source S).start text
  have delivered : L.forGrammar.fresh.deliverRaw L.forGrammar (S.read text).tokens
      (S.read text).fault = _ :=
    Progress.deliverRaw_forGrammar (p := L.fresh) borrows raws _
  have same := named.trans (delivered.trans (congrArg (Prod.map _ id) plain.symm))
  exact ⟨congrArg Prod.fst same, congrArg Prod.snd same⟩

namespace Lexicon

/-- No token of a table's terminals is taken for one that carries the layout. -/
theorem kind_of_ofTable {table : Table} {lexicon : Lexicon}
    (made : ofTable table = .ok lexicon) {text : String} {token : Token}
    (read : token ∈ (lexicon.source.read text).tokens) : token.kind ∉ layoutKinds := by
  have scanned : token ∈ (lexicon.scan {} text.toList).1 :=
    (lexicon.readFrom_source lexicon.source.start text).1 ▸ read
  obtain ⟨entry, tried, piece, kind⟩ := kindOf_of_scan scanned
  have named := admits_of_ofTable made (names_of_ofTable made tried piece)
  have refused : ∀ kind ∈ layoutKinds, Table.admits kind = false := by decide
  intro layout
  rw [← kind, refused _ layout] at named
  cases named

end Lexicon

namespace Listener

/-- A listener that is put back is told of lines as a new one is. -/
theorem observer_restored (listener : Listener) :
    listener.restored.observer = listener.renewed.observer := by
  cases listener <;> rfl

theorem renewed_restored (listener : Listener) : listener.restored.renewed = listener.renewed := by
  cases listener <;> rfl

/-- What a listener hears does not change what it is. -/
theorem renewed_hear (report : LineReport) (listener : Listener) :
    (listener.hear report).renewed = listener.renewed := by
  cases listener with
  | enforcer last =>
    simp only [hear]
    split <;> rfl
  | counter lines => rfl
  | recorder calls => rfl

theorem renewed_hearAll (listeners : List Listener) (notes : List Note) :
    (hearAll listeners notes).map renewed = listeners.map renewed := by
  induction notes generalizing listeners with
  | nil => rfl
  | cons note notes ih =>
    refine (ih _).trans ?_
    dsimp only
    split
    · rename_i position report told
      refine List.ext_getElem? fun index => ?_
      simp only [List.getElem?_map, List.getElem?_modify]
      cases listeners[index]? with
      | none => rfl
      | some listener =>
        split
        · simp [renewed_hear]
        · rfl
    · rfl

end Listener

namespace LexerClass

variable {δ : Type}

/-- The layout of a lexer on its own, with the usual builder and new listeners. -/
def plain (C : LexerClass δ) (listeners : List Listener) : Layout δ Memory where
  classify := C.classify
  build := .borrow
  depth := C.depth
  blank := C.blank.rule .current
  observers := listeners.map (·.renewed.observer)
  fallback := C.fallback

variable {C : LexerClass δ}

theorem plain_borrows (usual : C.blank = .ignore ∨ C.blank = .eol none)
    (listeners : List Listener) : (C.plain listeners).Borrows := by
  refine ⟨rfl, fun last breaker => ?_⟩
  have layout : eolKind ∈ layoutKinds := by simp [layoutKinds]
  rcases usual with ignores | ends
  · simp [plain, ignores, BlankOption.rule, BlankRule.ignore]
  · simp only [plain, ends, BlankOption.rule]
    cases breaker <;> simp [BlankRule.eol, Token.forGrammar_borrow layout]

/-- A new lexer finds nothing of an earlier text. -/
theorem layout_takenOver (unnamed : C.build = none) (shared : Shared) :
    C.layout shared.takenOver = (C.plain shared.listeners).forGrammar := by
  simp [layout, plain, builder, unnamed, Shared.takenOver, Layout.forGrammar,
    Listener.observer_restored, Function.comp_def]

variable [Ord δ] [DecidableEq δ]

/-- What a lexer delivers are raw tokens, and tokens of the kinds of a layout. -/
theorem made_of_read (usual : C.blank = .ignore ∨ C.blank = .eol none) {listeners : List Listener}
    {S : Source} {text : String} {token : Token}
    (delivered : token ∈ (((C.plain listeners).source S).read text).tokens) :
    token ∈ (S.read text).tokens ∨ token.kind ∈ layoutKinds := by
  have makes : (C.plain listeners).Makes fun token =>
      token ∈ (S.read text).tokens ∨ token.kind ∈ layoutKinds := by
    refine ⟨fun kind layout text base => .inr layout, fun last breaker token blank => .inr ?_⟩
    rcases usual with ignores | ends
    · simp [plain, ignores, BlankOption.rule, BlankRule.ignore] at blank
    · simp only [plain, ends, BlankOption.rule] at blank
      cases breaker <;> obtain rfl := List.mem_singleton.1 blank <;> exact List.mem_cons_self
  rw [Source.read_eq_readFrom] at delivered
  refine Layout.all_of_read makes ?_ token delivered
  exact fun token read => .inl read

theorem lex_eq_plain (unnamed : C.build = none) (usual : C.blank = .ignore ∨ C.blank = .eol none)
    (table : Table) (shared : Shared) (text : String) :
    (C.lex table shared text).1 =
        Prod.map (·.map Token.forGrammar) id
          (Grammar.tokens (C.plain shared.listeners).source table text) ∧
      (C.lex table shared text).2.listeners.map (·.renewed) = shared.listeners.map (·.renewed) := by
  unfold lex Grammar.tokens
  cases made : Lexicon.ofTable table with
  | error fault => exact ⟨rfl, rfl⟩
  | ok lexicon =>
    have named := layout_takenOver unnamed shared
    obtain ⟨tokens, fault⟩ := Layout.read_forGrammar (S := lexicon.source)
      (plain_borrows usual shared.listeners) text
      fun token read => if_neg (Lexicon.kind_of_ofTable made read)
    rw [← named] at tokens fault
    refine ⟨Prod.ext tokens fault, ?_⟩
    refine (Listener.renewed_hearAll _ _).trans ?_
    simp [Shared.takenOver, Listener.renewed_restored, Function.comp_def]

/-- The lexers of a class deliver what lexers of their own would, each made for its text alone with
the usual builder and new listeners, with the tokens of the layout in upper case; and they end in
the same faults. Whatever was lexed before makes no difference. What is renamed are the tokens that
the layout makes, and never a raw token. -/
theorem streams_without_history (C : LexerClass δ) (unnamed : C.build = none)
    (usual : C.blank = .ignore ∨ C.blank = .eol none) (table : Table) (shared : Shared)
    (texts : List String) :
    C.streams table shared texts = texts.map (fun text =>
      let (tokens, fault) := Grammar.tokens (C.plain shared.listeners).source table text
      (tokens.map Token.forGrammar, fault)) ∧
    ∀ lexicon, Lexicon.ofTable table = .ok lexicon → ∀ text,
      let raw := (lexicon.source.read text).tokens
      let tokens := (Grammar.tokens (C.plain shared.listeners).source table text).1
      (∀ token ∈ raw, token.kind ∉ layoutKinds) ∧
        ∀ token ∈ tokens, token ∉ raw → token.kind ∈ layoutKinds := by
  refine ⟨?_, fun lexicon made text => ⟨fun token read => Lexicon.kind_of_ofTable made read, ?_⟩⟩
  · induction texts generalizing shared with
    | nil => rfl
    | cons text texts ih =>
      obtain ⟨stream, kept⟩ := lex_eq_plain unnamed usual table shared text
      have same : C.plain (C.lex table shared text).2.listeners = C.plain shared.listeners := by
        have observers := congrArg (List.map (·.observer)) kept
        simp only [List.map_map, Function.comp_def] at observers
        simp only [plain, observers]
      have rest := ih (C.lex table shared text).2
      rw [same] at rest
      exact congrArg₂ List.cons stream rest
  · intro token delivered other
    rw [Grammar.tokens_of_ofTable made] at delivered
    exact (made_of_read usual delivered).resolve_left other

/-- The listeners have heard of the first text until one of them refused its last line. -/
theorem streams_without_history_after_failure :
    let C : LexerClass Int := ⟨.byText, none, .length, .eol none, .placeholder⟩
    let shared : Shared := ⟨[.enforcer "\t", .counter 2, .recorder []], .former .upper none⟩
    let texts := ["a\n\tb\n  c", "a\n\n"]
    let refused : Token := ⟨"WORD", "c", ⟨some 7, some 3, some 3, some 3, some 4, some 8⟩⟩
    C.build = none ∧ (C.blank = .ignore ∨ C.blank = .eol none) ∧
      C.streams .standard shared texts = texts.map (fun text =>
        let (tokens, fault) := Grammar.tokens (C.plain shared.listeners).source .standard text
        (tokens.map Token.forGrammar, fault)) ∧
      (C.streams .standard shared texts).map (Prod.map (·.map Token.face) id) =
        [([("WORD", "a"), ("EOL", "\n"), ("INDENT", "\t"), ("WORD", "b")],
            some (.clashingMargins "\t" "  " (some refused))),
          ([("WORD", "a"), ("EOL", "\n\n"), ("EOL", "")], none)] := by
  intro C shared texts refused
  have alone := (streams_without_history C rfl (.inr rfl) .standard shared texts).1
  refine ⟨rfl, .inr rfl, alone, ?_⟩
  let L := C.plain shared.listeners
  have lexed (text : String) : Grammar.tokens L.source .standard text =
      L.fresh.deliverRaw L (Lexicon.standard.scan {} text.toList).1
        (Lexicon.standard.scan {} text.toList).2 :=
    (Grammar.tokens_of_ofTable Lexicon.ofTable_standard L.source text).trans
      (Lexicon.standard.read_layout L text)
  have first : Lexicon.standard.scan {} "a\n\tb\n  c".toList =
      ([Stretch.word.token ['a'] {}, Stretch.breaks.token ['\n'] ⟨1, 1, 2⟩,
        Stretch.space.token ['\t'] ⟨2, 2, 1⟩, Stretch.word.token ['b'] ⟨3, 2, 2⟩,
        Stretch.breaks.token ['\n'] ⟨4, 2, 3⟩, Stretch.space.token [' ', ' '] ⟨5, 3, 1⟩,
        Stretch.word.token ['c'] ⟨7, 3, 3⟩], none) := by cbv
  have second : Lexicon.standard.scan {} "a\n\n".toList =
      ([Stretch.word.token ['a'] {}, Stretch.breaks.token ['\n', '\n'] ⟨1, 1, 2⟩], none) := by cbv
  rw [alone]
  simp only [texts, List.map_cons, List.map_nil]
  rw [lexed, lexed, first, second]
  cbv

end LexerClass

end Offside
