import Offside.Grammar.Text

/-! Classes of lexers for grammars. A class makes a new lexer for each text, and all its lexers are
given the same options. So listeners still remember the lines of the last text, and the rule for
blank lines the lexer that it served, when the next lexer is made; that one puts back the listeners
that can be put back, and binds the rule to itself. -/
namespace Offside

/-- A listener, with what it remembers. -/
inductive Listener where
  /-- Requires margins to be comparable, and remembers the last one that it checked. -/
  | enforcer (last : String)
  /-- Counts lines. -/
  | counter (lines : Nat)
  /-- Writes down the lines that it is told of. It cannot be put back. -/
  | recorder (calls : List LineReport)

namespace Listener

/-- What a lexer has of a listener. -/
def observer : Listener → Observer Memory
  | enforcer last => { Observer.consistent with start := .margin last }
  | counter lines => { Observer.counter with start := .count lines }
  | recorder _ => .listener

/-- Puts a listener back to where it starts, if it can be. -/
def restored : Listener → Listener
  | enforcer _ => enforcer ""
  | counter _ => counter 0
  | recorder calls => recorder calls

/-- A new listener of the same kind. -/
def renewed : Listener → Listener
  | enforcer _ => enforcer ""
  | counter _ => counter 0
  | recorder _ => recorder []

/-- Is told of a line. One that refuses it remembers what it remembered before. -/
def hear (report : LineReport) : Listener → Listener
  | enforcer last =>
    match Observer.consistent.observe (.margin last) report with
    | .ok memory => enforcer memory.lastMargin
    | .error _ => enforcer last
  | counter lines => counter (lines + 1)
  | recorder calls => recorder (calls ++ [report])

/-- Listeners after what happened in a run. -/
def hearAll (listeners : List Listener) (notes : List Note) : List Listener :=
  notes.foldl (fun listeners note =>
    match note.event with
    | .reported position report => listeners.modify position (hear report)
    | _ => listeners) listeners

end Listener

/-- The lexer that a rule for blank lines is bound to, as the lexer at work sees it. -/
inductive Binding where
  | unbound
  /-- The lexer at work itself. -/
  | current
  /-- A lexer of an earlier text, with its builder and the last raw token that it read. -/
  | former (build : Builder) (last : Option Token)

/-- A rule for blank lines, before it is bound. -/
inductive BlankOption where
  | ignore
  /-- An end of line, by a builder of its own or else by that of the lexer it is bound to. -/
  | eol (own : Option Builder)
  | emit (tokens : List Token)

/-- The rule as it is bound. -/
def BlankOption.rule (binding : Binding) : BlankOption → BlankRule
  | ignore => .ignore
  | eol own =>
    match binding with
    | .unbound => fun _ _ => BlankRule.eol own .borrow none
    | .current => .eol own
    | .former build last => fun _ _ => BlankRule.eol own build last
  | emit tokens => .emit tokens

/-- What the lexers of a class share. -/
structure Shared where
  listeners : List Listener
  binding : Binding := .unbound

/-- What a new lexer makes of it. -/
def Shared.takenOver (shared : Shared) : Shared where
  listeners := shared.listeners.map (·.restored)
  binding := .current

/-- The options of a class of lexers, but for its listeners. -/
structure LexerClass (δ : Type) where
  classify : Classifier
  /-- Names tokens as grammars do if there is none. -/
  build : Option Builder
  depth : DepthRule δ
  blank : BlankOption
  fallback : Token

namespace LexerClass

variable {δ : Type}

/-- The builder of the lexers of a class. -/
def builder (C : LexerClass δ) : Builder := C.build.getD .upper

/-- The layout of a lexer. -/
def layout (C : LexerClass δ) (shared : Shared) : Layout δ Memory where
  classify := C.classify
  build := C.builder
  depth := C.depth
  blank := C.blank.rule shared.binding
  observers := shared.listeners.map (·.observer)
  fallback := C.fallback

variable [Ord δ] [DecidableEq δ]

/-- The tokens of a text and the fault that ends them if there is one, and what is shared after it.
No lexer is made where the terminals are at fault. -/
def lex (C : LexerClass δ) (table : Table) (shared : Shared) (text : String) :
    (List Token × Option Fault) × Shared :=
  match Lexicon.ofTable table with
  | .error fault => (([], some fault), shared)
  | .ok lexicon =>
    let shared := shared.takenOver
    let reading := ((C.layout shared).source lexicon.source).read text
    let cursor : Layout.Cursor δ Memory lexicon.source.State := reading.state
    let later : Shared :=
      { listeners := Listener.hearAll shared.listeners reading.notes
        binding := .former C.builder cursor.progress.last }
    ((reading.tokens, reading.fault), later)

/-- The tokens and faults of texts, one after the other. -/
def streams (C : LexerClass δ) (table : Table) (shared : Shared) :
    List String → List (List Token × Option Fault)
  | [] => []
  | text :: texts =>
    let (stream, shared) := C.lex table shared text
    stream :: C.streams table shared texts

end LexerClass

end Offside
