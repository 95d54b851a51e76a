import Offside.Lexicon.Basic
import Offside.Source
import Offside.Text.Lines

/-! Lexicons as sources. A snapshot is the number of tokens delivered so far: a text is taken up
again by skipping as many of its tokens. A fault in the text shows when the tokens before it are
delivered, or when a text is taken up again past it, and only once. -/
namespace Offside.Lexicon

/-- Where the reading of a text stands. -/
structure Cursor where
  text : String := ""
  /-- The tokens still to be delivered. -/
  rest : List Token := []
  /-- What goes wrong after them. -/
  fault : Option Fault := none
  delivered : Nat := 0

/-- The beginning of a text. -/
def begin (L : Lexicon) (text : String) : Cursor :=
  let (rest, fault) := L.scan {} text.toList
  { text, rest, fault }

/-- Delivers the next token. -/
def next (cursor : Cursor) : Reply (Option Token) × Cursor :=
  match cursor.rest with
  | token :: rest => (pure (some token), { cursor with rest, delivered := cursor.delivered + 1 })
  | [] =>
    match cursor.fault with
    | some fault => (Reply.fail fault, { cursor with fault := none })
    | none => (pure none, cursor)

/-- Counts from this one on are too large to be counts. -/
def countLimit : Int := 0x8000000000000000

/-- Takes up a text after a number of tokens. If the text has fewer, nothing of it is left. -/
def resume (L : Lexicon) (text : String) (count : Int) : Reply Unit × Cursor :=
  let cursor := L.begin text
  if count < 0 ∨ countLimit ≤ count then (Reply.fail .badCount, cursor)
  else
    let count := count.toNat
    let available := cursor.rest.length
    if count ≤ available then
      (pure (), { cursor with rest := cursor.rest.drop count, delivered := count })
    else
      (Reply.fail (cursor.fault.getD (.pastEnd count available)),
        { cursor with rest := [], fault := none })

/-- A message with a line of the text, and a caret under the place of a token. Without a token or
without its line, the place is the end of the text. -/
def explain (cursor : Cursor) (token : Option Token) (message : String) : String :=
  let lines := Text.lines cursor.text
  let known := token.bind fun token => token.span.line.map fun line =>
    (line, token.span.column.getD 1)
  let (line, column) : Int × Int := known.getD
    (max lines.length 1, (lines.getLast?.elim 0 fun line => (line.length : Int)) + 1)
  let shown := if 0 < line then lines[line.toNat - 1]?.getD "" else ""
  let gutter := toString line
  let blanks := fun count : Nat => String.ofList (List.replicate count ' ')
  s!"{message} at line {line} col {column}:\n\n{gutter} | {shown}\n" ++
    s!"{blanks gutter.length} | {blanks (column - 1).toNat}^"

/-- The terminals of a lexicon as a source. -/
def source (L : Lexicon) : Source where
  State := Cursor
  Snapshot := Nat
  start := {}
  next := next
  save cursor := cursor.delivered
  reset _ text snapshot := L.resume text (snapshot.getD 0 : Nat)
  has name := L.names.contains name
  explain := explain
  agree a b := a == b
  finite := by
    refine Subrelation.wf (r := (measure fun cursor : Cursor => cursor.rest.length).rel) ?_
      (measure _).wf
    rintro later earlier ⟨token, delivered, rfl⟩
    unfold next at delivered ⊢
    split at delivered
    case h_1 first rest ready =>
      show rest.length < earlier.rest.length
      simp [ready]
    case h_2 =>
      split at delivered <;> simp at delivered

end Offside.Lexicon
