import Offside.Fault

/-! The journal of a run: which hooks were asked what, in which order, and what there is to log.
What an operation comes to is an `Attempt`. It has a result, or else a fault together with what
the operation left behind when it was given up half done, and in both cases what happened on the
way, so neither the notes nor the changes of an operation that fails are lost. -/
namespace Offside

/-- What observers are told of a line once its margin is known. -/
structure LineReport where
  /-- The text of the indentation. -/
  margin : String
  /-- The raw tokens of the indentation. -/
  indentation : List Token
  /-- The token that ended the indentation, absent at the end of the text. -/
  breaker : Option Token
  /-- Whether a line break ended the line before any content. -/
  blank : Bool
deriving DecidableEq, Repr, Inhabited

/-- Something that happens while a text is laid out. -/
inductive Event where
  /-- The source was asked for a raw token. -/
  | pulled
  /-- The depth of a line was asked for. -/
  | measured (indentation : List Token) (margin : String)
  /-- The rule for blank lines was asked; the end of the text shows no token. -/
  | blankLine (token : Option Token)
  /-- An observer, given by its position, was told of a line. -/
  | reported (observer : Nat) (report : LineReport)
  /-- A text of this length is started from the beginning. -/
  | restarted (length : Nat)
  /-- A text is resumed where this many levels are open. -/
  | resumed (levels : Nat)
  /-- A level was opened. -/
  | indented (depth : Datum) (line : Option Int)
  /-- Levels were closed. -/
  | dedented (depth : Datum) (line : Option Int)
deriving Inhabited

/-- An event at a level of nesting: zero for the layout that was asked, one for the layout whose
tokens that one reads, and so on. -/
structure Note where
  level : Nat
  event : Event
deriving Inhabited

/-- The note as the layout above sees it. -/
def Note.deeper (note : Note) : Note :=
  { note with level := note.level + 1 }

/-- The line of a log entry. -/
def Event.lineText (line : Option Int) : String :=
  line.elim Datum.null.shown toString

/-- The log entry of an event, if it has one. -/
def Event.logEntry? : Event → Option String
  | restarted length => some s!"Resetting to start of a {length} character chunk"
  | resumed levels => some s!"Restoring saved state with {levels} open indentation levels"
  | indented depth line => some s!"Indent to depth {depth.shown} at line {lineText line}"
  | dedented depth line => some s!"Dedent to depth {depth.shown} at line {lineText line}"
  | _ => none

/-- Why something was given up, and what it left behind. -/
structure Halt (σ : Type) where
  fault : Fault
  left : σ

/-- A result, or why there is none and what was left behind, and what happened before that was
known. -/
structure Attempt (σ α : Type) where
  result : Except (Halt σ) α
  notes : List Note := []

/-- What someone who is asked replies. Where that leaves the one who was asked is told apart, at a
fault as well as at a result. -/
abbrev Reply : Type → Type := Attempt Unit

namespace Attempt

variable {σ τ α β : Type}

/-- The result or the fault, whatever was left behind. -/
def outcome (attempt : Attempt σ α) : Except Fault α := attempt.result.mapError (·.fault)

theorem outcome_ok (a : α) (notes : List Note) :
    (⟨.ok a, notes⟩ : Attempt σ α).outcome = .ok a := rfl

theorem outcome_error (halt : Halt σ) (notes : List Note) :
    (⟨.error halt, notes⟩ : Attempt σ α).outcome = .error halt.fault := rfl

theorem outcome_eq_ok {attempt : Attempt σ α} {a : α} :
    attempt.outcome = .ok a ↔ attempt.result = .ok a := by
  obtain ⟨result, notes⟩ := attempt
  cases result with
  | ok b => simp [outcome_ok]
  | error halt => simp [outcome_error]

theorem outcome_eq_error {attempt : Attempt σ α} {fault : Fault} :
    attempt.outcome = .error fault ↔ ∃ left, attempt.result = .error ⟨fault, left⟩ := by
  obtain ⟨result, notes⟩ := attempt
  cases result with
  | ok a => simp [outcome_ok]
  | error halt => cases halt with | mk raised left => simp [outcome_error]

theorem outcome_congr {one two : Attempt σ α} (same : one.result = two.result) :
    one.outcome = two.outcome := congrArg (·.mapError (·.fault)) same

/-- A result at which nothing happened. -/
protected def pure (a : α) : Attempt σ α := { result := .ok a }

/-- A fault at which nothing else happened. -/
def fail (fault : Fault) (left : σ) : Attempt σ α := { result := .error ⟨fault, left⟩ }

/-- Goes on with a result; a fault ends everything. -/
protected def bind (attempt : Attempt σ α) (next : α → Attempt σ β) : Attempt σ β :=
  match attempt.result with
  | .ok a => { result := (next a).result, notes := attempt.notes ++ (next a).notes }
  | .error halt => { result := .error halt, notes := attempt.notes }

instance : Monad (Attempt σ) where
  pure := Attempt.pure
  bind := Attempt.bind

@[simp] theorem outcome_pure (a : α) : (pure a : Attempt σ α).outcome = .ok a := rfl

@[simp] theorem outcome_fail (fault : Fault) (left : σ) :
    (fail fault left : Attempt σ α).outcome = .error fault := rfl

theorem outcome_bind (attempt : Attempt σ α) (next : α → Attempt σ β) :
    (attempt >>= next).outcome = attempt.outcome.bind fun a => (next a).outcome := by
  cases attempt with
  | mk result notes => cases result <;> rfl

theorem outcome_map (attempt : Attempt σ α) (f : α → β) :
    (f <$> attempt).outcome = attempt.outcome.map f := by
  cases attempt with
  | mk result notes => cases result <;> rfl

/-- A sequence has a result exactly when both parts have one. -/
theorem outcome_bind_eq_ok {attempt : Attempt σ α} {next : α → Attempt σ β} {b : β} :
    (attempt >>= next).outcome = .ok b ↔
      ∃ a, attempt.outcome = .ok a ∧ (next a).outcome = .ok b := by
  rw [outcome_bind]
  cases attempt.outcome <;> simp [Except.bind]

/-- A function of a result is a result exactly when the result is one. -/
theorem outcome_map_eq_ok {attempt : Attempt σ α} {f : α → β} {b : β} :
    (f <$> attempt).outcome = .ok b ↔ ∃ a, attempt.outcome = .ok a ∧ f a = b := by
  rw [outcome_map]
  cases attempt.outcome <;> simp [Except.map]

/-- A sequence fails where its first part fails, or the second after it. -/
theorem outcome_bind_eq_error {attempt : Attempt σ α} {next : α → Attempt σ β} {fault : Fault} :
    (attempt >>= next).outcome = .error fault ↔ attempt.outcome = .error fault ∨
      ∃ a, attempt.outcome = .ok a ∧ (next a).outcome = .error fault := by
  rw [outcome_bind]
  cases attempt.outcome <;> simp [Except.bind]

theorem outcome_map_eq_error {attempt : Attempt σ α} {f : α → β} {fault : Fault} :
    (f <$> attempt).outcome = .error fault ↔ attempt.outcome = .error fault := by
  rw [outcome_map]
  cases attempt.outcome <;> simp [Except.map]

/-- Notes an event of the layout itself. -/
def note (event : Event) : Attempt σ Unit := { result := .ok (), notes := [⟨0, event⟩] }

@[simp] theorem outcome_note (event : Event) : (note event : Attempt σ Unit).outcome = .ok () := rfl

/-- A result that may be a fault, which leaves the given behind. -/
def ofExcept (left : σ) (outcome : Except Fault α) : Attempt σ α :=
  { result := outcome.mapError fun fault => ⟨fault, left⟩ }

@[simp] theorem outcome_ofExcept (left : σ) (outcome : Except Fault α) :
    (ofExcept left outcome).outcome = outcome := by
  cases outcome <;> rfl

/-- Leaves something else behind. -/
def mapLeft (f : σ → τ) (attempt : Attempt σ α) : Attempt τ α where
  result := attempt.result.mapError fun halt => ⟨halt.fault, f halt.left⟩
  notes := attempt.notes

/-- What a source replies, as the layout above sees it. -/
def deeper (attempt : Attempt σ α) : Attempt σ α :=
  { attempt with notes := attempt.notes.map Note.deeper }

@[simp] theorem outcome_deeper (attempt : Attempt σ α) :
    attempt.deeper.outcome = attempt.outcome := rfl

@[simp] theorem outcome_mapLeft (f : σ → τ) (attempt : Attempt σ α) :
    (attempt.mapLeft f).outcome = attempt.outcome := by
  cases attempt with
  | mk result notes => cases result <;> rfl

theorem result_mapLeft (f : σ → τ) {attempt : Attempt σ α} {fault : Fault} {left : σ}
    (failed : attempt.result = .error ⟨fault, left⟩) :
    (attempt.mapLeft f).result = .error ⟨fault, f left⟩ := by
  rw [mapLeft, failed]
  rfl

@[simp] theorem notes_mapLeft (f : σ → τ) (attempt : Attempt σ α) :
    (attempt.mapLeft f).notes = attempt.notes := rfl

end Attempt

/-- Replies with a fault at which nothing else happened. -/
def Reply.fail {α : Type} (fault : Fault) : Reply α := Attempt.fail fault ()

@[simp] theorem Reply.outcome_fail {α : Type} (fault : Fault) :
    (Reply.fail fault : Reply α).outcome = .error fault := rfl

end Offside
