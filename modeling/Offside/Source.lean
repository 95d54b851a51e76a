import Offside.Journal

/-! Sources of tokens. A source delivers tokens one at a time and can be put back to where a
snapshot was taken. A layout reads raw tokens from a source and is a source itself, so layouts
can be stacked. A source may be asked again after it has come to its end, and then may even
deliver more; but it cannot deliver for ever, which is what makes reading to its end a recursion
that stops. -/
namespace Offside

/-- A step at which a token is delivered. -/
def Delivers {σ : Type} (next : σ → Reply (Option Token) × σ) (later earlier : σ) : Prop :=
  ∃ token, (next earlier).1.outcome = .ok (some token) ∧ (next earlier).2 = later

/-- Something that tokens are read from. -/
structure Source where
  State : Type
  Snapshot : Type
  /-- The state in which no text was given yet. -/
  start : State
  /-- Delivers the next token, or none at the end. -/
  next : State → Reply (Option Token) × State
  /-- The snapshot of a state. -/
  save : State → Snapshot
  /-- Starts over on a text, from its beginning or from a snapshot. -/
  reset : State → String → Option Snapshot → Reply Unit × State
  /-- Whether a name is the kind of a token that the source may deliver. -/
  has : String → Bool
  /-- A message together with the place of a token, or of the end of the text. -/
  explain : State → Option Token → String → String
  /-- Whether snapshots are equal, places of tokens left aside. -/
  agree : Snapshot → Snapshot → Bool
  /-- No state delivers for ever. -/
  finite : WellFounded (Delivers next)

namespace Source

instance (S : Source) : WellFoundedRelation S.State := ⟨Delivers S.next, S.finite⟩

/-- What reading a source to its end gives: the tokens, the fault that ended the reading if one
did, what happened, and the state it is left in. -/
structure Reading (S : Source) where
  tokens : List Token
  fault : Option Fault
  notes : List Note
  state : S.State

/-- Reads tokens until there are no more. -/
def drain (S : Source) (state : S.State) : Reading S :=
  let asked := S.next state
  match _answer : asked.1.outcome with
  | .error fault => ⟨[], some fault, asked.1.notes, asked.2⟩
  | .ok none => ⟨[], none, asked.1.notes, asked.2⟩
  | .ok (some token) =>
    let rest := S.drain asked.2
    { rest with tokens := token :: rest.tokens, notes := asked.1.notes ++ rest.notes }
termination_by state
decreasing_by exact ⟨token, _answer, rfl⟩

/-- Asks for a number of tokens, and lists the answers up to the first fault. -/
def take (S : Source) : Nat → S.State → List (Option Token) × Option Fault × List Note × S.State
  | 0, state => ([], none, [], state)
  | count + 1, state =>
    let (reply, later) := S.next state
    match reply.outcome with
    | .error fault => ([], some fault, reply.notes, later)
    | .ok token =>
      let (tokens, fault, notes, final) := S.take count later
      (token :: tokens, fault, reply.notes ++ notes, final)

/-- Reads a whole text. -/
def read (S : Source) (text : String) : Reading S :=
  let (reply, state) := S.reset S.start text none
  match reply.outcome with
  | .error fault => ⟨[], some fault, reply.notes, state⟩
  | .ok () =>
    let reading := S.drain state
    { reading with notes := reply.notes ++ reading.notes }

/-- A source of given tokens, whatever the text. An absent entry is an end in their midst. -/
def scripted (entries : List (Option Token)) (names : List String) : Source where
  State := Nat
  Snapshot := Nat
  start := 0
  next position :=
    match entries[position]? with
    | none => (pure none, position)
    | some entry => (pure entry, position + 1)
  save position := position
  reset _ _ snapshot := (pure (), snapshot.getD 0)
  has name := names.contains name
  explain _ token message := message ++ "|" ++ token.elim "none" (·.kind)
  agree a b := a == b
  finite := by
    refine Subrelation.wf (r := (measure fun position => entries.length - position).rel) ?_
      (measure _).wf
    rintro later earlier ⟨token, delivered, rfl⟩
    cases found : entries[earlier]? with
    | none => simp [found] at delivered
    | some entry =>
      have inside : earlier < entries.length := (List.getElem?_eq_some_iff.1 found).1
      simp only [found]
      show entries.length - (earlier + 1) < entries.length - earlier
      omega

end Source

end Offside
