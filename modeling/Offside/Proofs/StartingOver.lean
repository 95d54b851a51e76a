import Offside.Proofs.Rewinding

/-! Starting over. What a source was asked before, what it answered, and where a fault or a refused
reset left it does not show once it is put on a text: a reset overwrites all of the state, down
through every layout of a stack. So two instances that are reset alike are one and the same to
whoever asks them from then on. -/
namespace Offside

namespace Source

/-- What can be asked of a source that is on a text. -/
inductive Request where
  | next
  | save
  | has (name : String)
  | explain (token : Option Token) (message : String)

/-- What a source responds to a request. -/
inductive Response (S : Source) where
  | next (reply : Reply (Option Token))
  | save (snapshot : S.Snapshot)
  | has (known : Bool)
  | explain (text : String)

/-- Responds to one request. -/
def respond (S : Source) (state : S.State) : Request → S.Response × S.State
  | .next =>
    let (reply, later) := S.next state
    (.next reply, later)
  | .save => (.save (S.save state), state)
  | .has name => (.has (S.has name), state)
  | .explain token message => (.explain (S.explain state token message), state)

/-- Responds to requests one after the other, also after a fault. -/
def converse (S : Source) : S.State → List Request → List S.Response
  | _, [] => []
  | state, request :: requests =>
    let (response, later) := S.respond state request
    response :: S.converse later requests

/-- A reset tells nothing about the state before it: not whether it goes through, nor what happens
on the way, nor, if it goes through, the state after it. -/
structure Forgets (S : Source) : Prop where
  reply : ∀ one other text snapshot, (S.reset one text snapshot).1 = (S.reset other text snapshot).1
  state : ∀ one other text snapshot, (S.reset one text snapshot).1.outcome = .ok () →
    (S.reset one text snapshot).2 = (S.reset other text snapshot).2

theorem forgets_scripted (entries : List (Option Token)) (names : List String) :
    (scripted entries names).Forgets := by
  constructor
  · intro one other text snapshot
    rfl
  · intro one other text snapshot accepted
    rfl

end Source

theorem Lexicon.forgets_source (L : Lexicon) : L.source.Forgets := by
  constructor
  · intro one other text snapshot
    rfl
  · intro one other text snapshot accepted
    rfl

section

variable {δ μ : Type} {S : Source}

/-- A layout keeps nothing of its own, unless the source beneath refuses to be reset. -/
theorem Layout.reset_forgets (L : Layout δ μ) (beneath : S.Forgets)
    (one other : Cursor δ μ S.State) (text : String) (snapshot : Option (Cursor δ μ S.Snapshot)) :
    (L.reset S one text snapshot).1 = (L.reset S other text snapshot).1 ∧
      ((L.reset S one text snapshot).1.outcome = .ok () →
        (L.reset S one text snapshot).2 = (L.reset S other text snapshot).2) := by
  have reply := beneath.reply one.base other.base text (snapshot.map (·.base))
  constructor
  · simp only [reset, reply]
  · intro accepted
    have accepted := reset_accepted.1 accepted
    have state := beneath.state one.base other.base text _ accepted
    rw [reset_back accepted, reset_back (by rw [← reply]; exact accepted), state]

theorem Layout.forgets_source [Ord δ] [DecidableEq δ] [DecidableEq μ] (L : Layout δ μ)
    (beneath : S.Forgets) : (L.source S).Forgets := by
  constructor
  · intro one other text snapshot
    exact (L.reset_forgets beneath one other text snapshot).1
  · intro one other text snapshot
    exact (L.reset_forgets beneath one other text snapshot).2

end

namespace Stacked

variable {S : Source}

theorem forgets (stacked : Stacked S) : S.Forgets := by
  induction stacked with
  | lexicon L => exact L.forgets_source
  | scripted entries names => exact Source.forgets_scripted entries names
  | layout L beneath ih => exact L.forgets_source ih

/-- Two instances that are reset with the same text and snapshot respond alike to all requests from
then on, whatever happened to each of them before, and without a snapshot they respond as an
instance does that was never used. Their states before may be any, those included in which a fault
or a refused reset left them. -/
theorem converse_after_reset (stacked : Stacked S) (one other : S.State) (text : String)
    (snapshot : Option S.Snapshot)
    (accepted : (S.reset one text snapshot).1.outcome = .ok ()) :
    (S.reset other text snapshot).1 = (S.reset one text snapshot).1 ∧
      (∀ requests, S.converse (S.reset other text snapshot).2 requests =
        S.converse (S.reset one text snapshot).2 requests) ∧
      (snapshot = none → ∀ requests, S.converse (S.reset one text none).2 requests =
        S.converse (S.reset S.start text none).2 requests) := by
  have same := stacked.forgets.state one other text snapshot accepted
  refine ⟨stacked.forgets.reply other one text snapshot, ?_, ?_⟩
  · intro requests
    rw [same]
  · rintro rfl requests
    rw [stacked.forgets.state one S.start text none accepted]

/-- An instance in which a call left a line half done, put on its text again. -/
theorem converse_after_reset_half_done :
    let token (kind text : String) (start : Int) : Token := ⟨kind, text, { start := some start }⟩
    let raw := [token "WORD" "a" 0, token "NEWLINE" "\n" 1, token "WS" "    " 2,
      token "WORD" "b" 6, token "NEWLINE" "\n" 7, token "WS" "  " 8, token "WORD" "c" 10]
    let S := Layout.standard.source (.scripted (raw.map some) [])
    let stale : Layout.Cursor Int Memory Nat :=
      (S.perform (.replicate 5 .next) (S.reset S.start "" none).2).2
    let begun := S.save (S.next (S.reset S.start "" none).2).2
    stale = {
        progress :=
          { levels := []
            queue := [token "eol" "\n" 7, token "dedent" "  " 10]
            last := some (token "WORD" "c" 10)
            indentation := [token "WS" "  " 8]
            margin := "  "
            memories := [.margin "  "] }
        base := 7 } ∧
      (S.reset stale "" none).1.outcome = .ok () ∧
      (∀ requests, S.converse (S.reset stale "" none).2 requests =
        S.converse (S.reset S.start "" none).2 requests) ∧
      ∀ requests, S.converse (S.reset stale "" (some begun)).2 requests =
        S.converse (S.reset S.start "" (some begun)).2 requests := by
  intro token raw S stale begun
  have stacked : Stacked S := .layout Layout.standard (.scripted _ _)
  have anew := stacked.converse_after_reset stale S.start "" none rfl
  have resumed := stacked.converse_after_reset S.start stale "" (some begun) rfl
  refine ⟨?_, rfl, anew.2.2 rfl, resumed.2.1⟩
  show (S.perform (.replicate 5 .next) (S.reset S.start "" none).2).2 = _
  cbv

end Stacked

end Offside
