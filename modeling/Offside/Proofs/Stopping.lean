import Offside.Proofs.Causality

/-! How far a layout gets in its raw tokens. It takes them one by one until it refuses one, and a
reading that fails has asked for these and for one more. -/
namespace Offside

variable {δ μ : Type} [Ord δ] {L : Layout δ μ} {p mid later : Progress δ μ}

/-- After an ordinary token what is ready is delivered. -/
def Progress.released (p : Progress δ μ) : Role → Progress δ μ
  | .ordinary => { p with queue := [] }
  | .indentation | .lineBreak => p

/-- The raw tokens that a layout takes before it refuses one. -/
def Progress.accepts (L : Layout δ μ) : Progress δ μ → List Token → List Token
  | _, [] => []
  | p, token :: raw =>
    match (p.take L token).outcome with
    | .error _ => []
    | .ok (later, role) => token :: (later.released role).accepts L raw

namespace Progress

omit [Ord δ] in
theorem released_phase (role : Role) : (p.released role).phase = p.phase := by
  cases role <;> rfl

omit [Ord δ] in
theorem released_margin (role : Role) : (p.released role).margin = p.margin := by
  cases role <;> rfl

theorem accepts_refused {token : Token} {refusal : Fault}
    (refused : (p.take L token).outcome = .error refusal) (raw : List Token) :
    p.accepts L (token :: raw) = [] := by
  rw [accepts, refused]

theorem accepts_taken {token : Token} {role : Role}
    (taken : (p.take L token).outcome = .ok (later, role)) (raw : List Token) :
    p.accepts L (token :: raw) = token :: (later.released role).accepts L raw := by
  rw [accepts, taken]

theorem Gathers.accepts {held : List Token} (gathers : Gathers L p held later) (raw : List Token) :
    p.accepts L (held ++ raw) = held ++ later.accepts L raw := by
  induction gathers with
  | nothing => rfl
  | @more p mid later token role held taken structural rest ih =>
    have kept : mid.released role = mid := by
      cases role with
      | ordinary => exact absurd rfl structural
      | indentation | lineBreak => rfl
    rw [List.cons_append, accepts_taken taken, kept, ih, List.cons_append]

theorem Settles.accepts {settled tokens : List Token} (settles : Settles L p settled tokens mid)
    (raw : List Token) : p.accepts L (settled ++ raw) = settled ++ mid.accepts L raw := by
  induction settles with
  | nothing => rfl
  | round gathered taken rest ih =>
    rw [List.append_assoc, gathered.accepts, List.cons_append, accepts_taken taken, released, ih,
      List.append_assoc, List.cons_append]

theorem Stops.accepts {left rest : List Token} {fault : Option Fault} {refusal : Fault}
    (stops : Stops L p left fault (rest, some refusal)) : p.accepts L left = [] := by
  cases stops with
  | refused taken => exact accepts_refused taken _
  | broken | refusedEnd => rfl

end Progress

/-- A reading that fails has asked for the raw tokens that are taken before one is refused, and for
one more. -/
theorem Layout.accepts_of_failed [DecidableEq δ] [DecidableEq μ] (L : Layout δ μ) (S : Source)
    (elsewhere : Cursor δ μ S.State) (text : String) :
    let raw := (S.readFrom elsewhere.base text).tokens
    let reading := (L.source S).readFrom elsewhere text
    ∀ fault, reading.fault = some fault →
      raw.take (pulls reading.notes - 1) = L.fresh.accepts L raw := by
  intro raw reading fault failed
  obtain ⟨settled, held, left, tokens, mid, later, ⟨rest, ending⟩, split, settles, gathers, stops,
    same⟩ := L.fresh.deliverRaw_cases L raw (S.readFrom elsewhere.base text).fault
  have read : (reading.tokens, reading.fault) = (tokens ++ rest, ending) :=
    (L.readFrom_eq_deliver S elsewhere text).trans same
  obtain rfl : some fault = ending := failed.symm.trans (Prod.mk.inj read).2
  obtain rfl := stops.nothing
  have taken : L.fresh.accepts L raw = settled ++ held := by
    rw [split, settles.accepts, gathers.accepts, stops.accepts, List.append_nil]
  rw [taken]
  cases accepted : (S.reset elsewhere.base text none).1.outcome with
  | error refusal =>
    have empty : raw = [] := congrArg Source.Reading.tokens (Source.readFrom_refused accepted)
    rw [empty, List.nil_eq_append_iff, List.append_eq_nil_iff] at split
    obtain ⟨rfl, rfl, rfl⟩ := split
    rw [empty]
    exact List.take_nil
  | ok _ =>
    rw [pulls_of_stopped accepted split settles gathers stops, Nat.add_sub_cancel, split,
      ← List.append_assoc]
    exact List.take_left

end Offside
