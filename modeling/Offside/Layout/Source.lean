import Offside.Layout.Step
import Offside.Source

/-! Layouts as sources. A layout over a source pulls raw tokens only when no token is ready, and
then no further than to the next ordinary one: what follows it cannot change what is ready. Its
snapshots hold the snapshot of the source beneath. -/
namespace Offside

variable {δ μ : Type}

namespace Attempt

variable {σ α : Type} {asked : Reply (Option Token)} {left : σ} {next : Attempt σ α}

/-- The answer of a source that is asked for a raw token. A fault of the source leaves what there
is. -/
def pull (asked : Reply (Option Token)) (left : σ) : Attempt σ Unit := do
  note .pulled
  let _ ← asked.deeper.mapLeft fun _ => left

/-- Where the source fails, nothing comes after its answer. -/
theorem pull_refused {fault : Fault} (failed : asked.outcome = .error fault) :
    (pull asked left).result = .error ⟨fault, left⟩ := by
  obtain ⟨result, notes⟩ := asked
  cases result with
  | ok found => cases failed
  | error halt =>
    cases failed
    rfl

theorem refused_after_pull {fault : Fault} (failed : asked.outcome = .error fault) :
    (pull asked left >>= fun _ => next).outcome = .error fault := by
  rw [outcome_bind, outcome_eq_error.2 ⟨left, pull_refused failed⟩]
  rfl

theorem pull_answered {answer : Option Token} (answered : asked.outcome = .ok answer) :
    (pull asked left).result = .ok () := by
  obtain ⟨result, notes⟩ := asked
  cases result with
  | ok found => rfl
  | error halt => cases answered

theorem result_after_pull {answer : Option Token} (answered : asked.outcome = .ok answer) :
    (pull asked left >>= fun _ => next).result = next.result := by
  show (Attempt.bind _ _).result = _
  rw [Attempt.bind, pull_answered answered]

theorem outcome_after_pull {answer : Option Token} (answered : asked.outcome = .ok answer) :
    (pull asked left >>= fun _ => next).outcome = next.outcome :=
  outcome_congr (result_after_pull answered)

theorem notes_pull : (pull asked left).notes = ⟨0, .pulled⟩ :: asked.deeper.notes := by
  obtain ⟨result, notes⟩ := asked
  cases result with
  | ok found => exact congrArg _ (List.append_nil _)
  | error halt => rfl

end Attempt

namespace Progress

/-- Takes raw tokens up to the next ordinary one, or ends the text. A fault of the source leaves
the progress that was made before it. -/
def refill [Ord δ] (L : Layout δ μ) (S : Source) (p : Progress δ μ) (base : S.State) :
    Attempt (Progress δ μ) (Progress δ μ) × S.State :=
  let asked := S.next base
  let pulled := Attempt.pull asked.1 p
  match _answer : asked.1.outcome with
  | .error _ => (do pulled; return p, asked.2)
  | .ok none => (do pulled; p.finish L, asked.2)
  | .ok (some token) =>
    let taken := do pulled; p.take L token
    match taken.outcome with
    | .error _ => (Prod.fst <$> taken, asked.2)
    | .ok (later, role) =>
      if role = .ordinary then (Prod.fst <$> taken, asked.2)
      else
        let rest := later.refill L S asked.2
        (do let _ ← taken; rest.1, rest.2)
termination_by base
decreasing_by all_goals exact ⟨token, _answer, rfl⟩

/-- A refill either ends the text or gets at least one token from the source. -/
theorem refill_shrinks [Ord δ] {L : Layout δ μ} {S : Source} {p later : Progress δ μ}
    {base : S.State} (filled : (p.refill L S base).1.outcome = .ok later) :
    later.phase = .finished ∨
      Relation.TransGen (Delivers S.next) (p.refill L S base).2 base := by
  fun_induction p.refill L S base with
  | case1 p base asked pulled fault answer =>
    rw [Attempt.refused_after_pull answer] at filled
    cases filled
  | case2 p base asked pulled answer =>
    obtain ⟨_, _, ended⟩ := Attempt.outcome_bind_eq_ok.1 filled
    exact .inl (phase_of_finish ended)
  | case3 p base asked pulled token answer taken fault failed =>
    obtain ⟨_, succeeded, _⟩ := Attempt.outcome_map_eq_ok.1 filled
    exact absurd (failed.symm.trans succeeded) (by simp)
  | case4 p base asked pulled token answer taken =>
    exact .inr (.single ⟨token, answer, rfl⟩)
  | case5 p base asked pulled token answer taken next role succeeded structural rest ih =>
    obtain ⟨_, _, filled⟩ := Attempt.outcome_bind_eq_ok.1 filled
    exact (ih filled).imp_right fun shrunk => .tail shrunk ⟨token, answer, rfl⟩

end Progress

/-- Where a layout stands, and where the source stands that it reads. -/
structure Layout.Cursor (δ μ σ : Type) where
  progress : Progress δ μ
  base : σ

namespace Layout

/-- Delivers a token that is ready, or gets raw tokens first. Nothing comes after the end. When a
fault ends the getting of raw tokens, what is ready by then is delivered by later calls. -/
def next [Ord δ] (L : Layout δ μ) (S : Source) (cursor : Cursor δ μ S.State) :
    Reply (Option Token) × Cursor δ μ S.State :=
  match cursor.progress.queue with
  | token :: queue =>
    (pure (some token), { cursor with progress := { cursor.progress with queue } })
  | [] =>
    if cursor.progress.phase = .finished then (pure none, cursor)
    else
      let (filled, base) := cursor.progress.refill L S cursor.base
      let progress := match filled.result with
        | .ok later => { later with queue := later.queue.tail }
        | .error halt => halt.left
      ((·.queue.head?) <$> filled.mapLeft fun _ => (), ⟨progress, base⟩)

/-- What a cursor still has before it: the end of the text, then raw tokens, then tokens that are
ready. Delivering a token uses up some of it. -/
def ahead {S : Source} (cursor : Cursor δ μ S.State) : Nat × S.State × Nat :=
  (if cursor.progress.phase = .finished then 0 else 1, cursor.base, cursor.progress.queue.length)

/-- The order in which a cursor moves ahead. -/
abbrev order (S : Source) : WellFoundedRelation (Nat × S.State × Nat) :=
  Prod.lex Nat.lt_wfRel (Prod.lex ⟨_, S.finite.transGen⟩ Nat.lt_wfRel)

/-- A layout over a source delivers finitely many tokens, as the source does. -/
theorem next_finite [Ord δ] (L : Layout δ μ) (S : Source) :
    WellFounded (Delivers (L.next S)) := by
  refine Subrelation.wf (r := InvImage (order S).rel ahead) ?_ (InvImage.wf _ (order S).wf)
  rintro later earlier ⟨token, delivered, rfl⟩
  show Prod.Lex _ _ (ahead (L.next S earlier).2) (ahead earlier)
  unfold next at delivered ⊢
  split at delivered
  case h_1 first queue ready =>
    simp only [ready, ahead]
    exact .right _ (.right _ (Nat.lt_succ_self queue.length))
  case h_2 empty =>
    split at delivered
    case isTrue finished => simp at delivered
    case isFalse unfinished =>
      obtain ⟨progress, filled, _⟩ := Attempt.outcome_map_eq_ok.1 delivered
      rw [Attempt.outcome_mapLeft] at filled
      simp only [empty, unfinished, if_false, ahead, Attempt.outcome_eq_ok.1 filled]
      rcases Progress.refill_shrinks filled with ended | shrunk
      · simp only [ended, if_true]
        exact .left _ _ Nat.zero_lt_one
      · by_cases ended : progress.phase = .finished
        · simp only [ended, if_true]
          exact .left _ _ Nat.zero_lt_one
        · simp only [ended, if_false]
          exact .right _ (.left _ _ shrunk)

/-- Starts over on a text. A snapshot tells both where the source beneath was and how far the
text was laid out; if the source cannot go back there, the layout stays where it is. -/
def reset (L : Layout δ μ) (S : Source) (cursor : Cursor δ μ S.State) (text : String)
    (snapshot : Option (Cursor δ μ S.Snapshot)) : Reply Unit × Cursor δ μ S.State :=
  let (answer, base) := S.reset cursor.base text (snapshot.map (·.base))
  let event := match snapshot with
    | none => .restarted text.length
    | some snapshot => .resumed snapshot.progress.levels.length
  let progress := match answer.outcome with
    | .ok () => (snapshot.map (·.progress)).getD L.fresh
    | .error _ => cursor.progress
  (do Attempt.note event; answer.deeper, { progress, base })

/-- What a layout reads from, which has to be given. -/
def base {α : Type _} (given : Option α) : Except Fault α :=
  match given with
  | some base => .ok base
  | none => .error .noSource

/-- The layout of the tokens of a source, as a source. -/
def source [Ord δ] [DecidableEq δ] [DecidableEq μ] (L : Layout δ μ) (S : Source) : Source where
  State := Cursor δ μ S.State
  Snapshot := Cursor δ μ S.Snapshot
  start := { progress := L.fresh, base := S.start }
  next := L.next S
  save cursor := { progress := cursor.progress, base := S.save cursor.base }
  reset := L.reset S
  has name := layoutKinds.contains name || S.has name
  explain cursor := S.explain cursor.base
  agree a b := decide (a.progress.Agrees b.progress) && S.agree a.base b.base
  finite := L.next_finite S

end Layout

end Offside
