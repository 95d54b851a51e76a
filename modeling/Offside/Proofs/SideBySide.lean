import Offside.Proofs.Questions

/-! Two layouts side by side. Over the same source they may be asked for tokens in turn, and what
one of them does compared with what the other does: which results and faults, which questions, and
where they are left. A `Comparison` says what has to be known of taking one raw token and of the end
of the text; what follows for a refill, a call, any number of calls and a whole reading is proved
here once. The first of the two may also fail where the second goes on. -/
namespace Offside

open Attempt

variable {δ μ ε ν : Type}

/-- What is compared of two runs. -/
structure Likeness where
  /-- The questions that both ask; the others are left out of the comparison. -/
  shared : Event → Bool
  /-- The faults that both may end with, where the first asked these questions. -/
  Alike : List Event → Fault → Fault → Prop
  /-- The faults that the first may end with alone, where it asked these questions. -/
  Alone : List Event → Fault → Prop

/-- The source is asked as often among the questions that are compared. -/
theorem Likeness.countP_shared {like : Likeness} (pulled : like.shared .pulled = true)
    (asked : List Event) :
    (asked.filter like.shared).countP Event.isPull = asked.countP Event.isPull := by
  rw [List.countP_filter]
  refine List.countP_congr fun event _ => ?_
  cases event <;> simp [Event.isPull, pulled]

namespace Attempt

variable {σ σ' τ τ' α β α' β' : Type}

/-- Two attempts keep abreast, where the first run asked the given questions before: both have
results, or both have faults and leave what may be left beside each other, and either way they ask
the same; or the first has a fault of its own. -/
inductive Abreast (like : Likeness) (past : List Event) (Left : σ → τ → Prop)
    (Same : List Event → α → β → Prop) (one : Attempt σ α) (two : Attempt τ β) : Prop where
  | results {a : α} {b : β} (first : one.outcome = .ok a) (second : two.outcome = .ok b)
      (same : Same (past ++ questions one.notes) a b)
      (asked : (questions one.notes).filter like.shared =
        (questions two.notes).filter like.shared)
  | faults {fault other : Fault} {left : σ} {left' : τ} (first : one.result = .error ⟨fault, left⟩)
      (second : two.result = .error ⟨other, left'⟩)
      (alike : like.Alike (past ++ questions one.notes) fault other) (remain : Left left left')
      (asked : (questions one.notes).filter like.shared =
        (questions two.notes).filter like.shared)
  | alone {fault : Fault} (first : one.outcome = .error fault)
      (own : like.Alone (past ++ questions one.notes) fault)
      (asked : (questions one.notes).filter like.shared <+:
        (questions two.notes).filter like.shared)

variable {like : Likeness} {past : List Event} {Left : σ → τ → Prop}
  {Same : List Event → α → β → Prop} {Later : List Event → α' → β' → Prop} {one : Attempt σ α}
  {two : Attempt τ β}

theorem Abreast.imp {Laxer : σ → τ → Prop} {Weaker : List Event → α → β → Prop}
    (abreast : Abreast like past Left Same one two)
    (laxer : ∀ left left', Left left left' → Laxer left left')
    (weaker : ∀ a b, one.outcome = .ok a → Same (past ++ questions one.notes) a b →
      Weaker (past ++ questions one.notes) a b) : Abreast like past Laxer Weaker one two := by
  cases abreast with
  | results first second same asked => exact .results first second (weaker _ _ first same) asked
  | faults first second alike remain asked =>
    exact .faults first second alike (laxer _ _ remain) asked
  | alone first own asked => exact .alone first own asked

/-- Attempts keep abreast where those do that they go on with, if they asked the same before. -/
theorem Abreast.after {rest : Attempt σ α} {rest' : Attempt τ β} {front front' : List Event}
    (abreast : Abreast like (past ++ front) Left Same rest rest')
    (before : front.filter like.shared = front'.filter like.shared)
    (first : one.result = rest.result ∧ questions one.notes = front ++ questions rest.notes)
    (second : two.result = rest'.result ∧ questions two.notes = front' ++ questions rest'.notes) :
    Abreast like past Left Same one two := by
  cases abreast with
  | results result result' same asked =>
    refine .results ((outcome_congr first.1).trans result) ((outcome_congr second.1).trans result')
      ?_ ?_
    · rwa [first.2, ← List.append_assoc]
    · rw [first.2, second.2, List.filter_append, List.filter_append, before, asked]
  | faults fault fault' alike remain asked =>
    refine .faults (first.1.trans fault) (second.1.trans fault') ?_ remain ?_
    · rwa [first.2, ← List.append_assoc]
    · rw [first.2, second.2, List.filter_append, List.filter_append, before, asked]
  | alone fault own asked =>
    refine .alone ((outcome_congr first.1).trans fault) ?_ ?_
    · rwa [first.2, ← List.append_assoc]
    · rw [first.2, second.2, List.filter_append, List.filter_append, before]
      exact (List.prefix_append_right_inj _).2 asked

theorem bind_ok {attempt : Attempt σ α} (next : α → Attempt σ α') {a : α}
    (ok : attempt.outcome = .ok a) :
    (attempt >>= next).result = (next a).result ∧
      questions (attempt >>= next).notes = questions attempt.notes ++ questions (next a).notes := by
  constructor
  · show (attempt.bind next).result = _
    simp only [Attempt.bind, outcome_eq_ok.1 ok]
  · rw [notes_bind, ok, questions_append]

theorem bind_error {attempt : Attempt σ α} (next : α → Attempt σ α') {halt : Halt σ}
    (failed : attempt.result = .error halt) :
    (attempt >>= next).result = .error halt ∧ (attempt >>= next).notes = attempt.notes := by
  obtain ⟨result, notes⟩ := attempt
  obtain rfl : result = .error halt := failed
  exact ⟨rfl, rfl⟩

theorem questions_bind (attempt : Attempt σ α) (next : α → Attempt σ α') :
    questions attempt.notes <+: questions (attempt >>= next).notes := by
  rw [notes_bind, questions_append]
  exact List.prefix_append _ _

/-- Attempts keep abreast that go on abreast from results. -/
theorem Abreast.bind {next : α → Attempt σ α'} {next' : β → Attempt τ β'}
    (abreast : Abreast like past Left Same one two)
    (onwards : ∀ a b, one.outcome = .ok a → Same (past ++ questions one.notes) a b →
      Abreast like (past ++ questions one.notes) Left Later (next a) (next' b)) :
    Abreast like past Left Later (one >>= next) (two >>= next') := by
  cases abreast with
  | results first second same asked =>
    exact (onwards _ _ first same).after asked (bind_ok next first) (bind_ok next' second)
  | faults first second alike remain asked =>
    obtain ⟨result, notes⟩ := bind_error next first
    obtain ⟨result', notes'⟩ := bind_error next' second
    exact .faults result result' (notes ▸ alike) remain (by rw [notes, notes', asked])
  | alone first own asked =>
    obtain ⟨left, first⟩ := outcome_eq_error.1 first
    obtain ⟨result, notes⟩ := bind_error next first
    refine .alone (outcome_eq_error.2 ⟨left, result⟩) (notes ▸ own) ?_
    rw [notes]
    exact asked.trans ((questions_bind two next').filter _)

theorem Abreast.map {f : α → α'} {g : β → β'} (abreast : Abreast like past Left Same one two)
    (onwards : ∀ a b, one.outcome = .ok a → Same (past ++ questions one.notes) a b →
      Later (past ++ questions one.notes) (f a) (g b)) :
    Abreast like past Left Later (f <$> one) (g <$> two) := by
  refine abreast.bind fun a b first same => .results rfl rfl ?_ rfl
  exact (List.append_nil (past ++ questions one.notes)).symm ▸ onwards a b first same

/-- Attempts keep abreast when something else is left in both. -/
theorem Abreast.mapLeft {Laxer : σ' → τ' → Prop} {f : σ → σ'} {g : τ → τ'}
    (abreast : Abreast like past Left Same one two)
    (laxer : ∀ left left', Left left left' → Laxer (f left) (g left')) :
    Abreast like past Laxer Same (one.mapLeft f) (two.mapLeft g) := by
  cases abreast with
  | results first second same asked =>
    exact .results ((outcome_mapLeft f one).trans first) ((outcome_mapLeft g two).trans second) same
      asked
  | faults first second alike remain asked =>
    exact .faults (result_mapLeft f first) (result_mapLeft g second) alike (laxer _ _ remain) asked
  | alone first own asked => exact .alone ((outcome_mapLeft f one).trans first) own asked

theorem Abreast.note (event : Event) :
    Abreast like past Left (fun asked _ _ => asked = past ++ questions [⟨0, event⟩]) (note event)
      (note event) := .results rfl rfl rfl rfl

/-- An attempt keeps abreast of itself if the faults that it may have are like themselves. -/
theorem Abreast.refl {attempt : Attempt σ α} {Left : σ → σ → Prop}
    {Same : List Event → α → α → Prop} (remain : ∀ left, Left left left)
    (same : ∀ a, Same (past ++ questions attempt.notes) a a)
    (alike : ∀ fault, attempt.outcome = .error fault →
      like.Alike (past ++ questions attempt.notes) fault fault) :
    Abreast like past Left Same attempt attempt := by
  cases outcome : attempt.outcome with
  | ok a => exact .results outcome outcome (same a) rfl
  | error fault =>
    obtain ⟨left, result⟩ := outcome_eq_error.1 outcome
    exact .faults result result (alike fault outcome) (remain left) rfl

theorem Abreast.pure {a : α} {b : β} (same : Same past a b) :
    Abreast like past Left Same (pure a : Attempt σ α) (pure b : Attempt τ β) := by
  exact .results rfl rfl ((List.append_nil past).symm ▸ same) rfl

end Attempt

/-- A layout in the middle of a text, of whose raw tokens it has taken the given ones with their
roles, and left the others; and the questions that it asked. -/
structure Progress.Midway (L : Layout δ μ) (raw left : List Token) (words : Words)
    (asked : List Event) (p : Progress δ μ) : Prop where
  unfinished : p.phase ≠ .finished
  known : ∀ word ∈ words, L.classify word.1 = .ok word.2
  split : raw = words.map (·.1) ++ left
  reads : p.Reads words
  pulls : asked.countP Event.isPull = words.length

theorem Progress.Midway.taken [Ord δ] {L : Layout δ μ} {raw left : List Token} {words : Words}
    {asked : List Event} {p later : Progress δ μ} {token : Token} {role : Role}
    (midway : p.Midway L raw (token :: left) words asked)
    (taken : (p.take L token).outcome = .ok (later, role)) :
    later.Midway L raw left (words ++ [(token, role)])
      (asked ++ [.pulled] ++ questions (p.take L token).notes) := by
  obtain ⟨unfinished, known, split, reads, pulls⟩ := midway
  obtain ⟨classified, took⟩ := taken_of_take taken
  refine ⟨took.outside_end unfinished, ?_, ?_, reads.taken unfinished took, ?_⟩
  · exact List.forall_mem_append.2 ⟨known, by simpa using classified⟩
  · simp [split]
  · rw [List.countP_append, List.countP_append, pulls, took.pulls]
    simp [Event.isPull]

/-- What has to be known to keep two layouts abreast on a text of the given raw tokens, which a
fault ends or none: how they stand beside each other, where the first has asked the given questions,
how they may be left at a fault of both, and that each step keeps them so. -/
structure Comparison [Ord δ] [Ord ε] (L : Layout δ μ) (M : Layout ε ν) (raw : List Token)
    (ending : Option Fault) where
  like : Likeness
  pulled : like.shared .pulled = true
  Beside : List Event → Progress δ μ → Progress ε ν → Prop
  Left : Progress δ μ → Progress ε ν → Prop
  left : ∀ {asked p q}, Beside asked p q → Left p q
  fresh : Beside [] L.fresh M.fresh
  phase : ∀ {asked p q}, Beside asked p q → p.phase = q.phase
  queue : ∀ {asked p q}, Beside asked p q → p.queue = q.queue
  delivered : ∀ {asked p q}, Beside asked p q → ∀ queue,
    Beside asked { p with queue } { q with queue }
  broken : ∀ {words asked p q fault}, p.Midway L raw [] words asked → Beside asked p q →
    ending = some fault → like.Alike (asked ++ [.pulled]) fault fault
  take : ∀ {token left words asked p q}, p.Midway L raw (token :: left) words asked →
    Beside asked p q →
      Abreast like (asked ++ [.pulled]) Left (fun asked a b => a.2 = b.2 ∧ Beside asked a.1 b.1)
        (p.take L token) (q.take M token)
  finish : ∀ {words asked p q}, p.Midway L raw [] words asked → Beside asked p q →
    Abreast like (asked ++ [.pulled]) Left Beside (p.finish L) (q.finish M)

namespace Source

/-- Calls go on from what happens at the first of them. -/
theorem notes_take (S : Source) (count : Nat) (state : S.State) :
    (S.next state).1.notes <+: (S.take (count + 1) state).2.2.1 := by
  cases answer : (S.next state).1.outcome with
  | error fault => exact take_refused count answer ▸ List.prefix_refl _
  | ok token => exact take_answered count answer ▸ List.prefix_append _ _

theorem notes_drain (S : Source) (state : S.State) :
    (S.next state).1.notes <+: (S.drain state).notes := by
  cases answer : (S.next state).1.outcome with
  | error fault => exact drain_fault answer ▸ List.prefix_refl _
  | ok delivered =>
    cases delivered with
    | none => exact drain_end answer ▸ List.prefix_refl _
    | some token => exact drain_token answer ▸ List.prefix_append _ _

end Source

namespace Progress

variable [Ord δ]

/-- What a refill does with the answer of the source, what it asks, and what it leaves. -/
theorem refill_asks (L : Layout δ μ) (S : Source) (p : Progress δ μ) (base : S.State) :
    let filled := p.refill L S base
    match (S.next base).1.outcome with
    | .error fault => filled.1.result = .error ⟨fault, p⟩ ∧ questions filled.1.notes = [.pulled] ∧
        filled.2 = (S.next base).2
    | .ok none => filled.1.result = (p.finish L).result ∧
        questions filled.1.notes = [.pulled] ++ questions (p.finish L).notes ∧
        filled.2 = (S.next base).2
    | .ok (some token) =>
      let asked := [.pulled] ++ questions (p.take L token).notes
      match (p.take L token).result with
      | .error halt => filled.1.result = .error halt ∧ questions filled.1.notes = asked ∧
          filled.2 = (S.next base).2
      | .ok (later, role) =>
        if role = .ordinary then
          filled.1.result = .ok later ∧ questions filled.1.notes = asked ∧
            filled.2 = (S.next base).2
        else
          let rest := later.refill L S (S.next base).2
          filled.1.result = rest.1.result ∧
            questions filled.1.notes = asked ++ questions rest.1.notes ∧ filled.2 = rest.2 := by
  intro filled
  unfold filled
  fun_cases p.refill L S base with
  | case1 asked pulled fault answer =>
    rw [show (S.next base).1.outcome = .error fault from answer]
    have refused : pulled.result = .error ⟨fault, p⟩ := pull_refused answer
    obtain ⟨result, notes⟩ := bind_error (fun _ => pure p) refused
    have silent : questions asked.1.deeper.notes = [] := questions_deeper asked.1.notes
    refine ⟨result, ?_, rfl⟩
    rw [notes, notes_pull, questions, List.filterMap_cons, ← questions, silent]
    rfl
  | case2 asked pulled answer =>
    rw [show (S.next base).1.outcome = .ok none from answer]
    exact ⟨result_after_pull answer, questions_after_pull answer, rfl⟩
  | case3 asked pulled token answer taken fault failed =>
    have taking : taken.result = (p.take L token).result := result_after_pull answer
    have notes : questions taken.notes = [.pulled] ++ questions (p.take L token).notes :=
      questions_after_pull answer
    obtain ⟨left, failed⟩ := outcome_eq_error.1 failed
    rw [show (S.next base).1.outcome = .ok (some token) from answer]
    simp only [← taking, failed, notes_map, notes, true_and]
    exact ⟨(bind_error _ failed).1, rfl⟩
  | case4 asked pulled token answer taken later succeeded =>
    have taking : taken.result = (p.take L token).result := result_after_pull answer
    have notes : questions taken.notes = [.pulled] ++ questions (p.take L token).notes :=
      questions_after_pull answer
    rw [show (S.next base).1.outcome = .ok (some token) from answer]
    simp only [← taking, outcome_eq_ok.1 succeeded, notes_map, notes, true_and, if_true]
    exact ⟨(bind_ok _ succeeded).1, rfl⟩
  | case5 asked pulled token answer taken later role succeeded structural rest =>
    have taking : taken.result = (p.take L token).result := result_after_pull answer
    have notes : questions taken.notes = [.pulled] ++ questions (p.take L token).notes :=
      questions_after_pull answer
    obtain ⟨result, further⟩ := bind_ok (fun _ => rest.1) succeeded
    rw [show (S.next base).1.outcome = .ok (some token) from answer]
    simp only [← taking, outcome_eq_ok.1 succeeded, structural, if_false]
    exact ⟨result, by rw [further, notes], rfl⟩

/-- Whatever becomes of a raw token, the questions that come up with it are asked. -/
theorem questions_of_token {L : Layout δ μ} {S : Source} {p : Progress δ μ} {base : S.State}
    {token : Token} (answer : (S.next base).1.outcome = .ok (some token)) :
    [.pulled] ++ questions (p.take L token).notes <+: questions (p.refill L S base).1.notes := by
  have asks := p.refill_asks L S base
  rw [answer] at asks
  cases taken : (p.take L token).result with
  | error halt =>
    simp only [taken] at asks
    exact asks.2.1 ▸ List.prefix_refl _
  | ok taking =>
    simp only [taken] at asks
    split at asks
    · exact asks.2.1 ▸ List.prefix_refl _
    · exact asks.2.1 ▸ List.prefix_append _ _

end Progress

/-- On a text that the source refuses nothing is delivered and nothing asked. -/
theorem Layout.readFrom_of_refused [Ord δ] [DecidableEq δ] [DecidableEq μ] {L : Layout δ μ}
    {S : Source} {base : S.State} {text : String} {fault : Fault}
    (refused : (S.reset base text none).1.outcome = .error fault) (p : Progress δ μ) :
    let reading := (L.source S).readFrom ⟨p, base⟩ text
    reading.tokens = [] ∧ reading.fault = some fault ∧ questions reading.notes = [] := by
  intro reading
  have failed : ((L.source S).reset ⟨p, base⟩ text none).1.outcome = .error fault := by
    show (L.reset S ⟨p, base⟩ text none).1.outcome = .error fault
    simp [reset, outcome_bind, Except.bind, refused]
  have read : reading = _ := Source.readFrom_refused failed
  rw [read]
  exact ⟨rfl, rfl, L.questions_reset text none⟩

namespace Comparison

variable [Ord δ] [Ord ε] {L : Layout δ μ} {M : Layout ε ν} {raw : List Token}
  {ending : Option Fault} {S : Source}

/-- How the cursors of two layouts stand beside each other. -/
structure Standing (C : Comparison L M raw ending) (asked : List Event)
    (one : Layout.Cursor δ μ S.State) (two : Layout.Cursor ε ν S.State) : Prop where
  base : one.base = two.base
  beside : C.Beside asked one.progress two.progress
  midway : one.progress.phase ≠ .finished →
    ∃ words, one.progress.Midway L raw (S.drain one.base).tokens words asked
  ending : one.progress.phase ≠ .finished → (S.drain one.base).fault = ending

/-- Two refills from the same state of the source keep abreast, and leave it in the same state. -/
def RefillsAbreast (C : Comparison L M raw ending) (S : Source) (base : S.State)
    (asked : List Event) (p : Progress δ μ) (q : Progress ε ν) : Prop :=
  let one := p.refill L S base
  let two := q.refill M S base
  Abreast C.like asked (fun left left' => C.Left left left' ∧ one.2 = two.2)
    (fun asked a b => C.Standing asked ⟨a, one.2⟩ ⟨b, two.2⟩) one.1 two.1

/-- A raw token keeps two refills abreast if those do that go on after it. -/
theorem refill_token (C : Comparison L M raw ending) {base : S.State} {p : Progress δ μ}
    {q : Progress ε ν} {words : Words} {asked : List Event} {token : Token} {left : List Token}
    (answer : (S.next base).1.outcome = .ok (some token))
    (drained : (S.drain (S.next base).2).tokens = left)
    (ends : (S.drain (S.next base).2).fault = ending)
    (midway : p.Midway L raw (token :: left) words asked) (beside : C.Beside asked p q)
    (onwards : ∀ {words asked p q}, p.Midway L raw left words asked → C.Beside asked p q →
      C.RefillsAbreast S (S.next base).2 asked p q) :
    C.RefillsAbreast S base asked p q := by
  have first := p.refill_asks L S base
  have second := q.refill_asks M S base
  rw [answer] at first second
  cases C.take midway beside with
  | @results taking taking' taken taken' same common =>
    obtain ⟨later, role⟩ := taking
    obtain ⟨later', role'⟩ := taking'
    obtain ⟨rfl, beside⟩ : role = role' ∧ C.Beside _ later later' := same
    have midway := midway.taken taken
    have shared : ([Event.pulled] ++ questions (p.take L token).notes).filter C.like.shared =
        ([Event.pulled] ++ questions (q.take M token).notes).filter C.like.shared := by
      rw [List.filter_append, List.filter_append, common]
    rw [List.append_assoc] at beside midway
    simp only [outcome_eq_ok.1 taken] at first
    simp only [outcome_eq_ok.1 taken'] at second
    by_cases ordinary : role = .ordinary
    · rw [if_pos ordinary] at first second
      have same := first.2.2.trans second.2.2.symm
      refine .results (outcome_eq_ok.2 first.1) (outcome_eq_ok.2 second.1)
        ⟨same, ?_, fun _ => ⟨words ++ [(token, role)], ?_⟩, fun _ => ?_⟩ ?_
      · rw [first.2.1]
        exact beside
      · rw [first.2.1, first.2.2, drained]
        exact midway
      · rw [first.2.2, ends]
      · rw [first.2.1, second.2.1]
        exact shared
    · rw [if_neg ordinary] at first second
      have rest := onwards midway beside
      unfold RefillsAbreast at rest ⊢
      simp only [← first.2.2, ← second.2.2] at rest
      exact rest.after shared ⟨first.1, first.2.1⟩ ⟨second.1, second.2.1⟩
  | faults taken taken' alike remain common =>
    simp only [taken] at first
    simp only [taken'] at second
    refine .faults first.1 second.1 ?_ ⟨remain, first.2.2.trans second.2.2.symm⟩ ?_
    · rw [first.2.1, ← List.append_assoc]
      exact alike
    · rw [first.2.1, second.2.1, List.filter_append, List.filter_append]
      exact congrArg _ common
  | alone taken own common =>
    have asks := (Progress.questions_of_token (L := M) (p := q) answer).filter C.like.shared
    obtain ⟨left, taken⟩ := outcome_eq_error.1 taken
    simp only [taken] at first
    refine .alone (outcome_eq_error.2 ⟨left, first.1⟩) ?_ ?_
    · rw [first.2.1, ← List.append_assoc]
      exact own
    · rw [List.filter_append] at asks
      rw [first.2.1, List.filter_append]
      exact ((List.prefix_append_right_inj _).2 common).trans asks

theorem refill (C : Comparison L M raw ending) {base : S.State} {p : Progress δ μ}
    {q : Progress ε ν} {words : Words} {asked : List Event}
    (ends : (S.drain base).fault = ending)
    (midway : p.Midway L raw (S.drain base).tokens words asked) (beside : C.Beside asked p q) :
    C.RefillsAbreast S base asked p q := by
  induction base using S.finite.induction generalizing p q words asked with
  | _ base ih =>
    have first := p.refill_asks L S base
    have second := q.refill_asks M S base
    cases answer : (S.next base).1.outcome with
    | error fault =>
      rw [answer] at first second
      rw [Source.drain_fault answer] at midway ends
      refine .faults first.1 second.1 ?_ ⟨C.left beside, first.2.2.trans second.2.2.symm⟩ ?_
      · rw [first.2.1]
        exact C.broken midway beside ends.symm
      · rw [first.2.1, second.2.1]
    | ok delivered =>
      cases delivered with
      | none =>
        rw [answer] at first second
        rw [Source.drain_end answer] at midway
        have same := first.2.2.trans second.2.2.symm
        have ended : Abreast C.like (asked ++ [.pulled])
            (fun left left' => C.Left left left' ∧ (p.refill L S base).2 = (q.refill M S base).2)
            (fun asked a b => C.Standing asked ⟨a, (p.refill L S base).2⟩
              ⟨b, (q.refill M S base).2⟩) (p.finish L) (q.finish M) :=
          (C.finish midway beside).imp (fun left left' remain => ⟨remain, same⟩)
            fun a b ended beside => ⟨same, beside, absurd (Progress.phase_of_finish ended),
              absurd (Progress.phase_of_finish ended)⟩
        exact ended.after rfl ⟨first.1, first.2.1⟩ ⟨second.1, second.2.1⟩
      | some token =>
        rw [Source.drain_token answer] at midway ends
        exact C.refill_token answer rfl ends midway beside
          fun midway beside => ih _ ⟨token, answer, rfl⟩ ends midway beside

/-- How two cursors are left, at a fault too. -/
def Remain (C : Comparison L M raw ending) (one : Layout.Cursor δ μ S.State)
    (two : Layout.Cursor ε ν S.State) : Prop :=
  one.base = two.base ∧ C.Left one.progress two.progress

/-- A token that is delivered is gone, and that is all. -/
theorem Standing.deliver {C : Comparison L M raw ending} {asked : List Event} {p : Progress δ μ}
    {q : Progress ε ν} {base base' : S.State} (standing : C.Standing asked ⟨p, base⟩ ⟨q, base'⟩)
    (queue : List Token) :
    C.Standing asked ⟨{ p with queue }, base⟩ ⟨{ q with queue }, base'⟩ := by
  refine ⟨standing.base, C.delivered standing.beside queue, fun unfinished => ?_, standing.ending⟩
  obtain ⟨words, _, known, split, ⟨start, inside, indentation, margin⟩, pulls⟩ :=
    standing.midway unfinished
  exact ⟨words, unfinished, known, split, ⟨start, inside, indentation, margin⟩, pulls⟩

/-- Asked for a token, two layouts that stand beside each other keep abreast. -/
theorem next (C : Comparison L M raw ending) {asked : List Event}
    {one : Layout.Cursor δ μ S.State} {two : Layout.Cursor ε ν S.State}
    (standing : C.Standing asked one two) :
    Abreast C.like asked (fun _ _ => C.Remain (L.next S one).2 (M.next S two).2)
      (fun asked token other => token = other ∧
        C.Standing asked (L.next S one).2 (M.next S two).2)
      (L.next S one).1 (M.next S two).1 := by
  obtain ⟨p, base⟩ := one
  obtain ⟨q, base'⟩ := two
  obtain rfl : base = base' := standing.base
  have ready : p.queue = q.queue := C.queue standing.beside
  cases queued : p.queue with
  | cons token queue =>
    have first : L.next S ⟨p, base⟩ = _ := Layout.next_ready queued
    have second : M.next S ⟨q, base⟩ = _ := Layout.next_ready (ready.symm.trans queued)
    rw [first, second]
    exact .pure ⟨rfl, standing.deliver queue⟩
  | nil =>
    by_cases finished : p.phase = .finished
    · have first : L.next S ⟨p, base⟩ = _ := Layout.next_finished queued finished
      have second : M.next S ⟨q, base⟩ = _ := Layout.next_finished (ready.symm.trans queued)
        ((C.phase standing.beside).symm.trans finished)
      rw [first, second]
      exact .pure ⟨rfl, standing⟩
    · have unfinished : q.phase ≠ .finished := C.phase standing.beside ▸ finished
      have notes : (L.next S ⟨p, base⟩).1.notes = (p.refill L S base).1.notes :=
        Layout.notes_next queued finished
      have notes' : (M.next S ⟨q, base⟩).1.notes = (q.refill M S base).1.notes :=
        Layout.notes_next (ready.symm.trans queued) unfinished
      obtain ⟨words, midway⟩ := standing.midway finished
      cases C.refill (standing.ending finished) midway standing.beside with
      | results first second same asked =>
        obtain ⟨answer, state⟩ : (L.next S ⟨p, base⟩).1.outcome = _ ∧ (L.next S ⟨p, base⟩).2 = _ :=
          Layout.next_filled queued finished first
        obtain ⟨answer', state'⟩ :
            (M.next S ⟨q, base⟩).1.outcome = _ ∧ (M.next S ⟨q, base⟩).2 = _ :=
          Layout.next_filled (ready.symm.trans queued) unfinished second
        refine .results answer answer' ⟨?_, ?_⟩ (by rw [notes, notes']; exact asked)
        · rw [C.queue same.beside]
        · rw [state, state', notes, ← C.queue same.beside]
          exact same.deliver _
      | faults first second alike remain asked =>
        have emptied : q.queue = [] := ready.symm.trans queued
        obtain ⟨_, result⟩ := outcome_eq_error.1
          (Layout.next_refused queued finished (outcome_eq_error.2 ⟨_, first⟩))
        obtain ⟨_, result'⟩ := outcome_eq_error.1
          (Layout.next_refused emptied unfinished (outcome_eq_error.2 ⟨_, second⟩))
        refine .faults result result' (notes ▸ alike) ?_ (by rw [notes, notes']; exact asked)
        rw [Layout.left_by_refused queued finished first,
          Layout.left_by_refused emptied unfinished second]
        exact ⟨remain.2, remain.1⟩
      | alone first own asked =>
        refine .alone (Layout.next_refused queued finished first) (notes ▸ own) ?_
        rw [notes, notes']
        exact asked

/-- What two runs of calls came to: the answers up to a fault, the fault, what happened, and where
they are left. Either they came to the same, or to faults that are alike; or the first has a fault
of its own. -/
inductive Together (C : Comparison L M raw ending) (past : List Event) :
    List (Option Token) × Option Fault × List Note × Layout.Cursor δ μ S.State →
    List (Option Token) × Option Fault × List Note × Layout.Cursor ε ν S.State → Prop where
  | onwards {answers : List (Option Token)} {notes notes' : List Note}
      {one : Layout.Cursor δ μ S.State} {two : Layout.Cursor ε ν S.State}
      (standing : C.Standing (past ++ questions notes) one two)
      (asked : (questions notes).filter C.like.shared = (questions notes').filter C.like.shared) :
      Together C past (answers, none, notes, one) (answers, none, notes', two)
  | stopped {answers : List (Option Token)} {fault other : Fault} {notes notes' : List Note}
      {one : Layout.Cursor δ μ S.State} {two : Layout.Cursor ε ν S.State}
      (alike : C.like.Alike (past ++ questions notes) fault other) (remain : C.Remain one two)
      (asked : (questions notes).filter C.like.shared = (questions notes').filter C.like.shared) :
      Together C past (answers, some fault, notes, one) (answers, some other, notes', two)
  | alone {answers answers' : List (Option Token)} {fault : Fault} {ending' : Option Fault}
      {notes notes' : List Note}
      {one : Layout.Cursor δ μ S.State} {two : Layout.Cursor ε ν S.State}
      (own : C.like.Alone (past ++ questions notes) fault) (comes : answers <+: answers')
      (asked : (questions notes).filter C.like.shared <+:
        (questions notes').filter C.like.shared) :
      Together C past (answers, some fault, notes, one) (answers', ending', notes', two)

/-- Calls that come together do so after the same answer too. -/
theorem Together.answered {C : Comparison L M raw ending} {past : List Event}
    {first : List (Option Token) × Option Fault × List Note × Layout.Cursor δ μ S.State}
    {second : List (Option Token) × Option Fault × List Note × Layout.Cursor ε ν S.State}
    {notes notes' : List Note} (answer : Option Token)
    (asked : (questions notes).filter C.like.shared = (questions notes').filter C.like.shared)
    (together : C.Together (past ++ questions notes) first second) :
    C.Together past (answer :: first.1, first.2.1, notes ++ first.2.2.1, first.2.2.2)
      (answer :: second.1, second.2.1, notes' ++ second.2.2.1, second.2.2.2) := by
  cases together with
  | onwards standing further =>
    rw [List.append_assoc, ← questions_append] at standing
    refine .onwards standing ?_
    simp only [questions_append, List.filter_append, asked, further]
  | stopped alike remain further =>
    rw [List.append_assoc, ← questions_append] at alike
    refine .stopped alike remain ?_
    simp only [questions_append, List.filter_append, asked, further]
  | alone own comes further =>
    rw [List.append_assoc, ← questions_append] at own
    refine .alone own ((List.prefix_cons_inj _).2 comes) ?_
    simp only [questions_append, List.filter_append, asked]
    exact (List.prefix_append_right_inj _).2 further

section

variable [DecidableEq δ] [DecidableEq μ] [DecidableEq ε] [DecidableEq ν]
  {asked : List Event} {one : Layout.Cursor δ μ S.State} {two : Layout.Cursor ε ν S.State}

/-- Any number of calls keeps two layouts abreast. -/
theorem calls (C : Comparison L M raw ending) (standing : C.Standing asked one two) (count : Nat) :
    C.Together asked ((L.source S).take count one) ((M.source S).take count two) := by
  induction count generalizing asked one two with
  | zero =>
    refine .onwards ?_ rfl
    rw [show questions [] = [] from rfl, List.append_nil]
    exact standing
  | succ count ih =>
    cases C.next standing with
    | @results answer other first second same common =>
      obtain ⟨rfl, standing⟩ := same
      rw [Source.take_answered (S := L.source S) count first,
        Source.take_answered (S := M.source S) count second]
      exact (ih standing).answered answer common
    | faults first second alike remain common =>
      rw [Source.take_refused (S := L.source S) count (outcome_eq_error.2 ⟨_, first⟩),
        Source.take_refused (S := M.source S) count (outcome_eq_error.2 ⟨_, second⟩)]
      exact .stopped alike remain common
    | alone first own common =>
      rw [Source.take_refused (S := L.source S) count first]
      refine .alone own List.nil_prefix (common.trans ?_)
      exact ((M.source S).notes_take count two).filterMap _ |>.filter _

/-- What a reading comes to. -/
def account {T : Source} (reading : T.Reading) :
    List (Option Token) × Option Fault × List Note × T.State :=
  (reading.tokens.map some, reading.fault, reading.notes, reading.state)

/-- Reading to the end keeps two layouts abreast. -/
theorem reading (C : Comparison L M raw ending) (standing : C.Standing asked one two) :
    C.Together asked (account ((L.source S).drain one)) (account ((M.source S).drain two)) := by
  induction one using (L.source S).finite.induction generalizing asked two with
  | _ one ih =>
    cases C.next standing with
    | @results answer other first second same common =>
      obtain ⟨rfl, standing⟩ := same
      cases answer with
      | none =>
        rw [Source.drain_end (S := L.source S) first, Source.drain_end (S := M.source S) second]
        exact .onwards standing common
      | some token =>
        rw [Source.drain_token (S := L.source S) first, Source.drain_token (S := M.source S) second]
        exact (ih _ ⟨token, first, rfl⟩ standing).answered (some token) common
    | faults first second alike remain common =>
      rw [Source.drain_fault (S := L.source S) (outcome_eq_error.2 ⟨_, first⟩),
        Source.drain_fault (S := M.source S) (outcome_eq_error.2 ⟨_, second⟩)]
      exact .stopped alike remain common
    | alone first own common =>
      rw [Source.drain_fault (S := L.source S) first]
      refine .alone own List.nil_prefix (common.trans ?_)
      exact ((M.source S).notes_drain two).filterMap _ |>.filter _

end

/-- What asks nothing may come before. -/
theorem Together.after {C : Comparison L M raw ending} {past : List Event}
    {first : List (Option Token) × Option Fault × List Note × Layout.Cursor δ μ S.State}
    {second : List (Option Token) × Option Fault × List Note × Layout.Cursor ε ν S.State}
    (together : C.Together past first second) {notes notes' : List Note}
    (quiet : questions notes = []) (quiet' : questions notes' = []) :
    C.Together past (first.1, first.2.1, notes ++ first.2.2.1, first.2.2.2)
      (second.1, second.2.1, notes' ++ second.2.2.1, second.2.2.2) := by
  have silent (more : List Note) : questions (notes ++ more) = questions more := by
    rw [questions_append, quiet, List.nil_append]
  have silent' (more : List Note) : questions (notes' ++ more) = questions more := by
    rw [questions_append, quiet', List.nil_append]
  cases together with
  | onwards standing asked =>
    refine .onwards ?_ ?_
    · rwa [silent]
    · rw [silent, silent', asked]
  | stopped alike remain asked =>
    refine .stopped ?_ remain ?_
    · rwa [silent]
    · rw [silent, silent', asked]
  | alone own comes asked =>
    refine .alone ?_ comes ?_
    · rwa [silent]
    · rwa [silent, silent']

/-- Right after a reset two layouts stand beside each other. -/
theorem standing_fresh {base : S.State}
    (C : Comparison L M (S.drain base).tokens (S.drain base).fault) :
    C.Standing [] ⟨L.fresh, base⟩ ⟨M.fresh, base⟩ :=
  ⟨rfl, C.fresh, fun unfinished => ⟨[], unfinished, by simp, rfl, Progress.reads_fresh L, rfl⟩,
    fun _ => rfl⟩

/-- On a text that the source accepts, two layouts keep abreast to the end, and call by call. -/
theorem together [DecidableEq δ] [DecidableEq μ] [DecidableEq ε] [DecidableEq ν]
    {base : S.State} {text : String}
    (C : Comparison L M (S.readFrom base text).tokens (S.readFrom base text).fault)
    (accepted : (S.reset base text none).1.outcome = .ok ()) (p : Progress δ μ)
    (q : Progress ε ν) :
    C.Together [] (account ((L.source S).readFrom ⟨p, base⟩ text))
      (account ((M.source S).readFrom ⟨q, base⟩ text)) ∧
    ∀ count, C.Together [] ((L.source S).take count ((L.source S).reset ⟨p, base⟩ text none).2)
      ((M.source S).take count ((M.source S).reset ⟨q, base⟩ text none).2) := by
  obtain ⟨started, fresh, _⟩ : ((L.source S).reset ⟨p, base⟩ text none).1.outcome = .ok () ∧
    ((L.source S).reset ⟨p, base⟩ text none).2 = ⟨L.fresh, (S.reset base text none).2⟩ ∧ _ :=
      Layout.reset_fresh accepted
  obtain ⟨started', fresh', _⟩ : ((M.source S).reset ⟨q, base⟩ text none).1.outcome = .ok () ∧
    ((M.source S).reset ⟨q, base⟩ text none).2 = ⟨M.fresh, (S.reset base text none).2⟩ ∧ _ :=
      Layout.reset_fresh accepted
  have quiet : questions (L.reset S ⟨p, base⟩ text none).1.notes = [] := L.questions_reset text none
  have quiet' : questions (M.reset S ⟨q, base⟩ text none).1.notes = [] :=
    M.questions_reset text none
  revert C
  rw [Source.readFrom_accepted accepted]
  intro C
  have standing := C.standing_fresh
  constructor
  · rw [Source.readFrom_accepted started, Source.readFrom_accepted started', fresh, fresh']
    exact (C.reading standing).after quiet quiet'
  · rw [fresh, fresh']
    exact C.calls standing

end Comparison

end Offside
