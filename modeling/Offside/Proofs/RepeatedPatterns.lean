import Offside.Pattern.Basic

/-! What repeated patterns match. The body of a repetition that can match a text in one way only
takes a piece whose length the text tells. Trying again where a later part fails then finds nothing
new, so a repetition that has to match at least once, and before nothing else, matches the longest
row of such pieces. -/
namespace Offside.Pattern

/-- A matcher goes one way: it takes a piece as long as the text tells, and fails where there is
none. -/
structure OneWay (step : Matcher) (unit : List Char → Nat) : Prop where
  nothing : unit [] = 0
  step : ∀ n s next,
    step n s next = if unit s = 0 then none else next (n + unit s) (s.drop (unit s))

/-- How far pieces follow each other from the start of a text. -/
def rowLength (unit : List Char → Nat) (s : List Char) : Nat :=
  if unit s = 0 ∨ s = [] then 0 else unit s + rowLength unit (s.drop (unit s))
termination_by s.length
decreasing_by
  rename_i piece
  have := List.length_pos_iff.2 (not_or.1 piece).2
  have := (not_or.1 piece).1
  simp only [List.length_drop]
  omega

/-- One character of those that a test lets pass. -/
def oneUnit (passes : Char → Bool) : List Char → Nat
  | c :: _ => if passes c then 1 else 0
  | [] => 0

/-- A line feed, with or without a carriage return before it. -/
def breakUnit : List Char → Nat
  | '\n' :: _ => 1
  | '\r' :: '\n' :: _ => 2
  | _ => 0

section

variable {step : Matcher} {unit : List Char → Nat} {s : List Char}

theorem rowLength_none (none : unit s = 0) : rowLength unit s = 0 := by
  rw [rowLength, if_pos (.inl none)]

theorem rowLength_some (way : unit [] = 0) (some : unit s ≠ 0) :
    rowLength unit s = unit s + rowLength unit (s.drop (unit s)) := by
  have nonempty : s ≠ [] := by
    rintro rfl
    exact some way
  rw [rowLength, if_neg (not_or.2 ⟨some, nonempty⟩)]

/-- Where what comes after the repetition never fails, the repetition takes all pieces there are. -/
theorem greedy_oneWay (way : OneWay step unit) {next : Nat → List Char → Option Nat}
    (passes : ∀ n s, (next n s).isSome) (rounds : List Char) (n : Nat) (s : List Char)
    (enough : s.length ≤ rounds.length) :
    greedy step rounds none n s next = next (n + rowLength unit s) (s.drop (rowLength unit s)) := by
  induction rounds generalizing n s with
  | nil =>
    obtain rfl := List.eq_nil_of_length_eq_zero (Nat.le_zero.1 enough)
    simp [greedy, rowLength_none way.nothing]
  | cons round rounds ih =>
    by_cases none : unit s = 0
    · simp [greedy, way.step, none, rowLength_none none]
    · have nonempty : 0 < s.length := by
        refine List.length_pos_iff.2 ?_
        rintro rfl
        exact none way.nothing
      have shorter : (s.drop (unit s)).length ≤ rounds.length := by
        simp only [List.length_drop, List.length_cons] at enough ⊢
        omega
      have rest := ih (n + unit s) (s.drop (unit s)) shorter
      obtain ⟨length, found⟩ := Option.isSome_iff_exists.1 <| passes
        (n + unit s + rowLength unit (s.drop (unit s)))
        ((s.drop (unit s)).drop (rowLength unit (s.drop (unit s))))
      rw [found] at rest
      have advanced : n < n + unit s := by omega
      rw [rowLength_some way.nothing none, ← Nat.add_assoc, ← List.drop_drop, found]
      simp [greedy, way.step, none, advanced, rest]

/-- A pattern that is repeated at least once matches the longest row of its pieces. -/
theorem matchLength_many {ignoreCase : Bool} {p : Pattern}
    (way : OneWay (p.run ignoreCase) unit) (s : List Char) :
    (many p 1 none).matchLength ignoreCase s =
      if unit s = 0 then none else some (rowLength unit s) := by
  simp only [matchLength, run, times, Option.map_none, way.step]
  by_cases none : unit s = 0
  · simp [none]
  · simp only [none, if_false, Nat.zero_add]
    rw [greedy_oneWay way (fun _ _ => rfl) _ _ _ (Nat.le_refl _), rowLength_some way.nothing none]

end

/-- A text that pieces make up, each of which is told whatever comes after it. -/
inductive Row (unit : List Char → Nat) : List Char → Prop where
  | nil : Row unit []
  | cons {piece rest : List Char} (nonempty : piece ≠ [])
      (told : ∀ after, unit (piece ++ after) = piece.length) (row : Row unit rest) :
      Row unit (piece ++ rest)

/-- A row that nothing goes on is the longest one. -/
theorem Row.rowLength_append {unit : List Char → Nat} {row rest : List Char} (made : Row unit row)
    (nothing : unit [] = 0) (stops : unit rest = 0) :
    rowLength unit (row ++ rest) = row.length := by
  induction made with
  | nil => exact rowLength_none stops
  | @cons piece more nonempty told row ih =>
    have first : unit (piece ++ (more ++ rest)) = piece.length := told _
    have some : unit (piece ++ (more ++ rest)) ≠ 0 := by
      rw [first]
      exact mt List.eq_nil_of_length_eq_zero nonempty
    rw [List.append_assoc, rowLength_some nothing some, first, List.drop_left, ih,
      List.length_append]

/-- Every text begins with a row that nothing goes on, where pieces are told by themselves. -/
theorem exists_row {unit : List Char → Nat}
    (pieces : ∀ s, unit s ≠ 0 → ∃ piece rest, s = piece ++ rest ∧ piece ≠ [] ∧
      ∀ after, unit (piece ++ after) = piece.length) (s : List Char) :
    ∃ row rest, s = row ++ rest ∧ Row unit row ∧ unit rest = 0 := by
  induction length : s.length using Nat.strongRecOn generalizing s with
  | _ count ih =>
    by_cases stops : unit s = 0
    · exact ⟨[], s, rfl, .nil, stops⟩
    · obtain ⟨piece, rest, rfl, nonempty, told⟩ := pieces s stops
      have shorter : rest.length < count := by
        have := List.length_pos_iff.2 nonempty
        simp only [← length, List.length_append]
        omega
      obtain ⟨row, rest, rfl, made, stops⟩ := ih _ shorter rest rfl
      exact ⟨piece ++ row, rest, (List.append_assoc ..).symm, .cons nonempty told made, stops⟩

theorem oneWay_one (ignoreCase : Bool) (set : CharSet) :
    OneWay ((one set).run ignoreCase) (oneUnit (set.contains ignoreCase)) := by
  refine ⟨rfl, fun n s next => ?_⟩
  cases s with
  | nil => rfl
  | cons c rest => cases inside : set.contains ignoreCase c <;> simp [run, oneUnit, inside]

theorem oneUnit_ne_zero {passes : Char → Bool} {s : List Char} :
    oneUnit passes s ≠ 0 ↔ ∃ c rest, s = c :: rest ∧ passes c = true := by
  cases s <;> simp [oneUnit]

theorem breakUnit_ne_zero {s : List Char} :
    breakUnit s ≠ 0 ↔ (∃ rest, s = '\n' :: rest) ∨ ∃ rest, s = '\r' :: '\n' :: rest := by
  fun_cases breakUnit s with
  | case1 rest => simp
  | case2 rest => simp
  | case3 s feed both => simpa using ⟨feed, both⟩

section

variable {ignoreCase : Bool} {set : CharSet} {s piece rest : List Char}

theorem row_of_passes {passes : Char → Bool} (all : ∀ c ∈ piece, passes c = true) :
    Row (oneUnit passes) piece := by
  induction piece with
  | nil => exact .nil
  | cons c piece ih =>
    obtain ⟨first, all⟩ := List.forall_mem_cons.1 all
    exact .cons (List.cons_ne_nil c []) (fun after => by simp [oneUnit, first]) (ih all)

/-- A repeated set matches all characters up to one that is not of the set. -/
theorem matchLength_set (nonempty : piece ≠ [])
    (all : ∀ c ∈ piece, set.contains ignoreCase c = true)
    (stops : ∀ c ∈ rest.head?, set.contains ignoreCase c = false) :
    (many (one set) 1 none).matchLength ignoreCase (piece ++ rest) = some piece.length := by
  have ends : oneUnit (set.contains ignoreCase) rest = 0 := by
    cases rest with
    | nil => rfl
    | cons c rest => simp [oneUnit, stops c rfl]
  have begins : oneUnit (set.contains ignoreCase) (piece ++ rest) ≠ 0 := by
    obtain ⟨c, more, rfl⟩ := List.exists_cons_of_ne_nil nonempty
    exact oneUnit_ne_zero.2 ⟨c, more ++ rest, rfl, all c List.mem_cons_self⟩
  rw [matchLength_many (oneWay_one ignoreCase set), if_neg begins,
    (row_of_passes all).rowLength_append rfl ends]

theorem matchLength_set_none (stops : ∀ c ∈ s.head?, set.contains ignoreCase c = false) :
    (many (one set) 1 none).matchLength ignoreCase s = none := by
  rw [matchLength_many (oneWay_one ignoreCase set), if_pos]
  cases s with
  | nil => rfl
  | cons c rest => simp [oneUnit, stops c rfl]

theorem matchLength_char (c d : Char) (rest : List Char) :
    (char c).matchLength false (d :: rest) = if d = c then some 1 else none := by
  by_cases same : d = c <;>
    simp [matchLength, char, run, CharSet.contains, CharClass.contains, same]

end

/-- A line feed, which a carriage return may precede. -/
def lineEnd : Pattern := seq (many (char '\r') 0 (some 1)) (char '\n')

/-- A carriage return without a line feed is tried and given back, which leaves no match. -/
theorem oneWay_lineEnd : OneWay (lineEnd.run false) breakUnit := by
  have single (c x : Char) : CharSet.contains false { classes := [.single c] } x = (x == c) := by
    simp [CharSet.contains, CharClass.contains]
  refine ⟨rfl, fun n s next => ?_⟩
  fun_cases breakUnit s with
  | case1 rest => simp [lineEnd, char, run, times, greedy, single]
  | case2 rest =>
    cases answer : next (n + 2) rest <;>
      simp [lineEnd, char, run, times, greedy, single, answer]
  | case3 s feed both =>
    cases s with
    | nil => rfl
    | cons c rest =>
      have other : c ≠ '\n' := fun same => feed rest (by rw [same])
      by_cases back : c = '\r'
      · subst back
        cases rest with
        | nil => simp [lineEnd, char, run, times, greedy, single]
        | cons d rest =>
          have apart : d ≠ '\n' := fun same => both rest (by rw [same])
          simp [lineEnd, char, run, times, greedy, single, apart]
      · simp [lineEnd, char, run, times, greedy, single, back, other]

end Offside.Pattern
