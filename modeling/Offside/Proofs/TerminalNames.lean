import Mathlib
import Offside.Lexicon.Table

/-! Names of terminals. In a grammar the name of a terminal has letters `A` to `Z`, digits and low
lines, and starts with a letter that at most one low line comes before. A table is checked for
something else: that its names are words, in letters of any script, and in upper case. Every name of
a terminal passes that check. What passes it beside them is told by how it looks, and in the ASCII
range that is by its start alone. -/
namespace Offside

namespace Unicode

variable {c : Char}

/-- A character below all runs but the first is looked for in that one. -/
theorem inSteps_cons {run : Nat × Nat × Nat} {runs : List (Nat × Nat × Nat)} {code : Nat}
    (below : ∀ later ∈ runs, code < later.1) :
    inSteps (run :: runs) code = inSteps [run] code := by
  have none : inSteps runs code = false := by
    rw [inSteps, List.any_eq_false]
    rintro ⟨first, last, step⟩ member
    have past := below _ member
    simp [Nat.not_le.2 past]
  simp only [inSteps, List.any_cons, List.any_nil, Bool.or_false] at none ⊢
  rw [none, Bool.or_false]

/-- The upper-case characters of the ASCII range are `A` to `Z`. -/
theorem isUpper_of_ascii (ascii : c.toNat < 0x80) : isUpper c = c.isUpper := by
  have table : uppercase = (0x41, 0x5A, 1) :: uppercase.tail := rfl
  have above : ∀ later ∈ uppercase.tail, 0x80 ≤ later.1 := by decide +kernel
  rw [isUpper, table, inSteps_cons fun later member => ascii.trans_le (above later member)]
  simp [inSteps, Char.isUpper, UInt32.le_iff_toNat_le, Nat.mod_one]

/-- The lower-case characters of the ASCII range are `a` to `z`. -/
theorem isLowerOrTitle_of_ascii (ascii : c.toNat < 0x80) : isLowerOrTitle c = c.isLower := by
  have table : lowercase = (0x61, 0x7A, 1) :: lowercase.tail := rfl
  have above : ∀ later ∈ lowercase.tail, 0x80 ≤ later.1 := by decide +kernel
  rw [isLowerOrTitle, table, inSteps_cons fun later member => ascii.trans_le (above later member)]
  simp [inSteps, Char.isLower, UInt32.le_iff_toNat_le, Nat.mod_one]

theorem isWord_of_ascii (ascii : c.toNat < 0x80) : isWord c = (c.isAlphanum || c == '_') := by
  rw [isWord, isAlphanumeric, if_pos ascii]

/-- A low line has no case. -/
theorem isUpper_low : isUpper '_' = false := isUpper_of_ascii (by decide)

end Unicode

namespace Table

/-- A character after the first letter of a terminal's name: a letter `A` to `Z`, a digit or a low
line. -/
def inName (c : Char) : Bool := c.isUpper || c.isDigit || c == '_'

/-- A name without the low line that may stand before its first letter. -/
def bare : List Char → List Char
  | '_' :: rest => rest
  | name => name

/-- How a grammar names terminals: after a low line or none, a letter `A` to `Z`, and then any
number of such letters, digits and low lines. -/
def NamesTerminal (name : String) : Prop :=
  ∃ first rest, bare name.toList = first :: rest ∧ first.isUpper ∧ ∀ c ∈ rest, inName c

instance (name : String) : Decidable (NamesTerminal name) :=
  match split : bare name.toList with
  | [] => isFalse (by simp [NamesTerminal, split])
  | first :: rest =>
    decidable_of_iff (first.isUpper && rest.all inName) (by simp [NamesTerminal, split])

/-- A word in upper case that passes for the name of a terminal and is none: it holds a character
from outside the ASCII range, or has a digit or one more low line where the first letter should
be. -/
structure Overlooked (name : String) : Prop where
  capital : ∃ c ∈ name.toList, Unicode.isUpper c
  word : ∀ c ∈ name.toList, Unicode.isWord c ∧ Unicode.isLowerOrTitle c = false
  off : (∃ c ∈ name.toList, 0x80 ≤ c.toNat) ∨
    ∃ first rest, bare name.toList = first :: rest ∧ (first.isDigit ∨ first = '_')

variable {name : String} {c : Char}

theorem mem_of_mem_bare {s : List Char} (member : c ∈ bare s) : c ∈ s := by
  unfold bare at member
  split at member
  · exact List.mem_cons_of_mem _ member
  · exact member

theorem mem_bare {s : List Char} (member : c ∈ s) (other : c ≠ '_') : c ∈ bare s := by
  unfold bare
  split
  · exact (List.mem_cons.1 member).resolve_left other
  · exact member

/-- The low line before the first letter is one of the characters of a name. -/
theorem inName_of_bare {s : List Char} (inside : ∀ c ∈ bare s, inName c) : ∀ c ∈ s, inName c := by
  intro c member
  by_cases low : c = '_'
  · rw [low]
    rfl
  · exact inside c (mem_bare member low)

theorem ascii_of_inName (inside : inName c) : c.toNat < 0x80 := by
  simp only [inName, Char.isUpper, Char.isDigit, Bool.or_eq_true, Bool.and_eq_true,
    decide_eq_true_eq, UInt32.le_iff_toNat_le, beq_iff_eq] at inside
  rcases inside with (⟨-, upper⟩ | ⟨-, digit⟩) | rfl
  · exact Nat.lt_of_le_of_lt upper (by decide)
  · exact Nat.lt_of_le_of_lt digit (by decide)
  · decide

/-- In the ASCII range, the characters of a terminal's name are those of a word in upper case. -/
theorem inName_iff (ascii : c.toNat < 0x80) :
    inName c ↔ Unicode.isWord c ∧ Unicode.isLowerOrTitle c = false := by
  have letter : c.isUpper → ¬c.isLower := Char.not_isLower_of_isUpper
  have digit : c.isDigit → ¬c.isLower := by
    simp only [Char.isDigit_iff_toNat, Char.isLower, Bool.and_eq_true, decide_eq_true_eq]
    rintro ⟨-, most⟩ ⟨least, -⟩
    exact absurd (Nat.le_trans least most) (by decide)
  have line : c = '_' → ¬c.isLower := by
    rintro rfl
    decide
  rw [Unicode.isWord_of_ascii ascii, Unicode.isLowerOrTitle_of_ascii ascii]
  simp only [inName, Char.isAlphanum, Char.isAlpha, Bool.or_eq_true, beq_iff_eq]
  grind

/-- A name is admitted when it is a word in upper case. Something is always left of such a word
without its low lines, since these have no case. -/
theorem admits_iff : admits name ↔ (∃ c ∈ name.toList, Unicode.isUpper c) ∧
    ∀ c ∈ name.toList, Unicode.isWord c ∧ Unicode.isLowerOrTitle c = false := by
  have letters : (∃ c ∈ name.toList, Unicode.isUpper c) →
      name.toList.filter (· ≠ '_') ≠ [] := by
    rintro ⟨c, member, capital⟩ none
    have low : c = '_' := by simpa using List.filter_eq_nil_iff.1 none c member
    rw [low, Unicode.isUpper_low] at capital
    cases capital
  have word : (name.toList.filter (· ≠ '_')).all Unicode.isAlphanumeric ↔
      ∀ c ∈ name.toList, Unicode.isWord c := by
    simp [Unicode.isWord, or_comm, Classical.or_iff_not_imp_left]
  rw [admits, isUpperCase, Bool.and_eq_true, Bool.and_eq_true, word, Bool.and_eq_true,
    List.any_eq_true, Bool.not_eq_true', List.any_eq_false, decide_eq_true_eq]
  constructor
  · rintro ⟨⟨⟨capital, upper⟩, -⟩, word⟩
    exact ⟨capital, fun c member => ⟨word c member, by simpa using upper c member⟩⟩
  · rintro ⟨capital, word⟩
    exact ⟨⟨⟨capital, fun c member => by simp [word c member]⟩, letters capital⟩,
      fun c member => (word c member).1⟩

theorem NamesTerminal.exists_letter (named : NamesTerminal name) :
    (∃ c ∈ name.toList, c.isUpper) ∧ ∀ c ∈ name.toList, inName c := by
  obtain ⟨first, rest, split, upper, inside⟩ := named
  have letter : first ∈ bare name.toList := split ▸ List.mem_cons_self
  refine ⟨⟨first, mem_of_mem_bare letter, upper⟩, inName_of_bare ?_⟩
  rw [split]
  exact List.forall_mem_cons.2 ⟨by simp [inName, upper], inside⟩

theorem NamesTerminal.admits (named : NamesTerminal name) : admits name := by
  obtain ⟨⟨first, member, upper⟩, inside⟩ := named.exists_letter
  have ascii (c : Char) (member : c ∈ name.toList) := ascii_of_inName (inside c member)
  refine admits_iff.2 ⟨⟨first, member, ?_⟩, fun c member =>
    (inName_iff (ascii c member)).1 (inside c member)⟩
  rwa [Unicode.isUpper_of_ascii (ascii first member)]

/-- A name that is admitted names a terminal or is overlooked: in the ASCII range it is made of the
right characters, so all depends on the one that it starts with. -/
theorem namesTerminal_or_overlooked (admitted : admits name) :
    NamesTerminal name ∨ Overlooked name := by
  obtain ⟨⟨top, member, capital⟩, word⟩ := admits_iff.1 admitted
  by_cases ascii : ∀ c ∈ name.toList, c.toNat < 0x80
  · -- The letter that is upper-case is no low line, so the name has a first character without it.
    have letter : top ∈ bare name.toList := mem_bare member (by
      rintro rfl
      exact absurd capital (by simp [Unicode.isUpper_low]))
    obtain ⟨first, rest, split⟩ := List.exists_cons_of_ne_nil (List.ne_nil_of_mem letter)
    have inside : ∀ c ∈ first :: rest, inName c := fun c part =>
      have member := mem_of_mem_bare (split ▸ part)
      (inName_iff (ascii c member)).2 (word c member)
    by_cases upper : first.isUpper
    · exact .inl ⟨first, rest, split, upper, fun c part => inside c (.tail _ part)⟩
    · have start := inside first List.mem_cons_self
      refine .inr ⟨⟨top, member, capital⟩, word, .inr ⟨first, rest, split, ?_⟩⟩
      simpa [inName, upper] using start
  · push Not at ascii
    exact .inr ⟨⟨top, member, capital⟩, word, .inl ascii⟩

theorem admits_iff_namesTerminal : admits name ↔ NamesTerminal name ∨ Overlooked name :=
  ⟨namesTerminal_or_overlooked,
    fun either => either.elim (·.admits) fun off => admits_iff.2 ⟨off.capital, off.word⟩⟩

example : NamesTerminal "_TAB_4" ∧ ¬NamesTerminal "__TAB" ∧ admits "__TAB" := by decide

/-- No name is both of these. -/
theorem Overlooked.not_namesTerminal (overlooked : Overlooked name) : ¬NamesTerminal name := by
  intro named
  rcases overlooked.off with ⟨c, member, beyond⟩ | ⟨start, _, again, wrong⟩
  · have inside := named.exists_letter.2 c member
    exact absurd (ascii_of_inName inside) (Nat.not_lt.2 beyond)
  · obtain ⟨first, rest, split, upper, -⟩ := named
    obtain rfl := (List.cons.inj (split.symm.trans again)).1
    rcases wrong with digit | rfl
    · simp only [Char.isUpper, Char.isDigit_iff_toNat, decide_eq_true_eq] at upper digit
      exact absurd (Nat.le_trans upper.1 digit.2) (by decide)
    · exact absurd upper (by decide)

end Table

end Offside
