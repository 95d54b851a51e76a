import Mathlib.Algebra.Group.Nat.Defs
import Mathlib.Tactic.SplitIfs
import Offside.Text.Quoted

/-! Quoted texts read back. Between its quotes a text is a row of pieces, one for each of its
characters, and where a piece ends is told by the piece itself. So a quoted text is that of one text
only; and as a line feed is written as an escape, it never holds one. -/
namespace Offside.Text

/-- The value of a hexadecimal digit. -/
def hexValue (c : Char) : Nat :=
  if c.isDigit then c.toNat - '0'.toNat else c.toNat - 'a'.toNat + 10

/-- The number that hexadecimal digits stand for. -/
def hexNumber (digits : List Char) : Nat :=
  digits.foldl (fun n c => n * 16 + hexValue c) 0

/-- Reads an escape by code point after its letter. -/
def readCode (count : Nat) (s : List Char) : Char × List Char :=
  (Char.ofNat (hexNumber (s.take count)), s.drop count)

/-- Reads what is written for one character. -/
def readChar? : List Char → Option (Char × List Char)
  | [] => none
  | '\\' :: 'n' :: rest => some ('\n', rest)
  | '\\' :: 'r' :: rest => some ('\r', rest)
  | '\\' :: 't' :: rest => some ('\t', rest)
  | '\\' :: 'x' :: rest => some (readCode 2 rest)
  | '\\' :: 'u' :: rest => some (readCode 4 rest)
  | '\\' :: 'U' :: rest => some (readCode 8 rest)
  | '\\' :: c :: rest => some (c, rest)
  | c :: rest => some (c, rest)

theorem length_of_readChar? {s rest : List Char} {c : Char} (read : readChar? s = some (c, rest)) :
    rest.length < s.length := by
  unfold readChar? at read
  split at read <;> cases read <;> simp <;> omega

/-- Reads what is written for several characters. -/
def readChars (s : List Char) : List Char :=
  match _read : readChar? s with
  | none => []
  | some (c, rest) => c :: readChars rest
termination_by s.length
decreasing_by exact length_of_readChar? _read

/-- The text that a quoted text stands for. -/
def unquoted (s : List Char) : String :=
  String.ofList (readChars s.tail.dropLast)

theorem length_hexDigits (count n : Nat) : (hexDigits count n).length = count := by
  induction count generalizing n with
  | zero => rfl
  | succ count ih => simp [hexDigits, ih]

theorem hexValue_digitChar {n : Nat} (digit : n < 16) : hexValue (Nat.digitChar n) = n := by
  have all : ∀ n < 16, hexValue (Nat.digitChar n) = n := by decide
  exact all n digit

theorem hexNumber_hexDigits (count n : Nat) : hexNumber (hexDigits count n) = n % 16 ^ count := by
  induction count generalizing n with
  | zero => simp [hexDigits, hexNumber, Nat.mod_one]
  | succ count ih =>
    have high : hexNumber (hexDigits count (n / 16)) = n / 16 % 16 ^ count := ih (n / 16)
    have low := hexValue_digitChar (Nat.mod_lt n (by decide : 0 < 16))
    have whole : n % 16 ^ (count + 1) = n % 16 + 16 * (n / 16 % 16 ^ count) := by
      rw [Nat.pow_succ, Nat.mul_comm, Nat.mod_mul]
    simp only [hexNumber, hexDigits, List.foldl_append, List.foldl_cons, List.foldl_nil] at high ⊢
    rw [high, low, whole]
    omega

theorem readCode_hexDigits {count : Nat} {c : Char} (fits : c.toNat < 16 ^ count)
    (rest : List Char) : readCode count (hexDigits count c.toNat ++ rest) = (c, rest) := by
  have length := length_hexDigits count c.toNat
  rw [readCode, List.take_left' length, List.drop_left' length, hexNumber_hexDigits,
    Nat.mod_eq_of_lt fits, Char.ofNat_toNat]

/-- The quotes in use. -/
theorem quoteMark_eq (text : List Char) : quoteMark text = '\'' ∨ quoteMark text = '"' := by
  unfold quoteMark
  split <;> simp

/-- What is written for a character is read as that character. -/
theorem readChar?_escape {mark : Char} (quote : mark = '\'' ∨ mark = '"') (c : Char)
    (rest : List Char) : readChar? (escape mark c ++ rest) = some (c, rest) := by
  unfold escape
  split_ifs with marked feed back tab printable
  · rcases marked with rfl | rfl
    · rcases quote with rfl | rfl <;> rfl
    · rfl
  · rw [feed]
    rfl
  · rw [back]
    rfl
  · rw [tab]
    rfl
  · have plain : c ≠ '\\' := fun same => marked (.inr same)
    unfold readChar?
    split <;> simp_all
  · unfold codeEscape
    split_ifs with short middle
    · have fits : c.toNat < 16 ^ 2 := short
      exact congrArg some (readCode_hexDigits fits rest)
    · have fits : c.toNat < 16 ^ 4 := middle
      exact congrArg some (readCode_hexDigits fits rest)
    · have fits : c.toNat < 16 ^ 8 := c.val.toNat_lt
      exact congrArg some (readCode_hexDigits fits rest)

theorem readChars_escape {mark : Char} (quote : mark = '\'' ∨ mark = '"') (text : List Char) :
    readChars (text.flatMap (escape mark)) = text := by
  induction text with
  | nil =>
    rw [List.flatMap_nil, readChars]
    rfl
  | cons c text ih =>
    have read := readChar?_escape quote c (text.flatMap (escape mark))
    rw [List.flatMap_cons, readChars]
    split
    · simp_all
    · simp_all

/-- A quoted text stands for the text that was quoted. -/
theorem unquoted_quoted (text : String) : unquoted (quoted text).toList = text := by
  have inner : (quoted text).toList.tail.dropLast =
      text.toList.flatMap (escape (quoteMark text.toList)) := by
    simp [quoted]
  rw [unquoted, inner, readChars_escape (quoteMark_eq _), String.ofList_toList]

theorem hexDigits_alphanumeric (count n : Nat) : ∀ c ∈ hexDigits count n, c.isAlphanum := by
  have all : ∀ n < 16, (Nat.digitChar n).isAlphanum := by decide
  induction count generalizing n with
  | zero => simp [hexDigits]
  | succ count ih =>
    intro c member
    rcases List.mem_append.1 member with high | low
    · exact ih _ c high
    · rw [List.mem_singleton.1 low]
      exact all _ (Nat.mod_lt n (by decide))

theorem feed_notMem_escape {mark : Char} (quote : mark = '\'' ∨ mark = '"') (c : Char) :
    '\n' ∉ escape mark c := by
  have digits (count : Nat) : '\n' ∉ hexDigits count c.toNat := fun member =>
    absurd (hexDigits_alphanumeric count c.toNat _ member) (by decide)
  unfold escape
  split_ifs with marked feed back tab printable
  · rcases marked with rfl | rfl
    · rcases quote with rfl | rfl <;> decide
    · decide
  · decide
  · decide
  · decide
  · simpa using Ne.symm feed
  · unfold codeEscape
    split_ifs <;> simp [digits]

/-- A quoted text is one line. -/
theorem feed_notMem_quoted (text : String) : '\n' ∉ (quoted text).toList := by
  have quote := quoteMark_eq text.toList
  have marks : '\n' ≠ quoteMark text.toList := by
    rcases quote with same | same <;> rw [same] <;> decide
  simp [quoted, marks, feed_notMem_escape quote]

end Offside.Text
