import Offside.Unicode.Decimal
import Offside.Unicode.Space

/-! Reading whole numbers as people type them: white space around the number, one sign, digits
of any script, and single low lines between digits. There is a limit to the number of digits. -/
namespace Offside.Text

/-- The value of a run of digits, given the value of the digits before it. A low line has to
stand between two digits. -/
def digitsValue? (value : Nat) : List Char → Option Nat
  | [] => some value
  | '_' :: c :: rest => do digitsValue? (value * 10 + (← Unicode.digitValue? c)) rest
  | c :: rest => do digitsValue? (value * 10 + (← Unicode.digitValue? c)) rest

/-- The value of a numeral without a sign. -/
def naturalValue? : List Char → Option Nat
  | [] => none
  | c :: rest => do digitsValue? (← Unicode.digitValue? c) rest

/-- White space that may surround a numeral; the information separators may not. -/
def surrounds (c : Char) : Bool :=
  Unicode.isSpace c && !('\x1c' ≤ c && c ≤ '\x1f')

/-- The number of digits from which on a numeral is too long. -/
def digitLimit : Nat := 4301

/-- The value of a numeral, which may have a sign and white space around it. -/
def integerValue? (text : String) : Option Int :=
  let inner := ((text.toList.dropWhile surrounds).reverse.dropWhile surrounds).reverse
  if digitLimit ≤ inner.countP Unicode.isDecimal then none
  else match inner with
  | '-' :: digits => (naturalValue? digits).map fun n => -(n : Int)
  | '+' :: digits => (naturalValue? digits).map fun n => (n : Int)
  | digits => (naturalValue? digits).map fun n => (n : Int)

end Offside.Text
