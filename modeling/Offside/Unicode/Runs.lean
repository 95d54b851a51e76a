/-! Sets of characters as tables of runs of code points. A table is sorted, so a search ends at
the first run that starts past the character. -/
namespace Offside.Unicode

/-- The first and last code points of the runs of a set, in ascending order. -/
abbrev Runs := List (Nat × Nat)

/-- Whether a code point lies in one of the runs. -/
def Runs.contains : Runs → Nat → Bool
  | [], _ => false
  | (first, last) :: rest, code =>
    if code < first then false else code ≤ last || Runs.contains rest code

end Offside.Unicode
