import Offside.Unicode.Runs

/-! White space: the separators of Unicode and the ASCII controls that separate text, the four
information separators among them. -/
namespace Offside.Unicode

/-- The runs of white space. -/
def spaces : Runs := [
  (0x9, 0xD), (0x1C, 0x20), (0x85, 0x85), (0xA0, 0xA0), (0x1680, 0x1680), (0x2000, 0x200A),
  (0x2028, 0x2029), (0x202F, 0x202F), (0x205F, 0x205F), (0x3000, 0x3000)]

/-- White space of any kind. -/
def isSpace (c : Char) : Bool :=
  spaces.contains c.toNat

end Offside.Unicode
