/-! Decoding UTF-8. Bytes that are no character are refused, and the refusal says where the
offending bytes are and what is wrong with them: the first byte cannot start a character, a later
byte does not continue it, or the input ends inside it. The bytes blamed are those that were
good so far, the first one at least. -/
namespace Offside.Text

/-- What is wrong with a byte sequence. -/
inductive Utf8Flaw where
  /-- No character starts with this byte. -/
  | start
  /-- The bytes before this one do not continue with it. -/
  | continuation
  /-- The input ends inside a character. -/
  | unfinished
deriving DecidableEq, Repr

/-- A place where bytes are no text. -/
structure Utf8Error where
  /-- The flaw found. -/
  flaw : Utf8Flaw
  /-- The first byte blamed. -/
  byte : UInt8
  /-- How many bytes come before it. -/
  position : Nat
  /-- How many bytes are blamed. -/
  width : Nat
deriving DecidableEq, Repr

/-- What a first byte announces: how many bytes follow, the bounds of the first of these, and the
bits that the first byte itself carries. -/
structure Utf8Lead where
  /-- How many bytes follow. -/
  followers : Nat
  /-- The least value of the byte right after the first. -/
  low : UInt8
  /-- The greatest value of the byte right after the first. -/
  high : UInt8
  /-- The bits of the code point in the first byte. -/
  bits : Nat
deriving DecidableEq, Repr

/-- Reads a first byte. Bytes that only overlong forms, surrogates or code points past the last
one would need are left out. -/
def utf8Lead? (byte : UInt8) : Option Utf8Lead :=
  let n := byte.toNat
  if n < 0x80 then some ⟨0, 0, 0, n⟩
  else if n < 0xC2 then none
  else if n < 0xE0 then some ⟨1, 0x80, 0xBF, n - 0xC0⟩
  else if n < 0xF0 then
    some ⟨2, if n = 0xE0 then 0xA0 else 0x80, if n = 0xED then 0x9F else 0xBF, n - 0xE0⟩
  else if n < 0xF5 then
    some ⟨3, if n = 0xF0 then 0x90 else 0x80, if n = 0xF4 then 0x8F else 0xBF, n - 0xF0⟩
  else none

/-- Reads the bytes that follow a first byte: the code point and how many bytes were good, or the
flaw and how many bytes were good before it. -/
def utf8Follow (bits : Nat) (low high : UInt8) : Nat → List UInt8 → Except (Utf8Flaw × Nat) Nat
  | 0, _ => .ok bits
  | _ + 1, [] => .error (.unfinished, 0)
  | more + 1, byte :: rest =>
    if low ≤ byte ∧ byte ≤ high then
      match utf8Follow (bits * 64 + (byte.toNat - 0x80)) 0x80 0xBF more rest with
      | .ok code => .ok code
      | .error (flaw, good) => .error (flaw, good + 1)
    else .error (.continuation, 0)

/-- Decodes bytes, the first of which is at the given position. `skip` counts the bytes that
belong to a character that is already read. -/
def decodeUtf8From (position skip : Nat) : List UInt8 → Except Utf8Error (List Char)
  | [] => .ok []
  | byte :: rest =>
    match skip with
    | left + 1 => decodeUtf8From (position + 1) left rest
    | 0 =>
      match utf8Lead? byte with
      | none => .error ⟨.start, byte, position, 1⟩
      | some lead =>
        match utf8Follow lead.bits lead.low lead.high lead.followers rest with
        | .error (flaw, good) => .error ⟨flaw, byte, position, good + 1⟩
        | .ok code =>
          match decodeUtf8From (position + 1) lead.followers rest with
          | .ok chars => .ok (Char.ofNat code :: chars)
          | .error e => .error e

/-- The characters that bytes stand for. -/
def decodeUtf8 (bytes : List UInt8) : Except Utf8Error (List Char) :=
  decodeUtf8From 0 0 bytes

/-- What is wrong, in words. -/
def Utf8Flaw.message : Utf8Flaw → String
  | .start => "invalid start byte"
  | .continuation => "invalid continuation byte"
  | .unfinished => "unexpected end of data"

end Offside.Text
