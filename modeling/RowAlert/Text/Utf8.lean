/-!
# RowAlert.Text.Utf8

Decoding **UTF-8** strictly.

Bytes that are not UTF-8 are refused at the first sequence that cannot be completed. The fault says
which bytes were well-formed so far and why the sequence ends: a byte that starts nothing, a byte
that cannot continue, or the end of the data. The admissible second bytes exclude overlong forms,
surrogates and code points past U+10FFFF, so a sequence with an admissible start always decodes to a
character.
-/

namespace RowAlert.Text.Utf8

/-- Why a sequence of bytes is no character. -/
inductive Reason
  /-- The byte starts no character. -/
  | badStart
  /-- The next byte does not continue the character. -/
  | badContinuation
  /-- The data ends inside the character. -/
  | cutShort
  deriving Repr, DecidableEq

/-- The wording of a reason. -/
def Reason.message : Reason → String
  | .badStart => "invalid start byte"
  | .badContinuation => "invalid continuation byte"
  | .cutShort => "unexpected end of data"

/-- Bytes that are not UTF-8: where the offending sequence starts, its first byte, how many of its
bytes were read, and what is wrong with it. -/
structure Fault where
  position : Nat
  firstByte : UInt8
  length : Nat
  reason : Reason
  deriving Repr, DecidableEq

/-- A byte as two hexadecimal digits. -/
def hexByte (b : UInt8) : String :=
  let digits := Nat.toDigits 16 b.toNat
  String.ofList (List.replicate (2 - digits.length) '0' ++ digits)

/-- The wording of a fault; a single byte is shown, several are given by their positions. -/
def Fault.message (f : Fault) : String :=
  if f.length = 1 then
    s!"'utf-8' codec can't decode byte 0x{hexByte f.firstByte} in position {f.position}: "
      ++ f.reason.message
  else
    s!"'utf-8' codec can't decode bytes in position {f.position}-{f.position + f.length - 1}: "
      ++ f.reason.message

/-- What a start byte announces: its own bits and, per byte to come, the least and greatest byte
admissible there. -/
def announced? (b : UInt8) : Option (Nat × List (Nat × Nat)) :=
  let n := b.toNat
  let any := (0x80, 0xBF)
  if n < 0x80 then some (n, [])
  else if n < 0xC2 then none
  else if n < 0xE0 then some (n - 0xC0, [any])
  else if n = 0xE0 then some (0, [(0xA0, 0xBF), any])
  else if n = 0xED then some (13, [(0x80, 0x9F), any])
  else if n < 0xF0 then some (n - 0xE0, [any, any])
  else if n = 0xF0 then some (0, [(0x90, 0xBF), any, any])
  else if n < 0xF4 then some (n - 0xF0, [any, any, any])
  else if n = 0xF4 then some (4, [(0x80, 0x8F), any, any])
  else none

/-- Reads the announced bytes behind a start byte: the code point, or how many bytes of the sequence
were read and why it ends there. -/
def continued (bits : Nat) : List (Nat × Nat) → List UInt8 → Nat → Except (Nat × Reason) Nat
  | [], _, _ => .ok bits
  | _ :: _, [], taken => .error (taken, .cutShort)
  | (least, greatest) :: wanted, b :: bs, taken =>
    if least ≤ b.toNat && b.toNat ≤ greatest then
      continued (bits * 64 + (b.toNat - 0x80)) wanted bs (taken + 1)
    else .error (taken, .badContinuation)

/-- Decodes from `position` on, with `skip` bytes of the current character still to pass. -/
def decodeFrom : Nat → Nat → List UInt8 → Except Fault (List Char)
  | _, _, [] => .ok []
  | skip + 1, position, _ :: bs => decodeFrom skip (position + 1) bs
  | 0, position, b :: bs =>
    match announced? b with
    | none => .error ⟨position, b, 1, .badStart⟩
    | some (bits, wanted) =>
      -- The bytes that were read belong to the fault, or are passed one by one.
      match continued bits wanted bs 1 with
      | .error (taken, reason) => .error ⟨position, b, taken, reason⟩
      | .ok n => (decodeFrom wanted.length (position + 1) bs).map (Char.ofNat n :: ·)

/-- The characters that bytes spell in UTF-8, or the first fault. -/
def decode (bytes : List UInt8) : Except Fault (List Char) := decodeFrom 0 0 bytes

end RowAlert.Text.Utf8
