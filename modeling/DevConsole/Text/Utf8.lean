/-!
# Decoding UTF-8

A byte string is read as a sequence of well-formed characters and faults.  A fault covers the
longest part of the input that could have started a character, or the one byte that no character
starts with.  Text is either refused at its first fault (`decode`) or has each fault replaced by
U+FFFD (`decodeLossy`).
-/

namespace DevConsole.Text.Utf8

/-- Why bytes are no character. -/
inductive Reason where
  | invalidStart
  | invalidContinuation
  | truncated
  deriving DecidableEq, Repr

/-- The words for a reason. -/
def Reason.message : Reason → String
  | .invalidStart => "invalid start byte"
  | .invalidContinuation => "invalid continuation byte"
  | .truncated => "unexpected end of data"

/-- A part of a byte string that is no character: its first byte, where it starts, how many bytes
it covers, and why. -/
structure Fault where
  byte : UInt8
  start : Nat
  size : Nat
  reason : Reason
  deriving DecidableEq, Repr

/-- The words for a fault. -/
def Fault.message (fault : Fault) : String :=
  let digits := Nat.toDigits 16 fault.byte.toNat
  let byte := String.ofList (List.replicate (2 - digits.length) '0' ++ digits)
  if fault.size ≤ 1 then
    s!"'utf-8' codec can't decode byte 0x{byte} in position {fault.start}: {fault.reason.message}"
  else
    let last := fault.start + fault.size - 1
    s!"'utf-8' codec can't decode bytes in position {fault.start}-{last}: {fault.reason.message}"

/-- The bytes that may follow first in a character that starts with `b`, and how many bytes
continue it in all. -/
def continuation? (b : UInt8) : Option (UInt8 × UInt8 × Nat) :=
  if b < 0xC2 then none
  else if b < 0xE0 then some (0x80, 0xBF, 1)
  else if b = 0xE0 then some (0xA0, 0xBF, 2)
  else if b = 0xED then some (0x80, 0x9F, 2)
  else if b < 0xF0 then some (0x80, 0xBF, 2)
  else if b = 0xF0 then some (0x90, 0xBF, 3)
  else if b < 0xF4 then some (0x80, 0xBF, 3)
  else if b = 0xF4 then some (0x80, 0x8F, 3)
  else none

/-- Reads up to `count` continuation bytes, the first between `lo` and `hi`. Gives the bits that
they add to `bits`, how many were read, and why reading stopped early. -/
def continue? (lo hi : UInt8) :
    (count : Nat) → (bits read : Nat) → List UInt8 → Nat × Nat × Option Reason
  | 0, bits, read, _ => (bits, read, none)
  | _ + 1, bits, read, [] => (bits, read, some .truncated)
  | count + 1, bits, read, b :: rest =>
    if lo ≤ b && b ≤ hi then
      continue? 0x80 0xBF count (64 * bits + (b.toNat - 0x80)) (read + 1) rest
    else (bits, read, some .invalidContinuation)

/-- The first character of a nonempty byte string, or why there is none, and the number of bytes
read. -/
def first (b : UInt8) (rest : List UInt8) : Except Reason Char × Nat :=
  if b < 0x80 then (.ok (Char.ofNat b.toNat), 1)
  else
    match continuation? b with
    | none => (.error .invalidStart, 1)
    | some (lo, hi, count) =>
      match continue? lo hi count (b.toNat % Nat.pow 2 (6 - count)) 1 rest with
      | (bits, read, none) => (.ok (Char.ofNat bits), read)
      | (_, read, some reason) => (.error reason, read)

/-- The characters and faults of a byte string, where `skip` bytes belong to what was read
before and the next byte has the position `position`. -/
def scan : (position skip : Nat) → List UInt8 → List (Except Fault Char)
  | _, _, [] => []
  | position, skip + 1, _ :: rest => scan (position + 1) skip rest
  | position, 0, b :: rest =>
    match first b rest with
    | (.ok c, size) => .ok c :: scan (position + 1) (size - 1) rest
    | (.error reason, size) =>
      .error ⟨b, position, size, reason⟩ :: scan (position + 1) (size - 1) rest

/-- The text of a byte string, or its first fault. -/
def decode (bytes : List UInt8) : Except Fault String :=
  (scan 0 0 bytes).mapM id |>.map String.ofList

/-- The text of a byte string, with U+FFFD in place of each fault. -/
def decodeLossy (bytes : List UInt8) : String :=
  String.ofList ((scan 0 0 bytes).map fun
    | .ok c => c
    | .error _ => '\uFFFD')

end DevConsole.Text.Utf8
