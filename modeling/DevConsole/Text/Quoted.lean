import DevConsole.Text.Printable

/-!
# Quoted texts

A text in quotes as messages show it: the quotes are single unless the text holds a single and no
double quote, and what cannot be printed is written as an escape.
-/

namespace DevConsole.Text

namespace Chars

/-- `n` in lower-case hexadecimal, with zeros in front up to `width` digits. -/
def hex (width n : Nat) : List Char :=
  let digits := Nat.toDigits 16 n
  List.replicate (width - digits.length) '0' ++ digits

/-- How a character stands between quotes of the kind `quote`. -/
def quoteChar (quote c : Char) : List Char :=
  if c = quote ∨ c = '\\' then ['\\', c]
  else if c = '\n' then ['\\', 'n']
  else if c = '\r' then ['\\', 'r']
  else if c = '\t' then ['\\', 't']
  else if isPrintable c then [c]
  else if c.toNat ≤ 0xFF then '\\' :: 'x' :: hex 2 c.toNat
  else if c.toNat ≤ 0xFFFF then '\\' :: 'u' :: hex 4 c.toNat
  else '\\' :: 'U' :: hex 8 c.toNat

/-- The quote that surrounds `cs`. -/
def quoteOf (cs : List Char) : Char :=
  if cs.contains '\'' && !cs.contains '"' then '"' else '\''

/-- `cs` in quotes. -/
def quoted (cs : List Char) : List Char :=
  let quote := quoteOf cs
  quote :: cs.flatMap (quoteChar quote) ++ [quote]

/-- How a byte stands between quotes of the kind `quote`. -/
def quoteByte (quote : Char) (b : UInt8) : List Char :=
  let c := Char.ofNat b.toNat
  if 32 ≤ b.toNat ∧ b.toNat ≤ 126 ∨ c = '\n' ∨ c = '\r' ∨ c = '\t' then
    quoteChar quote c
  else '\\' :: 'x' :: hex 2 b.toNat

/-- A byte string in quotes. -/
def quotedBytes (bytes : List UInt8) : List Char :=
  let quote := quoteOf (bytes.map fun b => Char.ofNat b.toNat)
  'b' :: quote :: bytes.flatMap (quoteByte quote) ++ [quote]

end Chars

/-- `s` in quotes. -/
def quoted (s : String) : String :=
  String.ofList (Chars.quoted s.toList)

/-- A byte string in quotes. -/
def quotedBytes (bytes : List UInt8) : String :=
  String.ofList (Chars.quotedBytes bytes)

end DevConsole.Text
