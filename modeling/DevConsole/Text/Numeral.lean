import DevConsole.Text.Blank

/-!
# Decimal numerals

Reading a whole number from a text.  A numeral is a run of decimal digits of any script, in which
single underscores may stand between digits, after an optional sign; blank characters around it
are skipped, the information separators excepted.  A numeral has at most `maxDigits` digits,
leading zeros included.
-/

namespace DevConsole.Text

/-- The code points of the digits zero, one for each run of ten digits. -/
def digitZeros : List Nat := [
  0x30, 0x660, 0x6f0, 0x7c0, 0x966, 0x9e6, 0xa66, 0xae6, 0xb66, 0xbe6, 0xc66, 0xce6, 0xd66,
  0xde6, 0xe50, 0xed0, 0xf20, 0x1040, 0x1090, 0x17e0, 0x1810, 0x1946, 0x19d0, 0x1a80, 0x1a90,
  0x1b50, 0x1bb0, 0x1c40, 0x1c50, 0xa620, 0xa8d0, 0xa900, 0xa9d0, 0xa9f0, 0xaa50, 0xabf0,
  0xff10, 0x104a0, 0x10d30, 0x11066, 0x110f0, 0x11136, 0x111d0, 0x112f0, 0x11450, 0x114d0,
  0x11650, 0x116c0, 0x11730, 0x118e0, 0x11950, 0x11c50, 0x11d50, 0x11da0, 0x16a60, 0x16ac0,
  0x16b50, 0x1d7ce, 0x1d7d8, 0x1d7e2, 0x1d7ec, 0x1d7f6, 0x1e140, 0x1e2f0, 0x1e950, 0x1fbf0]

/-- The value of a decimal digit. -/
def digitValue? (c : Char) : Option Nat :=
  (digitZeros.find? fun z => z ≤ c.toNat && c.toNat < z + 10).map (c.toNat - ·)

/-- The most digits that a numeral may have. -/
def maxDigits : Nat := 4300

/-- The number that a list of decimal digits stands for, most significant first. -/
def ofDigits (digits : List Nat) : Nat :=
  digits.foldl (fun n d => 10 * n + d) 0

namespace Chars

/-- The digits of a run in which single underscores may stand between digits. -/
def digits? : List Char → Option (List Nat)
  | [] => none
  | [c] => (digitValue? c).map ([·])
  | c :: '_' :: cs => do return (← digitValue? c) :: (← digits? cs)
  | c :: cs => do return (← digitValue? c) :: (← digits? cs)

/-- Whether a character may surround a numeral. -/
def isMargin (c : Char) : Bool :=
  isBlank c && !(28 ≤ c.toNat && c.toNat ≤ 31)

/-- The number that a run of digits without a sign stands for. -/
def nat? (cs : List Char) : Option Nat :=
  match digits? cs with
  | some ds => if ds.length ≤ maxDigits then some (ofDigits ds) else none
  | none => none

/-- The number that a numeral stands for. -/
def int? (cs : List Char) : Option Int :=
  match trimEnd isMargin (trimStart isMargin cs) with
  | '-' :: rest => (nat? rest).map fun n => -(n : Int)
  | '+' :: rest => (nat? rest).map fun n => (n : Int)
  | rest => (nat? rest).map fun n => (n : Int)

end Chars

/-- The number that `s` is a numeral for. -/
def int? (s : String) : Option Int :=
  Chars.int? s.toList

/-- The number that `s` is a numeral for, if it is not negative. -/
def count? (s : String) : Option Nat :=
  match int? s with
  | some (.ofNat n) => some n
  | _ => none

end DevConsole.Text
