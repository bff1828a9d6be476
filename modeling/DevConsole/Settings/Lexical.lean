import DevConsole.Text.Numeral

/-!
# Parts of structured texts

What the readers of structured settings files have in common: digits, words, and the two ways in
which a text can fail to be read.
-/

namespace DevConsole.Settings.Lexical

/-- Why a text cannot be read: it is malformed, or holds a whole number of too many digits. -/
inductive Fault where
  | malformed
  | tooManyDigits (digits : Nat)
  deriving DecidableEq, Repr

/-- The words for a whole number of too many digits. -/
def digitsMessage (digits : Nat) : String :=
  s!"Exceeds the limit ({Text.maxDigits} digits) for integer string conversion: " ++
    s!"value has {digits} digits; use sys.set_int_max_str_digits() to increase the limit"

/-- What follows `word` at the front of `cs`. -/
def after? (word : String) (cs : List Char) : Option (List Char) :=
  if word.toList.isPrefixOf cs then some (cs.drop word.length) else none

/-- The value of a hexadecimal digit. -/
def hexValue? (c : Char) : Option Nat :=
  if '0' ≤ c ∧ c ≤ '9' then some (c.toNat - '0'.toNat)
  else if 'a' ≤ c ∧ c ≤ 'f' then some (c.toNat - 'a'.toNat + 10)
  else if 'A' ≤ c ∧ c ≤ 'F' then some (c.toNat - 'A'.toNat + 10)
  else none

/-- The number that the first `count` characters are hexadecimal digits of. -/
def hex? : (count value : Nat) → List Char → Option (Nat × List Char)
  | 0, value, cs => some (value, cs)
  | _ + 1, _, [] => none
  | count + 1, value, c :: cs =>
    match hexValue? c with
    | some digit => hex? count (16 * value + digit) cs
    | none => none

/-- Whether `c` is one of the ten digits. -/
def isDigit (c : Char) : Bool :=
  '0' ≤ c && c ≤ '9'

/-- The value of a run of the ten digits. -/
def digitsValue (cs : List Char) : Nat :=
  Text.ofDigits (cs.map fun c => c.toNat - '0'.toNat)

/-- A whole number, unless it has too many digits. -/
def wholeNumber (negative : Bool) (digits : List Char) : Except Fault Int :=
  if Text.maxDigits < digits.length then .error (.tooManyDigits digits.length)
  else
    let n : Int := digitsValue digits
    .ok (if negative then -n else n)

end DevConsole.Settings.Lexical
