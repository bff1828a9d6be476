import DevConsole.Decimal.Nearest
import DevConsole.Dictionary
import DevConsole.Settings.Lexical
import DevConsole.Value

/-!
# Reading JSON

A reader for JSON texts.  Beyond the standard it accepts the numbers `NaN`, `Infinity` and
`-Infinity`; a key that an object holds twice keeps its first place and its last value.  Every
call of the reader takes at least one character off, so the length of the text bounds how deep and
how long it goes on.
-/

namespace DevConsole.Settings.Json

open Lexical

/-- Whether `c` may stand between the parts of a value. -/
def isSpace (c : Char) : Bool :=
  c == ' ' || c == '\t' || c == '\n' || c == '\r'

/-- `cs` without space at its start. -/
def skipSpace (cs : List Char) : List Char :=
  cs.dropWhile isSpace

/-- The character of an escape with four digits. Two that stand for the halves of one character are
read as that character. -/
def unicodeEscape (cs : List Char) : Except Lexical.Fault (Char × List Char) :=
  match hex? 4 0 cs with
  | none => .error .malformed
  | some (unit, rest) =>
    if 0xD800 ≤ unit ∧ unit ≤ 0xDBFF then
      match rest with
      | '\\' :: 'u' :: low =>
        match hex? 4 0 low with
        | some (second, rest') =>
          if 0xDC00 ≤ second ∧ second ≤ 0xDFFF then
            .ok (Char.ofNat (0x10000 + (unit - 0xD800) * 0x400 + (second - 0xDC00)), rest')
          else .ok ('\uFFFD', rest)
        | none => .ok ('\uFFFD', rest)
      | _ => .ok ('\uFFFD', rest)
    else if 0xDC00 ≤ unit ∧ unit ≤ 0xDFFF then .ok ('\uFFFD', rest)
    else .ok (Char.ofNat unit, rest)

/-- The characters that single-letter escapes stand for. -/
def escapes : List (Char × Char) := [
  ('"', '"'), ('\\', '\\'), ('/', '/'), ('b', '\x08'), ('f', '\x0c'), ('n', '\n'), ('r', '\r'),
  ('t', '\t')]

/-- The characters of a string up to its closing quote. -/
def stringBody : (fuel : Nat) → List Char → Except Lexical.Fault (List Char × List Char)
  | 0, _ => .error .malformed
  | _ + 1, [] => .error .malformed
  | _ + 1, '"' :: cs => .ok ([], cs)
  | fuel + 1, '\\' :: 'u' :: cs => do
    let (c, cs) ← unicodeEscape cs
    let (body, cs) ← stringBody fuel cs
    return (c :: body, cs)
  | fuel + 1, '\\' :: c :: cs =>
    match escapes.lookup c with
    | some meant => do
      let (body, cs) ← stringBody fuel cs
      return (meant :: body, cs)
    | none => .error .malformed
  | fuel + 1, c :: cs =>
    if c.toNat < 32 ∨ c = '\\' then .error .malformed
    else do
      let (body, cs) ← stringBody fuel cs
      return (c :: body, cs)

/-- The string whose opening quote was read. -/
def string (cs : List Char) : Except Lexical.Fault (String × List Char) := do
  let (body, rest) ← stringBody (cs.length + 1) cs
  return (String.ofList body, rest)

/-- The whole part of a number: zero, or digits that do not start with zero. -/
def wholePart : List Char → Option (List Char × List Char)
  | '0' :: cs => some (['0'], cs)
  | cs =>
    let digits := cs.takeWhile isDigit
    if digits.isEmpty then none else some (digits, cs.dropWhile isDigit)

/-- The digits after a point, none if there is no point with a digit behind it. -/
def fractionPart : List Char → List Char × List Char
  | '.' :: cs =>
    let digits := cs.takeWhile isDigit
    if digits.isEmpty then ([], '.' :: cs) else (digits, cs.dropWhile isDigit)
  | cs => ([], cs)

/-- The exponent of a number, if it has one. -/
def exponentPart (cs : List Char) : Option Int × List Char :=
  let signed (sign : Int) (body : List Char) : Option Int × List Char :=
    let digits := body.takeWhile isDigit
    if digits.isEmpty then (none, cs)
    else (some (sign * (digitsValue digits : Int)), body.dropWhile isDigit)
  match cs with
  | e :: rest =>
    if e = 'e' ∨ e = 'E' then
      match rest with
      | '+' :: body => signed 1 body
      | '-' :: body => signed (-1) body
      | body => signed 1 body
    else (none, cs)
  | [] => (none, cs)

/-- A number without its sign. -/
def number (negative : Bool) (cs : List Char) : Except Lexical.Fault (Value × List Char) :=
  match wholePart cs with
  | none => .error .malformed
  | some (whole, cs) =>
    let (fraction, cs) := fractionPart cs
    let (exponent, cs) := exponentPart cs
    if fraction.isEmpty && exponent.isNone then
      (wholeNumber negative whole).map fun n => (.int n, cs)
    else
      let x := Decimal.nearest (digitsValue (whole ++ fraction))
        (exponent.getD 0 - fraction.length)
      .ok (.float (if negative then -x else x), cs)

/-- The values that are words. -/
def words : List (String × Value) := [
  ("null", .null), ("true", .bool true), ("false", .bool false),
  ("NaN", .float (0 / 0)), ("Infinity", .float (1 / 0)), ("-Infinity", .float (-1 / 0))]

/-- The value that is a word at the front of a text. -/
def word? (cs : List Char) : Option (Value × List Char) :=
  words.findSome? fun (word, v) => (after? word cs).map fun rest => (v, rest)

mutual

/-- The value at the front of a text without space before it. -/
def value : (fuel : Nat) → List Char → Except Lexical.Fault (Value × List Char)
  | 0, _ => .error .malformed
  | fuel + 1, cs =>
    match cs with
    | '"' :: rest => do
      let (s, rest) ← string rest
      return (.text s, rest)
    | '[' :: rest =>
      match skipSpace rest with
      | ']' :: rest => .ok (.list [], rest)
      | rest => do
        let (found, rest) ← items fuel rest
        return (.list found, rest)
    | '\x7b' :: rest =>
      match skipSpace rest with
      | '\x7d' :: rest => .ok (.dict [], rest)
      | rest => do
        let (found, rest) ← members fuel rest
        return (.dict (Dictionary.ofList found).entries, rest)
    | cs =>
      match word? cs, cs with
      | some found, _ => .ok found
      | none, '-' :: rest => number true rest
      | none, cs => number false cs

/-- The items of an array up to its closing bracket. -/
def items : (fuel : Nat) → List Char → Except Lexical.Fault (List Value × List Char)
  | 0, _ => .error .malformed
  | fuel + 1, cs => do
    let (v, rest) ← value fuel cs
    match skipSpace rest with
    | ']' :: rest => return ([v], rest)
    | ',' :: rest =>
      let (vs, rest) ← items fuel (skipSpace rest)
      return (v :: vs, rest)
    | _ => throw .malformed

/-- The members of an object up to its closing brace. -/
def members : (fuel : Nat) → List Char →
    Except Lexical.Fault (List (String × Value) × List Char)
  | 0, _ => .error .malformed
  | fuel + 1, cs => do
    let '"' :: rest := cs | throw .malformed
    let (key, rest) ← string rest
    let ':' :: rest := skipSpace rest | throw .malformed
    let (v, rest) ← value fuel (skipSpace rest)
    match skipSpace rest with
    | '\x7d' :: rest => return ([(key, v)], rest)
    | ',' :: rest =>
      let (more, rest) ← members fuel (skipSpace rest)
      return ((key, v) :: more, rest)
    | _ => throw .malformed

end

/-- The value that a text consists of. -/
def parse (s : String) : Except Lexical.Fault Value := do
  let cs := s.toList
  let (v, rest) ← value (cs.length + 1) (skipSpace cs)
  if (skipSpace rest).isEmpty then return v else throw .malformed

end DevConsole.Settings.Json
