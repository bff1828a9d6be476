import DevConsole.Dictionary
import DevConsole.Text.Pieces

/-!
# Reading .env files

One assignment on a line: a name, an equals sign and a value, with blanks around each.  Matching
quotes around a value are taken off.  Blank lines, comments that start with `#`, and lines of any
other form are passed over.  Of two assignments to a name the later one counts.
-/

namespace DevConsole.Settings.Dotenv

/-- Whether `c` may start a name. -/
def isNameStart (c : Char) : Bool :=
  c.isAlpha || c == '_'

/-- Whether `c` may be in a name. -/
def isNameChar (c : Char) : Bool :=
  c.isAlphanum || c == '_'

/-- `v` without the quotes around it, if it starts and ends with the same kind of quote. One
quote alone starts and ends with itself. -/
def unquote (v : List Char) : List Char :=
  match v.head?, v.getLast? with
  | some a, some b => if a = b ∧ (a = '\'' ∨ a = '"') then v.tail.dropLast else v
  | _, _ => v

/-- The name and the value that a line without blanks at its ends assigns. -/
def assignment? (line : List Char) : Option (List Char × List Char) :=
  match line with
  | [] => none
  | c :: _ =>
    if isNameStart c then
      match (line.dropWhile isNameChar).dropWhile Text.isBlank with
      | '=' :: rest => some (line.takeWhile isNameChar, unquote (rest.dropWhile Text.isBlank))
      | _ => none
    else none

/-- The entries of a file with the given text. -/
def parse (text : String) : Dictionary String :=
  Dictionary.ofList ((Text.lines text).filterMap fun line =>
    (assignment? (Text.trim line).toList).map fun (name, value) =>
      (String.ofList name, String.ofList value))

end DevConsole.Settings.Dotenv
