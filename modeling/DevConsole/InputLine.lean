import DevConsole.Text.Quoted

/-!
# The input line

An editable line of text with a cursor.  The cursor is a position between characters: `cursor`
characters stand before it.  The line never grows past its cap, and the prompt is shown in front
of the text without being part of it.
-/

namespace DevConsole

/-- A line of text, its cursor and its cap. -/
structure InputLine where
  cap : Nat
  prompt : String
  chars : List Char
  cursor : Nat
  deriving Repr

namespace InputLine

/-- Why a line or an edit is refused. -/
inductive Fault where
  | capTooSmall
  | notOneCharacter (text : String)
  deriving DecidableEq, Repr

/-- The words for a fault. -/
def Fault.message : Fault → String
  | capTooSmall => "max_len must be >= 1"
  | notOneCharacter text => s!"Expected a single character, got {Text.quoted text}"

/-- An empty line, which holds at least one character. -/
def empty? (cap : Int) (prompt : String) : Except Fault InputLine :=
  if cap < 1 then .error .capTooSmall
  else .ok { cap := cap.toNat, prompt := prompt, chars := [], cursor := 0 }

/-- The text of the line. -/
def text (line : InputLine) : String :=
  String.ofList line.chars

/-- The number of characters. -/
def length (line : InputLine) : Nat :=
  line.chars.length

/-- The text before the cursor. -/
def before (line : InputLine) : String :=
  String.ofList (line.chars.take line.cursor)

/-- The text after the cursor. -/
def after (line : InputLine) : String :=
  String.ofList (line.chars.drop line.cursor)

/-- Puts a character before the cursor, unless the line is full. -/
def insert (line : InputLine) (c : Char) : Bool × InputLine :=
  if line.cap ≤ line.chars.length then (false, line)
  else
    (true, { line with
      chars := line.chars.take line.cursor ++ c :: line.chars.drop line.cursor
      cursor := line.cursor + 1 })

@[simp] theorem cap_insert (line : InputLine) (c : Char) : (line.insert c).2.cap = line.cap := by
  unfold insert
  split <;> rfl

/-- Puts a text of exactly one character before the cursor, unless the line is full. -/
def insertText (line : InputLine) (text : String) : Except Fault (Bool × InputLine) :=
  match text.toList with
  | [c] => .ok (line.insert c)
  | _ => .error (.notOneCharacter text)

/-- Removes the character before the cursor. -/
def backspace (line : InputLine) : Bool × InputLine :=
  if line.cursor = 0 then (false, line)
  else
    (true, { line with
      chars := line.chars.take (line.cursor - 1) ++ line.chars.drop line.cursor
      cursor := line.cursor - 1 })

@[simp] theorem cap_backspace (line : InputLine) : line.backspace.2.cap = line.cap := by
  unfold backspace
  split <;> rfl

/-- Removes the character after the cursor. -/
def delete (line : InputLine) : Bool × InputLine :=
  if line.chars.length ≤ line.cursor then (false, line)
  else
    (true, { line with
      chars := line.chars.take line.cursor ++ line.chars.drop (line.cursor + 1) })

@[simp] theorem cap_delete (line : InputLine) : line.delete.2.cap = line.cap := by
  unfold delete
  split <;> rfl

/-- Moves the cursor over one character, if there is one on that side. -/
def move (line : InputLine) (left : Bool) : InputLine :=
  { line with
    cursor := if left then line.cursor - 1 else min line.chars.length (line.cursor + 1) }

/-- Moves the cursor to the start. -/
def home (line : InputLine) : InputLine :=
  { line with cursor := 0 }

/-- Moves the cursor behind the last character. -/
def goToEnd (line : InputLine) : InputLine :=
  { line with cursor := line.chars.length }

/-- Replaces the text by as much of `text` as fits, with the cursor behind it. -/
def setText (line : InputLine) (text : String) : InputLine :=
  let chars := text.toList.take line.cap
  { line with chars := chars, cursor := chars.length }

/-- Removes all text. -/
def clear (line : InputLine) : InputLine :=
  { line with chars := [], cursor := 0 }

/-- The text, and the line without it. -/
def take (line : InputLine) : String × InputLine :=
  (line.text, line.clear)

/-- The prompt and the text. -/
def display (line : InputLine) : String :=
  line.prompt ++ line.text

/-- A description for diagnostics. -/
def describe (line : InputLine) : String :=
  let text := Text.quoted line.text
  s!"TextEditBuffer(text={text}, cursor={line.cursor}, max_len={line.cap})"

end InputLine

end DevConsole
