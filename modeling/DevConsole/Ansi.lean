/-!
# Control sequences

Terminal text carries styles as control sequences: an escape character and an opening bracket,
then digits and semicolons, then a letter.  `strip` removes every complete sequence; an escape
character that starts none stays.  `colorize` puts the sequences of the named styles in front of a
text and a reset behind it.
-/

namespace DevConsole.Ansi

/-- The character that introduces a control sequence. -/
def escape : Char := '\x1b'

/-- Whether `c` may stand between the introducer and the final letter. -/
def isParameter (c : Char) : Bool :=
  ('0' ≤ c && c ≤ '9') || c == ';'

/-- Whether `c` ends a control sequence. -/
def isFinal (c : Char) : Bool :=
  ('A' ≤ c && c ≤ 'Z') || ('a' ≤ c && c ≤ 'z')

/-- What follows the parameters and the final letter of a control sequence. -/
def afterParameters? : List Char → Option (List Char)
  | [] => none
  | c :: cs =>
    if isParameter c then afterParameters? cs
    else if isFinal c then some cs
    else none

/-- What follows the control sequence that `cs` starts with. -/
def afterSequence? : List Char → Option (List Char)
  | c :: d :: cs => if c = escape ∧ d = '[' then afterParameters? cs else none
  | _ => none

theorem length_of_afterParameters? {cs rest : List Char} (h : afterParameters? cs = some rest) :
    rest.length < cs.length := by
  induction cs with
  | nil => simp [afterParameters?] at h
  | cons c cs ih => grind [afterParameters?]

theorem length_of_afterSequence? {cs rest : List Char} (h : afterSequence? cs = some rest) :
    rest.length < cs.length := by
  match cs with
  | [] => simp [afterSequence?] at h
  | [_] => simp [afterSequence?] at h
  | c :: d :: cs =>
    simp only [afterSequence?] at h
    split at h
    · have := length_of_afterParameters? h
      simp only [List.length_cons]
      omega
    · simp at h

/-- `cs` without its complete control sequences, found from left to right. -/
def stripChars : List Char → List Char
  | [] => []
  | c :: cs =>
    match _hrest : afterSequence? (c :: cs) with
    | some rest => stripChars rest
    | none => c :: stripChars cs
termination_by cs => cs.length
decreasing_by
  · exact length_of_afterSequence? _hrest
  · simp

/-- `s` without its complete control sequences. -/
def strip (s : String) : String :=
  String.ofList (stripChars s.toList)

/-- The number of characters of `s` that a terminal shows. -/
def visibleLength (s : String) : Nat :=
  (strip s).length

/-- The sequence that ends all styles. -/
def reset : String := "\x1b[0m"

/-- The named styles and their sequences. -/
def styles : List (String × String) := [
  ("reset", reset), ("bold", "\x1b[1m"), ("dim", "\x1b[2m"), ("underline", "\x1b[4m"),
  ("reverse", "\x1b[7m"), ("red", "\x1b[31m"), ("green", "\x1b[32m"), ("yellow", "\x1b[33m"),
  ("blue", "\x1b[34m"), ("magenta", "\x1b[35m"), ("cyan", "\x1b[36m"), ("white", "\x1b[37m"),
  ("bright_black", "\x1b[90m")]

/-- `text` in the named styles; names that are no style do nothing, and without any style the text
is left alone. -/
def colorize (text : String) (names : List String) : String :=
  let start := String.join (names.filterMap fun name => styles.lookup name)
  if start.isEmpty then text else start ++ text ++ reset

end DevConsole.Ansi
