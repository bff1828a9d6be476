import DevConsole.Dictionary
import DevConsole.Text.Case
import DevConsole.Text.Pieces
import DevConsole.Text.Quoted

/-!
# Reading INI files

Sections of options.  A header in brackets opens a section; an option is a name and a value with
`=` or `:` between them; a line that is indented deeper than its option continues the value, and so
do blank lines.  Lines that start with `#` or `;` are comments.  The section `DEFAULT` gives
options to every other section.  Options are told apart in lower case and read back in upper case.

A header or an option that comes twice, and an option before any header, end the reading.  Lines
that are nothing of all this are collected, and refuse the file at its end.
-/

namespace DevConsole.Settings.Ini

/-- Why a file is refused, with the numbers of the lines at fault. -/
inductive Fault where
  | missingHeader (line : Nat) (text : String)
  | duplicateSection (line : Nat) (name : String)
  | duplicateOption (line : Nat) (inSection name : String)
  | badLines (lines : List (Nat × String))
  deriving DecidableEq, Repr

namespace Fault

/-- The name of the kind of fault. -/
def kind : Fault → String
  | missingHeader .. => "MissingSectionHeaderError"
  | duplicateSection .. => "DuplicateSectionError"
  | duplicateOption .. => "DuplicateOptionError"
  | badLines _ => "ParsingError"

/-- A line number in at least two places. -/
def lineNumber (n : Nat) : String :=
  if n < 10 then s!" {n}" else toString n

/-- The words for a fault in the file under `path`. -/
def message (path : String) : Fault → String
  | missingHeader line text =>
    s!"File contains no section headers.\nfile: {Text.quoted path}, line: {line}\n" ++
      Text.quoted text
  | duplicateSection line name =>
    s!"While reading from {Text.quoted path} [line {lineNumber line}]: " ++
      s!"section {Text.quoted name} already exists"
  | duplicateOption line inSection name =>
    s!"While reading from {Text.quoted path} [line {lineNumber line}]: " ++
      s!"option {Text.quoted name} in section {Text.quoted inSection} already exists"
  | badLines lines =>
    s!"Source contains parsing errors: {Text.quoted path}" ++
      String.join (lines.map fun (line, text) =>
        s!"\n\t[line {lineNumber line}]: {Text.quoted text}")

end Fault

/-- The options of a section, each with the lines of its value. -/
abbrev Options := Dictionary (List String)

/-- What has been read: the default options, the sections, the open section and option, the
indentation of the last line that was no continuation, and the lines at fault. -/
structure State where
  defaults : Options
  sections : Dictionary Options
  openSection : Option String
  openOption : Option String
  indent : Nat
  badLines : List (Nat × String)

namespace State

/-- Nothing read. -/
def empty : State := ⟨∅, ∅, none, none, 0, []⟩

/-- The name of the section that gives options to the others. -/
def defaultSection : String := "DEFAULT"

/-- The options of a section. -/
def options (s : State) (name : String) : Options :=
  if name = defaultSection then s.defaults else (s.sections.get? name).getD ∅

/-- `s` with the given options in a section. -/
def setOptions (s : State) (name : String) (options : Options) : State :=
  if name = defaultSection then { s with defaults := options }
  else { s with sections := s.sections.insert name options }

/-- The section and the option that a continuation line belongs to. -/
def target? (s : State) : Option (String × String) :=
  match s.openSection, s.openOption with
  | some name, some option => if option.isEmpty then none else some (name, option)
  | _, _ => none

/-- Appends a line to the value of an option. -/
def continueValue (s : State) (target : String × String) (line : String) : State :=
  let options := s.options target.1
  s.setOptions target.1
    (options.insert target.2 ((options.get? target.2).getD [] ++ [line]))

/-- Notes a line at fault. -/
def noteBad (s : State) (number : Nat) (line : String) : State :=
  { s with badLines := s.badLines ++ [(number, line)] }

end State

/-- The name in the brackets of a header: up to the last closing bracket, and not empty. -/
def header? (line : String) : Option String :=
  match line.toList with
  | '[' :: rest =>
    match (rest.reverse.dropWhile (· != ']')).drop 1 with
    | [] => none
    | name => some (String.ofList name.reverse)
  | _ => none

/-- Whether `c` parts the name of an option from its value. -/
def isDelimiter (c : Char) : Bool :=
  c == '=' || c == ':'

/-- The name and the value of an option. -/
def option? (line : String) : Option (String × String) :=
  let cs := line.toList
  match cs.dropWhile (!isDelimiter ·) with
  | [] => none
  | _ :: value =>
    let name := Text.Chars.trimEnd Text.isBlank (cs.takeWhile (!isDelimiter ·))
    some (String.ofList name, Text.trim (String.ofList value))

/-- Opens the section that a header names. -/
def openSection (s : State) (number : Nat) (name : String) : Except Fault State :=
  if s.sections.contains name then .error (.duplicateSection number name)
  else
    let s := if name = State.defaultSection then s else s.setOptions name ∅
    .ok { s with openSection := some name, openOption := none }

/-- Opens an option of the open section. -/
def openOption (s : State) (number : Nat) (line : String) (inSection name value : String) :
    Except Fault State :=
  let s := if name.isEmpty then s.noteBad number line else s
  let key := Text.lower name
  let options := s.options inSection
  if options.contains key then .error (.duplicateOption number inSection key)
  else .ok { s.setOptions inSection (options.insert key [value]) with openOption := some key }

/-- Reads a line that is neither blank nor a comment; `text` is the line without blanks at its
ends. -/
def readText (s : State) (number : Nat) (line text : String) : Except Fault State :=
  let indent := (line.toList.takeWhile Text.isBlank).length
  match s.target? with
  | some target =>
    if s.indent < indent then .ok (s.continueValue target text)
    else readFresh { s with indent := indent }
  | none => readFresh { s with indent := indent }
where
  /-- Reads a line that continues nothing. -/
  readFresh (s : State) : Except Fault State :=
    match header? text with
    | some name => openSection s number name
    | none =>
      match s.openSection with
      | none => .error (.missingHeader number line)
      | some inSection =>
        match option? text with
        | some (name, value) => openOption s number line inSection name value
        | none => .ok (s.noteBad number line)

/-- Reads a line. A blank line continues the value of the open option. -/
def readLine (s : State) (number : Nat) (line : String) : Except Fault State :=
  let text := Text.trim line
  if Text.startsWith text "#" || Text.startsWith text ";" then .ok s
  else if text.isEmpty then
    match s.target? with
    | some target => .ok (s.continueValue target "")
    | none => .ok s
  else readText s number line text

/-- Reads lines, the first of which has the given number. -/
def readLines : (number : Nat) → State → List String → Except Fault State
  | _, s, [] => .ok s
  | number, s, line :: rest =>
    match readLine s number line with
    | .ok s => readLines (number + 1) s rest
    | .error fault => .error fault

/-- The lines of a text with the line feeds that end them. -/
def rawLines (text : String) : List String :=
  let rec cut : List Char → List (List Char)
    | [] => []
    | c :: cs => if c = '\n' then [c] :: cut cs else Text.Chars.consFirst c (cut cs)
  (cut text.toList).map String.ofList

/-- The value that the lines of an option give. -/
def valueText (lines : List String) : String :=
  String.ofList (Text.Chars.trimEnd Text.isBlank ("\n".intercalate lines).toList)

/-- The entries of all sections but the default one, in order, each section after the default
options, with names in upper case. -/
def entries (s : State) : List (String × String) :=
  s.sections.values.flatMap fun options =>
    (s.defaults.insertMany options.entries).entries.map fun (name, lines) =>
      (Text.upper name, valueText lines)

/-- The entries of a file with the given text. -/
def parse (text : String) : Except Fault (List (String × String)) :=
  match readLines 1 .empty (rawLines text) with
  | .error fault => .error fault
  | .ok s => if s.badLines.isEmpty then .ok (entries s) else .error (.badLines s.badLines)

end DevConsole.Settings.Ini
