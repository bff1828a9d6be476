import DevConsole.Files
import DevConsole.Journal
import DevConsole.Settings.Basic
import DevConsole.Settings.Ini
import DevConsole.Settings.Lexical
import DevConsole.Text.Numeral

/-!
# Settings from entries

Each setting has a key.  The value of a key may come as itself or as text, and is read by the rule
of its setting:

* `boolean`: one of the words for yes and no;
* `integer`, `positive`: a whole number, at least one;
* `optionalText`: nothing if it is blank or the word `none`;
* `level`: the name of a level, in any case;
* `path`: an absolute path, after variables and the home directory are replaced;
* `commentStarts`: a list, or a text with commas.

The first value that its rule refuses refuses the settings.  So does a value that has to be written
and cannot be.
-/

namespace DevConsole.Settings

/-- Why settings are refused. -/
inductive Fault where
  | emptyPackage
  | notInteger (value : Value)
  | tooSmall (key : String) (n : Int)
  | notBoolean (value : Value)
  | unknownLevel (text : String)
  | unusablePath
  | unwritable
  | unreadable (failure : Failure)
  | ini (path : String) (fault : Ini.Fault)
  | tooManyDigits (digits : Nat)

/-- The names of levels that a setting may give, in the order in which a refusal lists them. -/
def levels : List String := ["CRITICAL", "DEBUG", "ERROR", "INFO", "WARNING"]

namespace Fault

/-- The name of the kind of fault. -/
def kind : Fault → String
  | unreadable failure => failure.kind
  | ini _ fault => fault.kind
  | _ => "ValueError"

/-- The words for a fault. -/
def message : Fault → Except Failure String
  | emptyPackage => .ok "COMMANDS_PACKAGE must not be empty"
  | notInteger value => .ok s!"Expected integer, got: {value.literal}"
  | tooSmall key n => .ok s!"{key} must be >= 1, got {n}"
  | notBoolean value => .ok s!"Expected boolean, got: {value.literal}"
  | unknownLevel text =>
    let choices := (Value.list (levels.map .text)).literal
    .ok s!"LOG_LEVEL must be one of {choices}, got {Text.quoted text}"
  | unusablePath => .ok "embedded null byte"
  | unwritable => .ok Value.limitText
  | unreadable failure => failure.text
  | ini path fault => .ok (fault.message path)
  | tooManyDigits digits => .ok (Lexical.digitsMessage digits)

end Fault

/-! ## Single settings -/

/-- The text of a value that can be written. -/
def textOf (v : Value) : Except Fault String :=
  if v.isWritable then .ok v.toText else .error .unwritable

/-- A whole number, given as one or as its text. -/
def integer : Value → Except Fault Int
  | .int n => .ok n
  | v => do
    match Text.int? (Text.trim (← textOf v)) with
    | some n => return n
    | none => throw (.notInteger v)

/-- A whole number above zero. -/
def positive (key : String) (v : Value) : Except Fault Nat := do
  let n ← integer v
  if n < 1 then throw (if (Value.int n).isWritable then .tooSmall key n else .unwritable)
  return n.toNat

/-- The words for yes. -/
def yesWords : List String := ["1", "true", "yes", "y", "on"]

/-- The words for no. -/
def noWords : List String := ["0", "false", "no", "n", "off"]

/-- Yes or no, given as such or as one of the words for it in any case. -/
def boolean : Value → Except Fault Bool
  | .bool b => .ok b
  | v => do
    let word := Text.lower (Text.trim (← textOf v))
    if yesWords.contains word then return true
    if noWords.contains word then return false
    throw (.notBoolean v)

/-- The text of a value, unless it is blank or the word `none` in any case. -/
def optionalText : Value → Except Fault (Option String)
  | .null => .ok none
  | v => do
    let text ← textOf v
    return if ["", "none"].contains (Text.lower (Text.trim text)) then none else some text

/-- The name of a level, in upper case. -/
def level (v : Value) : Except Fault (Option String) := do
  match ← optionalText v with
  | none => return none
  | some text =>
    let name := Text.upper (Text.trim text)
    if levels.contains name then return some name
    throw (.unknownLevel text)

/-- An absolute path. -/
def path (files : Files) (text : String) : Except Fault String :=
  let expanded := files.expand text
  if expanded.toList.contains '\x00' then .error .unusablePath
  else .ok (Files.absolute (files.resolve expanded))

/-- An absolute path, unless the value stands for none. -/
def optionalPath (files : Files) (v : Value) : Except Fault (Option String) := do
  match ← optionalText v with
  | none => return none
  | some text => return some (← path files text)

/-- The starts of comment lines: the items of a list or the parts of a text between commas, without
the blanks around them and without blank ones. -/
def commentMarks (v : Value) : Except Fault (List String) := do
  let items ←
    match v with
    | .list items => items.mapM textOf
    | .tuple items => items.mapM textOf
    | v => (textOf v).map (Text.fields ',')
  return (items.map Text.trim).filter (!·.isEmpty)

/-- The text of a value; one that counts as false stands for the empty text. -/
def textOrEmpty (v : Value) : Except Fault String :=
  if v.isTrue then textOf v else .ok ""

/-! ## All settings -/

/-- The keys of the settings, each with the value that it has unless a source says otherwise. -/
def defaults : Dictionary Value := ⟨[
  ("MAX_INPUT_LEN", .int default.maxInputLength),
  ("MAX_HIST_LINES", .int default.maxHistoryLines),
  ("MAX_OUT_LINES", .int default.maxOutputLines),
  ("INPUT_PREFIX", .text default.inputPrompt),
  ("COMMENT_PREFIXES", .text (",".intercalate default.commentStarts)),
  ("SCRIPT_PATH", .text default.scriptPath),
  ("COMMANDS_PACKAGE", .text default.commandsPackage),
  ("LOG_LEVEL", .null),
  ("LOG_FILE_PATH", .null),
  ("ECHO_INPUT", .bool default.echoInput),
  ("SUGGEST_ON_MISS", .bool default.suggestOnMiss),
  ("TICK_RATE", .int default.tickRate),
  ("AUTOEXEC", .null)]⟩

/-- The value of a setting: the entry for its key or else its default. -/
def valueOf (entries : Dictionary Value) (key : String) : Value :=
  ((entries.get? key).or (defaults.get? key)).getD .null

/-- The settings that entries give. -/
def ofEntries (files : Files) (entries : Dictionary Value) : Except Fault Settings := do
  let value := valueOf entries
  let size (key : String) := positive key (value key)
  let commentStarts ← commentMarks (value "COMMENT_PREFIXES")
  let some commandsPackage ← optionalText (value "COMMANDS_PACKAGE") | throw .emptyPackage
  return {
    maxInputLength := ← size "MAX_INPUT_LEN"
    maxHistoryLines := ← size "MAX_HIST_LINES"
    maxOutputLines := ← size "MAX_OUT_LINES"
    inputPrompt := ← textOrEmpty (value "INPUT_PREFIX")
    commentStarts
    scriptPath := ← path files (← textOf (value "SCRIPT_PATH"))
    commandsPackage
    logLevel := ← level (value "LOG_LEVEL")
    logFilePath := ← optionalPath files (value "LOG_FILE_PATH")
    echoInput := ← boolean (value "ECHO_INPUT")
    suggestOnMiss := ← boolean (value "SUGGEST_ON_MISS")
    tickRate := ← size "TICK_RATE"
    autoexec := ← optionalText (value "AUTOEXEC")
    extra := ⟨entries.entries.filter fun entry => !defaults.contains entry.1⟩ }

end DevConsole.Settings
