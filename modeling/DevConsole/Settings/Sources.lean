import DevConsole.Settings.Dotenv
import DevConsole.Settings.Json
import DevConsole.Settings.Toml
import DevConsole.Settings.Validation

/-!
# Where settings come from

Settings come from entries in a mapping, or are loaded from several sources, each of which overrides
those before it: the defaults, the files `.env`, `console.ini`, `console.json` and `console.toml` in
a directory, and the environment.  A file that does not exist has no entries, and neither has a JSON
or TOML file that is malformed.

Keys are told apart in upper case and without one leading `CONSOLE_`.  Nested tables give keys
joined by underscores.
-/

namespace DevConsole.Settings

/-- What a key may start with. -/
def keyStart : String := "CONSOLE_"

/-- The key in the form in which settings know it. -/
def normalKey (key : String) : String :=
  let cs := (Text.upper key).toList
  String.ofList (if keyStart.toList.isPrefixOf cs then cs.drop keyStart.length else cs)

/-- The entries under the keys that settings know them by; of two under one key the later counts. -/
def normalize (entries : List (String × Value)) : Dictionary Value :=
  Dictionary.ofList (entries.map fun (key, v) => (normalKey key, v))

/-- `base` overridden by the entries of sources, each source by those after it. -/
def merge (base : Dictionary Value) (sources : List (List (String × Value))) : Dictionary Value :=
  sources.foldl (fun merged entries => merged.insertMany (normalize entries).entries) base

/-! ## Entries of sources -/

mutual

/-- The leaves below a value that stands under `key`. -/
def leaves (key : String) : Value → List (String × Value)
  | .dict entries => leavesOfAll key entries
  | v => [(Text.upper key, v)]

/-- The leaves below the entries of a table that stands under `key`. -/
def leavesOfAll (key : String) : List (String × Value) → List (String × Value)
  | [] => []
  | (name, v) :: rest =>
    leaves (if key.isEmpty then name else s!"{key}_{name}") v ++ leavesOfAll key rest

end

/-- The leaves of a table of tables under joined keys in upper case. -/
def flatten (entries : List (String × Value)) : Dictionary Value :=
  Dictionary.ofList (leavesOfAll "" entries)

/-- Entries whose values are texts. -/
def textEntries (entries : List (String × String)) : List (String × Value) :=
  entries.map fun (key, s) => (key, .text s)

/-- Whether the name of an environment variable makes it a source of settings. -/
def isSettingVariable (name : String) : Bool :=
  Text.startsWith name keyStart && name.toList.all fun c => c.isUpper || c.isDigit || c == '_'

/-- What the sources hold: the texts of `.env` and `console.ini` by their keys, the tables of
`console.json` and `console.toml`, and the environment. -/
structure Sources where
  dotenv : Dictionary String
  ini : Dictionary String
  json : List (String × Value)
  toml : List (String × Value)
  environment : Dictionary String

/-- The defaults overridden by the entries of the sources. -/
def Sources.merged (sources : Sources) : Dictionary Value :=
  merge defaults [
    textEntries sources.dotenv.entries,
    textEntries sources.ini.entries,
    (flatten sources.json).entries,
    (flatten sources.toml).entries,
    textEntries (sources.environment.entries.filter (isSettingVariable ·.1))]

/-! ## Reading single sources -/

/-- What was read from a file, or nothing if there is no such file. -/
def ifPresent {α : Type} (found : Except Failure α) : Except Fault (Option α) :=
  match found with
  | .ok a => .ok (some a)
  | .error failure =>
    if failure.kind = "FileNotFoundError" then .ok none else .error (.unreadable failure)

/-- What a reader found in a text; a malformed text has nothing. -/
def unlessMalformed {α : Type} (found : Except Lexical.Fault α) : Except Fault (Option α) :=
  match found with
  | .ok a => .ok (some a)
  | .error .malformed => .ok none
  | .error (.tooManyDigits digits) => .error (.tooManyDigits digits)

/-- The entries of a `.env` file. -/
def readDotenv (files : Files) (path : String) : Except Fault (Dictionary String) := do
  match ← ifPresent (files.readText path) with
  | none => return ∅
  | some text => return Dotenv.parse text

/-- The part of a text up to its last line end. A carriage return at the very end is no line end
yet, because a line feed may follow it. -/
def completeLines (text : String) : String :=
  let cs := text.toList.reverse
  let ended := if cs.head? == some '\r' then cs.tail else cs
  let kept := (Text.Chars.universalNewlines ended.reverse).reverse.dropWhile (· != '\n')
  String.ofList kept.reverse

/-- The entries of an INI file. Its lines are read one by one, so where the bytes break off inside a
character, a fault in a complete line comes first. -/
def readIni (files : Files) (path : String) : Except Fault (Dictionary String) := do
  let some bytes ← ifPresent (files.read path) | return ∅
  match Text.Utf8.decode bytes with
  | .ok text =>
    let text := String.ofList (Text.Chars.universalNewlines text.toList)
    match Ini.parse text with
    | .ok entries => return Dictionary.ofList entries
    | .error fault => throw (.ini path fault)
  | .error fault =>
    if fault.reason ≠ .truncated then throw (.unreadable (.undecodable fault))
    let start := Text.Utf8.decodeLossy (bytes.take fault.start)
    match Ini.readLines 1 .empty (Ini.rawLines (completeLines start)) with
    | .error fault => throw (.ini path fault)
    | .ok _ => throw (.unreadable (.undecodable { fault with start := 0 }))

/-- The table of a JSON file, which is empty if the file holds no object. -/
def readJson (files : Files) (path : String) : Except Fault (List (String × Value)) := do
  match ← ifPresent (files.readText path) with
  | none => return []
  | some text =>
    match ← unlessMalformed (Json.parse text) with
    | some (.dict entries) => return entries
    | _ => return []

/-- The table of a TOML file. -/
def readToml (files : Files) (path : String) : Except Fault (List (String × Value)) := do
  match ← ifPresent (files.read path) with
  | none => return []
  | some bytes =>
    match Text.Utf8.decode bytes with
    | .error fault => throw (.unreadable (.undecodable fault))
    | .ok text => return (← unlessMalformed (Toml.parse text)).getD []

/-! ## All sources -/

/-- The settings that the entries of a mapping give over the defaults. -/
def ofMapping (files : Files) (entries : Dictionary Value) : Except Fault Settings :=
  ofEntries files (merge defaults [entries.entries])

/-- Reads the files in a directory. -/
def Sources.read (files : Files) (directory : String) (environment : Dictionary String) :
    Except Fault Sources := do
  let named (name : String) : String :=
    if directory.endsWith "/" then directory ++ name else s!"{directory}/{name}"
  return {
    dotenv := ← readDotenv files (named ".env")
    ini := ← readIni files (named "console.ini")
    json := ← readJson files (named "console.json")
    toml := ← readToml files (named "console.toml")
    environment := environment }

/-- The settings that the files in a directory and the environment give over the defaults. -/
def load (files : Files) (directory : String) (environment : Dictionary String) :
    Except Fault Settings := do
  let sources ← Sources.read files directory environment
  ofEntries files sources.merged

end DevConsole.Settings
