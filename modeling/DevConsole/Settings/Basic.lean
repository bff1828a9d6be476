import DevConsole.Dictionary
import DevConsole.Script
import DevConsole.Value

/-!
# Settings

What a console can be told about itself before it starts.
-/

namespace DevConsole

/-- The settings of a console. Entries that are no setting are kept as `extra`. -/
structure Settings where
  maxInputLength : Nat
  maxHistoryLines : Nat
  maxOutputLines : Nat
  inputPrompt : String
  commentStarts : List String
  scriptPath : String
  commandsPackage : String
  logLevel : Option String
  logFilePath : Option String
  echoInput : Bool
  suggestOnMiss : Bool
  tickRate : Nat
  autoexec : Option String
  extra : Dictionary Value

namespace Settings

/-- The package of the built-in commands. -/
def builtinPackage : String := "tickconsole.plugins"

/-- The settings of a console that is told nothing. -/
def default : Settings where
  maxInputLength := 128
  maxHistoryLines := 50
  maxOutputLines := 100
  inputPrompt := "> "
  commentStarts := Script.defaultCommentStarts
  scriptPath := "."
  commandsPackage := builtinPackage
  logLevel := none
  logFilePath := none
  echoInput := true
  suggestOnMiss := true
  tickRate := 30
  autoexec := none
  extra := ∅

instance : Inhabited Settings := ⟨default⟩

end Settings

end DevConsole
