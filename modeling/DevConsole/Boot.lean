import DevConsole.Console.Package
import DevConsole.Logger
import DevConsole.Settings.Sources

/-!
# Boot

From settings and the packages of commands that there are to a console that can be ticked.  The boot
goes through steps and reports each on a line: done, or failed with the reason, which ends the boot.
A script that the settings name for the start is queued at the end; if it cannot be read, the boot
warns and goes on.
-/

namespace DevConsole.Boot

/-- A line of the report on a boot. -/
inductive Line where
  | done (label : String)
  | failed (label kind reason : String)
  | warning (text : String)
  deriving DecidableEq, Repr

/-- The text of a line, in colours. -/
def Line.text : Line → String
  | done label => Ansi.colorize s!"[  OK  ] {label}" ["green"]
  | failed label kind reason => Ansi.colorize s!"[FAILED] {label} ({kind}: {reason})" ["red"]
  | warning text => Ansi.colorize s!"[ WARN ] {text}" ["yellow"]

/-- Why a boot ends early: the settings are refused, an operation on the console has a fault, or the
system or a text fails the boot itself. -/
inductive Fault where
  | settings (fault : Settings.Fault)
  | console (fault : DevConsole.Fault)
  | outside (failure : Failure)

namespace Fault

/-- The name of the kind of fault. -/
def kind : Fault → String
  | settings fault => fault.kind
  | console fault => fault.kind
  | outside failure => failure.kind

/-- The words for a fault. -/
def message : Fault → Except Failure String
  | settings fault => fault.message
  | console fault => fault.message
  | outside failure => failure.text

/-- The words for a fault in a report. -/
def text : Fault → Except Failure String
  | console fault => fault.text
  | fault => fault.message

end Fault

/-- What a boot starts from: files and variables, the text that describes the machine, and whether
reports go to a terminal. -/
structure Surroundings where
  files : Files
  machine : String
  terminal : Bool

/-- The settings of the current directory and the environment. -/
def Surroundings.loadSettings (around : Surroundings) : Except Fault Settings :=
  let directory := Files.absolute around.files.current
  (Settings.load around.files directory around.files.environment).mapError .settings

/-- What a boot ends with. -/
structure Booted (E : Embedding) where
  settings : Settings
  logger : Logger
  files : Files
  console : Console E
  loaded : Nat

/-- A part of a boot, which adds lines to the report. -/
abbrev Part (α : Type) := List Line → Except Fault α × List Line

namespace Part

/-- A part that only adds a line. -/
def say (line : Line) : Part Unit := fun report => (.ok (), report ++ [line])

/-- A part that ends the boot and adds no line. -/
def abandon {α : Type} (fault : Fault) : Part α := fun report => (.error fault, report)

/-- A step: reports that it is done, or that and why it failed. If the words for a fault cannot be
made, that failure takes the place of the fault, and there is no line. -/
def step {α : Type} (label : String) (result : Except Fault α) : Part α := fun report =>
  match result with
  | .ok a => (.ok a, report ++ [.done label])
  | .error fault =>
    match fault.text with
    | .ok text => (.error fault, report ++ [.failed label fault.kind text])
    | .error other => (.error (.outside other), report)

instance : Monad Part where
  pure a report := (.ok a, report)
  bind part next report :=
    match part report with
    | (.ok a, report) => next a report
    | (.error fault, report) => (.error fault, report)

end Part

/-- The settings of a boot: those given, or else those of the current directory and the
environment. -/
def settingsOf (around : Surroundings) (given : Option Settings) : Part Settings :=
  match given with
  | some settings => pure settings
  | none => .step "Load configuration" around.loadSettings

/-- The level that settings give to the logger. The empty name stands for none. -/
def levelOf (settings : Settings) : Int :=
  match settings.logLevel.filter (!·.isEmpty) with
  | some name => Logger.levelNamed name
  | none => Level.warning

/-- Starts the logger. -/
def startLogger (around : Surroundings) (settings : Settings) : Part (Files × Logger) :=
  let (result, logger) :=
    Logger.fresh.start around.files around.terminal (levelOf settings) settings.logFilePath
  .step "Initialize logger" ((result.map fun files => (files, logger)).mapError .outside)

/-- Makes the console. The label of the step names its bounds, so the boot cannot even begin the
step if one of them has too many digits to be written. -/
def makeConsole {E : Embedding} (settings : Settings) (source : LineSource) (logger : Logger)
    (world : E.World) : Part (Console E) :=
  let (input, history, output) :=
    (settings.maxInputLength, settings.maxHistoryLines, settings.maxOutputLines)
  match Value.showing [.int input, .int history, .int output]
      s!"Initialize console (input {input}, history {history}, output {output})" with
  | .ok label =>
    .step label
      (((Console.createSized input history output settings source world).map fun console =>
        { console with journal := { console.journal with level := logger.level } }).mapError
          .console)
  | .error other => .abandon (.outside other)

/-- The script that settings name for the start. The empty name stands for none. -/
def startScript? (settings : Settings) : Option String :=
  settings.autoexec.filter (!·.isEmpty)

/-- Queues the script that the settings name, if any. -/
def queueAutoexec {E : Embedding} (console : Console E) : Part (Console E) :=
  match startScript? console.settings with
  | none => pure console
  | some name =>
    match console.loadScript name with
    | (.ok queued, console) => do
      Part.say (.done s!"Queue autoexec '{name}' ({queued} line(s))")
      return console
    | (.error fault, console) =>
      match fault with
      | .unreadable file reason => do
        Part.say (.warning (Script.unreadableText file reason))
        return console.writeOutput s!"[error] {Script.unreadableText file reason}"
      | .source _ => .abandon (.console (.script fault))

/-- All parts of a boot in order. Without `source`, scripts are files below the path of the
settings. -/
def parts {E : Embedding} (around : Surroundings) (packages : Packages E)
    (given : Option Settings) (source : Option LineSource) (world : E.World) :
    Part (Booted E) := do
  Part.say (.done "Enable ANSI sequences")
  Part.say (.done s!"Detect environment: {around.machine}")
  let settings ← settingsOf around given
  let (files, logger) ← startLogger around settings
  let source := source.getD (.ofFiles files (some settings.scriptPath))
  let console ← makeConsole settings source logger world
  let (result, console) := console.loadPackage packages settings.commandsPackage
  let loaded ←
    Part.step s!"Register commands from '{settings.commandsPackage}'" (result.mapError .console)
  let console ← queueAutoexec console
  Part.say (.done "Boot complete")
  return ⟨settings, logger, files, console, loaded⟩

/-- Boots a console. Gives the lines of the report as well. -/
def run {E : Embedding} (around : Surroundings) (packages : Packages E)
    (given : Option Settings) (source : Option LineSource) (world : E.World) :
    Except Fault (Booted E) × List Line :=
  parts around packages given source world []

end DevConsole.Boot
