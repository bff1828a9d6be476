import DevConsole.Arguments
import DevConsole.Boot
import DevConsole.Console.Frontend

/-!
# The program

A run of the program reads its arguments, loads the settings, boots a console, queues the scripts
that the arguments name, and then ticks the console until it asks to quit.  A rate in the arguments
overrides that of the settings, but is at least one; zero counts as not given.
-/

namespace DevConsole.Program

/-- The first line that a user sees. -/
def greeting : String := "Console ready. Type 'help' for a list of commands."

/-- Settings with the rate that the arguments give. -/
def withRate (settings : Settings) (rate : Option Int) : Settings :=
  match rate with
  | none => settings
  | some 0 => settings
  | some n => { settings with tickRate := (max 1 n).toNat }

/-- Queues scripts in order. One that cannot be read is reported in the output. -/
def queueScripts {E : Embedding} (console : Console E) :
    List String → Except Boot.Fault (Console E)
  | [] => .ok console
  | name :: rest =>
    match console.loadScript name with
    | (.ok _, console) => queueScripts console rest
    | (.error fault, console) =>
      match fault with
      | .unreadable file reason =>
        queueScripts (console.writeOutput s!"[error] {Script.unreadableText file reason}") rest
      | .source _ => .error (.console (.script fault))

/-- Everything up to the first tick. Gives the lines that the boot printed as well. -/
def start {E : Embedding} (around : Boot.Surroundings) (packages : Packages E)
    (arguments : Arguments) (world : E.World) :
    Except Boot.Fault (Boot.Booted E) × List Boot.Line :=
  match around.loadSettings with
  | .error fault => (.error fault, [])
  | .ok settings =>
    match Boot.run around packages (some (withRate settings arguments.tickRate)) none world with
    | (.error fault, printed) => (.error fault, printed)
    | (.ok booted, printed) =>
      match queueScripts booted.console arguments.scripts with
      | .error fault => (.error fault, printed)
      | .ok console => (.ok { booted with console := console.writeOutput greeting }, printed)

/-- What a boot prints. -/
def printedText (lines : List Boot.Line) : String :=
  String.join (lines.map fun line => line.text ++ "\n")

end DevConsole.Program
