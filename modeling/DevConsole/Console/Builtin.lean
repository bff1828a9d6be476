import DevConsole.Console.Help
import DevConsole.Text.Numeral

/-!
# Built-in commands

What each built-in command does with its arguments, and the definitions of the commands as their
packages hold them.
-/

namespace DevConsole

namespace Builtin

variable {E : Embedding}

/-- A reply that says that the command failed. -/
def refuse (message : String) : Except Fault Reply :=
  .ok (.result false message)

/-- A reply that says that the command succeeded. -/
def accept (message : String) : Except Fault Reply :=
  .ok (.result true message)

/-- A reply without anything to write. -/
def silent : Except Fault Reply :=
  .ok (.value .null)

/-- A reply that is a text, if that can be made. -/
def textReply (text : Except Failure String) : Except Fault Reply :=
  (text.map fun text => .value (.text text)).mapError .outside

/-- A reply of several lines. -/
def linesReply (lines : List String) : Except Fault Reply :=
  .ok (.value (.list (lines.map .text)))

/-- Defines an alias. A target that is an alias itself is refused. -/
def runAlias (c : Console E) (args : List String) : Except Fault Reply × Console E :=
  match args with
  | [name, target] =>
    if c.registry.aliases.contains target then
      (refuse s!"'{target}' is itself an alias; aliases cannot chain.", c)
    else
      match c.registerAlias name target with
      | .ok c => (accept s!"{name} -> {target}", c)
      | .error fault => (refuse fault.message, c)
  | _ => (refuse "usage: alias <name> <command>", c)

/-- Shows or sets the level of the journal. -/
def runLogLevel (c : Console E) (args : List String) : Except Fault Reply × Console E :=
  match args with
  | [] => (accept s!"Current log level: {Level.name c.journal.effectiveLevel}", c)
  | arg :: _ =>
    let wanted := Text.upper arg
    match if Level.choices.contains wanted then Level.ofName? wanted else none with
    | some level =>
      let journal := { c.journal with level := level }
      (accept s!"Log level set to {wanted}", { c with journal := journal })
    | none =>
      let choices := Text.join ", " Level.choices
      (refuse s!"Invalid log level '{arg}'. Valid options are: {choices}", c)

/-- Queues the lines of a script. -/
def runExec (c : Console E) (args : List String) : Except Fault Reply × Console E :=
  match args with
  | [name] =>
    match c.loadScript name with
    | (.ok queued, c) => (accept s!"Queued {queued} line(s) from {name}.", c)
    | (.error (.unreadable file reason), c) =>
      (refuse (Script.unreadableText file reason), c)
    | (.error fault, c) => (.error (.script fault), c)
  | _ => (refuse "usage: exec <file>", c)

/-- Arms a wait for a number of ticks. -/
def runWait (c : Console E) (args : List String) : Except Fault Reply × Console E :=
  match args with
  | [arg] =>
    match Text.count? arg with
    | some count =>
      match c.setWait 1 count with
      | .ok c => (silent, c)
      | .error fault => (.error (.wait fault), c)
    | none => (refuse "usage: wait <ticks>", c)
  | _ => (refuse "usage: wait <ticks>", c)

/-- Arms a wait for the condition called `tag`. -/
def armCondition (c : Console E) (tag : String) (parameter : Nat) :
    Except Fault Reply × Console E :=
  match c.waitFor tag parameter with
  | .ok c => (silent, c)
  | .error (.unknownCondition tag) => (refuse (WaitFault.unknownCondition tag).message, c)
  | .error fault => (.error (.wait fault), c)

/-- Arms a wait for a condition, with a value or with zero. -/
def runWaitFor (c : Console E) (args : List String) : Except Fault Reply × Console E :=
  match args with
  | [tag] => armCondition c tag 0
  | [tag, value] =>
    match Text.count? value with
    | some parameter => armCondition c tag parameter
    | none => (refuse s!"Invalid value: {value}", c)
  | _ =>
    let tags := c.scheduler.sorted.map (·.tag)
    let known := Console.orElse (Text.join ", " tags) "none"
    (refuse s!"usage: waitfor <condition> [value] (known: {known})", c)

/-- The line that describes the wait. -/
def describeWait : WaitState → Except Failure String
  | .running => .ok "Wait: running"
  | .ticks remaining initial =>
    Value.showing [.int remaining, .int initial] s!"Wait: {remaining} of {initial} tick(s) left"
  | .condition _ tag remaining _ _ =>
    Value.showing [.int remaining] s!"Wait: {tag} (value {remaining})"

/-- The lines that describe the wait and the pending lines. -/
def describeQueue (c : Console E) : Except Failure (List String) := do
  let wait ← describeWait c.scheduler.state
  return wait :: s!"Pending: {c.queue.length} line(s)" :: c.queue.map ("  " ++ ·)

/-- Runs a built-in command. -/
def run (command : Builtin) (args : List String) (c : Console E) :
    Except Fault Reply × Console E :=
  match command with
  | echo => (.ok (.value (.text (Text.join " " args))), c)
  | help =>
    match args with
    | [] =>
      (linesReply (c.listCategories ++ ["Type 'help <command>' or 'cmdlist' for details."]), c)
    | name :: _ => (linesReply (c.help name), c)
  | cmdlist => let (lines, c) := c.listCommands; (linesReply lines, c)
  | aliaslist => let (lines, c) := c.listAliases; (linesReply lines, c)
  | defineAlias => runAlias c args
  | clear => (silent, c.clearOutput)
  | clearhist => (silent, c.clearHistory)
  | quit => (silent, c.requestQuit)
  | ticks => (textReply (Value.showing [.int c.ticks] s!"{c.ticks} tick(s)"), c)
  | toggle => (silent, c.toggle)
  | loglevel => runLogLevel c args
  | exec => runExec c args
  | wait => runWait c args
  | waitfor => runWaitFor c args
  | resume => (silent, c.clearWait)
  | abort =>
    let (dropped, c) := c.abortScript
    (.ok (.value (.text s!"Aborted; {dropped} queued line(s) dropped.")), c)
  | queue => (((describeQueue c).mapError .outside).bind linesReply, c)

/-- The definition of a built-in command in the module `origin`. -/
def define (origin name help usage : String) (aliases : List String) (command : Builtin) :
    Command (Action E) :=
  { name := name, help := help, usage := usage, category := Command.generalCategory,
    aliases := aliases, origin := origin, action := .builtin command }

/-- The commands for output, help and aliases. -/
def consoleCommands (origin : String) : List (Command (Action E)) := [
  define origin "echo" "Write the arguments to the console output." "echo hello world" [] echo,
  define origin "help" "List categories, or show help for a command or category." "help exec"
    ["?"] help,
  define origin "cmdlist" "List every registered command." "" ["commands"] cmdlist,
  define origin "aliaslist" "List every alias and its target." "" [] aliaslist,
  define origin "alias" "Define an alias for a command." "alias q quit" [] defineAlias,
  define origin "clear" "Clear the console output." "" ["cls"] clear,
  define origin "clearhist" "Clear the command history." "" [] clearhist]

/-- The commands about the host program. -/
def hostCommands (origin : String) : List (Command (Action E)) := [
  define origin "quit" "Ask the host program to exit." "" ["exit"] quit,
  define origin "ticks" "Show how many host ticks have elapsed." "" [] ticks,
  define origin "toggle" "Show or hide the console panel." "" [] toggle,
  define origin "loglevel" "Get or set the console log level." "loglevel DEBUG" [] loglevel]

/-- The commands about scripts. -/
def scriptCommands (origin : String) : List (Command (Action E)) := [
  define origin "exec" "Queue the lines of a script file for execution." "exec autoexec.cfg"
    ["run"] exec,
  define origin "wait" "Pause queued script lines for a number of ticks." "wait 10" [] wait,
  define origin "waitfor" "Pause queued script lines until a host condition is met."
    "waitfor level_loaded" [] waitfor,
  define origin "resume" "Cancel the current wait and continue the script." "" [] resume,
  define origin "abort" "Drop all queued script lines and any pending wait." "" [] abort,
  define origin "queue" "Show the pending script lines and wait state." "" [] queue]

end Builtin

end DevConsole
