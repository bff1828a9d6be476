import DevConsole.Dictionary
import DevConsole.Failure
import DevConsole.Text.Case

/-!
# The journal

What the parts of the console report about their work: events, each with a level, the part that
reports it and a message.  A journal keeps the events at or above its level.
-/

namespace DevConsole

/-! ## Levels

Levels of importance are numbers; some have names.
-/

namespace Level

/-- No level of its own. -/
def notset : Int := 0

/-- Details for those who mend the console. -/
def debug : Int := 10

/-- What happens in the normal course. -/
def info : Int := 20

/-- What may not be as intended. -/
def warning : Int := 30

/-- What went wrong. -/
def error : Int := 40

/-- What cannot be recovered from. -/
def critical : Int := 50

/-- The levels that have a name. -/
def named : List (Int × String) := [
  (critical, "CRITICAL"), (error, "ERROR"), (warning, "WARNING"), (info, "INFO"),
  (debug, "DEBUG"), (notset, "NOTSET")]

/-- The names that settings and commands accept, in the order in which messages list them. -/
def choices : List String := ["DEBUG", "INFO", "WARNING", "ERROR", "CRITICAL"]

/-- The level of a name, among them two that are no longer shown. -/
def ofName? (name : String) : Option Int :=
  match named.find? (·.2 == name) with
  | some (level, _) => some level
  | none => [("FATAL", critical), ("WARN", warning)].lookup name

/-- The name of a level. -/
def name (level : Int) : String :=
  match named.lookup level with
  | some name => name
  | none => s!"Level {level}"

end Level

/-! ## Events -/

/-- Something that a part of the console reports. -/
inductive Event where
  | dispatched (command : String) (args : List String)
  | commandUnknown (message : String)
  | commandFailed (command : String)
  | scriptAborted (dropped : Nat)
  | commandSkipped (origin reason : String)
  | commandsLoaded (count : Nat) (package : String)
  | linesQueued (count : Nat) (origin : String) (pending : Nat)
  | scriptUnreadable (name reason : String)
  | waitCleared (mode remaining : Int)
  | waitArmed (mode delay : Int) (condition : Option String)
  | waitElapsed
  | conditionSatisfied (tag : String)
  | conditionMet (tag : String)
  | conditionFailed (tag : String)
  deriving DecidableEq, Repr

namespace Event

/-- How important an event is. -/
def level : Event → Int
  | commandSkipped .. => Level.warning
  | commandFailed _ | conditionFailed _ => Level.error
  | commandUnknown _ | scriptAborted _ | scriptUnreadable .. => Level.info
  | _ => Level.debug

/-- The part that reports an event. -/
def source : Event → String
  | dispatched .. | commandUnknown _ | commandFailed _ => "tickconsole.interface.handler"
  | scriptAborted _ => "tickconsole.context"
  | commandSkipped .. | commandsLoaded .. => "tickconsole.interface.loader"
  | linesQueued .. | scriptUnreadable .. => "tickconsole.scheduler.script"
  | _ => "tickconsole.scheduler.wait"

/-- The words for an event. -/
def message : Event → Except Failure String
  | dispatched command args =>
    .ok s!"Dispatch {command} {(Value.list (args.map Value.text)).literal}"
  | commandUnknown message => .ok message
  | commandFailed command => .ok s!"Command '{command}' failed"
  | scriptAborted dropped => .ok s!"Script aborted, {dropped} line(s) dropped"
  | commandSkipped origin reason =>
    let origin := if origin.isEmpty then "?" else origin
    .ok s!"Skipping command from {origin}: {reason}"
  | commandsLoaded count package => .ok s!"Loaded {count} command(s) from {package}"
  | linesQueued count origin pending =>
    .ok s!"Queued {count} line(s) from {origin} ({pending} pending)"
  | scriptUnreadable name reason =>
    .ok s!"Script {Text.quoted name} failed to load: {reason}"
  | waitCleared mode remaining =>
    Value.showing [.int mode, .int remaining]
      s!"Wait cleared (was mode={mode} remaining={remaining})"
  | waitArmed mode delay condition =>
    let condition := condition.getD "None"
    Value.showing [.int mode, .int delay]
      s!"Wait armed: mode={mode} delay={delay} condition={condition}"
  | waitElapsed => .ok "Tick wait elapsed"
  | conditionSatisfied tag => .ok s!"Wait condition {Text.quoted tag} satisfied by host"
  | conditionMet tag => .ok s!"Wait condition {Text.quoted tag} met"
  | conditionFailed tag => .ok s!"Wait condition {Text.quoted tag} raised; wait stays armed"

end Event

/-! ## Journals -/

/-- A level and the events kept, oldest first. -/
structure Journal where
  level : Int
  events : List Event
  deriving Repr

namespace Journal

/-- A journal whose level has not been set. -/
def empty : Journal := ⟨Level.notset, []⟩

/-- The level from which events are kept: warnings and above unless a level is set. -/
def effectiveLevel (journal : Journal) : Int :=
  if journal.level = Level.notset then Level.warning else journal.level

/-- Keeps an event if it is important enough. -/
def record (journal : Journal) (event : Event) : Journal :=
  if journal.effectiveLevel ≤ event.level then
    { journal with events := journal.events ++ [event] }
  else journal

end Journal

end DevConsole
