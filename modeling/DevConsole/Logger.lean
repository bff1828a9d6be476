import DevConsole.Ansi
import DevConsole.Files
import DevConsole.Journal

/-!
# The logger

Where reports of the console go.  A logger that has been started writes records at or above its
level to an error stream, in colours if the stream is a terminal, and to a file if it has one.  The
file gets plain text with a time stamp.  Starting a logger again changes its level only: the stream
stays the same, and so does a file once there is one.
-/

namespace DevConsole

/-- A logger: its level, whether it has a stream and whether that shows colours, and its file. -/
structure Logger where
  level : Int
  started : Bool
  coloured : Bool
  file : Option String
  deriving Repr

namespace Logger

/-- A logger that has not been started. -/
def fresh : Logger := ⟨Level.notset, false, false, none⟩

/-- The name of the logger. The parts of the console have loggers of their own below it. -/
def rootName : String := "tickconsole"

/-- The level that a name in any case stands for; unknown names stand for the normal course. -/
def levelNamed (name : String) : Int :=
  (Level.ofName? (Text.upper name)).getD Level.info

/-- The level that a value stands for: a number as it is, and a text as the name of a level. -/
def levelOf : Value → Except Failure Int
  | .int n => .ok n
  | .bool b => .ok (if b then 1 else 0)
  | .text name => .ok (levelNamed name)
  | v => do
    let shown ← Value.showing [v] v.literal
    throw (.raised "TypeError" [.text s!"Level not an integer or a valid string: {shown}"])

/-- The number of places that records go to. -/
def handlers (logger : Logger) : Nat :=
  (if logger.started then 1 else 0) + (if logger.file.isSome then 1 else 0)

/-- Starts a logger, or sets the level of a started one. A file that cannot be opened leaves the
logger started without one. -/
def start (logger : Logger) (files : Files) (terminal : Bool) (level : Int)
    (file : Option String) : Except Failure Files × Logger :=
  let coloured := if logger.started then logger.coloured else terminal
  let started : Logger := { logger with level := level, started := true, coloured := coloured }
  match file, logger.file with
  | some path, none =>
    let path := Files.absolute (files.resolve path)
    match files.append path [] with
    | .ok files => (.ok files, { started with file := some path })
    | .error failure => (.error failure, started)
  | _, _ => (.ok files, started)

/-- Whether records of a level are kept: none without a level, and by default warnings and what is
graver. -/
def keeps (logger : Logger) (level : Int) : Bool :=
  0 < level && (Journal.mk logger.level []).effectiveLevel ≤ level

/-- The colour of records of a level. -/
def colour? (level : Int) : Option String :=
  [(Level.debug, "bright_black"), (Level.warning, "yellow"), (Level.error, "red"),
    (Level.critical, "magenta")].lookup level

/-- A record as the stream shows it. -/
def record (level : Int) (message : String) : String :=
  s!"[{Level.name level}] {message}"

/-- A record as the stream shows it, without control sequences. -/
def plainRecord (level : Int) (message : String) : String :=
  Ansi.strip (record level message)

/-- A record on the stream of a logger. -/
def streamText (logger : Logger) (level : Int) (message : String) : String :=
  if logger.coloured then Ansi.colorize (record level message) (colour? level).toList
  else plainRecord level message

/-- A record in the file of a logger, with the time it was made. -/
def fileText (time source : String) (level : Int) (message : String) : String :=
  Ansi.strip s!"{time} [{Level.name level}] {source}: {message}"

/-- Whether a logger of the given name is this logger or one below it. -/
def isBelow (source : String) : Bool :=
  source == rootName || Text.startsWith source (rootName ++ ".")

/-- What a record adds to the stream and to the file. -/
def log (logger : Logger) (time source : String) (level : Int) (message : String) :
    Option String × Option String :=
  if isBelow source && logger.keeps level then
    (if logger.started && logger.level ≤ level then
        some (logger.streamText level message ++ "\n")
      else none,
      if logger.file.isSome && Level.debug ≤ level then
        some (fileText time source level message ++ "\n")
      else none)
  else (none, none)

end Logger

end DevConsole
