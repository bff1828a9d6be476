import DevConsole.Program

/-!
# Command line

Reads the arguments, takes a snapshot of the files and variables that a run can use, and serves the
console on the terminal.  What the program does is decided in `DevConsole.Program`; this module only
reads, prints and waits.
-/

namespace DevConsole.Program

/-- An embedding without commands and conditions of its own. -/
abbrev Plain : Embedding := ⟨Empty, Empty, Unit⟩

/-- The host of such an embedding. -/
def plainHost : Host Plain where
  call := fun handle _ _ => nomatch handle
  ask := fun handle _ _ => nomatch handle

/-- The file under a path, if it can be read. -/
def readNode? (path : String) : IO (Option FileNode) := do
  try
    return some (.file (← IO.FS.readBinFile path).toList)
  catch _ =>
    return none

/-- `files` with the readable ones among some paths. -/
def withPaths (files : Files) (paths : List String) : IO Files := do
  let mut nodes := files.nodes
  for path in paths do
    if let some node ← readNode? path then
      nodes := (files.resolve path, node) :: nodes
  return { files with nodes := nodes }

/-- The paths in a directory. -/
def pathsIn (directory : String) : IO (List String) := do
  try
    let entries ← ((← IO.currentDir) / directory).readDir
    return entries.toList.map fun entry => entry.path.toString
  catch _ =>
    return []

/-- The variables that settings and paths may use. -/
def readEnvironment : IO (Dictionary String) := do
  let names := "HOME" :: Settings.defaults.keys.map (Settings.keyStart ++ ·)
  let found ← names.mapM fun name => return (name, ← IO.getEnv name)
  return ⟨found.filterMap fun (name, value) => value.map fun value => (name, value)⟩

/-- What a boot starts from on this machine. -/
def surroundings (scripts : List String) : IO Boot.Surroundings := do
  let current ← IO.currentDir
  let bare : Files :=
    { nodes := [], current := Files.names current.toString, environment := ← readEnvironment }
  let configured ← withPaths bare [".env", "console.ini", "console.json", "console.toml"]
  let directory :=
    match Settings.load configured (Files.absolute bare.current) bare.environment with
    | .ok settings => settings.scriptPath
    | .error _ => "."
  let files ← withPaths configured ((← pathsIn directory) ++ scripts.map bare.expand)
  return { files := files, machine := "terminal",
           terminal := ← (← IO.getStderr).isTty }

/-- The time, as far as the file that was written last tells it. -/
def timeOf (path : String) : IO String := do
  try
    let seconds := (← ((← IO.currentDir) / path).metadata).modified.sec
    return (Moment.ofSeconds seconds.toNat).iso " "
  catch _ =>
    return (Moment.ofSeconds 0).iso " "

/-- Hands the events of a console to its logger. -/
def flushJournal (logger : Logger) (c : Console Plain) : IO (Console Plain) := do
  for event in c.journal.events do
    let path := logger.file.getD ""
    if logger.file.isSome then
      IO.FS.withFile path .append fun handle => handle.putStr ""
    let time ← timeOf path
    let .ok message := event.message | continue
    let (shown, filed) := logger.log time event.source event.level message
    if let some text := shown then
      (← IO.getStderr).putStr text
    if let some text := filed then
      IO.FS.withFile path .append fun handle => handle.putStr text
  return { c with journal := { c.journal with events := [] } }

/-- The screen of a console. -/
def screenText (frontend : Frontend) (c : Console Plain) : String :=
  let fragments :=
    if c.enabled then (frontend.panel c 24).1 else [⟨"class:marker", "console hidden"⟩]
  let status := c.status.toOption.getD []
  String.join ((fragments ++ [Console.rowEnd] ++ status).map (·.text))

/-- Starts to read a line that the user types. -/
def typedLine : IO (Task (Except IO.Error String)) := do
  IO.asTask (← IO.getStdin).getLine Task.Priority.dedicated

/-- Ticks a console, shows it when it changes, and enters what the user types, until the console
asks to quit. -/
partial def serve (frontend : Frontend) (logger : Logger) (shown : String)
    (typed : Task (Except IO.Error String)) (c : Console Plain) : IO Unit := do
  let (_, c) := c.tick plainHost
  let (c, typed) ←
    if ← IO.hasFinished typed then
      match typed.get with
      | .ok line => pure (((Frontend.type c line).submit plainHost).2, ← typedLine)
      | .error _ => pure (c, typed)
    else pure (c, typed)
  let c ← flushJournal logger c
  let text := screenText frontend c
  if text != shown then
    (← IO.getStdout).putStr ("\x1b[2J\x1b[H" ++ text)
    (← IO.getStdout).flush
  unless c.quitRequested do
    IO.sleep (1000 / frontend.tickRate.toNat).toUInt32
    serve frontend logger text typed c

/-- Runs the program with arguments that were read. -/
def runWith (arguments : Arguments) : IO UInt32 := do
  let (result, printed) :=
    start (← surroundings arguments.scripts) PackageTree.standard arguments ()
  IO.print (printedText printed)
  match (result : Except Boot.Fault (Boot.Booted Plain)) with
  | .error fault =>
    let text := fault.text.toOption.getD "<exception str() failed>"
    IO.eprintln s!"{fault.kind}: {text}"
    return 1
  | .ok booted =>
    serve (Frontend.create booted.settings none) booted.logger "" (← typedLine) booted.console
    return 0

/-- Runs the program. -/
def run (texts : List String) : IO UInt32 := do
  match Arguments.parse texts with
  | .ok (.run arguments) => runWith arguments
  | .ok .help =>
    IO.print Arguments.helpText
    return 0
  | .error fault =>
    IO.eprint (Arguments.refusal fault)
    return 2

end DevConsole.Program

/-- Runs the program with the arguments of the command line. -/
def main (texts : List String) : IO UInt32 :=
  DevConsole.Program.run texts
