import DevConsole.Completion
import DevConsole.Fault
import DevConsole.Journal
import DevConsole.Settings.Basic

/-!
# The console

A console owns its registries, its input line, its output and history logs, the queue of pending
script lines and the wait.  The program that embeds it supplies the code of commands and of wait
conditions: the console knows such code by handles only, whose types are an `Embedding`, and a
`Host` says what a handle does.  Every definition about consoles is a function of the host, so
what holds of all hosts holds whatever their code does.
-/

namespace DevConsole

/-- The types that an embedding program chooses: handles of command callbacks, handles of
predicates of wait conditions, and what it keeps in the console for them. -/
structure Embedding where
  Callback : Type
  Predicate : Type
  World : Type

/-- The commands that every console can load. -/
inductive Builtin where
  | echo
  | help
  | cmdlist
  | aliaslist
  | defineAlias
  | clear
  | clearhist
  | quit
  | ticks
  | toggle
  | loglevel
  | exec
  | wait
  | waitfor
  | resume
  | abort
  | queue
  deriving DecidableEq, Repr

/-- What a command does: a built-in command, or code of the host. -/
inductive Action (E : Embedding) where
  | builtin (command : Builtin)
  | callback (handle : E.Callback)

/-- The state of a console. The journal holds what its parts report. -/
structure Console (E : Embedding) where
  settings : Settings
  registry : Registry (Action E)
  descriptions : Dictionary String
  input : InputLine
  output : ScrollLog
  history : ScrollLog
  queue : List String
  scheduler : WaitScheduler E.Predicate
  source : LineSource
  journal : Journal
  world : E.World
  enabled : Bool
  quitRequested : Bool
  recalling : Bool
  ticks : Nat

/-- What a command gives back to be written: a value, a result that says whether the command
succeeded, or items that are produced while they are written, possibly up to a failure. -/
inductive Reply where
  | value (value : Value)
  | result (ok : Bool) (message : String)
  | items (items : List Value) (failure : Option Failure)

/-- What the handles of an embedding do. A callback may do anything to the console, also before it
fails. A predicate sees the wait and the world. -/
structure Host (E : Embedding) where
  call : E.Callback → List String → Console E → Except Fault Reply × Console E
  ask : E.Predicate → WaitState → E.World → Verdict × E.World

namespace Console

variable {E : Embedding}

/-- An empty console with the given settings. -/
def create (settings : Settings) (source : LineSource) (world : E.World) :
    Except Fault (Console E) := do
  let input ← (InputLine.empty? settings.maxInputLength settings.inputPrompt).mapError .input
  let output ← (ScrollLog.empty? settings.maxOutputLines).mapError .log
  let history ← (ScrollLog.empty? settings.maxHistoryLines).mapError .log
  return {
    settings := settings
    registry := ∅
    descriptions := ∅
    input := input
    output := output
    history := history
    queue := []
    scheduler := .empty
    source := source
    journal := .empty
    world := world
    enabled := true
    quitRequested := false
    recalling := false
    ticks := 0 }

/-- An empty console with the given bounds of input line, history and output, and the other
settings as they are. -/
def createSized (maxInput maxHistory maxOutput : Int) (settings : Settings) (source : LineSource)
    (world : E.World) : Except Fault (Console E) := do
  if maxInput < 1 then throw (.size "max_input_len")
  if maxHistory < 1 then throw (.size "max_hist_lines")
  if maxOutput < 1 then throw (.size "max_out_lines")
  let sized := { settings with
    maxInputLength := maxInput.toNat
    maxHistoryLines := maxHistory.toNat
    maxOutputLines := maxOutput.toNat }
  create sized source world

/-- Reports an event. -/
def report (c : Console E) (event : Event) : Console E :=
  { c with journal := c.journal.record event }

/-! ## Names -/

/-- Adds a command and its aliases, unless a name is invalid or in use. -/
def register (c : Console E) (command : Command (Action E)) :
    Except NameFault Unit × Console E :=
  let (result, registry) := c.registry.register command
  (result, { c with registry := registry })

/-- Adds the command that is offered and its aliases. Gives the command back. -/
def registerOffer (c : Console E) (offer : Offer (Action E)) :
    Except NameFault (Command (Action E)) × Console E :=
  match offer.toCommand with
  | .error fault => (.error fault, c)
  | .ok command =>
    let (result, c) := c.register command
    (result.map fun () => command, c)

/-- Adds an alias, unless its name is invalid or in use. -/
def registerAlias (c : Console E) (name target : String) : Except NameFault (Console E) :=
  (c.registry.registerAlias name target).map fun registry => { c with registry := registry }

/-- Orders commands and aliases by name. -/
def sortNames (c : Console E) : Console E :=
  { c with registry := c.registry.sort }

/-! ## Output and history -/

/-- The lines of a text: line feeds part them, and carriage returns at their ends are dropped. -/
def outputLines (text : String) : List String :=
  (Text.Chars.fields '\n' text.toList).map fun line =>
    String.ofList (Text.Chars.trimEnd (· == '\r') line)

/-- Appends the lines of a text to the output. -/
def writeOutput (c : Console E) (text : String) : Console E :=
  { c with output := (outputLines text).foldl ScrollLog.write c.output }

/-- Appends a line to the history. -/
def writeHistory (c : Console E) (line : String) : Console E :=
  { c with history := c.history.write line }

/-- Drops all output. -/
def clearOutput (c : Console E) : Console E :=
  { c with output := c.output.clear }

/-- Drops the history and ends recall. -/
def clearHistory (c : Console E) : Console E :=
  { c with history := c.history.clear, recalling := false }

/-- Scrolls the output by one line. -/
def scrollOutput (c : Console E) (up : Bool) : Bool × Console E :=
  let (moved, output) := c.output.scroll up
  (moved, { c with output := output })

/-- Puts the history line under the cursor into the input line. -/
def recallLine (c : Console E) : Console E :=
  { c with input := c.input.setText (c.history.current?.getD "") }

/-- Steps through the history and puts the line reached into the input line. The first step up
recalls the newest line; a step down from the newest line ends recall and clears the input. -/
def scrollHistory (c : Console E) (up : Bool) : Bool × Console E :=
  if c.history.lines.isEmpty then (false, c)
  else if !c.recalling then
    if up then (true, recallLine { c with history := c.history.scrollToNewest, recalling := true })
    else (false, c)
  else if !up && c.history.following then
    (true, { c with recalling := false, input := c.input.clear })
  else
    let (moved, history) := c.history.scroll up
    let c := { c with history := history }
    if moved then (true, c.recallLine) else (false, c)

/-! ## The input line -/

/-- Applies an edit to the input line. -/
def edit {α : Type} (c : Console E) (f : InputLine → α × InputLine) : α × Console E :=
  let (result, input) := f c.input
  (result, { c with input := input })

/-- Completes the command name in the input line and lists the candidates if there are several. -/
def complete (c : Console E) : List String × Console E :=
  let (replacement, candidates) :=
    Completion.complete c.registry.commands c.registry.aliases c.input.text
  let c := match replacement with
    | some text => { c with input := c.input.setText text }
    | none => c
  let c := if 1 < candidates.length then c.writeOutput (Text.join "  " candidates) else c
  (candidates, c)

/-! ## Scripts -/

/-- Appends kept lines to the queue. -/
def enqueue (c : Console E) (kept : List String) (origin : String) : Nat × Console E :=
  let queue := c.queue ++ kept
  (kept.length, { c with queue := queue }.report (.linesQueued kept.length origin queue.length))

/-- Appends those of `lines` that are neither blank nor comments to the queue. -/
def loadLines (c : Console E) (lines : List String) (origin : String) : Nat × Console E :=
  c.enqueue (Script.keptLines c.settings.commentStarts lines) origin

/-- Appends the kept lines of a stream to the queue. A stream that fails leaves the queue as it
was. -/
def loadStream (c : Console E) (stream : LineStream) (origin : String) :
    Except Failure Nat × Console E :=
  match Script.keptOf c.settings.commentStarts stream with
  | .ok kept =>
    let (count, c) := c.enqueue kept origin
    (.ok count, c)
  | .error failure => (.error failure, c)

/-- Appends the kept lines of a script to the queue. A script that cannot be read to its end leaves
the queue as it was. -/
def loadScript (c : Console E) (name : String) : Except Script.Fault Nat × Console E :=
  match Script.load c.source c.settings.commentStarts name with
  | .ok kept =>
    let (count, c) := c.enqueue kept name
    (.ok count, c)
  | .error fault =>
    match fault with
    | .unreadable name reason => (.error fault, c.report (.scriptUnreadable name reason))
    | .source _ => (.error fault, c)

/-! ## Waits -/

/-- Adds a condition that can be waited for. -/
def registerCondition (c : Console E) (condition : WaitCondition E.Predicate) :
    Except WaitFault (Console E) :=
  (c.scheduler.register condition).map fun scheduler => { c with scheduler := scheduler }

/-- Arms a wait of the given mode, or ends any wait if the mode is `0`. -/
def setWait (c : Console E) (mode delay : Int) : Except WaitFault (Console E) :=
  (c.scheduler.arm mode delay).map fun scheduler =>
    let before := c.scheduler.state
    let c := { c with scheduler := scheduler }
    if mode = 0 then
      if before.isRunning then c else c.report (.waitCleared before.mode before.remaining)
    else c.report (.waitArmed mode delay scheduler.state.tag?)

/-- Arms a wait for the condition with the given tag. -/
def waitFor (c : Console E) (tag : String) (parameter : Int) : Except WaitFault (Console E) := do
  c.setWait (← c.scheduler.codeOf tag) parameter

/-- Ends the wait if it is for the condition called `tag`. -/
def satisfy (c : Console E) (tag : String) : Bool × Console E :=
  let (released, scheduler) := c.scheduler.satisfy tag
  let c := { c with scheduler := scheduler }
  (released, if released then c.report (.conditionSatisfied tag) else c)

/-- Ends any wait. -/
def clearWait (c : Console E) : Console E :=
  let before := c.scheduler.state
  let c := { c with scheduler := c.scheduler.clear }
  if before.isRunning then c else c.report (.waitCleared before.mode before.remaining)

/-- What a poll has to report. -/
def pollEvent? : Poll → Option Event
  | .elapsed => some .waitElapsed
  | .met tag => some (.conditionMet tag)
  | .failed tag _ => some (.conditionFailed tag)
  | _ => none

/-- Advances the wait by one tick. -/
def poll (c : Console E) (host : Host E) : Poll × Console E :=
  let (result, scheduler, world) := c.scheduler.poll host.ask c.world
  let c := { c with scheduler := scheduler, world := world }
  (result, match pollEvent? result with
    | some event => c.report event
    | none => c)

/-- Drops all pending lines and any wait. Gives the number of lines dropped. -/
def abortScript (c : Console E) : Nat × Console E :=
  let dropped := c.queue.length
  let c := { c with queue := [] }.clearWait
  (dropped, if dropped = 0 then c else c.report (.scriptAborted dropped))

/-- Drops pending lines, wait, logs and input. -/
def reset (c : Console E) : Console E :=
  let c := c.abortScript.2.clearOutput.clearHistory
  { c with input := c.input.clear }

/-! ## For the host -/

/-- Shows the hidden or hides the shown console. -/
def toggle (c : Console E) : Console E :=
  { c with enabled := !c.enabled }

/-- Asks the host to exit. -/
def requestQuit (c : Console E) : Console E :=
  { c with quitRequested := true }

end Console

end DevConsole
