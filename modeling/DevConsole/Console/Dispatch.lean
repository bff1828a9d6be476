import DevConsole.Console.Builtin

/-!
# Dispatch

From a line to its effect: the first word names a command, by itself or through an alias, and the
other words are its arguments.  A failure of the command's code is written to the output and the
dispatch answers `false`.  What a command gives back is written afterwards; items that are
produced while they are written may still fail, and such a failure ends the dispatch.  So does a
value or a failure that has no text.
-/

namespace DevConsole.Console

open Text (fold)

variable {E : Embedding}

/-- The hint that follows a report of an unknown command. -/
def helpHint : String := "Type 'help' for a list of commands."

/-- Whether a text says of itself that it reports an error. -/
def isErrorText (s : String) : Bool :=
  Text.startsWith (Text.lower (Text.trimLeft s)) "[error]"

/-- The text of a result. -/
def resultText (ok : Bool) (message : String) : String :=
  if ok then message else if message.isEmpty then "[error]" else "[error] " ++ message

/-- Writes the text of each of some items, up to one that has none, and answers `true` unless the
items end in a failure. -/
def writeAll (c : Console E) (failure : Option Failure) :
    List Value → Except Failure Bool × Console E
  | [] => match failure with
    | none => (.ok true, c)
    | some failure => (.error failure, c)
  | item :: rest =>
    match item.write with
    | .ok text => (c.writeOutput text).writeAll failure rest
    | .error other => (.error other, c)

/-- Writes what a command gives back, and tells whether the command succeeded. -/
def emit (c : Console E) : Reply → Except Failure Bool × Console E
  | .result ok message =>
    let text := resultText ok message
    (.ok ok, if text.isEmpty then c else c.writeOutput text)
  | .value .null => (.ok true, c)
  | .value (.text s) => (.ok (!isErrorText s), c.writeOutput s)
  | .value (.bytes b) => (.ok true, c.writeOutput (Text.Utf8.decodeLossy b))
  | .value v => c.writeAll none (v.items?.getD [v])
  | .items items failure => c.writeAll failure items

/-- The report of an unknown command; `target` is what an alias made of the name. -/
def unknownMessage (name : String) (target : Option String) : String :=
  match target with
  | some target => s!"Unknown command: {target} (via alias '{name}')"
  | none => s!"Unknown command: {name}"

/-- Names that the writer of an unknown name may have meant. -/
def nearNames (c : Console E) (name : String) : List String :=
  (Completion.suggest c.registry.commands c.registry.aliases name).filter fun word =>
    fold word != fold name

/-- Writes the report of an unknown command. -/
def reportUnknown (c : Console E) (name : String) (target : Option String) : Console E :=
  let message := unknownMessage name target
  let near := if c.settings.suggestOnMiss then c.nearNames name else []
  let hint :=
    if near.isEmpty then "" else " Did you mean: " ++ Text.join ", " (near.take 5) ++ "?"
  (c.writeOutput (message ++ hint ++ " " ++ helpHint)).report (.commandUnknown message)

/-- Runs the code of a command. -/
def invoke (host : Host E) (c : Console E) (action : Action E) (args : List String) :
    Except Fault Reply × Console E :=
  match action with
  | .builtin command => command.run args c
  | .callback handle => host.call handle args c

/-- Runs the command that a line calls, and tells whether it succeeded. -/
def call (host : Host E) (c : Console E) (line : String) : Except Failure Bool × Console E :=
  match Text.words line with
  | [] => (.ok false, c)
  | name :: args =>
    let target := c.registry.aliases.resolve name
    match c.registry.commands.get? target with
    | none => (.ok false, c.reportUnknown name (if target = name then none else some target))
    | some command =>
      match invoke host (c.report (.dispatched command.name args)) command.action args with
      | (.ok reply, c) => c.emit reply
      | (.error fault, c) =>
        let c := c.report (.commandFailed command.name)
        match fault.report with
        | .ok report => (.ok false, c.writeOutput s!"[error] {report}")
        | .error other => (.error other, c)

/-- The entry of a line in the history: the line without what ends it. -/
def historyEntry (line : String) : String :=
  String.ofList (Text.Chars.trimEnd (fun c => c == '\r' || c == '\n') line.toList)

/-- Puts a line that is not blank into the history and runs its command. -/
def enter (host : Host E) (c : Console E) (line : String) : Except Failure Bool × Console E :=
  let trimmed := Text.trim line
  if trimmed.isEmpty then (.ok false, c)
  else (c.writeHistory (historyEntry line)).call host trimmed

/-- Enters the text of the input line, and leaves the line empty. Both logs go to their newest
line. -/
def submit (host : Host E) (c : Console E) : Except Failure Bool × Console E :=
  let (line, input) := c.input.take
  let c := { c with
    input := input
    recalling := false
    history := c.history.scrollToNewest
    output := c.output.scrollToNewest }
  let c :=
    if c.settings.echoInput && !(Text.trim line).isEmpty then
      c.writeOutput (c.input.prompt ++ line)
    else c
  c.enter host line

/-- One tick of the host: advances the wait and, if nothing is waited for, enters the next queued
line. Tells whether a line was entered. -/
def tick (host : Host E) (c : Console E) : Except Failure Bool × Console E :=
  match poll { c with ticks := c.ticks + 1 } host with
  | (.failed tag failure, c) =>
    match WaitFault.ofFailure tag failure with
    | .ok fault => (.ok false, c.writeOutput s!"[error] {fault.message}")
    | .error other => (.error other, c)
  | (result, c) =>
    match result.isRunning, c.queue with
    | true, line :: rest =>
      match enter host { c with queue := rest } line with
      | (.ok _, c) => (.ok true, c)
      | (.error failure, c) => (.error failure, c)
    | _, _ => (.ok false, c)

end DevConsole.Console
