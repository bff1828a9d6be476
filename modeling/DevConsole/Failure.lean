import DevConsole.Text.Utf8
import DevConsole.Value

/-!
# Failures from outside

Code of the embedding program and the operating system may fail while the console runs them.  A
failure has a kind, which is a name, and the values it was raised with.  Its text is what reports
show; its detail is the plain text without the quotes that a missing key has in reports.  Where one
of the values cannot be written there is no text, and who asks for it fails in turn.
-/

namespace DevConsole

/-- A failure of code that the console calls. -/
inductive Failure where
  | raised (kind : String) (args : List Value)
  | missingKey (args : List Value)
  | system (kind : String) (args : List Value)
  | undecodable (fault : Text.Utf8.Fault)

namespace Failure

/-- The kinds of system failures that have a name of their own, by their numbers. -/
def systemKinds : List (Int × String) := [
  (1, "PermissionError"), (2, "FileNotFoundError"), (3, "ProcessLookupError"),
  (4, "InterruptedError"), (10, "ChildProcessError"), (11, "BlockingIOError"),
  (13, "PermissionError"), (17, "FileExistsError"), (20, "NotADirectoryError"),
  (21, "IsADirectoryError"), (32, "BrokenPipeError"), (103, "ConnectionAbortedError"),
  (104, "ConnectionResetError"), (108, "BrokenPipeError"), (110, "TimeoutError"),
  (111, "ConnectionRefusedError"), (114, "BlockingIOError"), (115, "BlockingIOError")]

/-- A system failure with the given values, which are a number and a reason at least for its kind
to be known. -/
def ofSystem (args : List Value) : Failure :=
  match args with
  | .int number :: _ :: rest =>
    if rest.length ≤ 3 then system ((systemKinds.lookup number).getD "OSError") args
    else system "OSError" args
  | _ => system "OSError" args

/-- The name of the kind of failure. -/
def kind : Failure → String
  | raised kind _ => kind
  | missingKey _ => "KeyError"
  | system kind _ => kind
  | undecodable _ => "UnicodeDecodeError"

/-- What is raised in place of a text that shows a whole number of too many digits. -/
def unwritable : Failure :=
  raised "ValueError" [.text Value.limitText]

end Failure

/-! ## Texts of values and failures

A text that shows a value can only be made if the value can be written.
-/

namespace Value

/-- A text that shows some values. -/
def showing (values : List Value) (text : String) : Except Failure String :=
  if areWritable values then .ok text else .error .unwritable

/-- The text of a value, if it has one. -/
def write (v : Value) : Except Failure String :=
  showing [v] v.toText

end Value

namespace Failure

open Value (showing)

/-- The text of the values that a failure was raised with. -/
def argsText (args : List Value) : Except Failure String :=
  showing args <|
    match args with
    | [] => ""
    | [v] => v.toText
    | args => (Value.tuple args).literal

/-- The start of the text of a system failure. -/
def errnoText (number reason : Value) : String :=
  s!"[Errno {number.toText}] {reason.toText}"

/-- A file that a system failure is about, unless it is none. -/
def fileText (between : String) : Value → String
  | .null => ""
  | file => between ++ file.literal

/-- The text of a system failure: number, reason, and the files it is about. -/
def systemText : List Value → Except Failure String
  | [number, reason] => showing [number, reason] (errnoText number reason)
  | [number, reason, file] | [number, reason, file, _] =>
    showing [number, reason, file] (errnoText number reason ++ fileText ": " file)
  | [number, reason, .null, _, _] => showing [number, reason] (errnoText number reason)
  | [number, reason, file, _, other] =>
    showing [number, reason, file, other]
      (errnoText number reason ++ fileText ": " file ++ fileText " -> " other)
  | args => argsText args

/-- The text that a report shows. -/
def text : Failure → Except Failure String
  | raised _ args => argsText args
  | missingKey [v] => showing [v] v.literal
  | missingKey args => argsText args
  | system _ args => systemText args
  | undecodable fault => .ok fault.message

/-- The text without quotes around a missing key. -/
def detail : Failure → Except Failure String
  | missingKey (v :: _) => v.write
  | failure => failure.text

/-- What a report shows of a failure. -/
def report (failure : Failure) : Except Failure String :=
  failure.text.map fun text => s!"{failure.kind}: {text}"

/-- The reason that the system gave, or else the whole text of the failure. -/
def systemReason : List Value → Except Failure String
  | number :: reason :: rest =>
    if rest.length ≤ 3 ∧ reason.isTrue then reason.write else systemText (number :: reason :: rest)
  | args => systemText args

/-- Why something could not be read, for a failure that says so: one of the system, or bytes that
are no text. -/
def reason? : Failure → Option (Except Failure String)
  | system _ args => some (systemReason args)
  | undecodable fault => some (.ok fault.message)
  | _ => none

end Failure

end DevConsole
