import DevConsole.InputLine
import DevConsole.Registry
import DevConsole.Script
import DevConsole.ScrollLog
import DevConsole.Wait

/-!
# Faults of console operations

What can go wrong while an operation on a console runs, from whichever part it comes.  A command
whose own code runs such operations may fail with any of these; the dispatcher then reports kind
and text.
-/

namespace DevConsole

/-- Why a package of commands cannot be loaded. -/
inductive PackageFault where
  | notFound (name : String) (parent : Option String)
  | emptyName
  | relativeName (name : String)
  | notPackage (name : String)
  deriving DecidableEq, Repr

namespace PackageFault

/-- The name of the kind of fault. -/
def kind : PackageFault → String
  | notFound .. => "ModuleNotFoundError"
  | emptyName => "ValueError"
  | relativeName _ => "TypeError"
  | notPackage _ => "RuntimeError"

/-- The words for a fault. -/
def message : PackageFault → String
  | notFound name none => s!"No module named {Text.quoted name}"
  | notFound name (some parent) =>
    s!"No module named {Text.quoted name}; {Text.quoted parent} is not a package"
  | emptyName => "Empty module name"
  | relativeName name =>
    s!"the 'package' argument is required to perform a relative import for {Text.quoted name}"
  | notPackage name => s!"'{name}' must be a package (folder) with modules."

end PackageFault

/-- What goes wrong in an operation on a console. -/
inductive Fault where
  | name (fault : NameFault)
  | wait (fault : WaitFault)
  | script (fault : Script.Fault)
  | input (fault : InputLine.Fault)
  | log (fault : ScrollLog.Fault)
  | size (label : String)
  | package (fault : PackageFault)
  | outside (failure : Failure)

namespace Fault

/-- The name of the kind of fault. -/
def kind : Fault → String
  | name fault => fault.kind
  | wait fault => fault.kind
  | script fault => fault.kind
  | input _ => "ValueError"
  | log .capacityTooSmall => "ValueError"
  | log .capacityTooLarge => "OverflowError"
  | size _ => "ValueError"
  | package fault => fault.kind
  | outside failure => failure.kind

/-- The words for a fault. -/
def message : Fault → Except Failure String
  | name fault => .ok fault.message
  | wait fault => .ok fault.message
  | script fault => fault.message
  | input fault => .ok fault.message
  | log fault => .ok fault.message
  | size label => .ok s!"{label} must be >= 1"
  | package fault => .ok fault.message
  | outside failure => failure.detail

/-- The words for a fault in a report, where a missing key stands in quotes. -/
def text : Fault → Except Failure String
  | wait (.unknownCondition tag) => .ok (Text.quoted (WaitFault.unknownCondition tag).message)
  | script (.source failure) => failure.text
  | outside failure => failure.text
  | fault => fault.message

/-- What a report shows of a fault. -/
def report (fault : Fault) : Except Failure String :=
  fault.text.map fun text => s!"{fault.kind}: {text}"

end Fault

end DevConsole
