import DevConsole.Files

/-!
# Scripts

A script is a source of lines under a name.  A source may fail after any number of lines.  Loading
reads the whole source first: if it fails, nothing is loaded.  Of the lines, blank ones and
comments are dropped and the others kept without blanks at their ends.
-/

namespace DevConsole

/-- The lines that a source yields, and the failure that it ends with, if it does. -/
structure LineStream where
  lines : List String
  failure : Option Failure

/-- A source of lines by names. -/
abbrev LineSource := String → LineStream

namespace LineSource

/-- Scripts held by name. -/
def ofScripts (scripts : List (String × LineStream)) : LineSource := fun name =>
  match scripts.lookup name with
  | some stream => stream
  | none =>
    { lines := []
      failure := some
        (.ofSystem [.int 2, .text "No such file or directory", .text name]) }

/-- Text files. A relative path starts at `base`, or at the current directory if none is given. -/
def ofFiles (files : Files) (base : Option String) : LineSource := fun name =>
  let path := files.expand name
  let located :=
    match base with
    | some base => if Files.isAbsolute path then path else base ++ "/" ++ path
    | none => path
  match files.readText (Files.normalText located) with
  | .ok text => { lines := Text.lines text, failure := none }
  | .error failure => { lines := [], failure := some failure }

end LineSource

namespace Script

/-- The starts of comment lines unless a console has others. -/
def defaultCommentStarts : List String := ["#", "//"]

/-- Whether a line without blanks at its ends is kept: it is not empty and starts with none of
the nonempty `commentStarts`. -/
def isKept (commentStarts : List String) (line : String) : Bool :=
  !line.isEmpty && (commentStarts.filter (!·.isEmpty)).all fun start =>
    !Text.startsWith line start

/-- The lines that are kept, in order, without blanks at their ends. -/
def keptLines (commentStarts lines : List String) : List String :=
  (lines.map Text.trim).filter (isKept commentStarts)

/-- The kept lines of a stream after those in `kept`, taken one line after the other until the
stream ends. -/
def keepRest (commentStarts : List String) (failure : Option Failure) (kept : List String) :
    List String → Except Failure (List String)
  | [] => match failure with
    | none => .ok kept
    | some failure => .error failure
  | line :: rest =>
    let text := Text.trim line
    keepRest commentStarts failure
      (if isKept commentStarts text then kept ++ [text] else kept) rest

/-- The kept lines of a stream that does not fail. -/
def keptOf (commentStarts : List String) (stream : LineStream) : Except Failure (List String) :=
  keepRest commentStarts stream.failure [] stream.lines

/-- What is said of a script that cannot be opened or read. -/
def unreadableText (name reason : String) : String :=
  s!"Could not open script '{name}': {reason}"

/-- Why a script is not loaded: it cannot be opened or read, or its source fails otherwise. -/
inductive Fault where
  | unreadable (name reason : String)
  | source (failure : Failure)

namespace Fault

/-- The name of the kind of fault. -/
def kind : Fault → String
  | unreadable .. => "ScriptOpenError"
  | source failure => failure.kind

/-- The words for a fault. -/
def message : Fault → Except Failure String
  | unreadable name reason => .ok (unreadableText name reason)
  | source failure => failure.detail

/-- What a failure of the source of the script called `name` amounts to. A reason that has no text
cannot be told, which is a failure of its own. -/
def ofFailure (name : String) (failure : Failure) : Fault :=
  match failure.reason? with
  | some (.ok reason) => unreadable name reason
  | some (.error other) => source other
  | none => source failure

end Fault

/-- The kept lines of the script called `name`. -/
def load (source : LineSource) (commentStarts : List String) (name : String) :
    Except Fault (List String) :=
  match source name with
  | ⟨lines, none⟩ => .ok (keptLines commentStarts lines)
  | ⟨_, some failure⟩ => .error (.ofFailure name failure)

end Script

end DevConsole
