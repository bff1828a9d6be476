import DevConsole.Text.Numeral
import DevConsole.Text.Quoted
import DevConsole.Text.Pieces

/-!
# Arguments of the program

The program takes script names, a rate of ticks (`--tick-rate`) and a request for help (`-h` or
`--help`).  Long options may be shortened as long as they stay unambiguous, and may have their value
after an equals sign.  After `--` everything is a script name.  Script names stand together: those
of a second group are not recognized.
-/

namespace DevConsole

/-- What the arguments of a run say. -/
structure Arguments where
  scripts : List String
  tickRate : Option Int
  deriving DecidableEq, Repr

namespace Arguments

/-- The name of the program. -/
def program : String := "tickconsole"

/-- The summary of all arguments. -/
def usage : String :=
  s!"usage: {program} [-h] [--tick-rate TICK_RATE] [scripts ...]\n"

/-- The text that help shows. -/
def helpText : String :=
  usage ++
  "\nBoot the console and run it in a full-screen terminal app.\n" ++
  "\npositional arguments:\n" ++
  "  scripts               script files to queue at start-up\n" ++
  "\noptions:\n" ++
  "  -h, --help            show this help message and exit\n" ++
  "  --tick-rate TICK_RATE\n" ++
  "                        host ticks per second\n"

/-- An option of the program. -/
inductive Flag where
  | help
  | tickRate
  deriving DecidableEq, Repr

/-- How a refusal names an option. -/
def Flag.names : Flag → String
  | .help => "-h/--help"
  | .tickRate => "--tick-rate"

/-- Why arguments are refused. -/
inductive Fault where
  | ambiguous (text : String) (candidates : List String)
  | valueMissing (option : Flag)
  | valueIgnored (option : Flag) (value : String)
  | notInteger (option : Flag) (value : String)
  | unrecognized (texts : List String)
  deriving DecidableEq, Repr

/-- The words for a fault. -/
def Fault.message : Fault → String
  | ambiguous text candidates =>
    let candidates := Text.join ", " candidates
    s!"ambiguous option: {text} could match {candidates}"
  | valueMissing option => s!"argument {option.names}: expected one argument"
  | valueIgnored option value =>
    s!"argument {option.names}: ignored explicit argument {Text.quoted value}"
  | notInteger option value => s!"argument {option.names}: invalid int value: {Text.quoted value}"
  | unrecognized texts => "unrecognized arguments: " ++ Text.join " " texts

/-- What is printed about a refusal. -/
def refusal (fault : Fault) : String :=
  s!"{usage}{program}: error: {fault.message}\n"

/-! ## Kinds of arguments -/

/-- An argument by its kind. The value of an option may stand behind an equals sign or be attached
to it directly. -/
inductive Item where
  | operand (text : String)
  | separator
  | flag (option : Flag) (attached : Bool) (value : Option String)
  | unknown (text : String)
  deriving DecidableEq, Repr

/-- The spellings of long options. -/
def longOptions : List (String × Flag) := [("--help", .help), ("--tick-rate", .tickRate)]

/-- Whether a text is a negative number: a hyphen, then digits with at most one point among or
before them. -/
def isNegativeNumber (cs : List Char) : Bool :=
  let isDigit (c : Char) : Bool := (Text.digitValue? c).isSome
  match cs with
  | '-' :: rest =>
    match rest.dropWhile isDigit with
    | [] => !rest.isEmpty
    | '.' :: fraction => !fraction.isEmpty && fraction.all isDigit
    | _ => false
  | _ => false

/-- A text before its first equals sign, and what follows that. -/
def splitValue (cs : List Char) : String × Option String :=
  let name := String.ofList (cs.takeWhile (· != '='))
  match cs.dropWhile (· != '=') with
  | [] => (name, none)
  | _ :: value => (name, some (String.ofList value))

/-- The kind of an argument that starts with a hyphen and is no option in full. -/
def classifyOther (text : String) : Item :=
  if isNegativeNumber text.toList || text.toList.contains ' ' then .operand text
  else .unknown text

/-- The kind of an argument in front of any separator. -/
def classify (text : String) : Except Fault Item :=
  match text.toList with
  | '-' :: '-' :: rest =>
    if rest.isEmpty then .ok .separator
    else
      let (name, value) := splitValue ('-' :: '-' :: rest)
      match longOptions.lookup text, longOptions.lookup name with
      | some option, _ => .ok (.flag option false none)
      | none, some option => .ok (.flag option false value)
      | none, none =>
        match longOptions.filter fun entry => Text.startsWith entry.1 name with
        | [] => .ok (classifyOther text)
        | [(_, option)] => .ok (.flag option false value)
        | candidates => .error (.ambiguous text (candidates.map (·.1)))
  | '-' :: 'h' :: rest =>
    match rest with
    | [] => .ok (.flag .help false none)
    | '=' :: value => .ok (.flag .help false (some (String.ofList value)))
    | value => .ok (.flag .help true (some (String.ofList value)))
  | '-' :: _ :: _ => .ok (classifyOther text)
  | _ => .ok (.operand text)

/-- The kinds of all arguments. -/
def items : List String → Except Fault (List Item)
  | [] => .ok []
  | text :: rest => do
    match ← classify text with
    | .separator => return .separator :: rest.map .operand
    | item => return item :: (← items rest)

/-! ## Reading -/

/-- What has been read: the group of script names, if it has come, the rate, and what is not
recognized. -/
structure Progress where
  scripts : Option (List String)
  tickRate : Option Int
  extras : List String
  deriving Repr

/-- The text of an operand or separator. -/
def Item.text : Item → String
  | operand text => text
  | separator => "--"
  | flag .. => ""
  | unknown text => text

/-- Takes in a group of operands: the first one holds the script names. -/
def takeGroup (p : Progress) (group : List Item) : Progress :=
  match p.scripts with
  | none => { p with scripts := some ((group.map Item.text).erase "--") }
  | some _ => { p with extras := p.extras ++ group.map Item.text }

/-- What is wrong with characters attached to the short request for help: they may repeat it, but
must not give it a value. -/
def attachedFault? : List Char → Option Fault
  | '-' :: rest => some (.valueIgnored .help (String.ofList ('-' :: rest)))
  | 'h' :: '=' :: value => some (.valueIgnored .help (String.ofList value))
  | 'h' :: rest => attachedFault? rest
  | _ => none

/-- Sets the rate from its text. -/
def takeRate (p : Progress) (text : String) : Except Fault Progress :=
  match Text.int? text with
  | some n => .ok { p with tickRate := some n }
  | none => .error (.notInteger .tickRate text)

/-- What the arguments ask for. -/
inductive Request where
  | run (arguments : Arguments)
  | help
  deriving Repr

/-- Ends the reading. -/
def finish (p : Progress) : Except Fault Request :=
  if p.extras.isEmpty then .ok (.run ⟨p.scripts.getD [], p.tickRate⟩)
  else .error (.unrecognized p.extras)

/-- Reads items, where `group` holds those operands before them that are not taken in yet, last
first. -/
def read (p : Progress) (group : List Item) : List Item → Except Fault Request
  | [] => finish (takeGroup p group.reverse)
  | .operand text :: rest => read p (.operand text :: group) rest
  | .separator :: rest => read p (.separator :: group) rest
  | .unknown text :: rest =>
    let p := settle p group
    read { p with extras := p.extras ++ [text] } [] rest
  | .flag .help _ none :: _ => .ok .help
  | .flag .help false (some value) :: _ => .error (.valueIgnored .help value)
  | .flag .help true (some value) :: _ =>
    match attachedFault? value.toList with
    | none => .ok .help
    | some fault => .error fault
  | .flag .tickRate _ (some value) :: rest => do
    read (← takeRate (settle p group) value) [] rest
  | .flag .tickRate _ none :: .operand value :: rest => do
    read (← takeRate (settle p group) value) [] rest
  | .flag .tickRate _ none :: _ => .error (.valueMissing .tickRate)
where
  /-- Takes in a group in front of an option, if there is one. -/
  settle (p : Progress) (group : List Item) : Progress :=
    if group.isEmpty then p else takeGroup p group.reverse

/-- What a command line asks for. -/
def parse (texts : List String) : Except Fault Request := do
  read ⟨none, none, []⟩ [] (← items texts)

end Arguments

end DevConsole
