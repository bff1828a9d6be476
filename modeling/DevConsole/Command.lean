import DevConsole.Text.Pieces

/-!
# Commands

A command has a name, the texts that help shows, further names, the module that defines it, and
what it does.  What a command does is a parameter: this module never runs one.  A function that is
tagged as a command takes its name and help from itself where the tag gives none, and a command of
a subpackage takes its category from the package.
-/

namespace DevConsole

/-- A command that does an `α`. -/
structure Command (α : Type) where
  name : String
  help : String
  usage : String
  category : String
  aliases : List String
  origin : String
  action : α

/-- A second name for a command, given by the name of its target. -/
structure Alias where
  name : String
  target : String
  deriving DecidableEq, Repr

/-- What a tag says about the function that it turns into a command. -/
structure CommandTag where
  name : Option String
  help : Option String
  usage : Option String
  category : Option String
  aliases : Option (List String)
  deriving Repr

namespace Command

variable {α : Type}

/-- The category of commands that give none. -/
def generalCategory : String := "general"

/-- A text that is given and not empty. -/
def given (s : Option String) : Option String :=
  s.filter (!·.isEmpty)

/-- The first line of a description. -/
def firstLine (description : String) : String :=
  ((Text.lines (Text.trim description)).head?).getD ""

/-- `name` with hyphens for underscores. -/
def hyphenated (name : String) : String :=
  String.ofList (name.toList.map fun c => if c = '_' then '-' else c)

/-- The command of a name, a help text and what it does. -/
def named (name help : String) (action : α) : Command α where
  name := name
  help := help
  usage := ""
  category := generalCategory
  aliases := []
  origin := ""
  action := action

/-- The command that a tagged function stands for. -/
def ofTag (tag : CommandTag) (function description origin : String) (action : α) : Command α where
  name := hyphenated ((given tag.name).getD function)
  help := Text.trim ((given tag.help).getD (firstLine description))
  usage := tag.usage.getD ""
  category := (given tag.category).getD generalCategory
  aliases := tag.aliases.getD []
  origin := origin
  action := action

/-- The names of the packages and modules below `package` that lead to `origin`, if it lies
below. -/
def pathBelow? (package origin : String) : Option (List String) :=
  let start := package ++ "."
  if Text.startsWith origin start then
    some (Text.fields '.' (String.ofList (origin.toList.drop start.length)))
  else none

/-- `c` with the category of its subpackage of `package`, unless it has a category of its own or
lies in no subpackage. -/
def withCategory (c : Command α) (package : String) : Command α :=
  match pathBelow? package c.origin with
  | some (category :: _ :: _) =>
    if c.category = generalCategory then { c with category := category } else c
  | _ => c

end Command

/-- What a module of commands may define under a name. -/
inductive Definition (α : Type) where
  | tagged (command : Command α)
  | command (command : Command α)
  | commands (commands : List (Command α))
  | other

/-- The commands that a module defines: first the functions tagged in this module, in order, then
what it exports as `COMMAND` and as `COMMANDS`. -/
def Definition.commandsOf {α : Type} (moduleName : String)
    (definitions : List (String × Definition α)) : List (Command α) :=
  let tagged := definitions.filterMap fun
    | (_, .tagged c) => if c.origin = moduleName then some c else none
    | _ => none
  let single := match definitions.lookup "COMMAND" with
    | some (.command c) => [c]
    | _ => []
  let several := match definitions.lookup "COMMANDS" with
    | some (.commands cs) => cs
    | _ => []
  tagged ++ single ++ several

end DevConsole
