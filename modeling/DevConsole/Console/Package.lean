import DevConsole.Console.Builtin

/-!
# Packages of commands

Commands come in packages: trees of named modules that can be imported.  Which packages there are is
up to the program that embeds the console.  Loading a package imports its members in the order of
their names, those that start with an underscore excepted, and registers the commands of each before
it imports the next: those of a module, and of a subpackage those of its module `entrypoint`, or
else its own.  Each subpackage also gives the description of the category that is named after it.  A
command whose names are in use is skipped.
-/

namespace DevConsole

/-- What an import finds under a name: a module with the commands that it defines, a package with a
description, commands of its own and members, or code that fails while it is imported. -/
inductive PackageTree (α : Type) where
  | module (commands : List (Command α))
  | package (description : String) (commands : List (Command α))
      (members : List (String × PackageTree α))
  | broken (failure : Failure)

/-- All that can be imported, by name. -/
abbrev Packages (E : Embedding) := List (String × PackageTree (Action E))

namespace PackageTree

variable {α : Type}

/-- Imports what a path of names leads to, of which those in `before` have been followed. -/
def follow (before : String) : PackageTree α → List String → Except Fault (PackageTree α)
  | broken failure, _ => .error (.outside failure)
  | tree, [] => .ok tree
  | module _, name :: _ =>
    .error (.package (.notFound (before ++ "." ++ name) (some before)))
  | package _ _ members, name :: rest =>
    let path := if before.isEmpty then name else before ++ "." ++ name
    match members.lookup name with
    | some member => follow path member rest
    | none => .error (.package (.notFound path none))

/-- The package with a dotted name. -/
def find (packages : List (String × PackageTree α)) (name : String) :
    Except Fault (PackageTree α) :=
  if name.isEmpty then .error (.package .emptyName)
  else if Text.startsWith name "." then .error (.package (.relativeName name))
  else do
    match ← follow "" (package "" [] packages) (Text.fields '.' name) with
    | package description commands members => return package description commands members
    | _ => throw (.package (.notPackage name))

/-- The members of a package that are loaded with it, in the order of their names. -/
def loadedMembers : PackageTree α → List (String × PackageTree α)
  | package _ _ members =>
    (members.filter fun member => !Text.startsWith member.1 "_").mergeSort fun a b =>
      decide (a.1 ≤ b.1)
  | _ => []

/-- The commands that are loaded for a member of a package, if its import does not fail. -/
def memberCommands : PackageTree α → Except Failure (List (Command α))
  | module commands => .ok commands
  | broken failure => .error failure
  | package _ commands members =>
    match members.lookup "entrypoint" with
    | some (module found) => .ok found
    | some (broken failure) => .error failure
    | _ => .ok commands

/-! ## The packages of this library -/

/-- A package of modules without commands. -/
def library (modules : List String) : PackageTree α :=
  package "" [] (modules.map fun name => (name, module []))

/-- The package of a category of built-in commands. -/
def builtinCategory {E : Embedding} (name description : String)
    (commands : String → List (Command (Action E))) : String × PackageTree (Action E) :=
  (name, package description []
    [("entrypoint", module (commands s!"{Settings.builtinPackage}.{name}.entrypoint"))])

/-- The categories of built-in commands. -/
def builtinCategories {E : Embedding} : List (String × PackageTree (Action E)) := [
  builtinCategory "console" "Output, help and alias management." Builtin.consoleCommands,
  builtinCategory "host" "Host program controls." Builtin.hostCommands,
  builtinCategory "script" "Script execution and tick-based pacing." Builtin.scriptCommands]

/-- The packages that come with the console. -/
def standard {E : Embedding} : Packages E := [
  ("tickconsole", package "" [] [
    ("__main__", module []),
    ("boot", library ["boot"]),
    ("buffers", library ["input_line", "scroll_log"]),
    ("commands", library ["command_types", "commands"]),
    ("config", library ["config"]),
    ("context", module []),
    ("interface", library ["cli", "completion", "handler", "loader", "parser"]),
    ("plugins", package "Built-in console commands, one subpackage per category." []
      builtinCategories),
    ("scheduler", library ["queue", "script", "wait"]),
    ("ui", package "" [] [
      ("static", library ["logging", "table"]),
      ("utils", library ["ansi", "console"])])])]

end PackageTree

namespace Console

variable {E : Embedding}

/-- Registers commands of a package one after the other and counts them. A command whose names are
in use is skipped; one with an invalid name ends the registration. -/
def registerAll (c : Console E) (package : String) :
    (registered : Nat) → List (Command (Action E)) → Except NameFault Nat × Console E
  | registered, [] => (.ok registered, c)
  | registered, command :: rest =>
    match c.register (command.withCategory package) with
    | (.ok (), c) => registerAll c package (registered + 1) rest
    | (.error fault, c) =>
      if fault.isDuplicate then
        let notice := .commandSkipped command.origin fault.message
        registerAll (c.report notice) package registered rest
      else (.error fault, c)

/-- Imports members of a package one after the other, registers the commands of each and counts
them. -/
def registerMembers (c : Console E) (package : String) :
    (registered : Nat) → List (String × PackageTree (Action E)) → Except Fault Nat × Console E
  | registered, [] => (.ok registered, c)
  | registered, (_, member) :: rest =>
    match member.memberCommands with
    | .error failure => (.error (.outside failure), c)
    | .ok commands =>
      match c.registerAll package registered commands with
      | (.ok registered, c) => registerMembers c package registered rest
      | (.error fault, c) => (.error (.name fault), c)

/-- Takes the descriptions of categories from the subpackages of a package. -/
def describeCategories (c : Console E) (tree : PackageTree (Action E)) : Console E :=
  { c with
    descriptions := c.descriptions.insertMany (tree.loadedMembers.filterMap fun
      | (name, .package description _ _) => some (name, description)
      | _ => none) }

/-- Loads the commands of a package and counts them. -/
def loadPackage (c : Console E) (packages : Packages E) (package : String) :
    Except Fault Nat × Console E :=
  match PackageTree.find packages package with
  | .error fault => (.error fault, c)
  | .ok tree =>
    match c.registerMembers package 0 tree.loadedMembers with
    | (.error fault, c) => (.error fault, c)
    | (.ok count, c) =>
      let c := (c.describeCategories tree).sortNames
      (.ok count, c.report (.commandsLoaded count package))

end Console

end DevConsole
