import DevConsole.Console.Basic
import DevConsole.Table

/-!
# Help

The listings of commands, aliases and categories, and the help on one command or category.  The
listings of commands and aliases order the registries first.
-/

namespace DevConsole.Console

open Text (fold)

variable {E : Embedding}

/-- `s` with blanks behind it up to `width` characters. -/
def padTo (width : Nat) (s : String) : String :=
  s ++ Table.blanks (width - s.length)

/-- `s`, or `other` if `s` is empty. -/
def orElse (s other : String) : String :=
  if s.isEmpty then other else s

/-- All commands as a table. -/
def listCommands (c : Console E) : List String × Console E :=
  let c := c.sortNames
  let rows := c.registry.commands.toList.map fun command =>
    [command.name,
      orElse (Text.join ", " (c.registry.aliases.namesFor command.name)) "-",
      command.help]
  let lines :=
    if rows.isEmpty then ["No commands registered."]
    else Table.format rows (some ["Command", "Aliases", "Help"]) Table.defaultPadding
  (lines, c)

/-- All aliases as a table; those whose target is no command are marked. -/
def listAliases (c : Console E) : List String × Console E :=
  let c := c.sortNames
  let rows := c.registry.aliases.toList.map fun a =>
    [a.name, a.target, if c.registry.commands.contains a.target then "" else "(missing)"]
  let lines :=
    if rows.isEmpty then ["No aliases defined."]
    else Table.format rows (some ["Alias", "Command", ""]) Table.defaultPadding
  (lines, c)

/-- All categories as a table, in the order of their folded names. -/
def listCategories (c : Console E) : List String :=
  let categories := c.registry.commands.categories
  let rows := (categories.entries.mergeSort fun a b => decide (fold a.1 ≤ fold b.1)).map
    fun (name, commands) =>
      let count := commands.length
      let plural := if count = 1 then "" else "s"
      [name, s!"{count} command{plural}", (c.descriptions.get? name).getD ""]
  if rows.isEmpty then ["No commands registered."]
  else Table.format rows (some ["Category", "Commands", "Description"]) Table.defaultPadding

/-- The line of a command in the help on its category. -/
def categoryLine (command : Command (Action E)) : String :=
  s!"  {padTo 12 command.name} {command.help}"

/-- The help on a category: its description, if any, and its commands in the order of their folded
names. -/
def categoryHelp (c : Console E) (category : String) (commands : List (Command (Action E))) :
    List String :=
  let description := (c.descriptions.get? category).getD ""
  let sorted := commands.mergeSort fun a b => decide (fold a.name ≤ fold b.name)
  (if description.isEmpty then [] else [description]) ++ sorted.map categoryLine

/-- The help on a command. -/
def commandHelp (c : Console E) (command : Command (Action E)) : List String :=
  let aliases := Text.join ", " (c.registry.aliases.namesFor command.name)
  ["Name:     " ++ command.name,
    "Aliases:  " ++ orElse aliases "(none)",
    "Category: " ++ command.category,
    "Help:     " ++ orElse command.help "(none)",
    "Example:  " ++ orElse command.usage "(none)"]

/-- The help on what `name` refers to: a command, by itself or through an alias, or else the first
category of that name up to case. -/
def help (c : Console E) (name : String) : List String :=
  match c.registry.get? name with
  | some command => c.commandHelp command
  | none =>
    match c.registry.commands.categories.entries.find? fun g => fold g.1 == fold name with
    | some (category, commands) => c.categoryHelp category commands
    | none => [s!"No such command or category: {name}"]

end DevConsole.Console
