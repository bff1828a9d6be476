import DevConsole.Command
import DevConsole.Dictionary
import DevConsole.Text.Case
import DevConsole.Text.Quoted

/-!
# Registries of names

The table of commands and the table of aliases.  Names are the same up to case: each table is
keyed by the folded name and keeps the name as it was registered.  Together the two tables are one
name space: `Registry.register` and `Registry.registerAlias` let no name into one table that is
in the other.
-/

namespace DevConsole

open Text (fold)

/-- Why a name is refused or not found. -/
inductive NameFault where
  | invalidCommand (name : String)
  | invalidAlias (name : String)
  | commandTaken (name : String)
  | aliasTaken (name : String)
  | aliasListedTwice (name command : String)
  | commandIsAlias (name : String)
  | aliasIsCommand (name : String)
  | aliasCollides (name command : String)
  | withoutAction (name : String)
  | unknown (name : String)
  deriving DecidableEq, Repr

namespace NameFault

/-- The name of the kind of fault. -/
def kind : NameFault → String
  | invalidCommand _ | invalidAlias _ => "ValueError"
  | withoutAction _ => "TypeError"
  | unknown _ => "NotFoundError"
  | _ => "DuplicateNameError"

/-- Whether the fault is that a name is in use. -/
def isDuplicate : NameFault → Bool
  | invalidCommand _ | invalidAlias _ | withoutAction _ | unknown _ => false
  | _ => true

/-- The words for a fault. -/
def message : NameFault → String
  | invalidCommand name => s!"Invalid command name: {Text.quoted name}"
  | invalidAlias name => s!"Invalid alias name: {Text.quoted name}"
  | commandTaken name => s!"Command '{name}' already registered."
  | aliasTaken name => s!"Alias '{name}' already registered."
  | aliasListedTwice name command => s!"Alias '{name}' is listed twice for '{command}'."
  | commandIsAlias name => s!"Command '{name}' collides with an existing alias."
  | aliasIsCommand name => s!"Alias '{name}' collides with a command name."
  | aliasCollides name command =>
    s!"Alias '{name}' for '{command}' collides with an existing name."
  | withoutAction name => s!"Command '{name}' needs a callback."
  | unknown name => s!"Unknown command: {name}"

end NameFault

/-- What a program gives for registration: a command, or a name with a help text and with what the
command does. -/
inductive Offer (α : Type) where
  | command (command : Command α)
  | named (name help : String) (action : Option α)

/-- The command that is offered. A name alone is no command. -/
def Offer.toCommand {α : Type} : Offer α → Except NameFault (Command α)
  | command c => .ok c
  | named name help (some action) => .ok (.named name help action)
  | named name _ none => .error (.withoutAction name)

/-- Whether a text can be a name: it is not empty and has no blank character. -/
def isName (name : String) : Bool :=
  !name.isEmpty && !Text.hasBlank name

/-! ## Commands -/

/-- Commands by their folded names, in order of registration. -/
structure CommandTable (α : Type) where
  byKey : Dictionary (Command α)

namespace CommandTable

variable {α : Type}

instance : EmptyCollection (CommandTable α) := ⟨⟨∅⟩⟩

/-- The command called `name`. -/
def get? (table : CommandTable α) (name : String) : Option (Command α) :=
  table.byKey.get? (fold name)

/-- Whether a command is called `name`. -/
def contains (table : CommandTable α) (name : String) : Bool :=
  table.byKey.contains (fold name)

/-- All commands, in order. -/
def toList (table : CommandTable α) : List (Command α) :=
  table.byKey.values

/-- The names of all commands, in order. -/
def names (table : CommandTable α) : List String :=
  table.toList.map (·.name)

/-- The command called `name`, or the fault that there is none. -/
def find (table : CommandTable α) (name : String) : Except NameFault (Command α) :=
  match table.get? name with
  | some c => .ok c
  | none => .error (.unknown name)

/-- Adds a command, unless its name is no name or in use. -/
def register (table : CommandTable α) (c : Command α) : Except NameFault (CommandTable α) :=
  if !isName c.name then .error (.invalidCommand c.name)
  else if table.contains c.name then .error (.commandTaken c.name)
  else .ok ⟨table.byKey.insert (fold c.name) c⟩

/-- The commands in the order of their folded names. -/
def sort (table : CommandTable α) : CommandTable α :=
  ⟨table.byKey.sort⟩

/-- The commands of each category, categories in order of their first command. -/
def categories (table : CommandTable α) : Dictionary (List (Command α)) :=
  table.toList.foldl
    (fun groups c => groups.insert c.category ((groups.get? c.category).getD [] ++ [c])) ∅

end CommandTable

/-! ## Aliases -/

/-- Aliases by their folded names, in order of registration. -/
structure AliasTable where
  byKey : Dictionary Alias

namespace AliasTable

instance : EmptyCollection AliasTable := ⟨⟨∅⟩⟩

/-- The alias called `name`. -/
def get? (table : AliasTable) (name : String) : Option Alias :=
  table.byKey.get? (fold name)

/-- Whether an alias is called `name`. -/
def contains (table : AliasTable) (name : String) : Bool :=
  table.byKey.contains (fold name)

/-- All aliases, in order. -/
def toList (table : AliasTable) : List Alias :=
  table.byKey.values

/-- The names of all aliases, in order. -/
def names (table : AliasTable) : List String :=
  table.toList.map (·.name)

/-- The alias called `name`, or the fault that there is none. -/
def find (table : AliasTable) (name : String) : Except NameFault Alias :=
  match table.get? name with
  | some a => .ok a
  | none => .error (.unknown name)

/-- The target of the alias called `name`, and `name` itself if there is none. One step only: the
target is not looked up in turn. -/
def resolve (table : AliasTable) (name : String) : String :=
  match table.get? name with
  | some a => a.target
  | none => name

/-- Adds an alias, unless its name is no name or in use. Its target need not exist. -/
def register (table : AliasTable) (name target : String) : Except NameFault AliasTable :=
  if !isName name then .error (.invalidAlias name)
  else if table.contains name then .error (.aliasTaken name)
  else .ok ⟨table.byKey.insert (fold name) ⟨name, target⟩⟩

/-- The aliases in the order of their folded names. -/
def sort (table : AliasTable) : AliasTable :=
  ⟨table.byKey.sort⟩

/-- The names of the aliases with the given target. -/
def namesFor (table : AliasTable) (target : String) : List String :=
  (table.toList.filter fun a => fold a.target == fold target).map (·.name)

end AliasTable

/-! ## Both tables as one name space -/

/-- A table of commands and a table of aliases. -/
structure Registry (α : Type) where
  commands : CommandTable α
  aliases : AliasTable

namespace Registry

variable {α : Type}

instance : EmptyCollection (Registry α) := ⟨⟨∅, ∅⟩⟩

/-- What is wrong with a list of aliases for `command` by itself: a text that is no name, or a
name that the list holds twice. The names in `seen`, folded, came before. -/
def aliasListFault? (command : String) : (seen names : List String) → Option NameFault
  | _, [] => none
  | seen, name :: rest =>
    if !isName name then some (.invalidAlias name)
    else if seen.contains (fold name) then some (.aliasListedTwice name command)
    else aliasListFault? command (fold name :: seen) rest

/-- Whether an alias for `command` would be in the way of another name. -/
def aliasCollides (r : Registry α) (command name : String) : Bool :=
  r.aliases.contains name || r.commands.contains name || fold name == fold command

/-- What keeps a command and its aliases out, as far as aliases are concerned. -/
def aliasFault? (r : Registry α) (c : Command α) : Option NameFault :=
  match aliasListFault? c.name [] c.aliases with
  | some fault => some fault
  | none =>
    if r.aliases.contains c.name then some (.commandIsAlias c.name)
    else (c.aliases.find? (r.aliasCollides c.name)).map (.aliasCollides · c.name)

/-- Adds aliases with one target, one after the other up to the first that is refused. -/
def addAliases (r : Registry α) (target : String) :
    List String → Except NameFault Unit × Registry α
  | [] => (.ok (), r)
  | name :: rest =>
    match r.aliases.register name target with
    | .error fault => (.error fault, r)
    | .ok aliases => addAliases { r with aliases := aliases } target rest

/-- Adds a command and then its aliases. Everything that could refuse an alias is checked before
the command goes in. -/
def register (r : Registry α) (c : Command α) : Except NameFault Unit × Registry α :=
  match r.aliasFault? c with
  | some fault => (.error fault, r)
  | none =>
    match r.commands.register c with
    | .error fault => (.error fault, r)
    | .ok commands => addAliases { r with commands := commands } c.name c.aliases

/-- Adds an alias, unless its name is no name or in use in either table. -/
def registerAlias (r : Registry α) (name target : String) : Except NameFault (Registry α) :=
  if r.commands.contains name then .error (.aliasIsCommand name)
  else (r.aliases.register name target).map fun aliases => { r with aliases := aliases }

/-- The command that `name` refers to, by itself or through one alias. -/
def get? (r : Registry α) (name : String) : Option (Command α) :=
  r.commands.get? (r.aliases.resolve name)

/-- Both tables in the order of their folded names. -/
def sort (r : Registry α) : Registry α :=
  ⟨r.commands.sort, r.aliases.sort⟩

end Registry

end DevConsole
