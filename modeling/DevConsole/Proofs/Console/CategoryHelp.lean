import DevConsole.Proofs.Console.Names
import DevConsole.Proofs.Console.RegistrationOrder
import DevConsole.Proofs.Registry.Categories

/-!
# Help on a category

The help on a name that refers to no command is the help on the first category of that name up to
case (`help_of_not_refers`).  The help on a category lists the category (`Lists`): it has a line
for each of its commands and for no other (`lists_categoryHelp`).  A line begins with the name of
its command, so no two categories are listed in the same way (`Lists.category_unique`).

Categories are told apart by their spelling.  If two of them differ in case only, the help on
either is that on the one that comes first (`category_listed_iff`).
-/

namespace DevConsole
namespace Console

open Text (fold)

variable {E : Embedding} {c : Console E}

/-- The description of a category, if it has one that is not empty. -/
def descriptionLines (c : Console E) (category : String) : List String :=
  ((c.descriptions.get? category).filter fun text => !text.isEmpty).toList

/-- The lines list a category: after its description they have a line for each of its commands,
in the order of their folded names, and no other line. -/
def Lists (c : Console E) (category : String) (lines : List String) : Prop :=
  ∃ commands : List (Command (Action E)),
    commands.Perm (c.registry.commands.toList.filter fun command => command.category == category) ∧
      commands.Pairwise (fun a b => fold a.name < fold b.name) ∧
      lines = c.descriptionLines category ++ commands.map categoryLine

/-! ## Lines of commands -/

/-- A line of a command can be read: it has the name of the command up to the next blank. -/
theorem takeWhile_categoryLine {command : Command (Action E)} (hname : isName command.name = true) :
    ((categoryLine command).toList.drop 2).takeWhile (fun ch => !Text.isBlank ch) =
      command.name.toList := by
  have hletters : ∀ ch ∈ command.name.toList, (!Text.isBlank ch) = true := by
    simpa [Text.hasBlank] using ((isName_iff command.name).mp hname).2
  have hline : (categoryLine command).toList.drop 2 = command.name.toList ++
      (List.replicate (12 - command.name.length) ' ' ++ ' ' :: command.help.toList) := by
    have hparts : categoryLine command =
        "  " ++ (command.name ++ Table.blanks (12 - command.name.length)) ++ " " ++ command.help :=
      rfl
    simp [hparts, Table.blanks]
  have hgap : ∀ count, (List.replicate count ' ' ++ ' ' :: command.help.toList).takeWhile
      (fun ch => !Text.isBlank ch) = [] := by
    intro count
    cases count <;> rfl
  rw [hline, List.takeWhile_append_of_pos hletters, hgap, List.append_nil]

theorem name_eq_of_categoryLine_eq {command other : Command (Action E)}
    (hname : isName command.name = true) (hother : isName other.name = true)
    (hlines : categoryLine command = categoryLine other) : command.name = other.name := by
  rw [← String.toList_inj, ← takeWhile_categoryLine hname, ← takeWhile_categoryLine hother, hlines]

/-! ## Listed categories -/

theorem Lists.getLast? {category : String} {lines : List String} (hlists : c.Lists category lines)
    {command : Command (Action E)} (hcommand : command ∈ c.registry.commands.toList)
    (hcategory : command.category = category) :
    ∃ last ∈ c.registry.commands.toList, last.category = category ∧
      lines.getLast? = some (categoryLine last) := by
  obtain ⟨commands, hperm, -, rfl⟩ := hlists
  have hsome : commands ≠ [] := by
    rintro rfl
    have hmember := hperm.mem_iff.mpr (List.mem_filter.mpr ⟨hcommand, beq_iff_eq.mpr hcategory⟩)
    exact List.not_mem_nil hmember
  have hlast := hperm.mem_iff.mp (List.getLast_mem hsome)
  obtain ⟨hmember, hsame⟩ := List.mem_filter.mp hlast
  refine ⟨commands.getLast hsome, hmember, beq_iff_eq.mp hsame, ?_⟩
  rw [List.getLast?_append_of_ne_nil _ (by simpa using hsome), List.getLast?_map,
    List.getLast?_eq_some_getLast hsome]
  rfl

/-- Two categories that have commands are not listed in the same way. -/
theorem Lists.category_unique (hsound : c.registry.Sound) {lines : List String}
    {command other : Command (Action E)} (hcommand : command ∈ c.registry.commands.toList)
    (hother : other ∈ c.registry.commands.toList) (hlists : c.Lists command.category lines)
    (hotherLists : c.Lists other.category lines) : other.category = command.category := by
  obtain ⟨last, hlast, hcategory, hline⟩ := hlists.getLast? hcommand rfl
  obtain ⟨otherLast, hotherLast, hotherCategory, hotherLine⟩ := hotherLists.getLast? hother rfl
  have hname : last.name = otherLast.name :=
    name_eq_of_categoryLine_eq (hsound.named last hlast) (hsound.named otherLast hotherLast)
      (Option.some.inj (hline.symm.trans hotherLine))
  -- Names are distinct, so the last lines are about the same command.
  have hfound := hsound.command_eq_some_iff.mpr ⟨hlast, rfl⟩
  have hsame := hsound.command_eq_some_iff.mpr ⟨hotherLast, congrArg fold hname.symm⟩
  rw [← hcategory, ← hotherCategory, Option.some.inj (hfound.symm.trans hsame)]

theorem categoryHelp_eq (category : String) (commands : List (Command (Action E))) :
    c.categoryHelp category commands = c.descriptionLines category ++
      (commands.mergeSort fun a b => decide (fold a.name ≤ fold b.name)).map categoryLine := by
  have hdescription : (if ((c.descriptions.get? category).getD "").isEmpty then []
      else [(c.descriptions.get? category).getD ""]) = c.descriptionLines category := by
    unfold descriptionLines
    cases c.descriptions.get? category with
    | none => rfl
    | some text =>
        cases hempty : text.isEmpty
        all_goals
          simp only [Option.getD_some, Option.filter, hempty]
          rfl
  rw [← hdescription]
  rfl

theorem lists_categoryHelp (hsound : c.registry.Sound) (category : String) :
    c.Lists category (c.categoryHelp category
      (c.registry.commands.toList.filter fun command => command.category == category)) := by
  have hdistinct : (c.registry.commands.toList.map fun command => fold command.name).Nodup := by
    have hkeys := hsound.commands.nodup
    rw [hsound.commands.keys_eq, List.map_map] at hkeys
    exact hkeys
  rw [categoryHelp_eq]
  exact ⟨_, List.mergeSort_perm _ _,
    pairwise_lt_mergeSort_key (fun command : Command (Action E) => fold command.name)
      (hdistinct.sublist (List.filter_sublist.map _)), rfl⟩

/-- The help on what is no command's name is that on the first category of this name. -/
theorem help_of_not_refers (hsound : c.registry.Sound) {name : String}
    (hnone : ∀ other, ¬ c.registry.Refers name other) {first : Command (Action E)}
    (hfirst : (c.registry.commands.toList.find? fun command =>
      fold command.category == fold name) = some first) :
    c.help name = c.categoryHelp first.category
      (c.registry.commands.toList.filter fun command => command.category == first.category) := by
  rw [help, hsound.get?_eq_none_iff.mpr hnone]
  dsimp only
  rw [CommandTable.find?_categories _ fun category => fold category == fold name, hfirst]
  rfl

/-- **Help on a category.**  Take a console that has come, from one without names, by calls of
its program and by lines whose commands change names by registration only, as the built-in ones
do, and the category of a command in it that refers to no command.

The help on the category lists it exactly if of the commands whose categories have this name up
to case the first one has it in this spelling. -/
theorem category_listed_iff (host : Host E) {start : Console E} (hempty : start.registry = ∅)
    {steps : List (Step E)} (hsteps : Along host (Step.Registers host) start steps) :
    let c := start.after host steps
    ∀ command ∈ c.registry.commands.toList,
      (∀ other, ¬ c.registry.Refers command.category other) →
      (c.Lists command.category (c.help command.category) ↔
        (c.registry.commands.toList.find? fun other =>
          fold other.category == fold command.category).map (·.category) =
            some command.category) := by
  intro c command hcommand hnone
  have hsound : c.registry.Sound :=
    Registry.Sound.reaches (hempty ▸ .empty) (after_reaches host steps start hsteps)
  have hsome : (c.registry.commands.toList.find? fun other =>
      fold other.category == fold command.category).isSome = true :=
    List.find?_isSome.mpr ⟨command, hcommand, beq_self_eq_true (fold command.category)⟩
  obtain ⟨first, hfirst⟩ := Option.isSome_iff_exists.mp hsome
  have hlists := lists_categoryHelp hsound first.category
  rw [help_of_not_refers hsound hnone hfirst, hfirst, Option.map_some, Option.some_inj]
  constructor
  · intro hlisted
    exact Lists.category_unique hsound hcommand (List.mem_of_find?_eq_some hfirst) hlisted hlists
  · intro hcategory
    rw [← hcategory]
    exact hlists

/-- A command of a category. -/
def netTool (name help category : String) : Command (Action .bare) :=
  { Builtin.define "" name help "" [] .echo with category := category }

/-- Two categories, one of them with a description. -/
def netSteps : List (Step .bare) := [
  .register (netTool "Scan" "Find hosts." "Net"),
  .describe "Net" "Tools of the net.",
  .register (netTool "echo" "Write." "Text"),
  .register (netTool "ping" "Reach a host." "Net")]

theorem category_listed_iff_net :
    let c := bare.after .bare netSteps
    (c.registry.commands.toList.filter fun command => command.category == "Net").map (·.name) =
        ["Scan", "ping"] ∧
      c.descriptionLines "Net" = ["Tools of the net."] ∧ c.Lists "Net" (c.help "Net") := by
  intro c
  have hsteps : Along .bare (Step.Registers .bare) bare netSteps := by
    simp only [netSteps, Along, Step.registers_bare, and_self]
  have hempty : bare.registry = ∅ := rfl
  have hsound : c.registry.Sound :=
    Registry.Sound.empty.reaches (after_reaches .bare netSteps bare hsteps)
  obtain ⟨command, hcommand, hcategory⟩ :
      ∃ command ∈ c.registry.commands.toList, command.category = "Net" :=
    List.mem_map.mp (by decide +kernel)
  have hnone : ∀ other, ¬ c.registry.Refers "Net" other :=
    hsound.get?_eq_none_iff.mp (Option.isNone_iff_eq_none.mp (by decide +kernel))
  have hlisted := category_listed_iff .bare hempty hsteps command hcommand (hcategory ▸ hnone)
  rw [hcategory] at hlisted
  exact ⟨by decide +kernel, by decide +kernel, hlisted.mpr (by decide +kernel)⟩

/-- Two categories whose names differ in case only. -/
def casedSteps : List (Step .bare) := [
  .register (netTool "ping" "Reach a host." "Net"),
  .register (netTool "scan" "Find hosts." "net")]

theorem cased_category_not_listed :
    let c := bare.after .bare casedSteps
    (∃ command ∈ c.registry.commands.toList, command.category = "net") ∧
      (∀ other, ¬ c.registry.Refers "net" other) ∧
      c.help "net" = ["  ping         Reach a host."] ∧ ¬ c.Lists "net" (c.help "net") := by
  intro c
  have hsteps : Along .bare (Step.Registers .bare) bare casedSteps := by
    simp only [casedSteps, Along, Step.registers_bare, and_self]
  have hsound : c.registry.Sound :=
    Registry.Sound.empty.reaches (after_reaches .bare casedSteps bare hsteps)
  have hcommand : ∃ command ∈ c.registry.commands.toList, command.category = "net" :=
    List.mem_map.mp (by decide +kernel)
  have hhelp : c.help "net" = ["  ping         Reach a host."] := by decide +kernel
  have hnone : ∀ other, ¬ c.registry.Refers "net" other :=
    hsound.get?_eq_none_iff.mp (Option.isNone_iff_eq_none.mp (by decide +kernel))
  refine ⟨hcommand, hnone, hhelp, ?_⟩
  intro hlists
  obtain ⟨command, hmember, hcategory⟩ := hcommand
  obtain ⟨last, hlast, hsame, hline⟩ := hlists.getLast? hmember hcategory
  have hothers : ∀ command ∈ c.registry.commands.toList,
      command.category = "net" → categoryLine command ≠ "  ping         Reach a host." := by
    decide +kernel
  rw [hhelp] at hline
  exact hothers last hlast hsame (Option.some.inj hline).symm

end Console
end DevConsole
