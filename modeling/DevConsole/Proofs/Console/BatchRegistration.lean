import DevConsole.Console.Package
import DevConsole.Proofs.Console.Registration

/-!
# Registering the commands of a package

The commands of a package are offered one after the other.  A command is taken if there is room
for it at its turn, which depends on what was taken before, and otherwise it is skipped
(`Registry.TakesInTurn`).  What is taken comes at the ends of the tables, and what was
there stays where it was (`Registry.TakesInTurn.commands_eq`).

After its turn there is no room for a command, whether it was taken or skipped: names are only
added (`Registry.TakesInTurn.not_hasRoom`).  So offering the same commands again takes none
(`Registry.TakesInTurn.eq_of_full`).
-/

namespace DevConsole

open Text (fold)

namespace Command

variable {α : Type}

/-- A category does not change what a command is called. -/
@[simp] theorem withCategory_name (c : Command α) (package : String) :
    (c.withCategory package).name = c.name := by
  unfold withCategory
  split
  · split <;> rfl
  · rfl

@[simp] theorem withCategory_aliases (c : Command α) (package : String) :
    (c.withCategory package).aliases = c.aliases := by
  unfold withCategory
  split
  · split <;> rfl
  · rfl

end Command

namespace Registry

variable {α : Type} {r next : Registry α} {c : Command α} {offered taken : List (Command α)}

/-! ## Room for a command -/

/-- There is room for a command: its name and its aliases differ up to case, from each other and
from all names of commands and aliases. -/
structure HasRoom (r : Registry α) (c : Command α) : Prop where
  distinct : ((c.name :: c.aliases).map fold).Nodup
  new : ∀ name ∈ c.name :: c.aliases, ∀ held ∈ r.commands.names ++ r.aliases.names,
    fold held ≠ fold name

/-- A registry admits the commands with valid names that it has room for. -/
theorem Sound.admits_iff_hasRoom (hsound : r.Sound)
    (hwords : ∀ name ∈ c.name :: c.aliases, Text.IsWord name) : r.Admits c ↔ r.HasRoom c := by
  rw [hsound.admits_iff_names, and_iff_right hwords]
  exact ⟨fun ⟨hdistinct, hnew⟩ => ⟨hdistinct, hnew⟩, fun hroom => ⟨hroom.distinct, hroom.new⟩⟩

/-- Where there are more names there is less room. -/
theorem HasRoom.of_names_subset (hroom : next.HasRoom c)
    (hnames : r.commands.names ++ r.aliases.names ⊆ next.commands.names ++ next.aliases.names) :
    r.HasRoom c :=
  ⟨hroom.distinct, fun name hname held hheld => hroom.new name hname held (hnames hheld)⟩

theorem not_hasRoom_of_name_mem (hname : c.name ∈ r.commands.names) : ¬ r.HasRoom c := by
  intro hroom
  exact hroom.new c.name List.mem_cons_self c.name (List.mem_append_left _ hname) rfl

theorem extended_commands (r : Registry α) (c : Command α) :
    (r.extended c).commands.toList = r.commands.toList ++ [c] := by
  simp [extended, CommandTable.toList, Dictionary.values]

theorem extended_aliases (r : Registry α) (c : Command α) :
    (r.extended c).aliases.toList = r.aliases.toList ++ c.aliases.map (⟨·, c.name⟩) := by
  simp [extended, AliasTable.toList, Dictionary.values]

/-! ## Commands in turn -/

/-- Commands are offered one after the other. Those that there is room for at their turn are
taken, with their aliases, and the others leave everything as it is. -/
inductive TakesInTurn : Registry α → (offered taken : List (Command α)) → Registry α → Prop where
  | nil {r : Registry α} : TakesInTurn r [] [] r
  | take {r next : Registry α} {c : Command α} {offered taken : List (Command α)}
      (room : r.HasRoom c) (rest : TakesInTurn (r.extended c) offered taken next) :
      TakesInTurn r (c :: offered) (c :: taken) next
  | skip {r next : Registry α} {c : Command α} {offered taken : List (Command α)}
      (full : ¬ r.HasRoom c) (rest : TakesInTurn r offered taken next) :
      TakesInTurn r (c :: offered) taken next

namespace TakesInTurn

/-- What is taken comes last among the commands. -/
theorem commands_eq (htakes : r.TakesInTurn offered taken next) :
    next.commands.toList = r.commands.toList ++ taken := by
  induction htakes with
  | nil => simp
  | take _ _ ih => simp [ih, extended_commands]
  | skip _ _ ih => exact ih

/-- Its aliases come last among the aliases. -/
theorem aliases_eq (htakes : r.TakesInTurn offered taken next) :
    next.aliases.toList =
      r.aliases.toList ++ taken.flatMap fun c => c.aliases.map (⟨·, c.name⟩) := by
  induction htakes with
  | nil => simp
  | take _ _ ih => simp [ih, extended_aliases]
  | skip _ _ ih => exact ih

theorem names_subset (htakes : r.TakesInTurn offered taken next) :
    r.commands.names ++ r.aliases.names ⊆ next.commands.names ++ next.aliases.names := by
  simp only [CommandTable.names, AliasTable.names, htakes.commands_eq, htakes.aliases_eq,
    List.map_append]
  refine List.append_subset.mpr ⟨?_, ?_⟩
  · exact fun name hname => List.mem_append_left _ (List.mem_append_left _ hname)
  · exact fun name hname => List.mem_append_right _ (List.mem_append_left _ hname)

/-- After its turn there is no room for a command. -/
theorem not_hasRoom (htakes : r.TakesInTurn offered taken next) :
    ∀ c ∈ offered, ¬ next.HasRoom c := by
  induction htakes with
  | nil => exact fun c hc => absurd hc List.not_mem_nil
  | @take r next c _ _ _ rest ih =>
      refine List.forall_mem_cons.mpr ⟨not_hasRoom_of_name_mem ?_, ih⟩
      rw [CommandTable.names, rest.commands_eq, extended_commands]
      simp
  | skip full rest ih =>
      refine List.forall_mem_cons.mpr ⟨?_, ih⟩
      exact fun hroom => full (hroom.of_names_subset rest.names_subset)

/-- If there is room for none of the commands, none is taken. -/
theorem eq_of_full (htakes : r.TakesInTurn offered taken next)
    (hfull : ∀ c ∈ offered, ¬ r.HasRoom c) : taken = [] ∧ next = r := by
  induction htakes with
  | nil => exact ⟨rfl, rfl⟩
  | take room _ _ => exact absurd room (hfull _ List.mem_cons_self)
  | skip _ _ ih => exact ih fun c hc => hfull c (List.mem_cons_of_mem _ hc)

end TakesInTurn

end Registry

namespace Console

variable {E : Embedding}

/-- Registering the commands of a package never fails if all names are valid. -/
theorem registerAll_takesInTurn (package : String) {commands : List (Command (Action E))}
    (hwords : ∀ command ∈ commands, ∀ name ∈ command.name :: command.aliases,
      Text.IsWord name) :
    ∀ {c : Console E} (registered : Nat), c.registry.Sound →
      ∃ taken next, c.registerAll package registered commands =
          (.ok (registered + taken.length), next) ∧
        c.registry.TakesInTurn (commands.map (·.withCategory package)) taken next.registry ∧
        next.registry.Sound := by
  induction commands with
  | nil =>
      intro c registered hsound
      exact ⟨[], c, rfl, .nil, hsound⟩
  | cons command rest ih =>
      intro c registered hsound
      obtain ⟨hcommand, hrest⟩ := List.forall_mem_cons.mp hwords
      have hnames : ∀ name ∈ (command.withCategory package).name ::
          (command.withCategory package).aliases, Text.IsWord name := by simpa using hcommand
      have hkept := hsound.register (command.withCategory package)
      by_cases hadmits : c.registry.Admits (command.withCategory package)
      · have hroom := (hsound.admits_iff_hasRoom hnames).mp hadmits
        have hregister := Registry.register_of_admits hadmits
        rw [hregister] at hkept
        obtain ⟨taken, next, hall, htakes, hnext⟩ :=
          ih hrest (c := { c with registry := c.registry.extended (command.withCategory package) })
            (registered + 1) hkept
        refine ⟨command.withCategory package :: taken, next, ?_, .take hroom htakes, hnext⟩
        simp only [registerAll, register, hregister, hall, List.length_cons]
        rw [Nat.add_assoc, Nat.add_comm 1]
      · have hfull := mt (hsound.admits_iff_hasRoom hnames).mpr hadmits
        obtain ⟨fault, hrefusal, hregister⟩ := Registry.register_of_not_admits hadmits
        have hduplicate : fault.isDuplicate = true :=
          hrefusal.isDuplicate fun name hname => (isName_iff name).mpr (hnames name hname)
        obtain ⟨taken, next, hall, htakes, hnext⟩ :=
          ih hrest (c := c.report (.commandSkipped command.origin fault.message)) registered hsound
        refine ⟨taken, next, ?_, .skip hfull htakes, hnext⟩
        simp only [registerAll, register, hregister, hduplicate, if_true]
        exact hall

/-- **Registering the commands of a package.**  Take a console whose registry has come, from one
without names, by calls of the program and by lines whose commands change names by
registration only, and by what such a command has registered so far if one is running.  Take
commands of a package whose names and aliases are all texts without blank characters that are
not empty.

* Their registration does not fail.  It takes them in turn, each with the category of the
  package: a command goes in if and only if its name and its aliases differ up to case from
  each other and from all names that the console has at that moment, and a command that does
  not go in changes no names.
* It counts the commands that went in.  They come last among the commands, in order, and their
  aliases come last among the aliases; what was there before stays in its place.
* Nothing else changes but the journal.
* A second time no command goes in, and the registry stays as it is. -/
theorem register_all_in_turn (host : Host E) {start c : Console E} (hempty : start.registry = ∅)
    {steps : List (Step E)} (hsteps : Along host (Step.Registers host) start steps)
    (hwithin : (start.after host steps).registry.Reaches c.registry) (package : String)
    {commands : List (Command (Action E))}
    (hwords : ∀ command ∈ commands, ∀ name ∈ command.name :: command.aliases,
      Text.IsWord name) :
    ∃ taken next, c.registerAll package 0 commands = (.ok taken.length, next) ∧
      c.registry.TakesInTurn (commands.map (·.withCategory package)) taken next.registry ∧
      next.registry.commands.toList = c.registry.commands.toList ++ taken ∧
      next.registry.aliases.toList = c.registry.aliases.toList ++
        taken.flatMap (fun command => command.aliases.map (⟨·, command.name⟩)) ∧
      (∃ journal, next = { c with registry := next.registry, journal := journal }) ∧
      ∃ again, next.registerAll package 0 commands = (.ok 0, again) ∧
        again.registry = next.registry := by
  have hreaches := (after_reaches host steps start hsteps).trans hwithin
  rw [hempty] at hreaches
  have hsound : c.registry.Sound := Registry.Sound.empty.reaches hreaches
  obtain ⟨taken, next, hall, htakes, hnext⟩ := registerAll_takesInTurn package hwords 0 hsound
  obtain ⟨more, again, hagain, hmore, -⟩ := registerAll_takesInTurn package hwords 0 hnext
  obtain ⟨rfl, hsame⟩ := hmore.eq_of_full htakes.not_hasRoom
  rw [Nat.zero_add] at hall
  obtain ⟨registry, journal, -, hchanges⟩ := registerAll_changes package commands c 0
  rw [hall] at hchanges
  dsimp only at hchanges
  exact ⟨taken, next, hall, htakes, htakes.commands_eq, htakes.aliases_eq,
    ⟨journal, by rw [hchanges]⟩, again, hagain, hsame⟩

/-- `SS` is `ß` up to case, and `stop` has its own name as an alias: both are skipped, and they
do not keep `Stop` from getting the alias `Halt`. -/
theorem register_all_in_turn_crowded :
    let c := bare.after .bare crowdedSteps
    let commands := [stopping ["Halt", "SS"], stopping ["stop"], stopping ["Halt"], stopping []]
    ∃ next, c.registerAll "tools" 0 commands = (.ok 1, next) ∧
      next.registry.commands.names = ["Straße", "alias", "Stop"] ∧
      next.registry.aliases.names = ["Talk", "ß", "Halt"] ∧
      ∃ again, next.registerAll "tools" 0 commands = (.ok 0, again) ∧
        again.registry = next.registry := by
  intro c commands
  have hempty : (bare : Console .bare).registry = ∅ := rfl
  have hsteps : Along .bare (Step.Registers .bare) bare crowdedSteps := by
    simp only [crowdedSteps, Along, Step.registers_bare, and_self]
  have hvalid : ∀ command ∈ commands, ∀ name ∈ command.name :: command.aliases,
      isName name = true := by decide +kernel
  obtain ⟨taken, next, hall, -, -, -, -, hagain⟩ :=
    register_all_in_turn .bare hempty hsteps .refl (c := c) "tools"
      fun command hcommand name hname =>
        (isName_iff name).mp (hvalid command hcommand name hname)
  have hcount : (c.registerAll "tools" 0 commands).1.toOption = some 1 := by decide +kernel
  have hcommands : (c.registerAll "tools" 0 commands).2.registry.commands.names =
      ["Straße", "alias", "Stop"] := by decide +kernel
  have haliases : (c.registerAll "tools" 0 commands).2.registry.aliases.names =
      ["Talk", "ß", "Halt"] := by decide +kernel
  rw [hall] at hcount hcommands haliases
  rw [Option.some.inj hcount] at hall
  exact ⟨next, hall, hcommands, haliases, hagain⟩

end Console
end DevConsole
