import DevConsole.Proofs.Console.Names
import DevConsole.Proofs.Registry.Acceptance

/-!
# Registering a command

Whether a console takes a command can be told from the names in its listings alone, since its
registry is sound (`Registry.Sound.admits_iff_names`).  A program registers a command or a
name with a callback; either way all goes in or nothing does (`register_all_or_nothing`).
-/

namespace DevConsole

open Text (fold)

namespace Registry

variable {α : Type} {r : Registry α}

/-- In a sound registry a name is new if it differs up to case from all that are listed. -/
theorem Sound.new_iff_names (hsound : r.Sound) {name : String} :
    (r.commands.contains name = false ∧ r.aliases.contains name = false) ↔
      ∀ held ∈ r.commands.names ++ r.aliases.names, fold held ≠ fold name := by
  have hcommands : r.commands.byKey.keys = r.commands.names.map fold := hsound.commands.keys_eq
  have haliases : r.aliases.byKey.keys = r.aliases.names.map fold := hsound.aliases.keys_eq
  simp only [CommandTable.contains, AliasTable.contains, Dictionary.contains_eq_false_iff,
    hcommands, haliases, List.forall_mem_append, List.mem_map, not_exists, not_and, ne_eq]

/-- What a command needs of a sound registry, in terms of the names that it lists. -/
theorem Sound.admits_iff_names (hsound : r.Sound) {c : Command α} :
    r.Admits c ↔ (∀ name ∈ c.name :: c.aliases, Text.IsWord name) ∧
      ((c.name :: c.aliases).map fold).Nodup ∧
      ∀ name ∈ c.name :: c.aliases, ∀ held ∈ r.commands.names ++ r.aliases.names,
        fold held ≠ fold name := by
  simp only [← isName_iff, ← hsound.new_iff_names]
  exact ⟨fun hadmits => ⟨hadmits.valid, hadmits.distinct, hadmits.new⟩,
    fun ⟨hvalid, hdistinct, hnew⟩ => ⟨hvalid, hdistinct, hnew⟩⟩

end Registry

namespace Console

variable {E : Embedding} {c : Console E} {offer : Offer (Action E)} {command : Command (Action E)}

theorem registerOffer_of_admits (hoffer : offer.toCommand = .ok command)
    (hadmits : c.registry.Admits command) :
    c.registerOffer offer =
      (.ok command, { c with registry := c.registry.extended command }) := by
  simp only [registerOffer, hoffer, register, Registry.register_of_admits hadmits]
  rfl

theorem registerOffer_of_not_admits (hoffer : offer.toCommand = .ok command)
    (hadmits : ¬ c.registry.Admits command) :
    ∃ fault, Registry.Refusal command fault ∧ c.registerOffer offer = (.error fault, c) := by
  obtain ⟨fault, hrefusal, hregister⟩ := Registry.register_of_not_admits hadmits
  refine ⟨fault, hrefusal, ?_⟩
  simp only [registerOffer, hoffer, register, hregister]
  rfl

/-- **A registration is all or nothing.**  Take a console whose registry has come, from one
without names, by calls of the program and by lines whose commands change names by
registration only, and by what such a command has registered so far if one is running.  Take
a command, or a name with a callback.

* It is accepted if and only if its name and its aliases are texts without blank characters
  that are not empty, they are different up to case, and each differs up to case from all
  names of commands and aliases that the console lists.
* If it is accepted, exactly the command comes last among the commands, its aliases with the
  command's name as their target come last among the aliases, in order, and nothing else
  changes.
* If it is refused, nothing changes, and the fault is that a name is in use or is no name.
* Once the command has gone in, no alias is refused. -/
theorem register_all_or_nothing (host : Host E) {start : Console E}
    (hempty : start.registry = ∅) {steps : List (Step E)}
    (hsteps : Along host (Step.Registers host) start steps)
    (hwithin : (start.after host steps).registry.Reaches c.registry)
    (hoffer : offer.toCommand = .ok command) :
    let names := command.name :: command.aliases
    ((∃ next, c.registerOffer offer = (.ok command, next)) ↔
        (∀ name ∈ names, Text.IsWord name) ∧ (names.map fold).Nodup ∧
          ∀ name ∈ names, ∀ held ∈ c.registry.commands.names ++ c.registry.aliases.names,
            fold held ≠ fold name) ∧
      (∀ {given next}, c.registerOffer offer = (.ok given, next) → given = command ∧
        next = { c with registry := c.registry.extended command } ∧
        next.registry.commands.toList = c.registry.commands.toList ++ [command] ∧
        next.registry.aliases.toList =
          c.registry.aliases.toList ++ command.aliases.map (⟨·, command.name⟩)) ∧
      (∀ {fault next}, c.registerOffer offer = (.error fault, next) →
        next = c ∧ (fault.kind = "DuplicateNameError" ∨ fault.kind = "ValueError")) ∧
      ∀ {commands}, c.registry.aliasFault? command = none →
        c.registry.commands.register command = .ok commands →
        ∃ next, Registry.addAliases { c.registry with commands := commands } command.name
          command.aliases = (.ok (), next) := by
  intro names
  have hreaches := (after_reaches host steps start hsteps).trans hwithin
  rw [hempty] at hreaches
  have hsound : c.registry.Sound := Registry.Sound.empty.reaches hreaches
  have hinserted : ∀ {commands}, c.registry.aliasFault? command = none →
      c.registry.commands.register command = .ok commands →
      ∃ next, Registry.addAliases { c.registry with commands := commands } command.name
        command.aliases = (.ok (), next) := fun hchecked hregister =>
    ⟨_, (Registry.admits_of_checked hchecked hregister).addAliases _⟩
  rw [← hsound.admits_iff_names]
  by_cases hadmits : c.registry.Admits command
  · have haccepted := registerOffer_of_admits hoffer hadmits
    refine ⟨⟨fun _ => hadmits, fun _ => ⟨_, haccepted⟩⟩, ?_, ?_, hinserted⟩
    · intro given next hnext
      rw [haccepted] at hnext
      obtain ⟨hgiven, rfl⟩ := Prod.mk.inj hnext
      refine ⟨(Except.ok.inj hgiven).symm, rfl, ?_, ?_⟩
      · simp [Registry.extended, CommandTable.toList, Dictionary.values]
      · simp [Registry.extended, AliasTable.toList, Dictionary.values]
    · intro fault next hnext
      cases haccepted.symm.trans hnext
  · obtain ⟨fault, hrefusal, hrefused⟩ := registerOffer_of_not_admits hoffer hadmits
    refine ⟨⟨?_, fun hroom => absurd hroom hadmits⟩, ?_, ?_, hinserted⟩
    · rintro ⟨next, hnext⟩
      cases hrefused.symm.trans hnext
    · intro given next hnext
      cases hrefused.symm.trans hnext
    · intro other next hnext
      rw [hrefused] at hnext
      obtain ⟨hfault, rfl⟩ := Prod.mk.inj hnext
      obtain rfl := Except.error.inj hfault
      exact ⟨rfl, hrefusal.kind⟩

/-- The command `Stop` with the given aliases. -/
def stopping (aliases : List String) : Command (Action .bare) :=
  Builtin.define "" "Stop" "" "" aliases .quit

/-- Beside `Talk` and `ß`, there is room for `Halt` but not for `SS`. -/
theorem register_all_or_nothing_crowded :
    let c := bare.after .bare crowdedSteps
    (∃ next, c.registerOffer (.command (stopping ["Halt", "ſ"])) =
        (.ok (stopping ["Halt", "ſ"]), next) ∧
      next.registry.aliases.names = ["Talk", "ß", "Halt", "ſ"]) ∧
      ∃ fault, c.registerOffer (.command (stopping ["Halt", "SS"])) = (.error fault, c) ∧
        (fault.kind = "DuplicateNameError" ∨ fault.kind = "ValueError") := by
  intro c
  have hempty : (bare : Console .bare).registry = ∅ := rfl
  have hsteps : Along .bare (Step.Registers .bare) bare crowdedSteps := by
    simp only [crowdedSteps, Along, Step.registers_bare, and_self]
  have hoffer : ∀ aliases, (Offer.command (stopping aliases)).toCommand =
      .ok (stopping aliases) := fun _ => rfl
  have hwithin : (bare.after .bare crowdedSteps).registry.Reaches c.registry := .refl
  have hspec := fun aliases =>
    register_all_or_nothing .bare hempty hsteps hwithin (hoffer aliases)
  have hnames : c.registry.commands.names ++ c.registry.aliases.names =
      ["Straße", "alias", "Talk", "ß"] := by decide +kernel
  have haliases : c.registry.aliases.names = ["Talk", "ß"] := by decide +kernel
  clear_value c
  constructor
  · obtain ⟨haccepted, hnext, -, -⟩ := hspec ["Halt", "ſ"]
    have hvalid : ∀ name ∈ ["Stop", "Halt", "ſ"], isName name = true := by decide +kernel
    have hnew : ∀ name ∈ ["Stop", "Halt", "ſ"], ∀ held ∈ ["Straße", "alias", "Talk", "ß"],
        fold held ≠ fold name := by decide +kernel
    obtain ⟨next, hgiven⟩ := haccepted.mpr
      ⟨fun name hname => (isName_iff name).mp (hvalid name hname), by decide +kernel,
        hnames ▸ hnew⟩
    obtain ⟨-, -, -, hlisted⟩ := hnext hgiven
    refine ⟨next, hgiven, ?_⟩
    rw [AliasTable.names, hlisted, List.map_append, ← AliasTable.names, haliases]
    rfl
  · obtain ⟨haccepted, hnext, hfault, -⟩ := hspec ["Halt", "SS"]
    cases hoffered : c.registerOffer (.command (stopping ["Halt", "SS"])) with
    | mk answer next =>
        cases answer with
        | error fault =>
            obtain ⟨hsame, hkind⟩ := hfault hoffered
            exact ⟨fault, by rw [hsame], hkind⟩
        | ok given =>
            -- `SS` is `ß` up to case.
            obtain ⟨hgiven, -⟩ := hnext hoffered
            rw [hgiven] at hoffered
            obtain ⟨-, -, hnew⟩ := haccepted.mp ⟨next, hoffered⟩
            rw [hnames] at hnew
            have hsame : fold "ß" = fold "SS" := by decide +kernel
            exact absurd hsame (hnew "SS" (by decide) "ß" (by decide))

end Console
end DevConsole
