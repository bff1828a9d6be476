import DevConsole.Proofs.Console.Entry
import DevConsole.Proofs.Text.Fold

/-!
# The names in a console

A console changes its registry by registrations, accepted or refused, and by sorting
(`Step.apply_reaches`), as far as its own operations and the built-in commands go.  So
whatever a program calls, and whatever lines are run, the names of commands and aliases
stay one name space (`one_name_space`).
-/

namespace DevConsole
namespace Console

open Text (fold)

variable {E : Embedding} {host : Host E} {c : Console E}

/-! ## What a step registers -/

/-- The command that a step calls, if it is code of the host, changes the registry by
registrations, accepted or refused, and by sorting. -/
def Step.Registers (host : Host E) (c : Console E) (step : Step E) : Prop :=
  ∀ entry invocation handle, step.entry? = some entry →
    entry.invocation? host c = some invocation →
    invocation.command.action = .callback handle →
      invocation.console.registry.Reaches (invocation.outcome host).2.registry

theorem Step.registers_of_direct {step : Step E} (hdirect : step.entry? = none) :
    step.Registers host c := by
  intro entry invocation handle hentry
  cases hdirect.symm.trans hentry

theorem Entry.run_registry (host : Host E) (c : Console E) (entry : Entry) :
    (entry.run host c).2.registry = (entry.afterCommand host c).registry := by
  obtain ⟨output, journal, hrun⟩ := run_changes host c entry
  rw [hrun]

/-- Built-in commands change the registry in no other way. -/
theorem Step.apply_reaches {step : Step E} (hstep : step.Registers host c) :
    c.registry.Reaches (step.apply host c).registry := by
  cases hentry : step.entry? with
  | none => exact (step.frame host c hentry).registry
  | some entry =>
      rw [apply_of_entry host c hentry, Entry.run_registry, Entry.afterCommand]
      cases hcalls : entry.invocation? host c with
      | none =>
          dsimp only
          rw [Entry.site_registry]
          exact .refl
      | some invocation =>
          have hconsole : invocation.console.registry = c.registry := by
            rw [Entry.console_eq_site hcalls, Entry.site_registry]
          dsimp only
          rw [← hconsole]
          cases haction : invocation.command.action with
          | callback handle => exact hstep entry invocation handle hentry hcalls haction
          | builtin command =>
              simp only [Invocation.outcome, outcome, invoke, haction]
              exact Builtin.run_reaches command invocation.args
                (invocation.console.report (.dispatched invocation.command.name invocation.args))

theorem after_reaches (host : Host E) (steps : List (Step E)) :
    ∀ c : Console E, Along host (Step.Registers host) c steps →
      c.registry.Reaches (c.after host steps).registry := by
  induction steps with
  | nil => exact fun c _ => .refl
  | cons step rest ih =>
      intro c halong
      obtain ⟨hstep, hrest⟩ := halong
      exact (step.apply_reaches hstep).trans (ih _ hrest)

theorem along_of_direct (host : Host E) {steps : List (Step E)} (c : Console E)
    (hdirect : ∀ step ∈ steps, step.entry? = none) :
    Along host (Step.Registers host) c steps :=
  along_of_forall (fun step hstep _ => Step.registers_of_direct (hdirect step hstep)) c

/-- Whatever the program calls on a console with a sound registry, it stays sound. -/
theorem after_sound (host : Host E) (steps : List (Step E)) (c : Console E)
    (hsound : c.registry.Sound) (hdirect : ∀ step ∈ steps, step.entry? = none) :
    (c.after host steps).registry.Sound :=
  hsound.reaches (after_reaches host steps c (along_of_direct host c hdirect))

/-! ## One name space -/

/-- **One name space.**  Take a console that has come, from one without names, by calls of
its program and by lines whose commands change names by registration only, as the built-in
ones do.  Both of its tables are keyed by the folded forms of the names in them, the folded
names of commands and aliases together are distinct, and every name is a text without
blank characters that is not empty. -/
theorem one_name_space (host : Host E) {start : Console E} (hempty : start.registry = ∅)
    {steps : List (Step E)} (hsteps : Along host (Step.Registers host) start steps) :
    let r := (start.after host steps).registry
    (∀ entry ∈ r.commands.byKey.entries, entry.1 = fold entry.2.name) ∧
      (∀ entry ∈ r.aliases.byKey.entries, entry.1 = fold entry.2.name) ∧
      ((r.commands.names ++ r.aliases.names).map fold).Nodup ∧
      ∀ name ∈ r.commands.names ++ r.aliases.names, Text.IsWord name := by
  intro r
  have hreaches : start.registry.Reaches r := after_reaches host steps start hsteps
  rw [hempty] at hreaches
  have hsound : r.Sound := Registry.Sound.empty.reaches hreaches
  have hnamed : r.aliases.Named :=
    hreaches.aliases_named fun _ hentry => absurd hentry List.not_mem_nil
  refine ⟨hsound.commands.key_eq, hsound.aliases.key_eq, hsound.nodup_names, ?_⟩
  intro name hname
  rw [← isName_iff]
  rcases List.mem_append.mp hname with hcommand | halias
  · obtain ⟨command, hmember, rfl⟩ := List.mem_map.mp hcommand
    exact hsound.named command hmember
  · obtain ⟨entry, hmember, rfl⟩ := List.mem_map.mp halias
    exact hnamed entry hmember

/-- Code that is not there registers nothing else. -/
theorem Step.registers_bare (c : Console .bare) (step : Step .bare) :
    step.Registers .bare c :=
  fun _ _ handle => nomatch handle

/-- Registrations by every way, with case variants of names that are in use. -/
def crowdedSteps : List (Step .bare) :=
  [.registerAll "" [
      Builtin.define "" "Straße" "" "" ["Talk", "tALK"] .echo,
      Builtin.define "" "Straße" "" "" ["Talk"] .echo],
    .register (Builtin.define "" "talk" "" "" [] .quit),
    .registerAlias "STRASSE" "Talk",
    .register (Builtin.define "" "alias" "" "" [] .defineAlias),
    .enter "ALIAS ß strasse",
    .enter "alias SS quit"]

theorem one_name_space_case_variants :
    let r := (bare.after .bare crowdedSteps).registry
    r.commands.names = ["Straße", "alias"] ∧ r.aliases.names = ["Talk", "ß"] ∧
      ((r.commands.names ++ r.aliases.names).map fold).Nodup ∧
      ∀ name ∈ ["Straße", "alias", "Talk", "ß"], Text.IsWord name := by
  intro r
  have hsteps : Along .bare (Step.Registers .bare) bare crowdedSteps := by
    simp only [crowdedSteps, Along, Step.registers_bare, and_self]
  have hempty : bare.registry = ∅ := rfl
  obtain ⟨-, -, hdistinct, hwords⟩ := one_name_space .bare hempty hsteps
  have hnames : r.commands.names = ["Straße", "alias"] ∧ r.aliases.names = ["Talk", "ß"] := by
    decide +kernel
  refine ⟨hnames.1, hnames.2, hdistinct, ?_⟩
  intro name hname
  exact hwords name (by rw [hnames.1, hnames.2]; exact hname)

end Console
end DevConsole
