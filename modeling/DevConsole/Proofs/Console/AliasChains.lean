import DevConsole.Proofs.Console.Names

/-!
# Chains of aliases

An alias chains to another if its target is the name of that alias, which resolution does
not follow.  The command `alias` refuses a target that is an alias already.  So the
aliases that a series of its lines creates chain forwards only: to none that is older
(`Forward`), and yet, as nothing looks at a new name, perhaps to themselves or to one
that is created later.  `created_unchained_iff` says that this is all there is.
-/

namespace DevConsole

open Text (fold)

/-- The target of the alias is the name of one of the given aliases. -/
def Alias.ChainsTo (entry : Alias) (aliases : List Alias) : Prop :=
  ∃ other ∈ aliases, fold other.name = fold entry.target

instance (entry : Alias) (aliases : List Alias) : Decidable (entry.ChainsTo aliases) :=
  inferInstanceAs (Decidable (∃ other ∈ aliases, fold other.name = fold entry.target))

namespace Alias

variable {entry : Alias} {first second : List Alias}

theorem chainsTo_append :
    entry.ChainsTo (first ++ second) ↔ entry.ChainsTo first ∨ entry.ChainsTo second := by
  simp only [ChainsTo, List.mem_append, or_and_right, exists_or]

/-- Aliases that come after the `old` ones, one after the other, each without a chain to
those before it. -/
def Forward : (old created : List Alias) → Prop
  | _, [] => True
  | old, entry :: rest => ¬ entry.ChainsTo old ∧ Forward (old ++ [entry]) rest

theorem Forward.not_chainsTo {created : List Alias} :
    ∀ {old : List Alias}, Forward old created → ∀ earlier entry later,
      created = earlier ++ entry :: later → ¬ entry.ChainsTo (old ++ earlier) := by
  induction created with
  | nil =>
      intro old _ earlier entry later hsplit
      cases earlier <;> cases hsplit
  | cons first rest ih =>
      intro old hforward earlier entry later hsplit
      obtain ⟨hfirst, hrest⟩ := hforward
      cases earlier with
      | nil =>
          obtain ⟨rfl, -⟩ := List.cons.inj hsplit
          rw [List.append_nil]
          exact hfirst
      | cons head earlier =>
          obtain ⟨rfl, htail⟩ := List.cons.inj hsplit
          have hlater := ih hrest earlier entry later htail
          rwa [List.append_assoc, List.singleton_append] at hlater

/-- Aliases that chain forwards at most do not chain at all exactly if none of them chains
to itself or to a later one. -/
theorem Forward.unchained_iff {old created : List Alias} (hforward : Forward old created) :
    (∀ entry ∈ created, ¬ entry.ChainsTo (old ++ created)) ↔
      ∀ earlier entry later, created = earlier ++ entry :: later →
        ¬ entry.ChainsTo (entry :: later) := by
  constructor
  · intro hnone earlier entry later hsplit hchains
    refine hnone entry (by simp [hsplit]) ?_
    rw [hsplit]
    exact chainsTo_append.mpr (Or.inr (chainsTo_append.mpr (Or.inr hchains)))
  · intro hahead entry hentry hchains
    obtain ⟨earlier, later, hsplit⟩ := List.append_of_mem hentry
    rw [hsplit, ← List.append_assoc] at hchains
    rcases chainsTo_append.mp hchains with hback | hforth
    · exact hforward.not_chainsTo earlier entry later hsplit hback
    · exact hahead earlier entry later hsplit hforth

end Alias

/-! ## The registry -/

namespace Registry

variable {α : Type} {r next : Registry α} {name target : String}

/-- The registry after the command `alias` with a name and a target. -/
def define (r : Registry α) (name target : String) : Registry α :=
  if r.aliases.contains target then r
  else
    match r.registerAlias name target with
    | .ok next => next
    | .error _ => r

/-- An alias table has a name exactly if an alias of it has that name. -/
theorem Sound.contains_alias_iff (hsound : r.Sound) :
    r.aliases.contains name = true ↔
      ∃ entry ∈ r.aliases.toList, fold entry.name = fold name := by
  rw [AliasTable.contains, Dictionary.contains, Option.isSome_iff_exists]
  exact exists_congr fun entry => hsound.alias_eq_some_iff

/-- The command adds one alias at most, which does not chain to those before it. -/
theorem Sound.define_cases (hsound : r.Sound) (name target : String) :
    r.define name target = r ∨
      ∃ aliases, r.define name target = { r with aliases := aliases } ∧
        aliases.toList = r.aliases.toList ++ [⟨name, target⟩] ∧
        ¬ (⟨name, target⟩ : Alias).ChainsTo r.aliases.toList := by
  unfold define
  split
  · exact Or.inl rfl
  · next hfree =>
      cases haccepted : r.registerAlias name target with
      | error fault => exact Or.inl rfl
      | ok next =>
          obtain ⟨aliases, -, hadded, rfl⟩ := registerAlias_cases haccepted
          exact Or.inr ⟨aliases, rfl, AliasTable.toList_of_register hadded,
            mt hsound.contains_alias_iff.mpr hfree⟩

theorem define_reaches (r : Registry α) (name target : String) :
    r.Reaches (r.define name target) := by
  unfold define
  split
  · exact .refl
  · split
    · next haccepted => exact .registerAlias .refl haccepted
    · exact .refl

/-- What a name refers to is not changed by the command. -/
theorem Sound.refers_define (hsound : r.Sound) {command : Command α} {word : String}
    (hrefers : r.Refers word command) (name target : String) :
    (r.define name target).Refers word command := by
  rcases hsound.define_cases name target with hsame | ⟨aliases, hnext, hadded, -⟩
  · rw [hsame]
    exact hrefers
  · rw [hnext]
    obtain ⟨hcommand, hname | ⟨hother, entry, hentry, halias⟩⟩ := hrefers
    · exact ⟨hcommand, Or.inl hname⟩
    · refine ⟨hcommand, Or.inr ⟨hother, entry, ?_, halias⟩⟩
      rw [hadded]
      exact List.mem_append_left _ hentry

end Registry

/-! ## Lines that define aliases -/

namespace Console

variable {E : Embedding} {host : Host E} {c : Console E}

/-- The built-in command `alias` is loaded and called by its name. -/
def DefinesAliases (c : Console E) : Prop :=
  ∃ command, c.registry.Refers "alias" command ∧ command.action = .builtin .defineAlias

/-- The alias that a line asks for, if it calls `alias`, in any case, with a name and a
target. -/
def definition? (line : String) : Option Alias :=
  match Text.words line with
  | [spelled, name, target] =>
    if fold spelled = fold "alias" then some ⟨name, target⟩ else none
  | _ => none

theorem words_of_definition {line : String} {entry : Alias}
    (hline : definition? line = some entry) :
    ∃ spelled, fold spelled = fold "alias" ∧
      Text.words line = [spelled, entry.name, entry.target] := by
  unfold definition? at hline
  split at hline
  · next spelled name target hwords =>
      split at hline
      · next hspelled =>
          obtain rfl := Option.some.inj hline
          exact ⟨spelled, hspelled, hwords⟩
      · cases hline
  · cases hline

theorem runAlias_registry (c : Console E) (name target : String) :
    (Builtin.runAlias c [name, target]).2.registry = c.registry.define name target := by
  rw [Builtin.runAlias_eq]
  unfold Registry.define
  split
  · rfl
  · unfold registerAlias
    cases c.registry.registerAlias name target <;> rfl

/-- Entering such a line does to the registry what the command does. -/
theorem enter_definition (host : Host E) (hsound : c.registry.Sound)
    (hloaded : c.DefinesAliases) {line : String} {entry : Alias}
    (hline : definition? line = some entry) :
    (c.enter host line).2.registry = c.registry.define entry.name entry.target := by
  obtain ⟨command, hrefers, haction⟩ := hloaded
  obtain ⟨spelled, hspelled, hwords⟩ := words_of_definition hline
  have hfound : c.registry.get? spelled = some command :=
    hsound.get?_eq_some_iff.mpr ((Registry.refers_congr hspelled command).mpr hrefers)
  have hcalls : (Entry.enter line).invocation? host c =
      some ⟨c.writeHistory (historyEntry line), command, [entry.name, entry.target]⟩ := by
    simp only [Entry.invocation?, invocation?, hwords]
    exact congrArg (Option.map _) hfound
  have hrun := Entry.run_registry host c (.enter line)
  rw [Entry.run] at hrun
  rw [hrun, Entry.afterCommand, hcalls]
  simp only [Invocation.outcome, outcome, invoke, haction, Builtin.run]
  exact runAlias_registry _ entry.name entry.target

/-- What a series of such lines adds to the aliases: some of those asked for, in their order,
each without a chain to an alias before it. -/
theorem enter_definitions (host : Host E) (lines : List String) :
    ∀ c : Console E, c.registry.Sound → c.DefinesAliases →
      (∀ line ∈ lines, ∃ entry, definition? line = some entry) →
      ∃ created, (c.after host (lines.map .enter)).registry.aliases.toList =
          c.registry.aliases.toList ++ created ∧
        Alias.Forward c.registry.aliases.toList created ∧
        created.Sublist (lines.filterMap definition?) := by
  induction lines with
  | nil => exact fun c _ _ _ => ⟨[], (List.append_nil _).symm, trivial, .slnil⟩
  | cons line rest ih =>
      intro c hsound hloaded hlines
      obtain ⟨⟨entry, hline⟩, hrest⟩ := List.forall_mem_cons.mp hlines
      have hentered := enter_definition host hsound hloaded hline
      have hnextSound : (c.enter host line).2.registry.Sound := by
        rw [hentered]
        exact hsound.reaches (c.registry.define_reaches _ _)
      have hnextLoaded : (c.enter host line).2.DefinesAliases := by
        obtain ⟨command, hrefers, haction⟩ := hloaded
        refine ⟨command, ?_, haction⟩
        rw [hentered]
        exact hsound.refers_define hrefers _ _
      obtain ⟨created, hadded, hforward, hasked⟩ := ih _ hnextSound hnextLoaded hrest
      have hfirst : c.after host ((line :: rest).map .enter) =
          (c.enter host line).2.after host (rest.map .enter) := by
        rw [List.map_cons, after_cons, Step.apply]
      rw [List.filterMap_cons_some hline, hfirst]
      rcases hsound.define_cases entry.name entry.target with
        hsame | ⟨aliases, hnext, hnew, hback⟩
      · -- The line is refused: what is created is created by the others.
        rw [hentered, hsame] at hadded hforward
        exact ⟨created, hadded, hforward, hasked.cons entry⟩
      · rw [hentered, hnext] at hadded hforward
        rw [hnew] at hadded hforward
        rw [List.append_assoc, List.singleton_append] at hadded
        exact ⟨entry :: created, hadded, ⟨hback, hforward⟩, hasked.cons_cons entry⟩

/-- **Chains of created aliases.**  Take a console that has come to its names by
registrations and has the built-in command `alias`, and enter lines that call this command
with a name and a target.  Of the aliases that these lines create, none chains to another
alias exactly if none chains to itself or to one that was created after it. -/
theorem created_unchained_iff (host : Host E) {start : Console E} (hempty : start.registry = ∅)
    {before : List (Step E)} (hbefore : Along host (Step.Registers host) start before)
    (hloaded : (start.after host before).DefinesAliases) {lines : List String}
    (hlines : ∀ line ∈ lines, ∃ entry, definition? line = some entry) :
    let c := start.after host before
    let aliases := (c.after host (lines.map .enter)).registry.aliases.toList
    ∃ created, aliases = c.registry.aliases.toList ++ created ∧
      created.Sublist (lines.filterMap definition?) ∧
      ((∀ entry ∈ created, ¬ entry.ChainsTo aliases) ↔
        ∀ earlier entry later, created = earlier ++ entry :: later →
          ¬ entry.ChainsTo (entry :: later)) := by
  intro c aliases
  have hreaches : start.registry.Reaches c.registry := after_reaches host before start hbefore
  rw [hempty] at hreaches
  obtain ⟨created, hadded, hforward, hasked⟩ :=
    enter_definitions host lines c (Registry.Sound.empty.reaches hreaches) hloaded hlines
  refine ⟨created, hadded, hasked, ?_⟩
  simp only [aliases, hadded]
  exact hforward.unchained_iff

/-- The registration of all built-in commands. -/
def equipment : List (Step .bare) := [
  .registerAll Settings.builtinPackage (Builtin.consoleCommands "console"),
  .registerAll Settings.builtinPackage (Builtin.hostCommands "host"),
  .registerAll Settings.builtinPackage (Builtin.scriptCommands "script")]

theorem equipment_registers : Along .bare (Step.Registers .bare) bare equipment :=
  along_of_direct .bare bare (by simp [equipment, Step.entry?])

theorem equipment_definesAliases : (bare.after .bare equipment).DefinesAliases := by
  have hsound : (bare.after .bare equipment).registry.Sound :=
    Registry.Sound.empty.reaches (after_reaches .bare _ bare equipment_registers)
  have hfound : ((bare.after .bare equipment).registry.get? "alias").map (fun command =>
      match command.action with
      | .builtin builtin => some builtin
      | .callback _ => none) = some (some .defineAlias) := by
    decide +kernel
  obtain ⟨command, hcommand, hbuiltin⟩ := Option.map_eq_some_iff.mp hfound
  refine ⟨command, hsound.get?_eq_some_iff.mp hcommand, ?_⟩
  split at hbuiltin
  · next builtin haction => rw [haction, Option.some.inj hbuiltin]
  · cases hbuiltin

/-- The aliases of a console with all built-in commands after some lines. -/
def aliasesAfter (lines : List String) : List Alias :=
  ((bare.after .bare equipment).after .bare (lines.map .enter)).registry.aliases.toList

/-- Definitions of which one has a target that is an alias by then, and so creates none. -/
theorem created_unchained_refused :
    aliasesAfter ["alias say echo", "ALIAS loud SAY", " Alias  bye quit "] =
        aliasesAfter [] ++ [⟨"say", "echo"⟩, ⟨"bye", "quit"⟩] ∧
      ∀ entry ∈ [⟨"say", "echo"⟩, ⟨"bye", "quit"⟩], ¬ Alias.ChainsTo entry
        (aliasesAfter ["alias say echo", "ALIAS loud SAY", " Alias  bye quit "]) := by
  have hempty : bare.registry = ∅ := rfl
  have hlines : ∀ line ∈ ["alias say echo", "ALIAS loud SAY", " Alias  bye quit "],
      ∃ entry, definition? line = some entry := by
    simp only [← Option.isSome_iff_exists]
    decide +kernel
  have haliases : aliasesAfter ["alias say echo", "ALIAS loud SAY", " Alias  bye quit "] =
      aliasesAfter [] ++ [⟨"say", "echo"⟩, ⟨"bye", "quit"⟩] := by
    decide +kernel
  obtain ⟨created, hadded, -, hunchained⟩ := created_unchained_iff .bare hempty
    equipment_registers equipment_definesAliases hlines
  have hcreated : created = [⟨"say", "echo"⟩, ⟨"bye", "quit"⟩] := by
    refine List.append_cancel_left (hadded.symm.trans ?_)
    simpa only [aliasesAfter, List.map_nil, after_nil] using haliases
  rw [hcreated] at hunchained
  refine ⟨haliases, hunchained.mpr ?_⟩
  intro earlier entry later hsplit
  rcases earlier with _ | ⟨first, _ | ⟨second, earlier⟩⟩
  · obtain ⟨rfl, rfl⟩ := List.cons.inj hsplit
    decide +kernel
  · obtain ⟨rfl, rfl⟩ := List.cons.inj (List.cons.inj hsplit).2
    decide +kernel
  · cases earlier <;> cases (List.cons.inj (List.cons.inj hsplit).2).2

/-- An alias of itself, and an alias of a name that becomes an alias afterwards. -/
theorem created_alias_chains :
    (aliasesAfter ["alias loop loop"] = aliasesAfter [] ++ [⟨"loop", "loop"⟩] ∧
      Alias.ChainsTo ⟨"loop", "loop"⟩ (aliasesAfter ["alias loop loop"])) ∧
    (aliasesAfter ["alias say shout", "alias shout echo"] =
        aliasesAfter [] ++ [⟨"say", "shout"⟩, ⟨"shout", "echo"⟩] ∧
      Alias.ChainsTo ⟨"say", "shout"⟩
        (aliasesAfter ["alias say shout", "alias shout echo"])) := by
  have hitself : aliasesAfter ["alias loop loop"] = aliasesAfter [] ++ [⟨"loop", "loop"⟩] := by
    decide +kernel
  have hlater : aliasesAfter ["alias say shout", "alias shout echo"] =
      aliasesAfter [] ++ [⟨"say", "shout"⟩, ⟨"shout", "echo"⟩] := by
    decide +kernel
  refine ⟨⟨hitself, ⟨"loop", "loop"⟩, ?_, rfl⟩, hlater, ⟨"shout", "echo"⟩, ?_, rfl⟩
  · simp [hitself]
  · simp [hlater]

end Console
end DevConsole
