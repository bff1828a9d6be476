import DevConsole.Proofs.Dictionary
import DevConsole.Registry

/-!
# Commands and aliases are one name space

Both tables of a registry keep their entries under the folded forms of their names
(`Dictionary.KeyedBy`), and no name is in both (`Registry.Sound`).  Whatever is registered,
accepted or refused, and however often the tables are sorted, a registry stays sound, and
what is a name in it can be a word of a line (`Registry.Reaches.aliases_named`).

In a sound registry a name refers to a command in one way at most: as the name of the
command, or as an alias whose target is that name (`Registry.Refers`).  Lookup follows an
alias before it looks for a command, and yet finds exactly the command that the name
refers to (`Registry.Sound.get?_eq_some_iff`): an alias cannot be in the way of a command,
since no alias has a command's name.
-/

namespace DevConsole

open Text (fold)

/-! ## Tables keyed by folded names -/

namespace Dictionary

variable {α : Type} {d : Dictionary α} {key : String} {value : α}

theorem contains_eq_false_iff : d.contains key = false ↔ key ∉ d.keys := by
  unfold contains get? keys
  rw [Option.isSome_eq_false_iff, Option.isNone_iff_eq_none, List.lookup_eq_none_iff,
    List.mem_map]
  constructor
  · rintro hnone ⟨entry, hentry, rfl⟩
    exact bne_iff_ne.mp (hnone entry hentry) rfl
  · intro hnot entry hentry
    rw [bne_iff_ne]
    rintro rfl
    exact hnot ⟨entry, hentry, rfl⟩

theorem get?_eq_some_iff (hnodup : d.keys.Nodup) :
    d.get? key = some value ↔ (key, value) ∈ d.entries := by
  obtain ⟨entries⟩ := d
  unfold get?
  unfold keys at hnodup
  dsimp only at hnodup ⊢
  induction entries with
  | nil => simp
  | cons entry rest ih =>
      obtain ⟨first, held⟩ := entry
      obtain ⟨hfirst, hrest⟩ := List.nodup_cons.mp hnodup
      by_cases hkey : key = first
      · subst hkey
        have hother : (key, value) ∉ rest := fun hmember =>
          hfirst (List.mem_map.mpr ⟨_, hmember, rfl⟩)
        simp [hother, eq_comm]
      · have hpast : (key == first) = false := by simpa using hkey
        simp [List.lookup_cons, hpast, hkey, ih hrest]

theorem contains_insert {other : String} :
    (d.insert key value).contains other = (other == key || d.contains other) := by
  unfold contains
  rw [get?_insert]
  cases other == key <;> rfl

/-- A key that is new comes last. -/
theorem entries_insert_of_new (value : α) (hnew : d.contains key = false) :
    (d.insert key value).entries = d.entries ++ [(key, value)] := by
  obtain ⟨entries⟩ := d
  rw [contains_eq_false_iff] at hnew
  unfold keys at hnew
  unfold insert
  dsimp only at hnew ⊢
  induction entries with
  | nil => rfl
  | cons entry rest ih =>
      rw [List.map_cons, List.mem_cons, not_or] at hnew
      simp [insertEntry, hnew.1, ih hnew.2]

theorem sort_perm (d : Dictionary α) : d.sort.entries.Perm d.entries :=
  List.mergeSort_perm _ _

theorem contains_sort (d : Dictionary α) (key : String) :
    d.sort.contains key = d.contains key := by
  have hkeys : key ∉ d.sort.keys ↔ key ∉ d.keys :=
    not_congr (d.sort_perm.map Prod.fst).mem_iff
  rw [← contains_eq_false_iff, ← contains_eq_false_iff] at hkeys
  cases hold : d.contains key with
  | false => exact hkeys.mpr hold
  | true => simpa [hold] using hkeys

/-- Values stand under the folded forms of their names, no two under one key. -/
structure KeyedBy (name : α → String) (d : Dictionary α) : Prop where
  key_eq : ∀ entry ∈ d.entries, entry.1 = fold (name entry.2)
  nodup : d.keys.Nodup

namespace KeyedBy

variable {name : α → String}

theorem empty (name : α → String) : KeyedBy name ∅ :=
  ⟨fun _ hentry => absurd hentry List.not_mem_nil, List.nodup_nil⟩

theorem insert (hkeyed : d.KeyedBy name) (value : α)
    (hnew : d.contains (fold (name value)) = false) :
    (d.insert (fold (name value)) value).KeyedBy name := by
  refine ⟨?_, nodup_keys_insert hkeyed.nodup _ _⟩
  intro entry hentry
  rw [entries_insert_of_new value hnew, List.mem_append, List.mem_singleton] at hentry
  rcases hentry with hold | rfl
  · exact hkeyed.key_eq entry hold
  · rfl

theorem sort (hkeyed : d.KeyedBy name) : d.sort.KeyedBy name := by
  refine ⟨?_, ?_⟩
  · intro entry hentry
    exact hkeyed.key_eq entry (d.sort_perm.mem_iff.mp hentry)
  · exact (d.sort_perm.map Prod.fst).nodup_iff.mpr hkeyed.nodup

/-- The keys are the folded names. -/
theorem keys_eq (hkeyed : d.KeyedBy name) :
    d.keys = (d.values.map name).map fold := by
  rw [keys, values, List.map_map, List.map_map]
  exact List.map_congr_left fun entry hentry => hkeyed.key_eq entry hentry

/-- A key finds the value whose name has that folded form. -/
theorem get?_eq_some_iff (hkeyed : d.KeyedBy name) :
    d.get? key = some value ↔ value ∈ d.values ∧ fold (name value) = key := by
  rw [Dictionary.get?_eq_some_iff hkeyed.nodup, values, List.mem_map]
  constructor
  · intro hentry
    exact ⟨⟨_, hentry, rfl⟩, (hkeyed.key_eq _ hentry).symm⟩
  · rintro ⟨⟨entry, hentry, rfl⟩, rfl⟩
    rw [← hkeyed.key_eq entry hentry]
    exact hentry

end KeyedBy

end Dictionary

/-! ## Accepted names -/

variable {α : Type}

theorem CommandTable.register_cases {table next : CommandTable α} {c : Command α}
    (haccepted : table.register c = .ok next) :
    isName c.name = true ∧ table.contains c.name = false ∧
      next = ⟨table.byKey.insert (fold c.name) c⟩ := by
  unfold register at haccepted
  split at haccepted
  · cases haccepted
  · next hname =>
      split at haccepted
      · cases haccepted
      · next hfree =>
          exact ⟨by simpa using hname, Bool.eq_false_iff.mpr hfree,
            (Except.ok.inj haccepted).symm⟩

theorem AliasTable.register_cases {table next : AliasTable} {name target : String}
    (haccepted : table.register name target = .ok next) :
    isName name = true ∧ table.contains name = false ∧
      next = ⟨table.byKey.insert (fold name) ⟨name, target⟩⟩ := by
  unfold register at haccepted
  split at haccepted
  · cases haccepted
  · next hname =>
      split at haccepted
      · cases haccepted
      · next hfree =>
          exact ⟨by simpa using hname, Bool.eq_false_iff.mpr hfree,
            (Except.ok.inj haccepted).symm⟩

/-- An alias that is accepted comes last. -/
theorem AliasTable.toList_of_register {table next : AliasTable} {name target : String}
    (haccepted : table.register name target = .ok next) :
    next.toList = table.toList ++ [⟨name, target⟩] := by
  obtain ⟨-, hnew, rfl⟩ := register_cases haccepted
  simp only [toList, Dictionary.values, Dictionary.entries_insert_of_new _ hnew, List.map_append,
    List.map_singleton]

/-- Aliases can be called by their names. -/
def AliasTable.Named (table : AliasTable) : Prop :=
  ∀ entry ∈ table.toList, isName entry.name = true

theorem AliasTable.Named.register {table next : AliasTable} (hnamed : table.Named)
    {name target : String} (haccepted : table.register name target = .ok next) :
    next.Named := by
  intro entry hentry
  rw [toList_of_register haccepted, List.mem_append, List.mem_singleton] at hentry
  rcases hentry with hold | rfl
  · exact hnamed entry hold
  · exact (register_cases haccepted).1

namespace Registry

theorem aliasCollides_eq_false_iff {r : Registry α} {command name : String} :
    r.aliasCollides command name = false ↔
      r.aliases.contains name = false ∧ r.commands.contains name = false ∧
        fold name ≠ fold command := by
  simp only [aliasCollides, Bool.or_eq_false_iff, beq_eq_false_iff_ne, and_assoc]

/-- The check of the aliases passes a command if there is nothing wrong with the list of its
aliases, no alias has its name, and no alias of it is in the way of another name. -/
theorem aliasFault?_eq_none_iff {r : Registry α} {c : Command α} :
    r.aliasFault? c = none ↔
      aliasListFault? c.name [] c.aliases = none ∧ r.aliases.contains c.name = false ∧
        ∀ name ∈ c.aliases, r.aliasCollides c.name name = false := by
  unfold aliasFault?
  cases aliasListFault? c.name [] c.aliases with
  | some fault => simp
  | none =>
      cases r.aliases.contains c.name with
      | true => simp
      | false => simp

/-- An alias is accepted if its table accepts it and no command has its name. -/
theorem registerAlias_cases {r next : Registry α} {name target : String}
    (haccepted : r.registerAlias name target = .ok next) :
    ∃ aliases, r.commands.contains name = false ∧
      r.aliases.register name target = .ok aliases ∧ next = { r with aliases := aliases } := by
  unfold registerAlias at haccepted
  split at haccepted
  · cases haccepted
  · next hfree =>
      cases hadded : r.aliases.register name target with
      | error fault =>
          rw [hadded] at haccepted
          cases haccepted
      | ok aliases =>
          rw [hadded] at haccepted
          exact ⟨aliases, Bool.eq_false_iff.mpr hfree, rfl, (Except.ok.inj haccepted).symm⟩

/-- Both tables are keyed by folded names, no name is in both, and commands can be called
by their names. -/
structure Sound (r : Registry α) : Prop where
  commands : r.commands.byKey.KeyedBy Command.name
  aliases : r.aliases.byKey.KeyedBy Alias.name
  apart : ∀ name, r.commands.contains name = true → r.aliases.contains name = false
  named : ∀ command ∈ r.commands.toList, isName command.name = true

/-- The registry `next` comes from `r` by registrations, accepted or refused, and sorting. -/
inductive Reaches (r : Registry α) : Registry α → Prop where
  | refl : Reaches r r
  | register {mid : Registry α} (before : Reaches r mid) (c : Command α) :
      Reaches r (mid.register c).2
  | registerAlias {mid next : Registry α} {name target : String} (before : Reaches r mid)
      (haccepted : mid.registerAlias name target = .ok next) : Reaches r next
  | sort {mid : Registry α} (before : Reaches r mid) : Reaches r mid.sort

theorem Reaches.trans {r mid next : Registry α} (hfirst : r.Reaches mid)
    (hsecond : mid.Reaches next) : r.Reaches next := by
  induction hsecond with
  | refl => exact hfirst
  | register _ c ih => exact ih.register c
  | registerAlias _ haccepted ih => exact ih.registerAlias haccepted
  | sort _ ih => exact ih.sort

theorem addAliases_named (target : String) (names : List String) :
    ∀ {r : Registry α}, r.aliases.Named → (r.addAliases target names).2.aliases.Named := by
  induction names with
  | nil => exact fun hnamed => hnamed
  | cons name rest ih =>
      intro r hnamed
      unfold addAliases
      cases haccepted : r.aliases.register name target with
      | error fault => exact hnamed
      | ok aliases => exact ih (hnamed.register haccepted)

/-- Registration and sorting let no alias in that could not be called. -/
theorem Reaches.aliases_named {r next : Registry α} (hreaches : r.Reaches next)
    (hnamed : r.aliases.Named) : next.aliases.Named := by
  induction hreaches with
  | refl => exact hnamed
  | @register mid _ c ih =>
      unfold Registry.register
      split
      · exact ih
      · cases mid.commands.register c with
        | error fault => exact ih
        | ok commands => exact addAliases_named _ _ ih
  | registerAlias _ haccepted ih =>
      obtain ⟨aliases, -, hadded, rfl⟩ := registerAlias_cases haccepted
      exact ih.register hadded
  | @sort mid _ ih =>
      intro entry hentry
      exact ih entry ((mid.aliases.byKey.sort_perm.map Prod.snd).mem_iff.mp hentry)

namespace Sound

variable {r : Registry α}

theorem empty : (∅ : Registry α).Sound where
  commands := .empty _
  aliases := .empty _
  apart := fun _ hcommand => nomatch hcommand
  named := fun _ hcommand => nomatch hcommand

theorem addCommand (hsound : r.Sound) {c : Command α} {commands : CommandTable α}
    (haccepted : r.commands.register c = .ok commands)
    (hfree : r.aliases.contains c.name = false) :
    Sound { r with commands := commands } := by
  obtain ⟨hname, hnew, rfl⟩ := CommandTable.register_cases haccepted
  refine ⟨hsound.commands.insert c hnew, hsound.aliases, ?_, ?_⟩
  · intro name hname
    simp only [CommandTable.contains, Dictionary.contains_insert, Bool.or_eq_true,
      beq_iff_eq] at hname
    rcases hname with hsame | hold
    · rw [AliasTable.contains, hsame]
      exact hfree
    · exact hsound.apart name hold
  · intro command hcommand
    rw [CommandTable.toList, Dictionary.values, Dictionary.entries_insert_of_new c hnew,
      List.map_append, List.mem_append] at hcommand
    rcases hcommand with hold | hadded
    · exact hsound.named command hold
    · obtain rfl : command = c := by simpa using hadded
      exact hname

theorem addAlias (hsound : r.Sound) {name target : String} {aliases : AliasTable}
    (haccepted : r.aliases.register name target = .ok aliases)
    (hfree : r.commands.contains name = false) :
    Sound { r with aliases := aliases } := by
  obtain ⟨-, hnew, rfl⟩ := AliasTable.register_cases haccepted
  refine ⟨hsound.commands, hsound.aliases.insert ⟨name, target⟩ hnew, ?_, hsound.named⟩
  intro other hother
  have hdiffers : fold other ≠ fold name := by
    intro hsame
    rw [CommandTable.contains, hsame] at hother
    exact Bool.eq_false_iff.mp hfree hother
  rw [AliasTable.contains, Dictionary.contains_insert, beq_eq_false_iff_ne.mpr hdiffers]
  exact hsound.apart other hother

theorem addAliases (target : String) (names : List String) :
    ∀ {r : Registry α}, r.Sound → (∀ name ∈ names, r.commands.contains name = false) →
      (r.addAliases target names).2.Sound := by
  induction names with
  | nil => exact fun hsound _ => hsound
  | cons name rest ih =>
      intro r hsound hfree
      obtain ⟨hname, hrest⟩ := List.forall_mem_cons.mp hfree
      unfold Registry.addAliases
      cases haccepted : r.aliases.register name target with
      | error fault => exact hsound
      | ok aliases => exact ih (hsound.addAlias haccepted hname) hrest

theorem register (hsound : r.Sound) (c : Command α) : (r.register c).2.Sound := by
  unfold Registry.register
  split
  · exact hsound
  · next hnone =>
      obtain ⟨-, hfree, hclear⟩ := aliasFault?_eq_none_iff.mp hnone
      cases haccepted : r.commands.register c with
      | error fault => exact hsound
      | ok commands =>
          refine addAliases _ _ (hsound.addCommand haccepted hfree) ?_
          -- The check was made before the command took its name: no alias is that name.
          intro name hname
          obtain ⟨-, -, rfl⟩ := CommandTable.register_cases haccepted
          obtain ⟨-, hold, hdiffers⟩ := aliasCollides_eq_false_iff.mp (hclear name hname)
          rw [CommandTable.contains, Dictionary.contains_insert,
            beq_eq_false_iff_ne.mpr hdiffers]
          exact hold

theorem registerAlias (hsound : r.Sound) {name target : String} {next : Registry α}
    (haccepted : r.registerAlias name target = .ok next) : next.Sound := by
  obtain ⟨aliases, hfree, hadded, rfl⟩ := registerAlias_cases haccepted
  exact hsound.addAlias hadded hfree

theorem sort (hsound : r.Sound) : r.sort.Sound := by
  refine ⟨hsound.commands.sort, hsound.aliases.sort, ?_, ?_⟩
  · intro name hname
    simp only [Registry.sort, CommandTable.sort, AliasTable.sort, CommandTable.contains,
      AliasTable.contains, Dictionary.contains_sort] at hname ⊢
    exact hsound.apart name hname
  · intro command hcommand
    exact hsound.named command ((r.commands.byKey.sort_perm.map Prod.snd).mem_iff.mp hcommand)

theorem reaches (hsound : r.Sound) {next : Registry α} (hreaches : r.Reaches next) :
    next.Sound := by
  induction hreaches with
  | refl => exact hsound
  | register _ c ih => exact ih.register c
  | registerAlias _ haccepted ih => exact ih.registerAlias haccepted
  | sort _ ih => exact ih.sort

/-- The folded names of commands and aliases are distinct. -/
theorem nodup_names (hsound : r.Sound) :
    ((r.commands.names ++ r.aliases.names).map fold).Nodup := by
  have hcommands : r.commands.names.map fold = r.commands.byKey.keys :=
    hsound.commands.keys_eq.symm
  have haliases : r.aliases.names.map fold = r.aliases.byKey.keys :=
    hsound.aliases.keys_eq.symm
  rw [List.map_append, hcommands, haliases, List.nodup_append]
  refine ⟨hsound.commands.nodup, hsound.aliases.nodup, ?_⟩
  rintro key hcommand other halias rfl
  -- A key is the folded form of a name, and no name is in both tables.
  rw [← hcommands, List.mem_map] at hcommand
  obtain ⟨name, hname, rfl⟩ := hcommand
  have hcontains : r.commands.contains name = true := by
    rw [← Bool.not_eq_false, CommandTable.contains, Dictionary.contains_eq_false_iff, not_not,
      ← hcommands]
    exact List.mem_map_of_mem hname
  exact Dictionary.contains_eq_false_iff.mp (hsound.apart name hcontains) halias

/-! ## What names refer to -/

theorem command_eq_some_iff (hsound : r.Sound) {name : String} {command : Command α} :
    r.commands.get? name = some command ↔
      command ∈ r.commands.toList ∧ fold command.name = fold name :=
  hsound.commands.get?_eq_some_iff

theorem alias_eq_some_iff (hsound : r.Sound) {name : String} {entry : Alias} :
    r.aliases.get? name = some entry ↔
      entry ∈ r.aliases.toList ∧ fold entry.name = fold name :=
  hsound.aliases.get?_eq_some_iff

/-- No alias has the name of a command. -/
theorem name_ne (hsound : r.Sound) {command : Command α} {entry : Alias}
    (hcommand : command ∈ r.commands.toList) (hentry : entry ∈ r.aliases.toList) :
    fold command.name ≠ fold entry.name := by
  intro hsame
  have hcontains : r.commands.contains command.name = true :=
    Option.isSome_of_eq_some (hsound.command_eq_some_iff.mpr ⟨hcommand, rfl⟩)
  have hfree := hsound.apart command.name hcontains
  have hfound : r.aliases.get? command.name = some entry :=
    hsound.alias_eq_some_iff.mpr ⟨hentry, hsame.symm⟩
  unfold AliasTable.get? at hfound
  rw [AliasTable.contains, Dictionary.contains, hfound] at hfree
  cases hfree

end Sound

/-- The command that a name refers to: the one of that name up to case or else, if there is
an alias of that name, the one of the name that is the alias's target. -/
def Refers (r : Registry α) (name : String) (command : Command α) : Prop :=
  command ∈ r.commands.toList ∧
    (fold command.name = fold name ∨
      (∀ other ∈ r.commands.toList, fold other.name ≠ fold name) ∧
        ∃ entry ∈ r.aliases.toList,
          fold entry.name = fold name ∧ fold command.name = fold entry.target)

/-- Lookup finds what a name refers to. -/
theorem Sound.get?_eq_some_iff {r : Registry α} (hsound : r.Sound) {name : String}
    {command : Command α} : r.get? name = some command ↔ r.Refers name command := by
  unfold Registry.get? AliasTable.resolve
  split
  · next entry hentry =>
      -- The name is an alias, so it is no command's name.
      obtain ⟨hmember, hname⟩ := hsound.alias_eq_some_iff.mp hentry
      rw [hsound.command_eq_some_iff]
      constructor
      · rintro ⟨hcommand, htarget⟩
        refine ⟨hcommand, Or.inr ⟨?_, entry, hmember, hname, htarget⟩⟩
        intro other hother hsame
        exact hsound.name_ne hother hmember (hsame.trans hname.symm)
      · rintro ⟨hcommand, hsame | ⟨-, found, hfound, hother, htarget⟩⟩
        · exact absurd (hsame.trans hname.symm) (hsound.name_ne hcommand hmember)
        · have hfoundEntry := hsound.alias_eq_some_iff.mpr ⟨hfound, hother⟩
          obtain rfl : entry = found := Option.some.inj (hentry.symm.trans hfoundEntry)
          exact ⟨hcommand, htarget⟩
  · next hnone =>
      rw [hsound.command_eq_some_iff]
      constructor
      · rintro ⟨hcommand, hname⟩
        exact ⟨hcommand, Or.inl hname⟩
      · rintro ⟨hcommand, hname | ⟨-, entry, hentry, hother, -⟩⟩
        · exact ⟨hcommand, hname⟩
        · have hfound := hsound.alias_eq_some_iff.mpr ⟨hentry, hother⟩
          cases hnone.symm.trans hfound

theorem Sound.get?_eq_none_iff {r : Registry α} (hsound : r.Sound) {name : String} :
    r.get? name = none ↔ ∀ command, ¬ r.Refers name command := by
  rw [Option.eq_none_iff_forall_ne_some]
  exact forall_congr' fun command => not_congr hsound.get?_eq_some_iff

/-- What a name refers to does not depend on its case. -/
theorem refers_congr {r : Registry α} {name other : String} (hsame : fold name = fold other)
    (command : Command α) : r.Refers name command ↔ r.Refers other command := by
  unfold Refers
  rw [hsame]

namespace Sound

variable {r : Registry α} {name : String}

theorem refers_unique (hsound : r.Sound) {command other : Command α}
    (hcommand : r.Refers name command) (hother : r.Refers name other) : other = command := by
  have hfound := hsound.get?_eq_some_iff.mpr hcommand
  exact (Option.some.inj (hfound.symm.trans (hsound.get?_eq_some_iff.mpr hother))).symm

/-- The name of a command is not resolved to another name. -/
theorem resolve_eq_self (hsound : r.Sound) {command : Command α}
    (hcommand : command ∈ r.commands.toList) (hname : fold command.name = fold name) :
    r.aliases.resolve name = name := by
  unfold AliasTable.resolve
  split
  · next entry hentry =>
      obtain ⟨hmember, hsame⟩ := hsound.alias_eq_some_iff.mp hentry
      exact absurd (hname.trans hsame.symm) (hsound.name_ne hcommand hmember)
  · rfl

/-- An alias refers to the command that its target names. -/
theorem refers_of_alias (hsound : r.Sound) {entry : Alias} {command : Command α}
    (hentry : entry ∈ r.aliases.toList) (hname : fold entry.name = fold name)
    (hcommand : command ∈ r.commands.toList)
    (htarget : fold command.name = fold entry.target) : r.Refers name command := by
  refine ⟨hcommand, Or.inr ⟨?_, entry, hentry, hname, htarget⟩⟩
  intro other hother hsame
  exact hsound.name_ne hother hentry (hsame.trans hname.symm)

end Sound

end Registry
end DevConsole
