import DevConsole.Proofs.Registry.NameSpace

/-!
# Which registrations are accepted

A registry has room for a command if the names of the command and its aliases are valid,
different up to case, and new in both tables (`Registry.Admits`).  That is what the checks of
`Registry.register` amount to (`Registry.admits_iff`), though they are made in two loops and
by two tables.  A command that there is room for goes in with all its aliases
(`Registry.register_of_admits`): the aliases are added one after the other, and what makes one
of them unacceptable has been looked for before (`Registry.addAliases_of_new`).  Any other
command is refused and nothing changes (`Registry.register_of_not_admits`).
-/

namespace DevConsole

open Text (fold)

variable {α : Type}

/-! ## The tables -/

theorem CommandTable.register_of_new {table : CommandTable α} {c : Command α}
    (hname : isName c.name = true) (hnew : table.contains c.name = false) :
    table.register c = .ok ⟨⟨table.byKey.entries ++ [(fold c.name, c)]⟩⟩ := by
  have hentries := Dictionary.entries_insert_of_new c hnew
  simp [CommandTable.register, hname, hnew, ← hentries]

theorem AliasTable.register_of_new {table : AliasTable} {name : String} (target : String)
    (hname : isName name = true) (hnew : table.contains name = false) :
    table.register name target = .ok ⟨⟨table.byKey.entries ++ [(fold name, ⟨name, target⟩)]⟩⟩ := by
  have hentries := Dictionary.entries_insert_of_new (⟨name, target⟩ : Alias) hnew
  simp [AliasTable.register, hname, hnew, ← hentries]

namespace Registry

variable {r : Registry α} {c : Command α}

/-! ## The checks -/

/-- The names of a command and its aliases can be taken: they are valid, different up to
case, and new in both tables. -/
structure Admits (r : Registry α) (c : Command α) : Prop where
  valid : ∀ name ∈ c.name :: c.aliases, isName name = true
  distinct : ((c.name :: c.aliases).map fold).Nodup
  new : ∀ name ∈ c.name :: c.aliases,
    r.commands.contains name = false ∧ r.aliases.contains name = false

/-- A list of aliases has nothing wrong with it if its names are valid and different up to
case, from each other and from those before. -/
theorem aliasListFault?_eq_none_iff {command : String} {seen names : List String} :
    aliasListFault? command seen names = none ↔
      (∀ name ∈ names, isName name = true) ∧ (names.map fold).Nodup ∧
        ∀ name ∈ names, fold name ∉ seen := by
  induction names generalizing seen with
  | nil => simp [aliasListFault?]
  | cons name rest ih =>
      by_cases hname : isName name = true
      · by_cases hseen : fold name ∈ seen
        · simp [aliasListFault?, hname, hseen]
        · -- What comes later must differ from `name` too: it has been seen then.
          simp only [aliasListFault?, hname, hseen, Bool.not_true, Bool.false_eq_true, if_false,
            List.contains_eq_mem, decide_false, ih, List.mem_cons, not_or, forall_eq_or_imp,
            List.map_cons, List.nodup_cons, List.mem_map, not_exists, not_and, true_and,
            not_false_eq_true]
          constructor
          · rintro ⟨hvalid, hdistinct, hnew⟩
            exact ⟨hvalid, ⟨fun other hother => (hnew other hother).1, hdistinct⟩,
              fun other hother => (hnew other hother).2⟩
          · rintro ⟨hvalid, ⟨hfirst, hdistinct⟩, hnew⟩
            exact ⟨hvalid, hdistinct, fun other hother =>
              ⟨hfirst other hother, hnew other hother⟩⟩
      · simp [aliasListFault?, hname]

/-- All checks together: those of the aliases, and those of the table of commands. -/
theorem admits_iff :
    r.Admits c ↔ r.aliasFault? c = none ∧ isName c.name = true ∧
      r.commands.contains c.name = false := by
  rw [aliasFault?_eq_none_iff, aliasListFault?_eq_none_iff]
  simp only [aliasCollides_eq_false_iff]
  constructor
  · rintro ⟨hvalid, hdistinct, hnew⟩
    obtain ⟨hname, hvalid⟩ := List.forall_mem_cons.mp hvalid
    obtain ⟨hself, hdistinct⟩ := List.nodup_cons.mp hdistinct
    obtain ⟨hfree, hnew⟩ := List.forall_mem_cons.mp hnew
    refine ⟨⟨⟨hvalid, hdistinct, fun _ _ => List.not_mem_nil⟩, hfree.2, ?_⟩, hname, hfree.1⟩
    intro name hmember
    refine ⟨(hnew name hmember).2, (hnew name hmember).1, ?_⟩
    intro hsame
    exact hself (List.mem_map.mpr ⟨name, hmember, hsame⟩)
  · rintro ⟨⟨⟨hvalid, hdistinct, -⟩, hfree, hclear⟩, hname, hnew⟩
    refine ⟨List.forall_mem_cons.mpr ⟨hname, hvalid⟩, List.nodup_cons.mpr ⟨?_, hdistinct⟩,
      List.forall_mem_cons.mpr ⟨⟨hnew, hfree⟩, ?_⟩⟩
    · rw [List.mem_map]
      rintro ⟨name, hmember, hsame⟩
      exact (hclear name hmember).2.2 hsame
    · intro name hmember
      exact ⟨(hclear name hmember).2.1, (hclear name hmember).1⟩

/-- The table of commands checks what the check of the aliases leaves to it. -/
theorem admits_of_checked {commands : CommandTable α} (hchecked : r.aliasFault? c = none)
    (hregister : r.commands.register c = .ok commands) : r.Admits c := by
  obtain ⟨hname, hnew, -⟩ := CommandTable.register_cases hregister
  exact admits_iff.mpr ⟨hchecked, hname, hnew⟩

/-! ## What goes in -/

/-- A registry with a command and its aliases at the ends of its tables. -/
def extended (r : Registry α) (c : Command α) : Registry α where
  commands := ⟨⟨r.commands.byKey.entries ++ [(fold c.name, c)]⟩⟩
  aliases := ⟨⟨r.aliases.byKey.entries ++ c.aliases.map fun name => (fold name, ⟨name, c.name⟩)⟩⟩

/-- Valid names that are different up to case and new all become aliases. -/
theorem addAliases_of_new (target : String) {names : List String} :
    ∀ {r : Registry α}, (∀ name ∈ names, isName name = true) → (names.map fold).Nodup →
      (∀ name ∈ names, r.aliases.contains name = false) →
      r.addAliases target names = (.ok (),
        { r with
          aliases := ⟨⟨r.aliases.byKey.entries ++
            names.map fun name => (fold name, ⟨name, target⟩)⟩⟩ }) := by
  induction names with
  | nil =>
      intro r _ _ _
      simp [addAliases]
  | cons name rest ih =>
      intro r hvalid hdistinct hnew
      obtain ⟨hname, hvalid⟩ := List.forall_mem_cons.mp hvalid
      obtain ⟨hself, hdistinct⟩ := List.nodup_cons.mp hdistinct
      obtain ⟨hfree, hnew⟩ := List.forall_mem_cons.mp hnew
      rw [addAliases, AliasTable.register_of_new target hname hfree]
      dsimp only
      rw [ih hvalid hdistinct ?_]
      · simp
      · -- The names to come are new to the longer table as well.
        intro other hother
        have hdiffers : fold other ≠ fold name := fun hsame =>
          hself (List.mem_map.mpr ⟨other, hother, hsame⟩)
        have hold := hnew other hother
        rw [AliasTable.contains, Dictionary.contains_eq_false_iff, Dictionary.keys] at hold ⊢
        simpa [hdiffers] using hold

/-- There is room for the aliases still when the command has gone in. -/
theorem Admits.addAliases (hadmits : r.Admits c) (commands : CommandTable α) :
    addAliases { r with commands := commands } c.name c.aliases =
      (.ok (), { r.extended c with commands := commands }) := by
  obtain ⟨-, hvalid⟩ := List.forall_mem_cons.mp hadmits.valid
  obtain ⟨-, hdistinct⟩ := List.nodup_cons.mp hadmits.distinct
  obtain ⟨-, hnew⟩ := List.forall_mem_cons.mp hadmits.new
  exact addAliases_of_new c.name hvalid hdistinct fun name hname => (hnew name hname).2

/-- A command that there is room for goes in with its aliases. -/
theorem register_of_admits (hadmits : r.Admits c) : r.register c = (.ok (), r.extended c) := by
  obtain ⟨hchecked, hname, hnew⟩ := admits_iff.mp hadmits
  unfold register
  rw [hchecked, CommandTable.register_of_new hname hnew]
  exact hadmits.addAliases _

/-! ## What is refused -/

/-- Why a command can be refused.  The fault names the command or one of its aliases, and it
never comes from the table of aliases: that one is written to last. -/
inductive Refusal (c : Command α) : NameFault → Prop where
  | invalidAlias {name : String} (member : name ∈ c.aliases) (invalid : isName name = false) :
      Refusal c (.invalidAlias name)
  | aliasListedTwice {name : String} (member : name ∈ c.aliases) :
      Refusal c (.aliasListedTwice name c.name)
  | commandIsAlias : Refusal c (.commandIsAlias c.name)
  | aliasCollides {name : String} (member : name ∈ c.aliases) :
      Refusal c (.aliasCollides name c.name)
  | invalidCommand (invalid : isName c.name = false) : Refusal c (.invalidCommand c.name)
  | commandTaken : Refusal c (.commandTaken c.name)

theorem Refusal.kind {fault : NameFault} (hrefusal : Refusal c fault) :
    fault.kind = "DuplicateNameError" ∨ fault.kind = "ValueError" := by
  cases hrefusal with
  | invalidAlias | invalidCommand => exact .inr rfl
  | aliasListedTwice | commandIsAlias | aliasCollides | commandTaken => exact .inl rfl

/-- Valid names are refused only because they are in use. -/
theorem Refusal.isDuplicate {fault : NameFault} (hrefusal : Refusal c fault)
    (hvalid : ∀ name ∈ c.name :: c.aliases, isName name = true) : fault.isDuplicate = true := by
  cases hrefusal with
  | invalidAlias member invalid =>
      cases invalid.symm.trans (hvalid _ (List.mem_cons_of_mem _ member))
  | invalidCommand invalid => cases invalid.symm.trans (hvalid _ List.mem_cons_self)
  | aliasListedTwice | commandIsAlias | aliasCollides | commandTaken => rfl

theorem refusal_of_aliasListFault? {seen names : List String} {fault : NameFault}
    (hmembers : ∀ name ∈ names, name ∈ c.aliases)
    (hfault : aliasListFault? c.name seen names = some fault) : Refusal c fault := by
  induction names generalizing seen with
  | nil => cases hfault
  | cons name rest ih =>
      obtain ⟨hname, hrest⟩ := List.forall_mem_cons.mp hmembers
      unfold aliasListFault? at hfault
      split at hfault
      · next hinvalid =>
          obtain rfl := Option.some.inj hfault
          exact .invalidAlias hname (by simpa using hinvalid)
      split at hfault
      · obtain rfl := Option.some.inj hfault
        exact .aliasListedTwice hname
      · exact ih hrest hfault

theorem refusal_of_aliasFault? {fault : NameFault} (hfault : r.aliasFault? c = some fault) :
    Refusal c fault := by
  unfold aliasFault? at hfault
  split at hfault
  · next hlist =>
      obtain rfl := Option.some.inj hfault
      exact refusal_of_aliasListFault? (fun _ hname => hname) hlist
  split at hfault
  · obtain rfl := Option.some.inj hfault
    exact .commandIsAlias
  · obtain ⟨name, hfound, rfl⟩ := Option.map_eq_some_iff.mp hfault
    exact .aliasCollides (List.mem_of_find?_eq_some hfound)

theorem refusal_of_register {table : CommandTable α} {fault : NameFault}
    (hfault : table.register c = .error fault) : Refusal c fault := by
  unfold CommandTable.register at hfault
  split at hfault
  · next hinvalid =>
      obtain rfl := Except.error.inj hfault
      exact .invalidCommand (by simpa using hinvalid)
  split at hfault
  · obtain rfl := Except.error.inj hfault
    exact .commandTaken
  · cases hfault

/-- A command that there is no room for changes nothing. -/
theorem register_of_not_admits (hadmits : ¬ r.Admits c) :
    ∃ fault, Refusal c fault ∧ r.register c = (.error fault, r) := by
  unfold register
  cases hchecked : r.aliasFault? c with
  | some fault => exact ⟨fault, refusal_of_aliasFault? hchecked, rfl⟩
  | none =>
      cases hregister : r.commands.register c with
      | error fault => exact ⟨fault, refusal_of_register hregister, rfl⟩
      | ok commands => exact absurd (admits_of_checked hchecked hregister) hadmits

end Registry
end DevConsole
