import DevConsole.Completion
import DevConsole.Proofs.Registry.Acceptance
import Mathlib.Data.List.Perm.Basic

/-!
# What a registry holds

Two registries have the same content if their tables hold the same entries, each in an order
of its own (`Registry.SameContent`).  What is asked of a sound registry depends on its
content only: what a name stands for, because the keys of the tables are distinct, and every
listing, because it is sorted by those keys (`mergeSort_eq_of_perm`).

Commands and aliases that are accepted one after the other are held as they came
(`Registry.Holds`), and they are accepted if their names are valid and different up to case
from each other and from all names before them (`Registry.Holds.register`,
`Registry.Holds.addAlias`).
-/

namespace DevConsole

open Text (fold)

/-! ## Sorting by distinct keys -/

/-- Sorting by keys puts them in order. -/
theorem pairwise_mergeSort_key {β : Type} (key : β → String) (xs : List β) :
    (xs.mergeSort fun a b => decide (key a ≤ key b)).Pairwise fun a b => key a ≤ key b := by
  have hsorted : (xs.mergeSort fun a b => decide (key a ≤ key b)).Pairwise
      fun a b => decide (key a ≤ key b) = true := by
    refine List.pairwise_mergeSort ?_ ?_ xs
    · intro a b c hab hbc
      exact decide_eq_true (String.le_trans (of_decide_eq_true hab) (of_decide_eq_true hbc))
    · intro a b
      simpa using String.le_total (key a) (key b)
  exact hsorted.imp of_decide_eq_true

/-- Sorting by distinct keys puts them in strict order. -/
theorem pairwise_lt_mergeSort_key {β : Type} (key : β → String) {xs : List β}
    (hdistinct : (xs.map key).Nodup) :
    (xs.mergeSort fun a b => decide (key a ≤ key b)).Pairwise fun a b => key a < key b := by
  have hdiffer : (xs.mergeSort fun a b => decide (key a ≤ key b)).Pairwise
      fun a b => key a ≠ key b :=
    List.pairwise_map.mp (((List.mergeSort_perm xs _).map key).nodup_iff.mpr hdistinct)
  refine ((pairwise_mergeSort_key key xs).and hdiffer).imp ?_
  rintro a b ⟨hle, hne⟩
  exact String.not_le.mp fun hge => hne (String.le_antisymm hle hge)

/-- Lists that differ in their order only, with distinct keys, are the same list once they
are sorted by these keys. -/
theorem mergeSort_eq_of_perm {β : Type} (key : β → String) {xs ys : List β}
    (hperm : xs.Perm ys) (hdistinct : (xs.map key).Nodup) :
    (xs.mergeSort fun a b => decide (key a ≤ key b)) =
      ys.mergeSort fun a b => decide (key a ≤ key b) := by
  refine List.Perm.eq_of_pairwise ?_ (pairwise_mergeSort_key key xs)
    (pairwise_mergeSort_key key ys)
    (((List.mergeSort_perm xs _).trans hperm).trans (List.mergeSort_perm ys _).symm)
  intro a b ha hb hab hba
  -- Equal keys belong to one entry, so the order by keys is antisymmetric on the lists.
  have hkey : key a = key b := String.le_antisymm hab hba
  exact List.inj_on_of_nodup_map hdistinct (List.mem_mergeSort.mp ha)
    (hperm.mem_iff.mpr (List.mem_mergeSort.mp hb)) hkey

theorem Dictionary.sort_eq_of_perm {α : Type} {d other : Dictionary α}
    (hperm : d.entries.Perm other.entries) (hdistinct : d.keys.Nodup) : d.sort = other.sort :=
  congrArg Dictionary.mk (mergeSort_eq_of_perm Prod.fst hperm hdistinct)

theorem Dictionary.get?_eq_of_perm {α : Type} {d other : Dictionary α}
    (hperm : d.entries.Perm other.entries) (hdistinct : d.keys.Nodup) (key : String) :
    d.get? key = other.get? key := by
  have hother : other.keys.Nodup := (hperm.map Prod.fst).nodup_iff.mp hdistinct
  ext value
  rw [Dictionary.get?_eq_some_iff hdistinct, Dictionary.get?_eq_some_iff hother, hperm.mem_iff]

/-! ## Completion of distinct names -/

/-- Words that are different up to case are all kept. -/
theorem Completion.distinct_eq_self {words : List String} :
    ∀ {seen : List String}, (words.map fold).Nodup → (∀ word ∈ words, fold word ∉ seen) →
      Completion.distinct seen words = words := by
  induction words with
  | nil => exact fun _ _ => rfl
  | cons word rest ih =>
      intro seen hdistinct hnew
      obtain ⟨hfirst, hrest⟩ := List.nodup_cons.mp hdistinct
      obtain ⟨hword, hothers⟩ := List.forall_mem_cons.mp hnew
      rw [Completion.distinct, if_neg (by simpa using hword)]
      refine congrArg (word :: ·) (ih hrest ?_)
      intro other hother
      rw [List.mem_cons, not_or]
      refine ⟨?_, hothers other hother⟩
      intro hsame
      exact hfirst (hsame ▸ List.mem_map_of_mem hother)

namespace Registry

variable {α : Type}

/-! ## Registries with the same content -/

/-- Two registries hold the same commands and aliases under the same keys, in orders of
their own. -/
structure SameContent (r other : Registry α) : Prop where
  commands : r.commands.byKey.entries.Perm other.commands.byKey.entries
  aliases : r.aliases.byKey.entries.Perm other.aliases.byKey.entries

namespace SameContent

variable {r other : Registry α}

theorem command_eq (hsame : r.SameContent other) (hsound : r.Sound) (name : String) :
    r.commands.get? name = other.commands.get? name :=
  Dictionary.get?_eq_of_perm hsame.commands hsound.commands.nodup _

theorem resolve_eq (hsame : r.SameContent other) (hsound : r.Sound) (name : String) :
    r.aliases.resolve name = other.aliases.resolve name := by
  have halias : r.aliases.get? name = other.aliases.get? name :=
    Dictionary.get?_eq_of_perm hsame.aliases hsound.aliases.nodup _
  unfold AliasTable.resolve
  rw [halias]

theorem get?_eq (hsame : r.SameContent other) (hsound : r.Sound) (name : String) :
    r.get? name = other.get? name := by
  unfold Registry.get?
  rw [hsame.resolve_eq hsound, hsame.command_eq hsound]

theorem sort_eq (hsame : r.SameContent other) (hsound : r.Sound) : r.sort = other.sort := by
  unfold Registry.sort CommandTable.sort AliasTable.sort
  rw [Dictionary.sort_eq_of_perm hsame.commands hsound.commands.nodup,
    Dictionary.sort_eq_of_perm hsame.aliases hsound.aliases.nodup]

theorem names_perm (hsame : r.SameContent other) :
    (r.commands.names ++ r.aliases.names).Perm
      (other.commands.names ++ other.aliases.names) :=
  ((hsame.commands.map Prod.snd).map Command.name).append
    ((hsame.aliases.map Prod.snd).map Alias.name)

theorem suggest_eq (hsame : r.SameContent other) (hsound : r.Sound) (hother : other.Sound)
    (start : String) :
    Completion.suggest r.commands r.aliases start =
      Completion.suggest other.commands other.aliases start := by
  have hkept : ∀ {reg : Registry α}, reg.Sound →
      (((reg.commands.names ++ reg.aliases.names).filter fun word =>
        Text.startsWith (fold word) (fold start)).map fold).Nodup := by
    intro reg hreg
    exact hreg.nodup_names.sublist (List.filter_sublist.map fold)
  simp only [Completion.suggest, Completion.sortByFold]
  -- Names of commands and aliases are different up to case, so no word is left out.
  rw [Completion.distinct_eq_self (hkept hsound) fun _ _ => List.not_mem_nil,
    Completion.distinct_eq_self (hkept hother) fun _ _ => List.not_mem_nil]
  exact mergeSort_eq_of_perm fold (hsame.names_perm.filter _) (hkept hsound)

theorem complete_eq (hsame : r.SameContent other) (hsound : r.Sound) (hother : other.Sound)
    (line : String) :
    Completion.complete r.commands r.aliases line =
      Completion.complete other.commands other.aliases line := by
  simp only [Completion.complete, hsame.suggest_eq hsound hother]

end SameContent

/-! ## What accepted registrations leave -/

/-- A registry holds commands and aliases in the order in which they are listed. -/
structure Holds (r : Registry α) (commands : List (Command α)) (aliases : List Alias) :
    Prop where
  commands : r.commands.byKey.entries = commands.map fun c => (fold c.name, c)
  aliases : r.aliases.byKey.entries = aliases.map fun a => (fold a.name, a)

namespace Holds

variable {r : Registry α} {commands : List (Command α)} {aliases : List Alias}

theorem empty : (∅ : Registry α).Holds [] [] :=
  ⟨rfl, rfl⟩

theorem contains_command (hholds : r.Holds commands aliases) {name : String} :
    r.commands.contains name = false ↔ ∀ c ∈ commands, fold c.name ≠ fold name := by
  rw [CommandTable.contains, Dictionary.contains_eq_false_iff, Dictionary.keys, hholds.commands]
  simp

theorem contains_alias (hholds : r.Holds commands aliases) {name : String} :
    r.aliases.contains name = false ↔ ∀ a ∈ aliases, fold a.name ≠ fold name := by
  rw [AliasTable.contains, Dictionary.contains_eq_false_iff, Dictionary.keys, hholds.aliases]
  simp

theorem addAlias (hholds : r.Holds commands aliases) {name : String} (target : String)
    (hname : isName name = true) (hnew : ∀ other ∈ aliases, fold other.name ≠ fold name) :
    ∃ table, r.aliases.register name target = .ok table ∧
      Holds { r with aliases := table } commands (aliases ++ [⟨name, target⟩]) := by
  refine ⟨_, AliasTable.register_of_new target hname (hholds.contains_alias.mpr hnew),
    hholds.commands, ?_⟩
  simp [hholds.aliases]

/-- A command is accepted with its aliases if all their names are valid and new. -/
theorem register (hholds : r.Holds commands aliases) {c : Command α}
    (hvalid : ∀ name ∈ c.name :: c.aliases, isName name = true)
    (hdistinct : ((c.name :: c.aliases).map fold).Nodup)
    (hcommands : ∀ name ∈ c.name :: c.aliases, ∀ other ∈ commands, fold other.name ≠ fold name)
    (haliases : ∀ name ∈ c.name :: c.aliases, ∀ other ∈ aliases, fold other.name ≠ fold name) :
    ∃ next, r.register c = (.ok (), next) ∧
      next.Holds (commands ++ [c]) (aliases ++ c.aliases.map (⟨·, c.name⟩)) := by
  have hadmits : r.Admits c := ⟨hvalid, hdistinct, fun name hname =>
    ⟨hholds.contains_command.mpr (hcommands name hname),
      hholds.contains_alias.mpr (haliases name hname)⟩⟩
  refine ⟨r.extended c, register_of_admits hadmits, ?_, ?_⟩
  · simp [extended, hholds.commands]
  · simp [extended, hholds.aliases]

end Holds

end Registry

end DevConsole
