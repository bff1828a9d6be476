import DevConsole.Console.Help
import DevConsole.Proofs.Console.Step
import DevConsole.Proofs.Registry.Content
import DevConsole.Proofs.Text.Fold

/-!
# The order of registrations

A program gives a console its commands and aliases one after the other, in an order of its
choice.  If all names are words that are different up to case, each registration is accepted
whatever came before it (`Registration.enter_accepted`), and the registry holds what was
registered and nothing else (`registerEach_accepted`).

So two orders end in registries with the same content, and nothing that is asked of the
consoles by name, by completion or in a listing tells the orders apart
(`registration_order_irrelevant`).
-/

namespace DevConsole

open Text (fold)

/-- One registration by a program: a command with its aliases, or an alias by itself. -/
inductive Registration (E : Embedding) where
  | command (c : Command (Action E))
  | aliasOf (name target : String)

variable {E : Embedding}

namespace Registration

/-- The names that a registration takes. -/
def names : Registration E → List String
  | .command c => c.name :: c.aliases
  | .aliasOf name _ => [name]

/-- The command that a registration adds, if any. -/
def commands : Registration E → List (Command (Action E))
  | .command c => [c]
  | .aliasOf .. => []

/-- The aliases that a registration adds. -/
def aliases : Registration E → List Alias
  | .command c => c.aliases.map (⟨·, c.name⟩)
  | .aliasOf name target => [⟨name, target⟩]

/-- Makes a registration at a console. -/
def enter (console : Console E) : Registration E → Except NameFault (Console E)
  | .command c =>
    match console.register c with
    | (.ok (), next) => .ok next
    | (.error fault, _) => .error fault
  | .aliasOf name target => console.registerAlias name target

theorem name_of_mem_commands {item : Registration E} {c : Command (Action E)}
    (hc : c ∈ item.commands) : c.name ∈ item.names := by
  cases item with
  | command command =>
      obtain rfl := List.mem_singleton.mp hc
      exact List.mem_cons_self
  | aliasOf name target => exact absurd hc List.not_mem_nil

theorem name_of_mem_aliases {item : Registration E} {a : Alias} (ha : a ∈ item.aliases) :
    a.name ∈ item.names := by
  cases item with
  | command command =>
      obtain ⟨name, hname, rfl⟩ := List.mem_map.mp ha
      exact List.mem_cons_of_mem _ hname
  | aliasOf name target =>
      obtain rfl := List.mem_singleton.mp ha
      exact List.mem_singleton_self _

end Registration

/-- The registry of a console holds what registrations add, in their order. -/
def Console.HoldsAll (c : Console E) (items : List (Registration E)) : Prop :=
  c.registry.Holds (items.flatMap Registration.commands) (items.flatMap Registration.aliases)

/-- A registration is accepted if its names are valid and new. -/
theorem Registration.enter_accepted {c : Console E} {done : List (Registration E)}
    {item : Registration E} (hsound : c.registry.Sound) (hholds : c.HoldsAll done)
    (hvalid : ∀ name ∈ item.names, isName name = true)
    (hdistinct : (((done ++ [item]).flatMap Registration.names).map fold).Nodup) :
    ∃ next, item.enter c = .ok next ∧ next.registry.Sound ∧ next.HoldsAll (done ++ [item]) := by
  rw [List.flatMap_append, List.flatMap_singleton, List.map_append,
    List.nodup_append] at hdistinct
  obtain ⟨-, hself, hapart⟩ := hdistinct
  have hnew : ∀ name ∈ item.names, ∀ held ∈ done.flatMap Registration.names,
      fold held ≠ fold name := fun name hname held hheld =>
    hapart _ (List.mem_map_of_mem hheld) _ (List.mem_map_of_mem hname)
  have hcommands : ∀ name ∈ item.names, ∀ other ∈ done.flatMap Registration.commands,
      fold other.name ≠ fold name := by
    intro name hname other hother
    obtain ⟨earlier, hearlier, hadded⟩ := List.mem_flatMap.mp hother
    exact hnew name hname _ (List.mem_flatMap.mpr ⟨earlier, hearlier, name_of_mem_commands hadded⟩)
  have haliases : ∀ name ∈ item.names, ∀ other ∈ done.flatMap Registration.aliases,
      fold other.name ≠ fold name := by
    intro name hname other hother
    obtain ⟨earlier, hearlier, hadded⟩ := List.mem_flatMap.mp hother
    exact hnew name hname _ (List.mem_flatMap.mpr ⟨earlier, hearlier, name_of_mem_aliases hadded⟩)
  unfold Console.HoldsAll
  rw [List.flatMap_append, List.flatMap_singleton, List.flatMap_append, List.flatMap_singleton]
  cases item with
  | command command =>
      obtain ⟨registry, hregister, hnext⟩ :=
        hholds.register hvalid hself hcommands haliases
      refine ⟨{ c with registry := registry }, ?_, ?_, hnext⟩
      · simp only [enter, Console.register, hregister]
      · have hkept := hsound.register command
        rw [hregister] at hkept
        exact hkept
  | aliasOf name target =>
      obtain ⟨table, hadded, hnext⟩ := hholds.addAlias target
        (hvalid name List.mem_cons_self) (haliases name List.mem_cons_self)
      have hfree := hholds.contains_command.mpr (hcommands name List.mem_cons_self)
      have haccepted : c.registry.registerAlias name target =
          .ok { c.registry with aliases := table } := by
        simp [Registry.registerAlias, hfree, hadded, Except.map]
      refine ⟨{ c with registry := { c.registry with aliases := table } }, ?_, ?_, ?_⟩
      · simp only [enter, Console.registerAlias, haccepted, Except.map]
      · exact hsound.registerAlias haccepted
      · simpa [Registration.commands, Registration.aliases] using hnext

namespace Console

/-- Makes registrations one after the other, up to the first that is refused. -/
def registerEach (c : Console E) (items : List (Registration E)) :
    Except NameFault (Console E) :=
  items.foldlM Registration.enter c

theorem registerEach_accepted {items : List (Registration E)} :
    ∀ {done : List (Registration E)} {c : Console E}, c.registry.Sound → c.HoldsAll done →
      (∀ item ∈ items, ∀ name ∈ item.names, isName name = true) →
      (((done ++ items).flatMap Registration.names).map fold).Nodup →
      ∃ next, c.registerEach items = .ok next ∧ next.registry.Sound ∧
        next.HoldsAll (done ++ items) := by
  induction items with
  | nil =>
      intro done c hsound hholds _ _
      exact ⟨c, rfl, hsound, by simpa using hholds⟩
  | cons item rest ih =>
      -- The registration is accepted after `done`; the others come after `done ++ [item]`.
      intro done c hsound hholds hvalid hdistinct
      obtain ⟨hitem, hrest⟩ := List.forall_mem_cons.mp hvalid
      rw [List.append_cons] at hdistinct ⊢
      have hfirst : (((done ++ [item]).flatMap Registration.names).map fold).Nodup := by
        rw [List.flatMap_append, List.map_append] at hdistinct
        exact (List.nodup_append.mp hdistinct).1
      obtain ⟨mid, hmid, hmidSound, hmidHolds⟩ :=
        Registration.enter_accepted hsound hholds hitem hfirst
      obtain ⟨next, hnext, hends⟩ := ih hmidSound hmidHolds hrest hdistinct
      refine ⟨next, ?_, hends⟩
      rw [registerEach, List.foldlM_cons, hmid]
      exact hnext

/-- Consoles that hold the same registrations in two orders have registries with the same
content. -/
theorem HoldsAll.sameContent {c other : Console E} {items others : List (Registration E)}
    (hholds : c.HoldsAll items) (hothers : other.HoldsAll others) (hperm : items.Perm others) :
    c.registry.SameContent other.registry where
  commands := by
    rw [hholds.commands, hothers.commands]
    exact (hperm.flatMap_right _).map _
  aliases := by
    rw [hholds.aliases, hothers.aliases]
    exact (hperm.flatMap_right _).map _

theorem listCommands_congr {c other : Console E} (hsort : c.registry.sort = other.registry.sort) :
    c.listCommands.1 = other.listCommands.1 := by
  simp only [listCommands, sortNames, hsort]
  rfl

theorem listAliases_congr {c other : Console E} (hsort : c.registry.sort = other.registry.sort) :
    c.listAliases.1 = other.listAliases.1 := by
  simp only [listAliases, sortNames, hsort]
  rfl

/-- **Registration order does not matter.**  Take commands with their aliases and aliases by
themselves, whose names are words that are different up to case, and two orders of
registering them at a console without names.  Every registration is accepted in both orders.
The two consoles then suggest the same names for every start of a word, complete every line
in the same way, list the same commands and the same aliases, and take every name for the
same command, by itself or through the same target. -/
theorem registration_order_irrelevant {start : Console E} (hempty : start.registry = ∅)
    {items others : List (Registration E)} (hperm : items.Perm others)
    (hwords : ∀ item ∈ items, ∀ name ∈ item.names, Text.IsWord name)
    (hdistinct : ((items.flatMap Registration.names).map fold).Nodup) :
    ∃ c other, start.registerEach items = .ok c ∧ start.registerEach others = .ok other ∧
      (∀ partly, Completion.suggest c.registry.commands c.registry.aliases partly =
        Completion.suggest other.registry.commands other.registry.aliases partly) ∧
      (∀ line, Completion.complete c.registry.commands c.registry.aliases line =
        Completion.complete other.registry.commands other.registry.aliases line) ∧
      c.listCommands.1 = other.listCommands.1 ∧ c.listAliases.1 = other.listAliases.1 ∧
      ∀ name, c.registry.get? name = other.registry.get? name ∧
        c.registry.aliases.resolve name = other.registry.aliases.resolve name := by
  have hvalid : ∀ item ∈ items, ∀ name ∈ item.names, isName name = true :=
    fun item hitem name hname => (isName_iff name).mpr (hwords item hitem name hname)
  have hstart : start.registry.Sound := hempty ▸ .empty
  have hnothing : start.HoldsAll [] := by
    unfold HoldsAll
    rw [hempty]
    exact .empty
  obtain ⟨c, hc, hsound, hholds⟩ := registerEach_accepted hstart hnothing hvalid hdistinct
  have hotherValid : ∀ item ∈ others, ∀ name ∈ item.names, isName name = true :=
    fun item hitem => hvalid item (hperm.mem_iff.mpr hitem)
  have hotherDistinct : ((others.flatMap Registration.names).map fold).Nodup :=
    ((hperm.flatMap_right _).map fold).nodup_iff.mp hdistinct
  obtain ⟨other, hother, hotherSound, hotherHolds⟩ :=
    registerEach_accepted hstart hnothing hotherValid hotherDistinct
  have hsame := hholds.sameContent hotherHolds hperm
  have hsort := hsame.sort_eq hsound
  refine ⟨c, other, hc, hother, hsame.suggest_eq hsound hotherSound,
    hsame.complete_eq hsound hotherSound, listCommands_congr hsort, listAliases_congr hsort,
    fun name => ⟨hsame.get?_eq hsound name, hsame.resolve_eq hsound name⟩⟩

/-- Two commands with aliases, and two aliases by themselves, of which one leads nowhere. -/
def paceTools : List (Registration .bare) :=
  [.command (Builtin.define "" "Pause" "" "" ["w", "ß"] .wait),
    .aliasOf "later" "PAUSE",
    .command (Builtin.define "" "echo" "" "" ["Print"] .echo),
    .aliasOf "lost" "nowhere"]

/-- Backwards, the tables come out in another order, and nothing else changes. -/
theorem registration_order_irrelevant_backwards :
    ∃ c other, bare.registerEach paceTools = .ok c ∧
      bare.registerEach paceTools.reverse = .ok other ∧
      c.registry.aliases.names = ["w", "ß", "later", "Print", "lost"] ∧
      other.registry.aliases.names = ["lost", "Print", "later", "w", "ß"] ∧
      Completion.suggest c.registry.commands c.registry.aliases "P" =
        Completion.suggest other.registry.commands other.registry.aliases "P" ∧
      c.listCommands.1 = other.listCommands.1 ∧ c.listAliases.1 = other.listAliases.1 ∧
      c.registry.aliases.resolve "LATER" = "PAUSE" ∧
      other.registry.aliases.resolve "LATER" = "PAUSE" := by
  have hwords : ∀ item ∈ paceTools, ∀ name ∈ item.names, Text.IsWord name := by
    intro item hitem name hname
    have hnames : ∀ name ∈ paceTools.flatMap Registration.names, isName name = true := by
      decide +kernel
    exact (isName_iff name).mp (hnames name (List.mem_flatMap.mpr ⟨item, hitem, hname⟩))
  have hdistinct : ((paceTools.flatMap Registration.names).map fold).Nodup := by decide +kernel
  have hempty : (bare : Console .bare).registry = ∅ := rfl
  obtain ⟨c, other, hc, hother, hsuggest, -, hcommands, haliases, hnames⟩ :=
    registration_order_irrelevant hempty (List.reverse_perm paceTools).symm hwords hdistinct
  have hforth : (bare.registerEach paceTools).toOption.map (fun c =>
      (c.registry.aliases.names, c.registry.aliases.resolve "LATER")) =
      some (["w", "ß", "later", "Print", "lost"], "PAUSE") := by decide +kernel
  have hback : (bare.registerEach paceTools.reverse).toOption.map (fun c =>
      c.registry.aliases.names) = some ["lost", "Print", "later", "w", "ß"] := by
    decide +kernel
  rw [hc] at hforth
  rw [hother] at hback
  obtain ⟨hfirst, htarget⟩ := Prod.mk.inj (Option.some.inj hforth)
  exact ⟨c, other, hc, hother, hfirst, Option.some.inj hback, hsuggest "P", hcommands, haliases,
    htarget, (hnames "LATER").2 ▸ htarget⟩

end Console
end DevConsole
