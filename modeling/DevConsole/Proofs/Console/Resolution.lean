import DevConsole.Proofs.Console.Names

/-!
# From a line to its command

The first word of a line names a command, by itself or through an alias; the other words
are its arguments.  The registry of a console that has only been called by its program is
sound (`registry_sound`), so the name refers to one command at most, whatever has been
registered, refused or sorted before.

`dispatch_resolves` says what a line then does: it runs the command that its name refers
to, once and with the other words, and runs nothing else.  What is called does not depend
on how the name is spelled, in case or through an alias.
-/

namespace DevConsole

/-- The calls of callbacks that an action makes when it is run with `args`. -/
def Action.calls {E : Embedding} : Action E → List String → List (E.Callback × List String)
  | builtin _, _ => []
  | callback handle, args => [(handle, args)]

/-- The callbacks of the host keep a tally of their calls in its world. -/
def Host.Tallies {E : Embedding} (host : Host E)
    (tally : E.World → List (E.Callback × List String)) : Prop :=
  ∀ handle args (c : Console E),
    tally (host.call handle args c).2.world = tally c.world ++ [(handle, args)]

namespace Console

open Text (fold)

variable {E : Embedding} {host : Host E} {c : Console E} {line name : String}
  {args : List String}

/-! ## What a dispatch calls -/

theorem conclude_world (command : Command (Action E))
    (result : Except Fault Reply × Console E) :
    (conclude command result).2.world = result.2.world := by
  obtain ⟨output, journal, hnext⟩ := conclude_changes command result
  rw [hnext]

/-- A command is run once: a callback tallies one call, a built-in command none. -/
theorem tally_outcome {tally : E.World → List (E.Callback × List String)}
    (htally : host.Tallies tally) (command : Command (Action E)) (args : List String)
    (c : Console E) :
    tally (c.outcome host command args).2.world =
      tally c.world ++ command.action.calls args := by
  unfold outcome
  cases command.action with
  | builtin builtin =>
      rw [invoke, Builtin.run_world, Action.calls, List.append_nil]
      rfl
  | callback handle => exact htally handle args _

theorem call_of_refers (host : Host E) (hsound : c.registry.Sound)
    (hwords : Text.words line = name :: args) {command : Command (Action E)}
    (hrefers : c.registry.Refers name command) :
    c.call host line = conclude command (c.outcome host command args) :=
  call_known hwords (hsound.get?_eq_some_iff.mpr hrefers)

/-- The name of a command, in any case, can be spelled out before the arguments of a line:
folded it is a name, and so it is a word. -/
theorem words_spelled (hsound : c.registry.Sound) (hwords : Text.words line = name :: args)
    {command : Command (Action E)} (hcommand : command ∈ c.registry.commands.toList)
    {target : String} (htarget : fold command.name = fold target) :
    Text.words (Text.join " " (target :: args)) = target :: args := by
  refine Text.words_join (List.forall_mem_cons.mpr ⟨?_, ?_⟩)
  · rw [← isName_iff, ← isName_eq_of_fold_eq htarget]
    exact hsound.named command hcommand
  · intro word hword
    exact Text.isWord_of_mem_words (hwords ▸ List.mem_cons_of_mem _ hword)

/-- A command that gives back nothing writes what its own code writes, and the dispatch
nothing. -/
theorem call_of_quiet (host : Host E) (hsound : c.registry.Sound)
    (hwords : Text.words line = name :: args) {command : Command (Action E)}
    (hrefers : c.registry.Refers name command)
    (hquiet : (c.outcome host command args).1 = .ok (.value .null)) :
    c.call host line = (.ok true, (c.outcome host command args).2) := by
  rw [call_of_refers host hsound hwords hrefers, conclude, hquiet]
  rfl

/-- What the report of a name that is not known says of names that come near to it. -/
def nearHint (c : Console E) (name : String) : String :=
  let near := if c.settings.suggestOnMiss then c.nearNames name else []
  if near.isEmpty then "" else " Did you mean: " ++ Text.join ", " (near.take 5) ++ "?"

/-- The report of a name that is not known: which name, and the alias that led to it. -/
def unknownReport (c : Console E) (name : String) : String :=
  let target := c.registry.aliases.resolve name
  (if target = name then s!"Unknown command: {name}"
    else s!"Unknown command: {target} (via alias '{name}')") ++
    c.nearHint name ++ " " ++ "Type 'help' for a list of commands."

/-- Apart from the report in the output and the journal, a name that is not known changes
nothing. -/
theorem call_of_unknown (host : Host E) (hwords : Text.words line = name :: args)
    (hcommand : c.registry.get? name = none) :
    ∃ journal, c.call host line =
      (.ok false, { c.writeOutput (c.unknownReport name) with journal := journal }) := by
  rw [call_unknown hwords hcommand, reportUnknown]
  unfold unknownReport
  by_cases htarget : c.registry.aliases.resolve name = name
  · simp only [if_pos htarget]
    exact ⟨_, rfl⟩
  · simp only [if_neg htarget]
    exact ⟨_, rfl⟩

/-- **Dispatch resolution.**  Take a console that a program has got by calls that have no
line run, from one without names, and a line whose first word is `name`.  There is at most
one command that the name refers to.  If there is one, the line runs it with the other
words, once, and calls no other callback; what is written then is what the command writes
and what comes of its reply, and of a reply of nothing comes nothing.  Otherwise the line
writes to the output that the command is unknown, changes nothing else but the journal, and
calls no callback.  A command is never hidden by an alias of its name.  The line does what
every line does that spells the name in another case, or that spells out the target of the
alias that the name is. -/
theorem dispatch_resolves (host : Host E) {start : Console E} (hempty : start.registry = ∅)
    {steps : List (Step E)} (hdirect : ∀ step ∈ steps, step.entry? = none)
    {line name : String} {args : List String} (hwords : Text.words line = name :: args) :
    let c := start.after host steps
    (∀ command, c.registry.Refers name command →
      (∀ other, c.registry.Refers name other → other = command) ∧
      c.call host line = conclude command (c.outcome host command args) ∧
      ((c.outcome host command args).1 = .ok (.value .null) →
        c.call host line = (.ok true, (c.outcome host command args).2)) ∧
      (∀ tally, host.Tallies tally →
        tally (c.call host line).2.world = tally c.world ++ command.action.calls args) ∧
      ∀ spelled other, Text.words spelled = other :: args → fold other = fold name →
        c.call host spelled = c.call host line) ∧
    ((∀ command, ¬ c.registry.Refers name command) →
      c.call host line = (.ok false, c.reportUnknown name
        (if c.registry.aliases.resolve name = name then none
          else some (c.registry.aliases.resolve name))) ∧
      (∃ journal, c.call host line =
        (.ok false, { c.writeOutput (c.unknownReport name) with journal := journal })) ∧
      (c.call host line).2.world = c.world) ∧
    ∀ command ∈ c.registry.commands.toList,
      (fold command.name = fold name →
        c.registry.aliases.resolve name = name ∧ c.registry.Refers name command) ∧
      ∀ entry ∈ c.registry.aliases.toList, fold entry.name = fold name →
        fold command.name = fold entry.target →
        c.registry.Refers name command ∧
        Text.words (Text.join " " (entry.target :: args)) = entry.target :: args ∧
        ∀ spelled, Text.words spelled = entry.target :: args →
          c.call host spelled = c.call host line := by
  intro c
  have hsound : c.registry.Sound :=
    after_sound host steps start (by rw [hempty]; exact .empty) hdirect
  refine ⟨?_, ?_, ?_⟩
  · intro command hrefers
    have hcall := call_of_refers host hsound hwords hrefers
    refine ⟨fun other hother => hsound.refers_unique hrefers hother, hcall,
      call_of_quiet host hsound hwords hrefers, ?_, ?_⟩
    · intro tally htally
      rw [hcall, conclude_world, tally_outcome htally]
    · intro spelled other hspelled hsame
      rw [hcall]
      exact call_of_refers host hsound hspelled ((Registry.refers_congr hsame command).mpr hrefers)
  · intro hnone
    have hunknown := hsound.get?_eq_none_iff.mpr hnone
    have hreported := call_of_unknown host hwords hunknown
    refine ⟨call_unknown hwords hunknown, hreported, ?_⟩
    obtain ⟨journal, hcall⟩ := hreported
    rw [hcall]
    rfl
  · intro command hcommand
    refine ⟨?_, ?_⟩
    · intro hname
      exact ⟨hsound.resolve_eq_self hcommand hname, hcommand, Or.inl hname⟩
    · intro entry hentry hname htarget
      have hrefers := hsound.refers_of_alias hentry hname hcommand htarget
      refine ⟨hrefers, words_spelled hsound hwords hcommand htarget, ?_⟩
      intro spelled hspelled
      rw [call_of_refers host hsound hwords hrefers]
      exact call_of_refers host hsound hspelled ⟨hcommand, Or.inl htarget⟩

/-- A program whose callbacks, known by their names, do no more than tally their calls. -/
def tallyingHost : Host ⟨String, Empty, List (String × List String)⟩ where
  call := fun handle args c =>
    (.ok (.value .null), { c with world := c.world ++ [(handle, args)] })
  ask := fun handle => nomatch handle

/-- Registrations of one command and two aliases.  An alias of the command's own name is
refused, and so is the command when it comes again. -/
def talkingSteps : List (Step ⟨String, Empty, List (String × List String)⟩) :=
  let say : Command (Action ⟨String, Empty, List (String × List String)⟩) :=
    { name := "Straße", help := "", usage := "", category := Command.generalCategory,
      aliases := [], origin := "", action := .callback "say" }
  [.register say,
    .registerAlias "Talk" "STRASSE",
    .registerAlias "strasse" "lost",
    .registerAlias "lost" "nowhere",
    .registerAll "pack" [say]]

/-- The console after these registrations. -/
def talkingConsole : Console ⟨String, Empty, List (String × List String)⟩ :=
  (fresh []).after tallyingHost talkingSteps

/-- A command that is called through an alias in another case, and an alias without a
command. -/
theorem dispatch_resolves_through_alias :
    (∃ command, talkingConsole.registry.Refers "tALK" command ∧
        command.action.calls ["a", "b"] = [("say", ["a", "b"])] ∧
        talkingConsole.call tallyingHost " tALK  a b " =
          conclude command (talkingConsole.outcome tallyingHost command ["a", "b"])) ∧
      (talkingConsole.call tallyingHost " tALK  a b ").2.world = [("say", ["a", "b"])] ∧
      (talkingConsole.call tallyingHost " tALK  a b ").2.output.lines = [] ∧
      talkingConsole.call tallyingHost (Text.join " " ["STRASSE", "a", "b"]) =
        talkingConsole.call tallyingHost " tALK  a b " ∧
      (talkingConsole.call tallyingHost "lost a").1 = .ok false ∧
      (talkingConsole.call tallyingHost "lost a").2.output.lines =
        ["Unknown command: nowhere (via alias 'lost') Type 'help' for a list of commands."] ∧
      (talkingConsole.call tallyingHost "lost a").2.world = [] := by
  have hempty : (fresh [] : Console ⟨String, Empty, List (String × List String)⟩).registry = ∅ :=
    rfl
  have hdirect : ∀ step ∈ talkingSteps, step.entry? = none := by
    simp [talkingSteps, Step.entry?]
  have hsound : talkingConsole.registry.Sound := after_sound tallyingHost _ _ .empty hdirect
  have hwords : Text.words " tALK  a b " = ["tALK", "a", "b"] ∧
      Text.words "lost a" = ["lost", "a"] := by decide +kernel
  have hworld : talkingConsole.world = [] := by decide +kernel
  have hfound : (talkingConsole.registry.get? "tALK").map (fun command =>
      (command.name, command.action.calls ["a", "b"])) =
        some ("Straße", [("say", ["a", "b"])]) := by decide +kernel
  have hlost : talkingConsole.registry.get? "lost" = none :=
    Option.isNone_iff_eq_none.mp (by decide +kernel)
  have htalk : (⟨"Talk", "STRASSE"⟩ : Alias) ∈ talkingConsole.registry.aliases.toList := by
    decide +kernel
  have hfolds : fold "Straße" = fold "STRASSE" ∧ fold "Talk" = fold "tALK" := by
    decide +kernel
  obtain ⟨command, hcommand, hsays⟩ := Option.map_eq_some_iff.mp hfound
  obtain ⟨hname, hcalls⟩ := Prod.mk.inj hsays
  have hrefers := hsound.get?_eq_some_iff.mp hcommand
  have htalking : (fresh []).after tallyingHost talkingSteps = talkingConsole := rfl
  have hspoken := dispatch_resolves tallyingHost hempty hdirect hwords.1
  have hmissed := dispatch_resolves tallyingHost hempty hdirect hwords.2
  rw [htalking] at hspoken hmissed
  obtain ⟨hhit, -, haliases⟩ := hspoken
  obtain ⟨-, hmiss, -⟩ := hmissed
  obtain ⟨-, hcall, hquiet, htally, -⟩ := hhit command hrefers
  obtain ⟨-, hspelled, hsame⟩ := (haliases command hrefers.1).2 _ htalk hfolds.2
    (by rw [hname]; exact hfolds.1)
  obtain ⟨-, ⟨journal, hunknown⟩, hkept⟩ := hmiss fun other hother => by
    cases hlost.symm.trans (hsound.get?_eq_some_iff.mpr hother)
  have hsilent : (talkingConsole.outcome tallyingHost command ["a", "b"]).1 =
        .ok (.value .null) ∧
      (talkingConsole.outcome tallyingHost command ["a", "b"]).2.output =
        talkingConsole.output := by
    unfold outcome
    cases haction : command.action with
    | builtin builtin =>
        rw [haction] at hcalls
        cases hcalls
    | callback handle => exact ⟨rfl, rfl⟩
  refine ⟨⟨command, hrefers, hcalls, hcall⟩, ?_, ?_, hsame _ hspelled, ?_, ?_,
    hkept.trans hworld⟩
  · calc
      (talkingConsole.call tallyingHost " tALK  a b ").2.world =
          talkingConsole.world ++ command.action.calls ["a", "b"] :=
        htally id fun _ _ _ => rfl
      _ = [("say", ["a", "b"])] := by rw [hcalls, hworld, List.nil_append]
  · calc
      (talkingConsole.call tallyingHost " tALK  a b ").2.output.lines =
          (talkingConsole.outcome tallyingHost command ["a", "b"]).2.output.lines :=
        congrArg (·.2.output.lines) (hquiet hsilent.1)
      _ = [] := by
        rw [hsilent.2]
        decide +kernel
  · exact congrArg Prod.fst hunknown
  · calc
      (talkingConsole.call tallyingHost "lost a").2.output.lines =
          (talkingConsole.writeOutput (talkingConsole.unknownReport "lost")).output.lines :=
        congrArg (·.2.output.lines) hunknown
      _ = _ := by decide +kernel

end Console
end DevConsole
