import DevConsole.Console.Dispatch
import DevConsole.Console.Package
import DevConsole.Proofs.Registry.NameSpace
import DevConsole.Proofs.Wait.Transitions

/-!
# Runs of a console

A `Step` is one call that a program makes on its console.  A run is a list of steps,
and `after` is the console that it leads to.  Calls that are refused change nothing.

What a step gives back is left out: a statement about an answer names the operation
itself.  The answers of the checks of the wait are collected by `checks`, since
a tick makes one without giving it back.
-/

namespace DevConsole

/-- A program without code of its own: its consoles run built-in commands only. -/
def Embedding.bare : Embedding := ⟨Empty, Empty, Unit⟩

/-- The host of such a program. -/
def Host.bare : Host .bare where
  call := fun handle => nomatch handle
  ask := fun handle => nomatch handle

namespace Console

variable {E : Embedding}

/-- The console of default settings and without scripts that nothing has been done to. -/
def fresh (world : E.World) : Console E where
  settings := .default
  registry := ∅
  descriptions := ∅
  input := { cap := 128, prompt := "> ", chars := [], cursor := 0 }
  output := { capacity := 100, lines := [], position := -1, following := true }
  history := { capacity := 50, lines := [], position := -1, following := true }
  queue := []
  scheduler := .empty
  source := .ofScripts []
  journal := .empty
  world := world
  enabled := true
  quitRequested := false
  recalling := false
  ticks := 0

/-- The fresh console of a program without code of its own. -/
def bare : Console .bare := fresh ()

/-- One call on a console. -/
inductive Step (E : Embedding) where
  | register (command : Command (Action E))
  | registerAlias (name target : String)
  | registerAll (package : String) (commands : List (Command (Action E)))
  | loadPackage (packages : Packages E) (package : String)
  | sortNames
  | describe (category text : String)
  | writeOutput (text : String)
  | writeHistory (line : String)
  | clearOutput
  | clearHistory
  | scrollOutput (up : Bool)
  | scrollHistory (up : Bool)
  | insert (text : String)
  | backspace
  | delete
  | move (left : Bool)
  | home
  | goToEnd
  | setText (text : String)
  | clearInput
  | complete
  | submit
  | enter (line : String)
  | call (line : String)
  | loadLines (lines : List String) (origin : String)
  | loadScript (name : String)
  | append (line : String)
  | registerCondition (condition : WaitCondition E.Predicate)
  | setWait (mode delay : Int)
  | waitFor (tag : String) (parameter : Int)
  | satisfy (tag : String)
  | check
  | tick
  | abort
  | reset
  | toggle
  | requestQuit

/-- The console after a call that may be refused. -/
def orSame {ε : Type} (c : Console E) : Except ε (Console E) → Console E
  | .ok next => next
  | .error _ => c

@[simp] theorem orSame_error {ε : Type} (c : Console E) (fault : ε) :
    c.orSame (.error fault) = c := rfl

/-- The check with which a tick begins: what it finds, and the console after it. -/
def tickCheck (host : Host E) (c : Console E) : Poll × Console E :=
  poll { c with ticks := c.ticks + 1 } host

namespace Step

/-- The console after one step. -/
def apply (host : Host E) (c : Console E) : Step E → Console E
  | register command => (c.register command).2
  | registerAlias name target => c.orSame (c.registerAlias name target)
  | registerAll package commands => (c.registerAll package 0 commands).2
  | loadPackage packages package => (c.loadPackage packages package).2
  | sortNames => c.sortNames
  | describe category text =>
    { c with descriptions := c.descriptions.insert category text }
  | writeOutput text => c.writeOutput text
  | writeHistory line => c.writeHistory line
  | clearOutput => c.clearOutput
  | clearHistory => c.clearHistory
  | scrollOutput up => (c.scrollOutput up).2
  | scrollHistory up => (c.scrollHistory up).2
  | insert text =>
    match c.input.insertText text with
    | .ok (_, input) => { c with input := input }
    | .error _ => c
  | backspace => (c.edit InputLine.backspace).2
  | delete => (c.edit InputLine.delete).2
  | move left => { c with input := c.input.move left }
  | home => { c with input := c.input.home }
  | goToEnd => { c with input := c.input.goToEnd }
  | setText text => { c with input := c.input.setText text }
  | clearInput => { c with input := c.input.clear }
  | complete => c.complete.2
  | submit => (c.submit host).2
  | enter line => (c.enter host line).2
  | call line => (c.call host line).2
  | loadLines lines origin => (c.loadLines lines origin).2
  | loadScript name => (c.loadScript name).2
  | append line => { c with queue := c.queue ++ [line] }
  | registerCondition condition => c.orSame (c.registerCondition condition)
  | setWait mode delay => c.orSame (c.setWait mode delay)
  | waitFor tag parameter => c.orSame (c.waitFor tag parameter)
  | satisfy tag => (c.satisfy tag).2
  | check => (c.poll host).2
  | tick => (c.tick host).2
  | abort => c.abortScript.2
  | reset => c.reset
  | toggle => c.toggle
  | requestQuit => c.requestQuit

/-- The check of the wait that a step makes, if it makes one. -/
def check? (host : Host E) (c : Console E) : Step E → Option (Poll × Console E)
  | check => some (c.poll host)
  | tick => some (c.tickCheck host)
  | _ => none

end Step

/-- The console after a run. -/
def after (host : Host E) (c : Console E) (steps : List (Step E)) : Console E :=
  steps.foldl (fun c step => step.apply host c) c

/-- The answers of the checks made by a run, in order: whether lines may run. -/
def checks (host : Host E) : Console E → List (Step E) → List Bool
  | _, [] => []
  | c, step :: rest =>
    ((step.check? host c).map (·.1.isRunning)).toList ++ checks host (step.apply host c) rest

/-- Every step of a run has the property `p` in the console in which it is made. -/
def Along (host : Host E) (p : Console E → Step E → Prop) : Console E → List (Step E) → Prop
  | _, [] => True
  | c, step :: rest => p c step ∧ Along host p (step.apply host c) rest

@[simp] theorem after_nil (host : Host E) (c : Console E) : c.after host [] = c := rfl

@[simp] theorem after_cons (host : Host E) (c : Console E) (step : Step E)
    (rest : List (Step E)) :
    c.after host (step :: rest) = (step.apply host c).after host rest := rfl

theorem along_of_forall {host : Host E} {p : Console E → Step E → Prop} {steps : List (Step E)}
    (hall : ∀ step ∈ steps, ∀ c, p c step) : ∀ c : Console E, Along host p c steps := by
  induction steps with
  | nil => exact fun _ => trivial
  | cons step rest ih =>
      intro c
      obtain ⟨hstep, hrest⟩ := List.forall_mem_cons.mp hall
      exact ⟨hstep c, ih hrest _⟩

/-! ## What operations change

Each lemma names the fields that an operation may change; all others stay.
-/

theorem registerAll_changes (package : String) (commands : List (Command (Action E))) :
    ∀ (c : Console E) (registered : Nat), ∃ registry journal,
      c.registry.Reaches registry ∧ (c.registerAll package registered commands).2 =
        { c with registry := registry, journal := journal } := by
  induction commands with
  | nil =>
      intro c registered
      exact ⟨c.registry, c.journal, .refl, rfl⟩
  | cons command rest ih =>
      intro c registered
      unfold registerAll
      have hregister : (c.register (command.withCategory package)).2 =
          { c with registry := (c.registry.register (command.withCategory package)).2 } := rfl
      have hfirst : c.registry.Reaches
          (c.registry.register (command.withCategory package)).2 := .register .refl _
      split
      · next next hresult =>
          rw [hresult] at hregister
          obtain rfl := hregister
          obtain ⟨registry, journal, hreaches, hrest⟩ := ih _ (registered + 1)
          exact ⟨registry, journal, hfirst.trans hreaches, hrest⟩
      · next fault next hresult =>
          rw [hresult] at hregister
          obtain rfl := hregister
          dsimp only
          split
          · obtain ⟨registry, journal, hreaches, hrest⟩ := ih _ registered
            exact ⟨registry, journal, hfirst.trans hreaches, hrest⟩
          · exact ⟨_, _, hfirst, rfl⟩

theorem registerMembers_changes (package : String)
    (members : List (String × PackageTree (Action E))) :
    ∀ (c : Console E) (registered : Nat), ∃ registry journal,
      c.registry.Reaches registry ∧ (c.registerMembers package registered members).2 =
        { c with registry := registry, journal := journal } := by
  induction members with
  | nil =>
      intro c registered
      exact ⟨c.registry, c.journal, .refl, rfl⟩
  | cons member rest ih =>
      intro c registered
      unfold registerMembers
      split
      · exact ⟨c.registry, c.journal, .refl, rfl⟩
      · next commands _ =>
          obtain ⟨registry, journal, hreaches, hmember⟩ :=
            registerAll_changes package commands c registered
          split
          · next registered' next hresult =>
              rw [hresult] at hmember
              obtain rfl := hmember
              obtain ⟨registry', journal', hreaches', hrest⟩ := ih _ registered'
              exact ⟨registry', journal', hreaches.trans hreaches', hrest⟩
          · next fault next hresult =>
              rw [hresult] at hmember
              exact ⟨registry, journal, hreaches, hmember⟩

theorem loadPackage_changes (c : Console E) (packages : Packages E) (package : String) :
    ∃ registry descriptions journal, c.registry.Reaches registry ∧
      (c.loadPackage packages package).2 =
        { c with registry := registry, descriptions := descriptions, journal := journal } := by
  unfold loadPackage
  split
  · exact ⟨c.registry, c.descriptions, c.journal, .refl, rfl⟩
  · next tree _ =>
      obtain ⟨registry, journal, hreaches, hall⟩ :=
        registerMembers_changes package tree.loadedMembers c 0
      split
      · next fault next hresult =>
          rw [hresult] at hall
          exact ⟨registry, c.descriptions, journal, hreaches, hall⟩
      · next count next hresult =>
          rw [hresult] at hall
          obtain rfl := hall
          exact ⟨_, _, _, hreaches.sort, rfl⟩

theorem registerAlias_changes (c : Console E) (name target : String) :
    ∃ registry, c.registry.Reaches registry ∧
      c.orSame (c.registerAlias name target) = { c with registry := registry } := by
  unfold registerAlias
  cases haccepted : c.registry.registerAlias name target with
  | error fault => exact ⟨c.registry, .refl, rfl⟩
  | ok registry => exact ⟨registry, .registerAlias .refl haccepted, rfl⟩

theorem scrollHistory_changes (c : Console E) (up : Bool) :
    ∃ input history recalling, (c.scrollHistory up).2 =
      { c with input := input, history := history, recalling := recalling } ∧
        input.cap = c.input.cap := by
  unfold scrollHistory recallLine
  split
  · exact ⟨_, _, _, rfl, rfl⟩
  split
  · split <;> exact ⟨_, _, _, rfl, rfl⟩
  split
  · exact ⟨_, _, _, rfl, rfl⟩
  · dsimp only
    split <;> exact ⟨_, _, _, rfl, rfl⟩

theorem complete_changes (c : Console E) :
    ∃ input output, c.complete.2 = { c with input := input, output := output } ∧
      input.cap = c.input.cap := by
  unfold complete
  generalize Completion.complete c.registry.commands c.registry.aliases c.input.text = found
  obtain ⟨replacement, candidates⟩ := found
  cases replacement <;> dsimp only <;> split <;> exact ⟨_, _, rfl, rfl⟩

theorem loadScript_changes (c : Console E) (name : String) :
    ∃ queue journal, (c.loadScript name).2 = { c with queue := queue, journal := journal } := by
  unfold loadScript
  split
  · exact ⟨_, _, rfl⟩
  · split <;> exact ⟨_, _, rfl⟩

theorem registerCondition_changes (c : Console E) (condition : WaitCondition E.Predicate) :
    ∃ scheduler, c.orSame (c.registerCondition condition) =
      { c with scheduler := scheduler } := by
  unfold registerCondition
  cases c.scheduler.register condition with
  | error fault => exact ⟨c.scheduler, rfl⟩
  | ok scheduler => exact ⟨scheduler, rfl⟩

/-- An accepted `setWait` is an accepted `arm` of the scheduler, which the journal hears. -/
theorem setWait_changes {c next : Console E} {mode delay : Int}
    (haccepted : c.setWait mode delay = .ok next) :
    ∃ scheduler journal, c.scheduler.arm mode delay = .ok scheduler ∧
      next = { c with scheduler := scheduler, journal := journal } := by
  unfold setWait at haccepted
  cases harm : c.scheduler.arm mode delay with
  | error fault => simp [harm, Except.map] at haccepted
  | ok scheduler =>
      simp only [harm, Except.map, Except.ok.injEq] at haccepted
      refine ⟨scheduler, next.journal, rfl, ?_⟩
      rw [← haccepted]
      split
      · split <;> rfl
      · rfl

/-- An accepted `waitFor` is an accepted `setWait` for the code of the condition. -/
theorem setWait_of_waitFor {c next : Console E} {tag : String} {parameter : Int}
    (haccepted : c.waitFor tag parameter = .ok next) :
    ∃ code, c.scheduler.codeOf tag = .ok code ∧ c.setWait code parameter = .ok next := by
  unfold waitFor at haccepted
  cases hcode : c.scheduler.codeOf tag with
  | error fault =>
      rw [hcode] at haccepted
      cases haccepted
  | ok code =>
      rw [hcode] at haccepted
      exact ⟨code, rfl, haccepted⟩

theorem orSame_setWait_changes (c : Console E) (mode delay : Int) :
    ∃ scheduler journal, c.orSame (c.setWait mode delay) =
      { c with scheduler := scheduler, journal := journal } := by
  cases haccepted : c.setWait mode delay with
  | error fault => exact ⟨c.scheduler, c.journal, rfl⟩
  | ok next =>
      obtain ⟨scheduler, journal, -, hnext⟩ := setWait_changes haccepted
      exact ⟨scheduler, journal, hnext⟩

theorem orSame_waitFor_changes (c : Console E) (tag : String) (parameter : Int) :
    ∃ scheduler journal, c.orSame (c.waitFor tag parameter) =
      { c with scheduler := scheduler, journal := journal } := by
  cases haccepted : c.waitFor tag parameter with
  | error fault => exact ⟨c.scheduler, c.journal, rfl⟩
  | ok next =>
      obtain ⟨code, -, harmed⟩ := setWait_of_waitFor haccepted
      obtain ⟨scheduler, journal, -, hnext⟩ := setWait_changes harmed
      exact ⟨scheduler, journal, hnext⟩

theorem satisfy_changes (c : Console E) (tag : String) :
    ∃ scheduler journal, (c.satisfy tag).2 =
      { c with scheduler := scheduler, journal := journal } := by
  unfold satisfy
  dsimp only
  split <;> exact ⟨_, _, rfl⟩

theorem clearWait_changes (c : Console E) :
    ∃ journal, c.clearWait = { c with scheduler := c.scheduler.clear, journal := journal } := by
  unfold clearWait
  dsimp only
  split <;> exact ⟨_, rfl⟩

theorem abortScript_changes (c : Console E) :
    ∃ journal, c.abortScript.2 =
      { c with queue := [], scheduler := c.scheduler.clear, journal := journal } := by
  obtain ⟨journal, hcleared⟩ := clearWait_changes { c with queue := [] }
  unfold abortScript
  dsimp only
  rw [hcleared]
  split <;> exact ⟨_, rfl⟩

theorem Step.insert_changes (host : Host E) (c : Console E) (text : String) :
    ∃ input, (Step.insert text).apply host c = { c with input := input } ∧
      input.cap = c.input.cap := by
  unfold apply
  dsimp only
  split
  · next moved input hinsert =>
      unfold InputLine.insertText at hinsert
      split at hinsert
      · next ch _ =>
          have hinput : (c.input.insert ch).2 = input :=
            congrArg Prod.snd (Except.ok.inj hinsert)
          exact ⟨input, rfl, by rw [← hinput, InputLine.cap_insert]⟩
      · cases hinsert
  · exact ⟨c.input, rfl, rfl⟩

/-! ## Steps that have nothing to do with waits -/

theorem registerCondition_state (c : Console E) (condition : WaitCondition E.Predicate) :
    (c.orSame (c.registerCondition condition)).scheduler.state = c.scheduler.state := by
  unfold registerCondition
  cases hregister : c.scheduler.register condition with
  | error fault => rfl
  | ok scheduler => exact WaitScheduler.register_state hregister

/-- An accepted `setWait` is an accepted `arm` of the scheduler. -/
theorem arm_of_setWait {c next : Console E} {mode delay : Int}
    (haccepted : c.setWait mode delay = .ok next) :
    c.scheduler.arm mode delay = .ok next.scheduler := by
  obtain ⟨scheduler, journal, harm, rfl⟩ := setWait_changes haccepted
  exact harm

/-- A wait for `delay` ticks is always accepted. -/
theorem setWait_ticks (c : Console E) (delay : Nat) :
    c.setWait 1 delay = .ok
      ({ c with scheduler := { c.scheduler with state := .ticks delay delay } }.report
        (.waitArmed 1 delay none)) := by
  simp only [setWait, WaitScheduler.arm_ticks]
  rfl

/-- A tag that is not waited for changes nothing. -/
theorem satisfy_of_other {c : Console E} {tag : String}
    (hother : ∀ current, c.scheduler.state.tag? = some current →
      Text.fold current ≠ Text.fold tag) :
    c.satisfy tag = (false, c) := by
  unfold satisfy
  rw [WaitScheduler.satisfy_of_other hother]
  rfl

/-- Whether a step may arm, end or advance a wait by what it is. -/
def Step.concernsWait : Step E → Bool
  | .submit | .enter _ | .call _ | .setWait .. | .waitFor .. | .satisfy _ | .check | .tick
  | .abort | .reset => true
  | _ => false

/-- All other steps leave the wait alone. -/
theorem Step.apply_state_of_not_concernsWait (host : Host E) (c : Console E) (step : Step E)
    (hother : step.concernsWait = false) :
    (step.apply host c).scheduler.state = c.scheduler.state := by
  cases step with
  | registerAlias name target =>
      obtain ⟨registry, -, hnext⟩ := registerAlias_changes c name target
      simp only [apply, hnext]
  | registerAll package commands =>
      obtain ⟨registry, journal, -, hnext⟩ := registerAll_changes package commands c 0
      simp only [apply, hnext]
  | loadPackage packages package =>
      obtain ⟨registry, descriptions, journal, -, hnext⟩ :=
        loadPackage_changes c packages package
      simp only [apply, hnext]
  | scrollHistory up =>
      obtain ⟨input, history, recalling, hnext, -⟩ := scrollHistory_changes c up
      simp only [apply, hnext]
  | insert text =>
      obtain ⟨input, hnext, -⟩ := insert_changes host c text
      rw [hnext]
  | complete =>
      obtain ⟨input, output, hnext, -⟩ := complete_changes c
      simp only [apply, hnext]
  | loadScript name =>
      obtain ⟨queue, journal, hnext⟩ := loadScript_changes c name
      simp only [apply, hnext]
  | registerCondition condition => exact registerCondition_state c condition
  | submit | enter | call | setWait | waitFor | satisfy | check | tick | abort | reset =>
      cases hother
  | register | sortNames | describe | writeOutput | writeHistory | clearOutput
  | clearHistory | scrollOutput | backspace | delete | move | home | goToEnd | setText
  | clearInput | loadLines | append | toggle | requestQuit => rfl

end Console
end DevConsole
