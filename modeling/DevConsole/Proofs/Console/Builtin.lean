import DevConsole.Proofs.Console.Containment
import DevConsole.Proofs.Console.Step

/-!
# What built-in commands do to a console

A built-in command changes few fields (`run_changes`).  None touches what the program keeps
for its callbacks (`run_world`), names are registered and sorted only (`run_reaches`), and
only `clearhist` touches the history (`run_history`).  Only `exec` and `abort` touch the
queue, by a call that the program could make itself (`run_of_step`, `run_queue`).  Built-in
commands give back values and results, whose writing cannot fail (`run_answers`).
-/

namespace DevConsole
namespace Builtin

variable {E : Embedding}

/-- The console after `alias` is the console after registering the alias, unless the
target is an alias. -/
theorem runAlias_eq (c : Console E) (name target : String) :
    (runAlias c [name, target]).2 =
      if c.registry.aliases.contains target then c
      else c.orSame (c.registerAlias name target) := by
  simp only [runAlias]
  split
  · rfl
  · cases c.registerAlias name target <;> rfl

theorem runAlias_refused (c : Console E) {args : List String}
    (hargs : ∀ name target, args ≠ [name, target]) : (runAlias c args).2 = c := by
  unfold runAlias
  split
  · exact absurd rfl (hargs _ _)
  · rfl

theorem runAlias_changes (c : Console E) (args : List String) :
    ∃ registry, c.registry.Reaches registry ∧
      (runAlias c args).2 = { c with registry := registry } := by
  by_cases hargs : ∃ name target, args = [name, target]
  · obtain ⟨name, target, rfl⟩ := hargs
    rw [runAlias_eq]
    split
    · exact ⟨c.registry, .refl, rfl⟩
    · exact Console.registerAlias_changes c name target
  · simp only [not_exists] at hargs
    exact ⟨c.registry, .refl, runAlias_refused c hargs⟩

theorem runLogLevel_changes (c : Console E) (args : List String) :
    ∃ journal, (runLogLevel c args).2 = { c with journal := journal } := by
  unfold runLogLevel
  split
  · exact ⟨_, rfl⟩
  · dsimp only
    split <;> exact ⟨_, rfl⟩

/-- The console after `exec` is the console after loading the script. -/
theorem runExec_eq (c : Console E) (name : String) :
    (runExec c [name]).2 = (c.loadScript name).2 := by
  simp only [runExec]
  split
  · next heq => rw [heq]
  · next heq => rw [heq]
  · next heq => rw [heq]

theorem runExec_refused (c : Console E) {args : List String}
    (hargs : ∀ name, args ≠ [name]) : (runExec c args).2 = c := by
  unfold runExec
  split
  · exact absurd rfl (hargs _)
  · rfl

theorem runWait_changes (c : Console E) (args : List String) :
    ∃ scheduler journal, (runWait c args).2 =
      { c with scheduler := scheduler, journal := journal } := by
  unfold runWait
  split
  · split
    · next count _ =>
        cases haccepted : c.setWait 1 count with
        | error fault => exact ⟨c.scheduler, c.journal, rfl⟩
        | ok next =>
            obtain ⟨scheduler, journal, -, hnext⟩ := Console.setWait_changes haccepted
            exact ⟨scheduler, journal, hnext⟩
    · exact ⟨c.scheduler, c.journal, rfl⟩
  · exact ⟨c.scheduler, c.journal, rfl⟩

theorem armCondition_changes (c : Console E) (tag : String) (parameter : Nat) :
    ∃ scheduler journal, (armCondition c tag parameter).2 =
      { c with scheduler := scheduler, journal := journal } := by
  unfold armCondition
  cases haccepted : c.waitFor tag parameter with
  | error fault => cases fault <;> exact ⟨c.scheduler, c.journal, rfl⟩
  | ok next =>
      obtain ⟨code, -, harmed⟩ := Console.setWait_of_waitFor haccepted
      obtain ⟨scheduler, journal, -, hnext⟩ := Console.setWait_changes harmed
      exact ⟨scheduler, journal, hnext⟩

theorem runWaitFor_changes (c : Console E) (args : List String) :
    ∃ scheduler journal, (runWaitFor c args).2 =
      { c with scheduler := scheduler, journal := journal } := by
  unfold runWaitFor
  split
  · exact armCondition_changes c _ _
  · split
    · exact armCondition_changes c _ _
    · exact ⟨c.scheduler, c.journal, rfl⟩
  · exact ⟨c.scheduler, c.journal, rfl⟩

/-- All that a built-in command can do to a console: names are registered and sorted only,
and history and recall are touched by `clearhist` only. -/
theorem run_changes (command : Builtin) (args : List String) (c : Console E) :
    ∃ registry output queue scheduler journal enabled quitRequested,
      c.registry.Reaches registry ∧ (command.run args c).2 =
        { c with
          registry := registry
          output := output
          history := if command = clearhist then c.history.clear else c.history
          recalling := if command = clearhist then false else c.recalling
          queue := queue
          scheduler := scheduler
          journal := journal
          enabled := enabled
          quitRequested := quitRequested } := by
  cases command with
  | defineAlias =>
      obtain ⟨registry, hreaches, hnext⟩ := runAlias_changes c args
      exact ⟨registry, _, _, _, _, _, _, hreaches, hnext⟩
  | loglevel =>
      obtain ⟨journal, hnext⟩ := runLogLevel_changes c args
      exact ⟨c.registry, _, _, _, journal, _, _, .refl, hnext⟩
  | exec =>
      by_cases hargs : ∃ name, args = [name]
      · obtain ⟨name, rfl⟩ := hargs
        obtain ⟨queue, journal, hnext⟩ := Console.loadScript_changes c name
        exact ⟨c.registry, _, queue, _, journal, _, _, .refl, (runExec_eq c name).trans hnext⟩
      · exact ⟨c.registry, _, _, _, _, _, _, .refl,
          runExec_refused c (not_exists.mp hargs)⟩
  | wait =>
      obtain ⟨scheduler, journal, hnext⟩ := runWait_changes c args
      exact ⟨c.registry, _, _, scheduler, journal, _, _, .refl, hnext⟩
  | waitfor =>
      obtain ⟨scheduler, journal, hnext⟩ := runWaitFor_changes c args
      exact ⟨c.registry, _, _, scheduler, journal, _, _, .refl, hnext⟩
  | resume =>
      obtain ⟨journal, hnext⟩ := Console.clearWait_changes c
      exact ⟨c.registry, _, _, _, journal, _, _, .refl, hnext⟩
  | abort =>
      obtain ⟨journal, hnext⟩ := Console.abortScript_changes c
      exact ⟨c.registry, _, _, _, journal, _, _, .refl, hnext⟩
  | cmdlist | aliaslist => exact ⟨c.registry.sort, _, _, _, _, _, _, .sort .refl, rfl⟩
  | help => cases args <;> exact ⟨c.registry, _, _, _, _, _, _, .refl, rfl⟩
  | echo | clear | clearhist | quit | ticks | toggle | queue =>
      exact ⟨c.registry, _, _, _, _, _, _, .refl, rfl⟩

/-- Built-in commands leave the world of the program alone. -/
theorem run_world (command : Builtin) (args : List String) (c : Console E) :
    (command.run args c).2.world = c.world := by
  obtain ⟨registry, output, queue, scheduler, journal, enabled, quitRequested, -, hnext⟩ :=
    run_changes command args c
  rw [hnext]

theorem run_reaches (command : Builtin) (args : List String) (c : Console E) :
    c.registry.Reaches (command.run args c).2.registry := by
  obtain ⟨registry, output, queue, scheduler, journal, enabled, quitRequested, hreaches,
    hnext⟩ := run_changes command args c
  rw [hnext]
  exact hreaches

/-- Only `clearhist` touches the history and ends recall. -/
theorem run_history (command : Builtin) (args : List String) (c : Console E) :
    (command.run args c).2.history = (if command = clearhist then c.history.clear
        else c.history) ∧
      (command.run args c).2.recalling = (if command = clearhist then false
        else c.recalling) := by
  obtain ⟨registry, output, queue, scheduler, journal, enabled, quitRequested, -, hnext⟩ :=
    run_changes command args c
  rw [hnext]
  exact ⟨rfl, rfl⟩

/-- The call that a built-in command makes on the queue, if it makes one. -/
def step? : Builtin → List String → Option (Console.Step E)
  | exec, [name] => some (.loadScript name)
  | abort, _ => some .abort
  | _, _ => none

/-- Such a command changes what the call changes. -/
theorem run_of_step {command : Builtin} {args : List String} {step : Console.Step E}
    (hstep : command.step? args = some step) (host : Host E) (c : Console E) :
    (command.run args c).2 = step.apply host c := by
  unfold step? at hstep
  split at hstep
  · obtain rfl := Option.some.inj hstep
    exact runExec_eq c _
  · obtain rfl := Option.some.inj hstep
    rfl
  · cases hstep

/-- All other built-in commands leave the queue alone. -/
theorem run_queue {command : Builtin} {args : List String}
    (hnone : command.step? (E := E) args = none) (c : Console E) :
    (command.run args c).2.queue = c.queue := by
  cases command with
  | defineAlias =>
      obtain ⟨registry, -, hnext⟩ := runAlias_changes c args
      simp only [run, hnext]
  | loglevel =>
      obtain ⟨journal, hnext⟩ := runLogLevel_changes c args
      simp only [run, hnext]
  | wait =>
      obtain ⟨scheduler, journal, hnext⟩ := runWait_changes c args
      simp only [run, hnext]
  | waitfor =>
      obtain ⟨scheduler, journal, hnext⟩ := runWaitFor_changes c args
      simp only [run, hnext]
  | resume =>
      obtain ⟨journal, hnext⟩ := Console.clearWait_changes c
      simp only [run, hnext]
  | exec =>
      have hargs : ∀ name, args ≠ [name] := by
        rintro name rfl
        cases hnone
      simp only [run, runExec_refused c hargs]
  | abort => cases hnone
  | help => cases args <;> rfl
  | echo | cmdlist | aliaslist | clear | clearhist | quit | ticks | toggle | queue => rfl

/-- What a built-in command gives back is written without fail. -/
theorem run_answers {command : Builtin} {args : List String} {c : Console E} {reply : Reply}
    (hreply : (command.run args c).1 = .ok reply) : reply.failure? = none := by
  have hitems (items : List Value) (failure : Option Failure) :
      (command.run args c).1 ≠ .ok (.items items failure) := by
    cases command with
    | help => cases args <;> simp [run, linesReply]
    | defineAlias =>
        simp only [run, runAlias, refuse, accept]
        split
        · split
          · simp
          · split <;> simp
        · simp
    | loglevel =>
        simp only [run, runLogLevel, refuse, accept]
        split
        · simp
        · split <;> simp
    | exec =>
        simp only [run, runExec, refuse, accept]
        split
        · split <;> simp
        · simp
    | wait =>
        simp only [run, runWait, refuse, silent]
        split
        · split
          · split <;> simp
          · simp
        · simp
    | waitfor =>
        simp only [run, runWaitFor, armCondition, refuse, silent]
        split
        · split <;> simp
        · split
          · split <;> simp
          · simp
        · simp
    | ticks =>
        simp only [run, textReply]
        cases Value.showing [.int c.ticks] s!"{c.ticks} tick(s)" <;>
          simp [Except.map, Except.mapError]
    | queue =>
        simp only [run]
        cases describeQueue c <;> simp [Except.mapError, Except.bind, linesReply]
    | echo | cmdlist | aliaslist | clear | clearhist | quit | toggle | resume | abort =>
        simp [run, silent, linesReply]
  cases reply with
  | value value => rfl
  | result ok message => rfl
  | items items failure => exact absurd hreply (hitems items failure)

end Builtin
end DevConsole
