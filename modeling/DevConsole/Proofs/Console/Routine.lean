import DevConsole.Proofs.Console.Builtin

/-!
# Callbacks step by step

A host says what a callback does to a console at once.  A `Routine` says it step by
step: the callback makes calls on the console that runs it, looks at the console between
them, and ends by raising or by giving back a reply.  `Code.host` is the host whose
callbacks run routines.

The calls that a routine can make are those that have no line run; `Step.frame` says what
they leave alone.

Two things are excluded by the type.  A routine has no line run while it is run by a line
itself, and what it gives back is not produced while it is written, so that the dispatcher
answers if it can tell what is raised or given back (`Code.entry_answers`).
-/

namespace DevConsole
namespace Console

variable {E : Embedding}

/-- The entry that a step makes, if it has a line run. -/
def Step.entry? : Step E → Option Entry
  | .submit => some .submit
  | .enter line => some (.enter line)
  | .call line => some (.call line)
  | .tick => some .tick
  | _ => none

theorem Step.apply_of_entry {step : Step E} {entry : Entry} (host : Host E) (c : Console E)
    (hentry : step.entry? = some entry) : step.apply host c = (entry.run host c).2 := by
  cases step <;> cases hentry <;> rfl

/-- Whether a step changes the queue, if it has no line run. -/
def Step.concernsQueue : Step E → Bool
  | .loadLines .. | .loadScript _ | .append _ | .abort | .reset => true
  | _ => false

/-- Whether a step changes the history, if it has no line run. -/
def Step.concernsHistory : Step E → Bool
  | .writeHistory _ | .clearHistory | .scrollHistory _ | .reset => true
  | _ => false

/-- What becomes of names, queue, history and recall in a step that has no line run, and of the
number of characters that fit into the input line. -/
structure Step.Frame (c : Console E) (step : Step E) (next : Console E) : Prop where
  registry : c.registry.Reaches next.registry
  queue : step.concernsQueue = false → next.queue = c.queue
  history : step.concernsHistory = false → next.history = c.history
  recalling : step.concernsHistory = false → next.recalling = c.recalling
  cap : next.input.cap = c.input.cap

theorem Step.frame (host : Host E) (c : Console E) {step : Step E}
    (hdirect : step.entry? = none) : step.Frame c (step.apply host c) := by
  have hno : ∀ {p : Prop}, true = false → p := fun habsurd => absurd habsurd (by decide)
  cases step with
  | submit | enter | call | tick => cases hdirect
  | register command =>
      exact ⟨.register .refl command, fun _ => rfl, fun _ => rfl, fun _ => rfl, rfl⟩
  | sortNames => exact ⟨.sort .refl, fun _ => rfl, fun _ => rfl, fun _ => rfl, rfl⟩
  | registerAlias name target =>
      obtain ⟨registry, hreaches, hnext⟩ := registerAlias_changes c name target
      rw [apply, hnext]
      exact ⟨hreaches, fun _ => rfl, fun _ => rfl, fun _ => rfl, rfl⟩
  | registerAll package commands =>
      obtain ⟨registry, journal, hreaches, hnext⟩ := registerAll_changes package commands c 0
      rw [apply, hnext]
      exact ⟨hreaches, fun _ => rfl, fun _ => rfl, fun _ => rfl, rfl⟩
  | loadPackage packages package =>
      obtain ⟨registry, descriptions, journal, hreaches, hnext⟩ :=
        loadPackage_changes c packages package
      rw [apply, hnext]
      exact ⟨hreaches, fun _ => rfl, fun _ => rfl, fun _ => rfl, rfl⟩
  | scrollHistory up =>
      obtain ⟨input, history, recalling, hnext, hcap⟩ := scrollHistory_changes c up
      rw [apply, hnext]
      exact ⟨.refl, fun _ => rfl, hno, hno, hcap⟩
  | insert text =>
      obtain ⟨input, hnext, hcap⟩ := insert_changes host c text
      rw [hnext]
      exact ⟨.refl, fun _ => rfl, fun _ => rfl, fun _ => rfl, hcap⟩
  | complete =>
      obtain ⟨input, output, hnext, hcap⟩ := complete_changes c
      rw [apply, hnext]
      exact ⟨.refl, fun _ => rfl, fun _ => rfl, fun _ => rfl, hcap⟩
  | loadScript name =>
      obtain ⟨queue, journal, hnext⟩ := loadScript_changes c name
      rw [apply, hnext]
      exact ⟨.refl, hno, fun _ => rfl, fun _ => rfl, rfl⟩
  | registerCondition condition =>
      obtain ⟨scheduler, hnext⟩ := registerCondition_changes c condition
      rw [apply, hnext]
      exact ⟨.refl, fun _ => rfl, fun _ => rfl, fun _ => rfl, rfl⟩
  | setWait mode delay =>
      obtain ⟨scheduler, journal, hnext⟩ := orSame_setWait_changes c mode delay
      rw [apply, hnext]
      exact ⟨.refl, fun _ => rfl, fun _ => rfl, fun _ => rfl, rfl⟩
  | waitFor tag parameter =>
      obtain ⟨scheduler, journal, hnext⟩ := orSame_waitFor_changes c tag parameter
      rw [apply, hnext]
      exact ⟨.refl, fun _ => rfl, fun _ => rfl, fun _ => rfl, rfl⟩
  | satisfy tag =>
      obtain ⟨scheduler, journal, hnext⟩ := satisfy_changes c tag
      rw [apply, hnext]
      exact ⟨.refl, fun _ => rfl, fun _ => rfl, fun _ => rfl, rfl⟩
  | check =>
      obtain ⟨journal, hnext⟩ := poll_changes host c
      rw [apply, hnext]
      exact ⟨.refl, fun _ => rfl, fun _ => rfl, fun _ => rfl, rfl⟩
  | abort =>
      obtain ⟨journal, hnext⟩ := abortScript_changes c
      rw [apply, hnext]
      exact ⟨.refl, hno, fun _ => rfl, fun _ => rfl, rfl⟩
  | reset =>
      obtain ⟨journal, hnext⟩ := abortScript_changes c
      rw [apply, Console.reset, hnext]
      exact ⟨.refl, hno, hno, hno, rfl⟩
  | loadLines | append => exact ⟨.refl, hno, fun _ => rfl, fun _ => rfl, rfl⟩
  | writeHistory | clearHistory => exact ⟨.refl, fun _ => rfl, hno, hno, rfl⟩
  | backspace =>
      exact ⟨.refl, fun _ => rfl, fun _ => rfl, fun _ => rfl, c.input.cap_backspace⟩
  | delete => exact ⟨.refl, fun _ => rfl, fun _ => rfl, fun _ => rfl, c.input.cap_delete⟩
  | describe | writeOutput | clearOutput | scrollOutput | move | home
  | goToEnd | setText | clearInput | toggle | requestQuit =>
      exact ⟨.refl, fun _ => rfl, fun _ => rfl, fun _ => rfl, rfl⟩

end Console

open Console (Step Entry Invocation)

/-- What a callback does.  `act` makes a call on the console and goes on with the console
after it; `change` is whatever else the code does to the console, the queue apart. -/
inductive Routine (E : Embedding) where
  | raise (fault : Fault)
  | give (reply : Reply) (ends : reply.failure? = none)
  | act (step : Step E) (direct : step.entry? = none) (next : Console E → Routine E)
  | change (f : Console E → Console E) (keeps : ∀ c, (f c).queue = c.queue)
      (next : Console E → Routine E)

/-- The code of a program: the routines of its callbacks, and what its predicates answer. -/
structure Code (E : Embedding) where
  routine : E.Callback → List String → Console E → Routine E
  ask : E.Predicate → WaitState → E.World → Verdict × E.World

variable {E : Embedding}

/-- A host whose callbacks do nothing.  Calls that have no line run need no other. -/
def Host.asking (ask : E.Predicate → WaitState → E.World → Verdict × E.World) : Host E where
  call := fun _ _ c => (.ok (.value .null), c)
  ask := ask

namespace Routine

/-- What a routine gives back, and the console after it. -/
def run (host : Host E) : Routine E → Console E → Except Fault Reply × Console E
  | raise fault, c => (.error fault, c)
  | give reply _, c => (.ok reply, c)
  | act step _ next, c => (next (step.apply host c)).run host (step.apply host c)
  | change f _ next, c => (next (f c)).run host (f c)

theorem run_answers (host : Host E) (routine : Routine E) :
    ∀ {c : Console E} {reply : Reply}, (routine.run host c).1 = .ok reply →
      reply.failure? = none := by
  induction routine with
  | raise fault =>
      intro c reply hreply
      cases hreply
  | give given ends =>
      intro c reply hreply
      obtain rfl := Except.ok.inj hreply
      exact ends
  | act step direct next ih =>
      intro c reply hreply
      exact ih _ hreply
  | change f keeps next ih =>
      intro c reply hreply
      exact ih _ hreply

end Routine

namespace Code

/-- The host that runs the routines of a code. -/
def host (code : Code E) : Host E where
  call := fun handle args c =>
    (code.routine handle args c).run (Host.asking code.ask) c
  ask := code.ask

/-- No command of such a host fails after it has given something back. -/
theorem late_eq_none (code : Code E) (invocation : Invocation E) :
    invocation.late? code.host = none := by
  unfold Invocation.late? Invocation.outcome Console.outcome
  split
  · next reply hreply =>
      cases haction : invocation.command.action with
      | builtin command =>
          rw [haction] at hreply
          exact Builtin.run_answers hreply
      | callback handle =>
          rw [haction] at hreply
          exact Routine.run_answers _ _ hreply
  · rfl

/-- Every entry of such a host that can tell what it has to returns normally. -/
theorem entry_answers (code : Code E) {c : Console E} {entry : Entry}
    (htold : entry.Told code.host c) : ∃ answered, (entry.run code.host c).1 = .ok answered :=
  Entry.run_answers htold fun invocation _ => code.late_eq_none invocation

end Code
end DevConsole
