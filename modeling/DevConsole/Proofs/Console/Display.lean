import DevConsole.Proofs.Console.Builtin
import DevConsole.Proofs.InputLine.Zipper

/-!
# Output and input line of a running console

A terminal shows the output and the input line.  What the operations of a console do to these
two is written down once (`Console.DisplayReaches`), and everything that is called on a console
does no more, whatever lines are run (`Console.after_displayReaches`).  So what holds of an
unused console and is kept by these few operations holds of every console.

Texts come into the output through `writeOutput` only: the reports of the dispatcher and the
replies of commands, and the candidates of a completion.  Only `clear` and a reset drop it.
-/

namespace DevConsole

/-- Only `clear` touches the output by itself.  What a built-in command gives back is written
afterwards. -/
theorem Builtin.run_output {E : Embedding} (command : Builtin) (args : List String)
    (c : Console E) :
    (command.run args c).2.output = if command = clear then c.output.clear else c.output := by
  cases command with
  | defineAlias =>
      obtain ⟨registry, -, hnext⟩ := runAlias_changes c args
      simp [run, hnext]
  | loglevel =>
      obtain ⟨journal, hnext⟩ := runLogLevel_changes c args
      simp [run, hnext]
  | exec =>
      by_cases hargs : ∃ name, args = [name]
      · obtain ⟨name, rfl⟩ := hargs
        obtain ⟨queue, journal, hnext⟩ := Console.loadScript_changes c name
        simp [run, runExec_eq, hnext]
      · simp [run, runExec_refused c (not_exists.mp hargs)]
  | wait =>
      obtain ⟨scheduler, journal, hnext⟩ := runWait_changes c args
      simp [run, hnext]
  | waitfor =>
      obtain ⟨scheduler, journal, hnext⟩ := runWaitFor_changes c args
      simp [run, hnext]
  | resume =>
      obtain ⟨journal, hnext⟩ := Console.clearWait_changes c
      simp [run, hnext]
  | abort =>
      obtain ⟨journal, hnext⟩ := Console.abortScript_changes c
      simp [run, hnext]
  | help => cases args <;> rfl
  | echo | cmdlist | aliaslist | clear | clearhist | quit | ticks | toggle | queue => rfl

namespace Console

variable {E : Embedding} {host : Host E} {c next : Console E}

/-! ## What happens to output and input line -/

/-- Output and input line are as before. -/
structure SameDisplay (c next : Console E) : Prop where
  output : next.output = c.output
  input : next.input = c.input

/-- The console `next` comes from `c` by what the operations of a console do to output and
input line. -/
inductive DisplayReaches (c : Console E) : Console E → Prop where
  | refl : DisplayReaches c c
  | same {mid next : Console E} (before : DisplayReaches c mid) (hsame : SameDisplay mid next) :
      DisplayReaches c next
  | write {mid : Console E} (before : DisplayReaches c mid) (text : String) :
      DisplayReaches c (mid.writeOutput text)
  | clear {mid : Console E} (before : DisplayReaches c mid) : DisplayReaches c mid.clearOutput
  | scroll {mid : Console E} (before : DisplayReaches c mid) (up : Bool) :
      DisplayReaches c (mid.scrollOutput up).2
  | toNewest {mid : Console E} (before : DisplayReaches c mid) :
      DisplayReaches c { mid with output := mid.output.scrollToNewest }
  | edit {mid : Console E} (before : DisplayReaches c mid) (op : InputLine.Op) :
      DisplayReaches c { mid with input := (mid.input.apply op).2 }

namespace DisplayReaches

theorem of_same (hsame : SameDisplay c next) : c.DisplayReaches next :=
  .same .refl hsame

theorem trans {mid : Console E} (hfirst : c.DisplayReaches mid)
    (hsecond : mid.DisplayReaches next) : c.DisplayReaches next := by
  induction hsecond with
  | refl => exact hfirst
  | same _ hsame ih => exact ih.same hsame
  | write _ text ih => exact ih.write text
  | clear _ ih => exact ih.clear
  | scroll _ up ih => exact ih.scroll up
  | toNewest _ ih => exact ih.toNewest
  | edit _ op ih => exact ih.edit op

end DisplayReaches

/-! ## Dispatch -/

theorem writeAll_displayReaches (failure : Option Failure) (items : List Value) :
    ∀ c : Console E, c.DisplayReaches (c.writeAll failure items).2 := by
  induction items with
  | nil =>
      intro c
      cases failure <;> exact .refl
  | cons item rest ih =>
      intro c
      unfold writeAll
      split
      · next text _ => exact (DisplayReaches.refl.write text).trans (ih _)
      · exact .refl

theorem emit_displayReaches (c : Console E) (reply : Reply) :
    c.DisplayReaches (c.emit reply).2 := by
  cases reply with
  | value value =>
      cases value with
      | null => exact .refl
      | text | bytes => exact .write .refl _
      | bool | int | float | list | tuple | dict | moment =>
          simp only [emit]
          exact writeAll_displayReaches none _ c
  | result ok message =>
      simp only [emit]
      split
      · exact .refl
      · exact .write .refl _
  | items items failure => exact writeAll_displayReaches failure items c

theorem conclude_displayReaches (command : Command (Action E))
    (result : Except Fault Reply × Console E) :
    result.2.DisplayReaches (conclude command result).2 := by
  obtain ⟨answer, next⟩ := result
  cases answer with
  | ok reply => exact emit_displayReaches next reply
  | error fault =>
      have hreported : SameDisplay next (next.report (.commandFailed command.name)) := ⟨rfl, rfl⟩
      unfold conclude reportFault
      dsimp only
      split
      · exact (DisplayReaches.of_same hreported).write _
      · exact .of_same hreported

theorem reportUnknown_displayReaches (c : Console E) (name : String) (target : Option String) :
    c.DisplayReaches (c.reportUnknown name target) :=
  (DisplayReaches.refl.write _).same ⟨rfl, rfl⟩

/-- A built-in command drops the output, or leaves it alone, and the input line with it. -/
theorem builtin_displayReaches (command : Builtin) (args : List String) (c : Console E) :
    c.DisplayReaches (command.run args c).2 := by
  have hinput : (command.run args c).2.input = c.input := by
    obtain ⟨registry, output, queue, scheduler, journal, enabled, quitRequested, -, hnext⟩ :=
      Builtin.run_changes command args c
    rw [hnext]
  have houtput := command.run_output args c
  by_cases hclears : command = .clear
  · rw [if_pos hclears] at houtput
    exact DisplayReaches.refl.clear.same ⟨houtput, hinput⟩
  · rw [if_neg hclears] at houtput
    exact .of_same ⟨houtput, hinput⟩

/-- Callbacks do to output and input line what the operations of a console do. -/
def OperatesDisplay (host : Host E) : Prop :=
  ∀ handle args c, DisplayReaches c (host.call handle args c).2

theorem outcome_displayReaches (hcallbacks : OperatesDisplay host) (c : Console E)
    (command : Command (Action E)) (args : List String) :
    c.DisplayReaches (c.outcome host command args).2 := by
  have hreported : SameDisplay c (c.report (.dispatched command.name args)) := ⟨rfl, rfl⟩
  refine (DisplayReaches.of_same hreported).trans ?_
  simp only [outcome, invoke]
  cases command.action with
  | builtin builtin => exact builtin_displayReaches builtin args _
  | callback handle => exact hcallbacks handle args _

theorem call_displayReaches (hcallbacks : OperatesDisplay host) (c : Console E)
    (line : String) : c.DisplayReaches (c.call host line).2 := by
  cases hwords : Text.words line with
  | nil =>
      rw [call_blank hwords]
      exact .refl
  | cons name args =>
      cases hcommand : c.registry.get? name with
      | none =>
          rw [call_unknown hwords hcommand]
          exact reportUnknown_displayReaches c name _
      | some command =>
          rw [call_known hwords hcommand]
          exact (outcome_displayReaches hcallbacks c command args).trans
            (conclude_displayReaches command _)

theorem enter_displayReaches (hcallbacks : OperatesDisplay host) (c : Console E)
    (line : String) : c.DisplayReaches (c.enter host line).2 := by
  by_cases hwords : Text.words line = []
  · rw [enter_blank hwords]
    exact .refl
  · rw [enter_of_words hwords]
    have hrecorded : SameDisplay c (c.writeHistory (historyEntry line)) := ⟨rfl, rfl⟩
    exact (DisplayReaches.of_same hrecorded).trans (call_displayReaches hcallbacks _ line)

theorem handedIn_displayReaches (c : Console E) : c.DisplayReaches c.handedIn := by
  have htaken : c.DisplayReaches { c with
      input := c.input.take.2
      recalling := false
      history := c.history.scrollToNewest
      output := c.output.scrollToNewest } :=
    ((DisplayReaches.refl.edit .take).toNewest).same ⟨rfl, rfl⟩
  -- The echo comes after the cursor has gone to the newest line.
  unfold handedIn
  dsimp only
  split
  · exact htaken.write _
  · exact htaken

theorem tickCheck_sameDisplay (host : Host E) (c : Console E) :
    SameDisplay c (c.tickCheck host).2 := by
  obtain ⟨journal, hchecked⟩ := poll_changes host { c with ticks := c.ticks + 1 }
  rw [tickCheck, hchecked]
  exact ⟨rfl, rfl⟩

theorem reportCheck_displayReaches (result : Poll) (c : Console E) :
    c.DisplayReaches (reportCheck result c) := by
  cases result with
  | failed tag failure =>
      unfold reportCheck
      dsimp only
      split
      · exact .write .refl _
      · exact .refl
  | _ => exact .refl

theorem tick_displayReaches (hcallbacks : OperatesDisplay host) (c : Console E) :
    c.DisplayReaches (c.tick host).2 := by
  have hchecked := tickCheck_sameDisplay host c
  cases hready : c.handover? host with
  | some queued =>
      obtain ⟨line, ready⟩ := queued
      obtain ⟨-, rest, -, hqueued⟩ := handover_eq_some_iff.mp hready
      have htaken : SameDisplay c ready := by
        rw [hqueued]
        exact ⟨hchecked.output, hchecked.input⟩
      simp only [tick_of_handover hready]
      exact (DisplayReaches.of_same htaken).trans (enter_displayReaches hcallbacks ready line)
  | none =>
      rw [tick_of_no_handover hready]
      exact (DisplayReaches.of_same hchecked).trans (reportCheck_displayReaches _ _)

/-! ## Other operations -/

theorem scrollHistory_displayReaches (c : Console E) (up : Bool) :
    c.DisplayReaches (c.scrollHistory up).2 := by
  unfold scrollHistory
  split
  · exact .refl
  split
  · split
    · exact (DisplayReaches.refl.edit (.setText _)).same ⟨rfl, rfl⟩
    · exact .refl
  split
  · exact (DisplayReaches.refl.edit .clear).same ⟨rfl, rfl⟩
  · dsimp only
    split
    · exact (DisplayReaches.refl.edit (.setText _)).same ⟨rfl, rfl⟩
    · exact .of_same ⟨rfl, rfl⟩

theorem complete_displayReaches (c : Console E) : c.DisplayReaches c.complete.2 := by
  unfold complete
  generalize Completion.complete c.registry.commands c.registry.aliases c.input.text = found
  obtain ⟨replacement, candidates⟩ := found
  cases replacement with
  | none =>
      dsimp only
      split
      · exact .write .refl _
      · exact .refl
  | some text =>
      have hreplaced : c.DisplayReaches { c with input := c.input.setText text } :=
        .edit .refl (.setText text)
      dsimp only
      split
      · exact hreplaced.write _
      · exact hreplaced

/-- The edit of the input line that a step is, if it is one. -/
def Step.edit? : Step E → Option InputLine.Op
  | .insert text => some (.insert text)
  | .backspace => some .backspace
  | .delete => some .delete
  | .move left => some (.move left)
  | .home => some .home
  | .goToEnd => some .goToEnd
  | .setText text => some (.setText text)
  | .clearInput => some .clear
  | _ => none

theorem Step.apply_of_edit {step : Step E} {op : InputLine.Op} (hedit : step.edit? = some op)
    (host : Host E) (c : Console E) :
    step.apply host c = { c with input := (c.input.apply op).2 } := by
  cases step with
  | insert text =>
      obtain rfl := Option.some.inj hedit
      simp only [apply, InputLine.apply]
      cases c.input.insertText text <;> rfl
  | backspace | delete | move | home | goToEnd | setText | clearInput =>
      obtain rfl := Option.some.inj hedit
      rfl
  | _ => cases hedit

/-- Whether a step may touch output or input line by what it is. -/
def Step.concernsDisplay : Step E → Bool
  | .call _ | .enter _ | .submit | .tick | .writeOutput _ | .clearOutput | .scrollOutput _
  | .scrollHistory _ | .complete | .reset => true
  | step => step.edit?.isSome

/-- All other steps leave both alone. -/
theorem Step.apply_sameDisplay (host : Host E) (c : Console E) {step : Step E}
    (hother : step.concernsDisplay = false) : SameDisplay c (step.apply host c) := by
  cases step with
  | registerAlias name target =>
      obtain ⟨registry, -, hnext⟩ := registerAlias_changes c name target
      rw [apply, hnext]
      exact ⟨rfl, rfl⟩
  | registerAll package commands =>
      obtain ⟨registry, journal, -, hnext⟩ := registerAll_changes package commands c 0
      rw [apply, hnext]
      exact ⟨rfl, rfl⟩
  | loadPackage packages package =>
      obtain ⟨registry, descriptions, journal, -, hnext⟩ := loadPackage_changes c packages package
      rw [apply, hnext]
      exact ⟨rfl, rfl⟩
  | loadScript name =>
      obtain ⟨queue, journal, hnext⟩ := loadScript_changes c name
      rw [apply, hnext]
      exact ⟨rfl, rfl⟩
  | registerCondition condition =>
      obtain ⟨scheduler, hnext⟩ := registerCondition_changes c condition
      rw [apply, hnext]
      exact ⟨rfl, rfl⟩
  | setWait mode delay =>
      obtain ⟨scheduler, journal, hnext⟩ := orSame_setWait_changes c mode delay
      rw [apply, hnext]
      exact ⟨rfl, rfl⟩
  | waitFor tag parameter =>
      obtain ⟨scheduler, journal, hnext⟩ := orSame_waitFor_changes c tag parameter
      rw [apply, hnext]
      exact ⟨rfl, rfl⟩
  | satisfy tag =>
      obtain ⟨scheduler, journal, hnext⟩ := satisfy_changes c tag
      rw [apply, hnext]
      exact ⟨rfl, rfl⟩
  | check =>
      obtain ⟨journal, hnext⟩ := poll_changes host c
      rw [apply, hnext]
      exact ⟨rfl, rfl⟩
  | abort =>
      obtain ⟨journal, hnext⟩ := abortScript_changes c
      rw [apply, hnext]
      exact ⟨rfl, rfl⟩
  | register | sortNames | describe | writeHistory | clearHistory | loadLines | append | toggle
  | requestQuit => exact ⟨rfl, rfl⟩
  | _ => cases hother

theorem Step.apply_displayReaches (hcallbacks : OperatesDisplay host) (c : Console E)
    (step : Step E) : c.DisplayReaches (step.apply host c) := by
  cases hconcerns : step.concernsDisplay with
  | false => exact .of_same (apply_sameDisplay host c hconcerns)
  | true =>
      cases hedit : step.edit? with
      | some op =>
          rw [apply_of_edit hedit]
          exact .edit .refl op
      | none =>
          cases step with
          | call line => exact call_displayReaches hcallbacks c line
          | enter line => exact enter_displayReaches hcallbacks c line
          | submit =>
              rw [apply, submit_eq]
              exact (handedIn_displayReaches c).trans (enter_displayReaches hcallbacks _ _)
          | tick => exact tick_displayReaches hcallbacks c
          | writeOutput text => exact .write .refl text
          | clearOutput => exact .clear .refl
          | scrollOutput up => exact .scroll .refl up
          | scrollHistory up => exact scrollHistory_displayReaches c up
          | complete => exact complete_displayReaches c
          | reset =>
              obtain ⟨journal, haborted⟩ := abortScript_changes c
              have hsame : SameDisplay c c.abortScript.2 := by
                rw [haborted]
                exact ⟨rfl, rfl⟩
              exact (((DisplayReaches.of_same hsame).clear).edit .clear).same ⟨rfl, rfl⟩
          | insert | backspace | delete | move | home | goToEnd | setText | clearInput =>
              cases hedit
          | _ => cases hconcerns

/-- A run does to output and input line what the operations of a console do. -/
theorem after_displayReaches (hcallbacks : OperatesDisplay host) (steps : List (Step E)) :
    ∀ c : Console E, c.DisplayReaches (c.after host steps) := by
  induction steps with
  | nil => exact fun c => .refl
  | cons step rest ih => exact fun c => (step.apply_displayReaches hcallbacks c).trans (ih _)

end Console
end DevConsole
