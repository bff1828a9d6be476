import DevConsole.Console.Dispatch
import DevConsole.Proofs.Text.Words

/-!
# What one dispatch does

The cases of `call` and `enter`, stated once.  A line without words does nothing.  A
line whose first word names no command is reported.  Any other line runs its command,
whose fault is reported or whose reply is written; where that needs a text that there is
not, the dispatch ends with the failure to make it.
-/

namespace DevConsole
namespace Console

variable {E : Embedding} {host : Host E} {c : Console E} {line name : String}
  {args : List String}

/-- What becomes of a fault that was raised in `command`: its report is written, if there
is one. -/
def reportFault (c : Console E) (command : Command (Action E)) (fault : Fault) :
    Except Failure Bool × Console E :=
  let heard := c.report (.commandFailed command.name)
  match fault.report with
  | .ok report => (.ok false, heard.writeOutput s!"[error] {report}")
  | .error other => (.error other, heard)

/-- What becomes of the outcome of a command: the dispatcher reports a fault and writes
a reply. -/
def conclude (command : Command (Action E)) (result : Except Fault Reply × Console E) :
    Except Failure Bool × Console E :=
  match result.1 with
  | .ok reply => result.2.emit reply
  | .error fault => result.2.reportFault command fault

/-- The outcome of the command of a line, from a console that is about to call it. -/
def outcome (host : Host E) (c : Console E) (command : Command (Action E))
    (args : List String) : Except Fault Reply × Console E :=
  invoke host (c.report (.dispatched command.name args)) command.action args

/-! ## What a dispatch changes by itself -/

theorem writeAll_changes (failure : Option Failure) (items : List Value) :
    ∀ c : Console E, ∃ output, (c.writeAll failure items).2 = { c with output := output } := by
  induction items with
  | nil =>
      intro c
      cases failure <;> exact ⟨c.output, rfl⟩
  | cons item rest ih =>
      intro c
      unfold writeAll
      split
      · next text _ =>
          obtain ⟨output, hrest⟩ := ih (c.writeOutput text)
          exact ⟨output, hrest⟩
      · exact ⟨c.output, rfl⟩

/-- Writing a reply changes the output only. -/
theorem emit_changes (c : Console E) (reply : Reply) :
    ∃ output, (c.emit reply).2 = { c with output := output } := by
  cases reply with
  | value value =>
      cases value with
      | null | text | bytes => exact ⟨_, rfl⟩
      | _ => exact writeAll_changes none _ c
  | result ok message =>
      simp only [emit]
      split
      · exact ⟨c.output, rfl⟩
      · exact ⟨_, rfl⟩
  | items items failure => exact writeAll_changes failure items c

theorem conclude_changes (command : Command (Action E))
    (result : Except Fault Reply × Console E) :
    ∃ output journal, (conclude command result).2 =
      { result.2 with output := output, journal := journal } := by
  obtain ⟨answer, next⟩ := result
  cases answer with
  | ok reply =>
      obtain ⟨output, hnext⟩ := emit_changes next reply
      exact ⟨output, next.journal, hnext⟩
  | error fault =>
      unfold conclude reportFault
      dsimp only
      split <;> exact ⟨_, _, rfl⟩

theorem reportUnknown_changes (c : Console E) (name : String) (target : Option String) :
    ∃ output journal, c.reportUnknown name target =
      { c with output := output, journal := journal } := by
  unfold reportUnknown
  exact ⟨_, _, rfl⟩

/-! ## The cases -/

theorem call_blank (hwords : Text.words line = []) : c.call host line = (.ok false, c) := by
  unfold call
  rw [hwords]

theorem call_unknown (hwords : Text.words line = name :: args)
    (hcommand : c.registry.get? name = none) :
    c.call host line =
      (.ok false, c.reportUnknown name
        (if c.registry.aliases.resolve name = name then none
          else some (c.registry.aliases.resolve name))) := by
  unfold Registry.get? at hcommand
  unfold call
  rw [hwords]
  simp only [hcommand]

theorem call_known {command : Command (Action E)}
    (hwords : Text.words line = name :: args)
    (hcommand : c.registry.get? name = some command) :
    c.call host line = conclude command (c.outcome host command args) := by
  unfold Registry.get? at hcommand
  unfold call outcome
  rw [hwords]
  simp only [hcommand]
  generalize invoke host (c.report (.dispatched command.name args)) command.action args = result
  obtain ⟨answer, next⟩ := result
  cases answer <;> rfl

/-- A call depends on the words of its line only. -/
theorem call_congr {other : String} (hwords : Text.words line = Text.words other) :
    c.call host line = c.call host other := by
  unfold call
  rw [hwords]

theorem enter_blank (hwords : Text.words line = []) :
    c.enter host line = (.ok false, c) := by
  unfold enter
  simp only [(Text.trim_isEmpty_iff line).mpr hwords, if_true]

/-- A line with words goes into the history and is called. -/
theorem enter_of_words (hwords : Text.words line ≠ []) :
    c.enter host line = (c.writeHistory (historyEntry line)).call host line := by
  have hkept : (Text.trim line).isEmpty = false := by
    rw [Bool.eq_false_iff, Ne, Text.trim_isEmpty_iff]
    exact hwords
  unfold enter
  simp only [hkept, Bool.false_eq_true, if_false]
  exact call_congr (Text.words_trim line)

/-- A line that names a command is recorded and runs the command on the other words. -/
theorem enter_known {command : Command (Action E)} (hwords : Text.words line = name :: args)
    (hcommand : c.registry.get? name = some command) :
    c.enter host line =
      conclude command ((c.writeHistory (historyEntry line)).outcome host command args) := by
  have hsome : Text.words line ≠ [] := by rw [hwords]; exact List.cons_ne_nil _ _
  -- The history has no part in what the line calls.
  have hknown : (c.writeHistory (historyEntry line)).registry.get? name = some command :=
    hcommand
  rw [enter_of_words hsome, call_known hwords hknown]

/-- Any other line with words is recorded and its first word reported. -/
theorem enter_unknown (hwords : Text.words line = name :: args)
    (hcommand : c.registry.get? name = none) :
    c.enter host line = (.ok false, (c.writeHistory (historyEntry line)).reportUnknown name
      (if c.registry.aliases.resolve name = name then none
        else some (c.registry.aliases.resolve name))) := by
  have hsome : Text.words line ≠ [] := by rw [hwords]; exact List.cons_ne_nil _ _
  have hunknown : (c.writeHistory (historyEntry line)).registry.get? name = none := hcommand
  rw [enter_of_words hsome, call_unknown hwords hunknown]
  rfl

end Console
end DevConsole
