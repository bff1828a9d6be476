import DevConsole.Proofs.Console.Tick
import DevConsole.Proofs.Wait.Muting

/-!
# Conditions whose predicate fails

The scheduler reports a predicate that fails once for each time that the wait is armed
(`Proofs.Wait.Muting`).  To the host of a console such a check is an ordinary tick: it
counts, writes the report to the output, answers `false` and leaves the queue as it is
(`tick_of_failed`).  A failure that has no text leaves nothing to write: its tick counts
and leaves the queue as it is too, and raises.
-/

namespace DevConsole
namespace Console

open WaitScheduler (Call polls Undisturbed)

variable {E : Embedding} {host : Host E} {c : Console E}

/-- A tick whose check finds that a predicate has failed counts itself, writes one report
if it can be made, raises if not, and does nothing else. -/
theorem tick_of_failed {tag : String} {failure : Failure}
    (hfailed : (c.scheduler.poll host.ask c.world).1 = .failed tag failure) :
    (failure.Told → ∃ report, failure.report = .ok report ∧
      (c.tick host).1 = .ok false ∧
      (c.tick host).2.output = (c.writeOutput
        s!"[error] {(WaitFault.conditionFailed tag report).message}").output) ∧
    (¬failure.Told →
      (c.tick host).1 = .error .unwritable ∧ (c.tick host).2.output = c.output) ∧
    (c.tick host).2.ticks = c.ticks + 1 ∧
    (c.tick host).2.queue = c.queue ∧
    (c.tick host).2.scheduler = (c.scheduler.poll host.ask c.world).2.1 := by
  have hcheck : (c.tickCheck host).1 = .failed tag failure := hfailed
  have hidle : (c.tickCheck host).1.isRunning = false := by
    rw [hcheck]
    rfl
  obtain ⟨journal, hpoll⟩ := poll_changes host { c with ticks := c.ticks + 1 }
  rw [tick_idle hidle, hcheck]
  refine ⟨?_, ?_, ?_⟩
  · intro htold
    obtain ⟨report, hreport⟩ := htold.exists_report
    refine ⟨report, hreport, ?_⟩
    rw [answerCheck, reportCheck, WaitFault.ofFailure, hreport, tickCheck, hpoll]
    exact ⟨rfl, rfl⟩
  · intro hnot
    refine ⟨answerCheck_of_not_told hnot, ?_⟩
    rw [reportCheck, WaitFault.ofFailure, Failure.report_of_not_told hnot, tickCheck, hpoll]
    rfl
  · -- The report is all that depends on the failure.
    obtain ⟨output, hreported⟩ := reportCheck_changes (.failed tag failure) (c.tickCheck host).2
    rw [hreported, tickCheck, hpoll]
    exact ⟨rfl, rfl, rfl⟩

/-- A program without commands of its own, whose one predicate always fails. -/
def failingHost : Host ⟨Empty, Unit, Unit⟩ where
  call := fun handle => nomatch handle
  ask := WaitScheduler.failsAtOnce

/-- A program whose one predicate fails with a number of too many digits. -/
def muddledHost : Host ⟨Empty, Unit, Unit⟩ where
  call := fun handle => nomatch handle
  ask := fun _ _ world => (⟨.error (.raised "RuntimeError" [Value.overlong]), 0⟩, world)

end Console
end DevConsole
