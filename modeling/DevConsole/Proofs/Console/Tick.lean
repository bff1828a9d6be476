import DevConsole.Proofs.Console.Step
import DevConsole.Proofs.Told

/-!
# What one tick does

A tick counts itself, checks the wait, and then enters at most one queued line.
This file splits `tick` along that line:

* `tick_idle`: a check that leaves a wait is all that happens, apart from the report
  of a predicate that failed, which the tick raises on if it cannot be made;
* `tick_empty` and `tick_enters`: a check that leaves no wait lets the oldest queued
  line through, if there is one.

`handover?` names the line that the next tick enters, and the console it is entered
in.
-/

namespace DevConsole
namespace Console

variable {E : Embedding} {host : Host E} {c : Console E}

/-! ## Checks -/

theorem poll_result (host : Host E) (c : Console E) :
    (c.poll host).1 = (c.scheduler.poll host.ask c.world).1 := rfl

/-- A check changes no more than scheduler, world and journal. -/
theorem poll_changes (host : Host E) (c : Console E) :
    ∃ journal, (c.poll host).2 =
      { c with
        scheduler := (c.scheduler.poll host.ask c.world).2.1
        world := (c.scheduler.poll host.ask c.world).2.2
        journal := journal } := by
  unfold poll
  dsimp only
  split <;> exact ⟨_, rfl⟩

theorem poll_scheduler (host : Host E) (c : Console E) :
    (c.poll host).2.scheduler = (c.scheduler.poll host.ask c.world).2.1 := by
  obtain ⟨journal, hpoll⟩ := poll_changes host c
  rw [hpoll]

theorem poll_queue (host : Host E) (c : Console E) : (c.poll host).2.queue = c.queue := by
  obtain ⟨journal, hpoll⟩ := poll_changes host c
  rw [hpoll]

theorem poll_history (host : Host E) (c : Console E) :
    (c.poll host).2.history = c.history := by
  obtain ⟨journal, hpoll⟩ := poll_changes host c
  rw [hpoll]

/-- A check without a wait changes nothing. -/
theorem poll_of_running (host : Host E) (hstate : c.scheduler.state = .running) :
    c.poll host = (.running, c) := by
  simp only [poll, WaitScheduler.poll_running host.ask c.world hstate, pollEvent?]

/-- A check takes one tick off and changes nothing else. -/
theorem poll_of_counting (host : Host E) {left initial : Nat}
    (hstate : c.scheduler.state = .ticks (left + 1) initial) :
    c.poll host = (.counting,
      { c with scheduler := { c.scheduler with state := .ticks left initial } }) := by
  simp only [poll, WaitScheduler.poll_counting host.ask c.world hstate, pollEvent?]

/-- A check of a tick wait with nothing left ends the wait, which the journal hears. -/
theorem poll_of_elapsed (host : Host E) {initial : Nat}
    (hstate : c.scheduler.state = .ticks 0 initial) :
    c.poll host =
      (.elapsed, { c with scheduler := c.scheduler.clear }.report .waitElapsed) := by
  simp only [poll, WaitScheduler.poll_elapsed host.ask c.world hstate, pollEvent?]

/-- Lines may run after a check exactly when the check leaves no wait. -/
theorem poll_isRunning_iff (host : Host E) (c : Console E) :
    (c.poll host).1.isRunning = true ↔ (c.poll host).2.scheduler.state = .running := by
  rw [poll_result, poll_scheduler]
  exact WaitScheduler.poll_isRunning_iff host.ask c.world

theorem tickCheck_of_running (host : Host E) (hstate : c.scheduler.state = .running) :
    c.tickCheck host = (.running, { c with ticks := c.ticks + 1 }) := by
  exact poll_of_running (c := { c with ticks := c.ticks + 1 }) host hstate

theorem tickCheck_of_counting (host : Host E) {left initial : Nat}
    (hstate : c.scheduler.state = .ticks (left + 1) initial) :
    c.tickCheck host = (.counting,
      { c with
        ticks := c.ticks + 1
        scheduler := { c.scheduler with state := .ticks left initial } }) := by
  exact poll_of_counting (c := { c with ticks := c.ticks + 1 }) host hstate

theorem tickCheck_of_elapsed (host : Host E) {initial : Nat}
    (hstate : c.scheduler.state = .ticks 0 initial) :
    c.tickCheck host =
      (.elapsed, { c with
        ticks := c.ticks + 1
        scheduler := c.scheduler.clear }.report .waitElapsed) := by
  exact poll_of_elapsed (c := { c with ticks := c.ticks + 1 }) host hstate

/-! ## Ticks -/

/-- What a tick answers after a check that lets no line run. -/
def answerCheck : Poll → Except Failure Bool
  | .failed tag failure => (WaitFault.ofFailure tag failure).map fun _ => false
  | _ => .ok false

/-- The console after such a check: a predicate that failed is reported in the output, if
the report can be made. -/
def reportCheck : Poll → Console E → Console E
  | .failed tag failure, c =>
    match WaitFault.ofFailure tag failure with
    | .ok fault => c.writeOutput s!"[error] {fault.message}"
    | .error _ => c
  | _, c => c

/-- The report of a check changes the output only. -/
theorem reportCheck_changes (result : Poll) (c : Console E) :
    ∃ output, reportCheck result c = { c with output := output } := by
  cases result with
  | failed tag failure =>
      unfold reportCheck
      dsimp only
      split <;> exact ⟨_, rfl⟩
  | _ => exact ⟨c.output, rfl⟩

@[simp] theorem reportCheck_scheduler (result : Poll) (c : Console E) :
    (reportCheck result c).scheduler = c.scheduler := by
  obtain ⟨output, hreported⟩ := reportCheck_changes result c
  rw [hreported]

@[simp] theorem reportCheck_queue (result : Poll) (c : Console E) :
    (reportCheck result c).queue = c.queue := by
  obtain ⟨output, hreported⟩ := reportCheck_changes result c
  rw [hreported]

@[simp] theorem reportCheck_history (result : Poll) (c : Console E) :
    (reportCheck result c).history = c.history := by
  obtain ⟨output, hreported⟩ := reportCheck_changes result c
  rw [hreported]

theorem reportCheck_of_isRunning {result : Poll} (hruns : result.isRunning = true)
    (c : Console E) : reportCheck result c = c := by
  cases result with
  | failed tag failure => cases hruns
  | _ => rfl

theorem answerCheck_of_isRunning {result : Poll} (hruns : result.isRunning = true) :
    answerCheck result = .ok false := by
  cases result with
  | failed tag failure => cases hruns
  | _ => rfl

/-- A tick answers `false` after a check that has nothing to tell or can tell it. -/
theorem answerCheck_of_told {result : Poll}
    (htold : ∀ tag failure, result = .failed tag failure → failure.Told) :
    answerCheck result = .ok false := by
  cases result with
  | failed tag failure =>
      obtain ⟨report, hreport⟩ := (htold tag failure rfl).exists_report
      simp only [answerCheck, WaitFault.ofFailure, hreport, Except.map]
  | _ => rfl

/-- It raises if a predicate failed with what cannot be told. -/
theorem answerCheck_of_not_told {tag : String} {failure : Failure} (hnot : ¬failure.Told) :
    answerCheck (.failed tag failure) = .error .unwritable := by
  simp only [answerCheck, WaitFault.ofFailure, Failure.report_of_not_told hnot, Except.map]

/-- A tick whose check leaves a wait does no more than check. -/
theorem tick_idle (hwaits : (c.tickCheck host).1.isRunning = false) :
    c.tick host = (answerCheck (c.tickCheck host).1,
      reportCheck (c.tickCheck host).1 (c.tickCheck host).2) := by
  unfold tick
  unfold tickCheck at hwaits ⊢
  generalize poll { c with ticks := c.ticks + 1 } host = checked at hwaits ⊢
  obtain ⟨result, polled⟩ := checked
  cases result with
  | failed tag failure =>
      simp only [answerCheck, reportCheck]
      cases WaitFault.ofFailure tag failure <;> rfl
  | _ => simp_all [Poll.isRunning, answerCheck, reportCheck]

/-- A tick that is not held back enters the oldest queued line. -/
theorem tick_enters {line : String} {rest : List String}
    (hruns : (c.tickCheck host).1.isRunning = true)
    (hqueue : (c.tickCheck host).2.queue = line :: rest) :
    c.tick host =
      (({ (c.tickCheck host).2 with queue := rest }.enter host line).1.map fun _ => true,
        ({ (c.tickCheck host).2 with queue := rest }.enter host line).2) := by
  unfold tick
  unfold tickCheck at hruns hqueue ⊢
  generalize poll { c with ticks := c.ticks + 1 } host = checked at hruns hqueue ⊢
  obtain ⟨result, polled⟩ := checked
  generalize hentered : { polled with queue := rest }.enter host line = entered
  obtain ⟨answer, next⟩ := entered
  cases result <;>
    simp_all [Poll.isRunning] <;> cases answer <;> rfl

/-- A tick that is not held back and finds no queued line only checks. -/
theorem tick_empty (hruns : (c.tickCheck host).1.isRunning = true)
    (hqueue : (c.tickCheck host).2.queue = []) :
    c.tick host = (.ok false, (c.tickCheck host).2) := by
  unfold tick
  unfold tickCheck at hruns hqueue ⊢
  generalize poll { c with ticks := c.ticks + 1 } host = checked at hruns hqueue ⊢
  obtain ⟨result, polled⟩ := checked
  cases result <;> simp_all [Poll.isRunning]

/-- The queued line that the next tick enters, and the console in which it does. -/
def handover? (host : Host E) (c : Console E) : Option (String × Console E) :=
  if (c.tickCheck host).1.isRunning then
    match (c.tickCheck host).2.queue with
    | line :: rest => some (line, { (c.tickCheck host).2 with queue := rest })
    | [] => none
  else none

/-- The oldest queued line is handed over when the check leaves no wait. -/
theorem handover_eq_some_iff {line : String} {ready : Console E} :
    c.handover? host = some (line, ready) ↔
      (c.tickCheck host).2.scheduler.state = .running ∧
        ∃ rest, (c.tickCheck host).2.queue = line :: rest ∧
          ready = { (c.tickCheck host).2 with queue := rest } := by
  have hruns : (c.tickCheck host).1.isRunning = true ↔
      (c.tickCheck host).2.scheduler.state = .running := poll_isRunning_iff host _
  unfold handover?
  rw [← hruns]
  cases (c.tickCheck host).1.isRunning with
  | false => simp
  | true =>
      cases (c.tickCheck host).2.queue with
      | nil => simp
      | cons oldest rest =>
          simp only [if_true, Option.some.injEq, Prod.mk.injEq, List.cons.injEq, true_and]
          constructor
          · rintro ⟨rfl, rfl⟩
            exact ⟨rest, ⟨rfl, rfl⟩, rfl⟩
          · rintro ⟨_, ⟨rfl, rfl⟩, rfl⟩
            exact ⟨rfl, rfl⟩

/-- A tick enters the line that is handed over. -/
theorem tick_of_handover {line : String} {ready : Console E}
    (hready : c.handover? host = some (line, ready)) :
    c.tick host = ((ready.enter host line).1.map fun _ => true,
      (ready.enter host line).2) := by
  obtain ⟨hstate, rest, hqueue, rfl⟩ := handover_eq_some_iff.mp hready
  exact tick_enters ((poll_isRunning_iff host _).mpr hstate) hqueue

/-- A tick without such a line does no more than check. -/
theorem tick_of_no_handover (hnone : c.handover? host = none) :
    c.tick host = (answerCheck (c.tickCheck host).1,
      reportCheck (c.tickCheck host).1 (c.tickCheck host).2) := by
  unfold handover? at hnone
  split at hnone
  · next hruns =>
      split at hnone
      · cases hnone
      · next hqueue =>
          rw [tick_empty hruns hqueue, answerCheck_of_isRunning hruns,
            reportCheck_of_isRunning hruns]
  · next hwaits => exact tick_idle (Bool.eq_false_iff.mpr hwaits)

/-- What a tick raises comes from the line that it enters, or tells that a predicate failed
with what cannot be told. -/
theorem source_of_tick_error {failure : Failure} (hraised : (c.tick host).1 = .error failure) :
    (∃ line ready, c.handover? host = some (line, ready) ∧
        (ready.enter host line).1 = .error failure) ∨
      failure = .unwritable ∧
        ∃ tag cause, (c.tickCheck host).1 = .failed tag cause ∧ ¬cause.Told := by
  cases hready : c.handover? host with
  | none =>
      rw [tick_of_no_handover hready] at hraised
      refine .inr ?_
      by_cases htold : ∀ tag cause, (c.tickCheck host).1 = .failed tag cause → cause.Told
      · cases (answerCheck_of_told htold).symm.trans hraised
      · simp only [not_forall] at htold
        obtain ⟨tag, cause, hfailed, hnot⟩ := htold
        simp only [hfailed, answerCheck_of_not_told hnot, Except.error.injEq] at hraised
        exact ⟨hraised.symm, tag, cause, hfailed, hnot⟩
  | some queued =>
      obtain ⟨line, ready⟩ := queued
      refine .inl ⟨line, ready, rfl, ?_⟩
      rw [tick_of_handover hready] at hraised
      cases hentered : (ready.enter host line).1 with
      | ok answered => simp [hentered, Except.map] at hraised
      | error raised => simpa [hentered, Except.map] using hraised

end Console
end DevConsole
