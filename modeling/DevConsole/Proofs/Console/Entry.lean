import DevConsole.Proofs.Console.Routine

/-!
# The course of an entry

An entry first prepares the console: it may take the input line, check the wait, take a
line off the queue, and it puts the line into the history (`Entry.site`).  There the
command of the line is called, if it has one.  What follows is written to the output and
reported in the journal, so all other parts of the console are as the command left them
(`Entry.run_changes`).
-/

namespace DevConsole
namespace Console

variable {E : Embedding} {host : Host E} {c : Console E}

/-- The console in which the command of an entered line is looked up: a line that is not
blank is in the history by then. -/
def recorded (c : Console E) (line : String) : Console E :=
  if (Text.words line).isEmpty then c else c.writeHistory (historyEntry line)

theorem invocation_of_words {line : String} {invocation : Invocation E}
    (hcalls : c.invocation? line = some invocation) :
    invocation.console = c ∧ Text.words line ≠ [] := by
  unfold invocation? at hcalls
  split at hcalls
  · cases hcalls
  · next name args hwords =>
      obtain ⟨command, -, rfl⟩ := Option.map_eq_some_iff.mp hcalls
      exact ⟨rfl, by simp [hwords]⟩

/-- The command of an entered line is called in the console that has recorded it. -/
theorem recorded_of_invocation {line : String} {invocation : Invocation E}
    (hcalls : (c.writeHistory (historyEntry line)).invocation? line = some invocation) :
    invocation.console = c.recorded line := by
  obtain ⟨hconsole, hwords⟩ := invocation_of_words hcalls
  have hkept : (Text.words line).isEmpty = false := by simpa using hwords
  simp only [recorded, hkept, Bool.false_eq_true, if_false, hconsole]

/-- A line that calls no command is recorded, and reported at most. -/
theorem enter_of_uncalled (host : Host E) {line : String}
    (hnone : (c.writeHistory (historyEntry line)).invocation? line = none) :
    ∃ output journal, (c.enter host line).2 =
      { c.recorded line with output := output, journal := journal } := by
  by_cases hwords : Text.words line = []
  · refine ⟨c.output, c.journal, ?_⟩
    simp only [enter_blank hwords, recorded, hwords, List.isEmpty_nil, if_true]
  · obtain ⟨output, journal, hcall⟩ := call_of_no_invocation host hnone
    have hkept : (Text.words line).isEmpty = false := by simpa using hwords
    refine ⟨output, journal, ?_⟩
    simp only [enter_of_words hwords, hcall, recorded, hkept, Bool.false_eq_true, if_false]

namespace Entry

variable {entry : Entry}

/-- The console in which an entry calls its command, if it calls one. -/
def site (host : Host E) (c : Console E) : Entry → Console E
  | call _ => c
  | enter line => c.recorded line
  | submit => c.handedIn.recorded c.input.take.1
  | tick =>
    match c.handover? host with
    | some (line, ready) => ready.recorded line
    | none => reportCheck (c.tickCheck host).1 (c.tickCheck host).2

/-- Until then an entry leaves names and settings alone. -/
theorem site_changes (host : Host E) (c : Console E) (entry : Entry) :
    ∃ input output history queue scheduler journal world recalling ticks,
      entry.site host c =
        { c with
          input := input
          output := output
          history := history
          queue := queue
          scheduler := scheduler
          journal := journal
          world := world
          recalling := recalling
          ticks := ticks } := by
  cases entry with
  | call line => exact ⟨_, _, _, _, _, _, _, _, _, rfl⟩
  | enter line =>
      simp only [site, recorded]
      split <;> exact ⟨_, _, _, _, _, _, _, _, _, rfl⟩
  | submit =>
      simp only [site, recorded, handedIn]
      split <;> split <;> exact ⟨_, _, _, _, _, _, _, _, _, rfl⟩
  | tick =>
      obtain ⟨journal, hpolled⟩ := poll_changes host { c with ticks := c.ticks + 1 }
      simp only [site]
      cases hready : c.handover? host with
      | some queued =>
          obtain ⟨line, ready⟩ := queued
          obtain ⟨-, rest, -, rfl⟩ := handover_eq_some_iff.mp hready
          simp only [recorded, tickCheck, hpolled]
          split <;> exact ⟨_, _, _, _, _, _, _, _, _, rfl⟩
      | none =>
          obtain ⟨output, hreported⟩ :=
            reportCheck_changes (c.tickCheck host).1 (c.tickCheck host).2
          rw [hreported, tickCheck, hpolled]
          exact ⟨_, _, _, _, _, _, _, _, _, rfl⟩

theorem site_registry (host : Host E) (c : Console E) (entry : Entry) :
    (entry.site host c).registry = c.registry := by
  obtain ⟨input, output, history, queue, scheduler, journal, world, recalling, ticks, hsite⟩ :=
    site_changes host c entry
  rw [hsite]

/-- The console after the command of an entry has run. -/
def afterCommand (host : Host E) (c : Console E) (entry : Entry) : Console E :=
  match entry.invocation? host c with
  | some invocation => (invocation.outcome host).2
  | none => entry.site host c

theorem console_eq_site {invocation : Invocation E}
    (hcalls : entry.invocation? host c = some invocation) :
    invocation.console = entry.site host c := by
  cases entry with
  | call line => exact (invocation_of_words hcalls).1
  | enter line => exact recorded_of_invocation hcalls
  | submit => exact recorded_of_invocation hcalls
  | tick =>
      obtain ⟨⟨line, ready⟩, hready, hline⟩ := Option.bind_eq_some_iff.mp hcalls
      simp only [site, hready]
      exact recorded_of_invocation hline

/-- After its command an entry changes no more than output and journal. -/
theorem run_changes (host : Host E) (c : Console E) (entry : Entry) :
    ∃ output journal, (entry.run host c).2 =
      { entry.afterCommand host c with output := output, journal := journal } := by
  unfold afterCommand
  cases hcalls : entry.invocation? host c with
  | some invocation =>
      rw [run_of_invocation hcalls]
      exact conclude_changes invocation.command (invocation.outcome host)
  | none =>
      cases entry with
      | call line =>
          obtain ⟨output, journal, hcall⟩ := call_of_no_invocation host hcalls
          exact ⟨output, journal, by rw [run, hcall]; rfl⟩
      | enter line =>
          rw [run, site]
          exact enter_of_uncalled host hcalls
      | submit =>
          rw [run, submit_eq]
          exact enter_of_uncalled host hcalls
      | tick =>
          cases hready : c.handover? host with
          | none =>
              rw [run, tick_of_no_handover hready]
              simp only [site, hready]
              exact ⟨_, _, rfl⟩
          | some queued =>
              obtain ⟨line, ready⟩ := queued
              simp only [invocation?, hready, Option.bind_some] at hcalls
              rw [run, tick_of_handover hready]
              simp only [site, hready]
              exact enter_of_uncalled host hcalls

end Entry
end Console
end DevConsole
