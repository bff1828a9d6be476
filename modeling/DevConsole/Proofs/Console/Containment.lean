import DevConsole.Proofs.Console.Dispatch
import DevConsole.Proofs.Console.Tick

/-!
# Which failures of commands are contained

A program has a line run in four ways (`Entry`).  The command of the line may raise at
two points: while it is called, which the dispatcher turns into a report, and later,
while the items of its reply are produced, which happens after the guarded part.  What the
dispatcher writes of a fault or of a reply needs texts, and these too are made outside the
guarded part.

An entry contains what its command raises exactly when everything that it has to write can
be told and the command does not raise at the second point (`Entry.contains_iff`).  The
cases of an entry are those of its invocation: there is none and the entry answers at once,
or the entry concludes it.
-/

namespace DevConsole

namespace Reply

/-- The failure with which the items of a reply end. -/
def failure? : Reply → Option Failure
  | .value _ | .result _ _ => none
  | .items _ failure => failure

/-- The values whose texts are written of a reply. -/
def shown : Reply → List Value
  | .result _ _ | .value .null | .value (.text _) | .value (.bytes _) => []
  | .value v => v.items?.getD [v]
  | .items produced _ => produced

end Reply

namespace Console

variable {E : Embedding} {host : Host E} {c : Console E} {line : String}

/-! ## Replies -/

/-- Items that all have a text are written to their end. -/
theorem writeAll_of_writable {failure : Option Failure} {items : List Value}
    (htold : ∀ v ∈ items, v.isWritable = true) :
    ∀ c : Console E, (c.writeAll failure items).1 = failure.elim (.ok true) .error := by
  induction items with
  | nil => intro c; cases failure <;> rfl
  | cons item rest ih =>
      intro c
      obtain ⟨hitem, hrest⟩ := List.forall_mem_cons.mp htold
      rw [writeAll, Value.write_of_isWritable hitem]
      exact ih hrest _

/-- An item without a text ends the writing. -/
theorem writeAll_of_unwritable {failure : Option Failure} {items : List Value}
    (hnot : ¬∀ v ∈ items, v.isWritable = true) :
    ∀ c : Console E, (c.writeAll failure items).1 = .error .unwritable := by
  induction items with
  | nil => exact absurd (List.forall_mem_nil _) hnot
  | cons item rest ih =>
      intro c
      rw [writeAll]
      cases hitem : item.isWritable with
      | false => rw [Value.write_of_not_isWritable hitem]
      | true =>
          rw [Value.write_of_isWritable hitem]
          exact ih (fun hrest => hnot (List.forall_mem_cons.mpr ⟨hitem, hrest⟩)) _

/-- A reply that can be told is written to its end. -/
theorem emit_answers {reply : Reply} (htold : ∀ v ∈ reply.shown, v.isWritable = true)
    (hends : reply.failure? = none) : ∃ answered, (c.emit reply).1 = .ok answered := by
  cases reply with
  | result ok message => exact ⟨ok, rfl⟩
  | items items failure =>
      obtain rfl : failure = none := hends
      exact ⟨true, writeAll_of_writable htold c⟩
  | value value =>
      cases value with
      | null | text | bytes => exact ⟨_, rfl⟩
      | bool | int | float | list | tuple | dict | moment =>
          simp only [emit]
          exact ⟨true, writeAll_of_writable htold c⟩

/-- Any other reply is not. -/
theorem emit_of_not_told {reply : Reply} (hnot : ¬∀ v ∈ reply.shown, v.isWritable = true) :
    (c.emit reply).1 = .error .unwritable := by
  cases reply with
  | result ok message => exact absurd (List.forall_mem_nil _) hnot
  | items items failure => exact writeAll_of_unwritable hnot c
  | value value =>
      cases value with
      | null | text | bytes => exact absurd (List.forall_mem_nil _) hnot
      | bool | int | float | list | tuple | dict | moment =>
          simp only [emit]
          exact writeAll_of_unwritable hnot c

/-! ## Invocations -/

/-- A command that is about to be called. -/
structure Invocation (E : Embedding) where
  console : Console E
  command : Command (Action E)
  args : List String

namespace Invocation

variable {invocation : Invocation E}

/-- What the command gives back, and the console after its code has run. -/
def outcome (host : Host E) (invocation : Invocation E) : Except Fault Reply × Console E :=
  invocation.console.outcome host invocation.command invocation.args

/-- The failure that ends the items of the reply, if one does. -/
def late? (host : Host E) (invocation : Invocation E) : Option Failure :=
  match (invocation.outcome host).1 with
  | .ok reply => reply.failure?
  | .error _ => none

/-- What the code of the command raises, at either point. -/
def raised? (host : Host E) (invocation : Invocation E) : Option Fault :=
  match (invocation.outcome host).1 with
  | .ok reply => reply.failure?.map .outside
  | .error fault => some fault

/-- What the command raises while it is called, or else gives back, has a text. -/
def Told (host : Host E) (invocation : Invocation E) : Prop :=
  match (invocation.outcome host).1 with
  | .ok reply => ∀ v ∈ reply.shown, v.isWritable = true
  | .error fault => fault.Told

/-- The dispatcher's part of an invocation. -/
def conclude (host : Host E) (invocation : Invocation E) :
    Except Failure Bool × Console E :=
  Console.conclude invocation.command (invocation.outcome host)

/-- A fault is reported: the journal hears which command failed, and the last lines of
the output say why. -/
theorem conclude_of_fault {fault : Fault} {report : String}
    (hfault : (invocation.outcome host).1 = .error fault) (hreport : fault.report = .ok report) :
    invocation.conclude host = (.ok false,
      ((invocation.outcome host).2.report
        (.commandFailed invocation.command.name)).writeOutput s!"[error] {report}") := by
  simp only [conclude, Console.conclude, hfault, reportFault, hreport]

/-- A failure among the items is not: it ends the dispatch after the items before it. -/
theorem conclude_of_late {failure : Failure} (htold : invocation.Told host)
    (hlate : invocation.late? host = some failure) :
    (invocation.conclude host).1 = .error failure := by
  unfold late? at hlate
  unfold Told at htold
  split at hlate
  · next reply hreply =>
      rw [hreply] at htold
      rw [conclude, Console.conclude, hreply]
      cases reply with
      | value value => cases hlate
      | result ok message => cases hlate
      | items items found =>
          obtain rfl : found = some failure := hlate
          exact writeAll_of_writable htold _
  · cases hlate

/-- Code that does not fail late raises while it is called. -/
theorem fault_of_raised {fault : Fault} (hnever : invocation.late? host = none)
    (hraised : invocation.raised? host = some fault) :
    (invocation.outcome host).1 = .error fault := by
  unfold late? at hnever
  unfold raised? at hraised
  split at hraised
  · next reply hreply =>
      simp only [hreply] at hnever
      simp [hnever] at hraised
  · next found hfound => rw [hfound, Option.some.inj hraised]

theorem conclude_answers (htold : invocation.Told host) (hnever : invocation.late? host = none) :
    ∃ answered, (invocation.conclude host).1 = .ok answered := by
  unfold Told at htold
  unfold late? at hnever
  cases hcalled : (invocation.outcome host).1 with
  | error fault =>
      rw [hcalled] at htold
      obtain ⟨text, htext⟩ := htold
      exact ⟨false, by rw [conclude_of_fault hcalled (Fault.report_of_text htext)]⟩
  | ok reply =>
      rw [hcalled] at htold hnever
      simp only [conclude, Console.conclude, hcalled]
      exact emit_answers htold hnever

/-- What cannot be told ends the dispatch. -/
theorem conclude_of_not_told (hnot : ¬invocation.Told host) :
    (invocation.conclude host).1 = .error .unwritable := by
  unfold Told at hnot
  cases hcalled : (invocation.outcome host).1 with
  | error fault =>
      rw [hcalled] at hnot
      simp only [conclude, Console.conclude, hcalled, reportFault,
        Fault.report_of_not_told hnot]
  | ok reply =>
      rw [hcalled] at hnot
      simp only [conclude, Console.conclude, hcalled]
      exact emit_of_not_told hnot

end Invocation

/-- The command that a line calls. -/
def invocation? (c : Console E) (line : String) : Option (Invocation E) :=
  match Text.words line with
  | [] => none
  | name :: args => (c.registry.get? name).map fun command => ⟨c, command, args⟩

/-- The console in which a submitted line is entered. -/
def handedIn (c : Console E) : Console E :=
  let c' := { c with
    input := c.input.take.2
    recalling := false
    history := c.history.scrollToNewest
    output := c.output.scrollToNewest }
  if c.settings.echoInput && !(Text.trim c.input.take.1).isEmpty then
    c'.writeOutput (c.input.prompt ++ c.input.take.1)
  else c'

theorem submit_eq (host : Host E) (c : Console E) :
    c.submit host = c.handedIn.enter host c.input.take.1 := rfl

/-- A call concludes the invocation of its line. -/
theorem call_of_invocation {invocation : Invocation E}
    (hcalls : c.invocation? line = some invocation) :
    c.call host line = invocation.conclude host := by
  unfold invocation? at hcalls
  split at hcalls
  · cases hcalls
  · next name args hwords =>
      obtain ⟨command, hcommand, rfl⟩ := Option.map_eq_some_iff.mp hcalls
      exact call_known hwords hcommand

/-- A line that calls no command is reported at most. -/
theorem call_of_no_invocation (host : Host E) (hnone : c.invocation? line = none) :
    ∃ output journal, c.call host line =
      (.ok false, { c with output := output, journal := journal }) := by
  unfold invocation? at hnone
  split at hnone
  · next hwords => exact ⟨c.output, c.journal, call_blank hwords⟩
  · next name args hwords =>
      obtain ⟨output, journal, hreport⟩ := reportUnknown_changes c name
        (if c.registry.aliases.resolve name = name then none
          else some (c.registry.aliases.resolve name))
      refine ⟨output, journal, ?_⟩
      rw [call_unknown hwords (Option.map_eq_none_iff.mp hnone), hreport]

theorem enter_of_invocation {invocation : Invocation E}
    (hcalls : (c.writeHistory (historyEntry line)).invocation? line = some invocation) :
    c.enter host line = invocation.conclude host := by
  by_cases hwords : Text.words line = []
  · simp [Console.invocation?, hwords] at hcalls
  · rw [enter_of_words hwords]
    exact call_of_invocation hcalls

theorem enter_of_no_invocation (host : Host E)
    (hnone : (c.writeHistory (historyEntry line)).invocation? line = none) :
    ∃ output history journal, c.enter host line =
      (.ok false, { c with output := output, history := history, journal := journal }) := by
  by_cases hwords : Text.words line = []
  · exact ⟨c.output, c.history, c.journal, enter_blank hwords⟩
  · obtain ⟨output, journal, hcall⟩ := call_of_no_invocation host hnone
    exact ⟨output, _, journal, by rw [enter_of_words hwords, hcall]; rfl⟩

/-- The ways to have a line run. -/
inductive Entry where
  | call (line : String)
  | enter (line : String)
  | submit
  | tick

namespace Entry

/-- What an entry answers, and the console after it. -/
def run (host : Host E) (c : Console E) : Entry → Except Failure Bool × Console E
  | call line => c.call host line
  | enter line => c.enter host line
  | submit => c.submit host
  | tick => c.tick host

/-- The command that an entry calls. -/
def invocation? (host : Host E) (c : Console E) : Entry → Option (Invocation E)
  | call line => c.invocation? line
  | enter line => (c.writeHistory (historyEntry line)).invocation? line
  | submit =>
    (c.handedIn.writeHistory (historyEntry c.input.take.1)).invocation? c.input.take.1
  | tick =>
    (c.handover? host).bind fun (line, ready) =>
      (ready.writeHistory (historyEntry line)).invocation? line

/-- What an entry answers after its dispatch has given an answer: a tick answers that it
entered a line. -/
def answer (answered : Bool) : Entry → Bool
  | call _ | enter _ | submit => answered
  | tick => true

/-- Everything that an entry writes of what the code of the program raises or gives back
has a text: the report of a predicate that failed, and what concerns its command. -/
structure Told (host : Host E) (c : Console E) (entry : Entry) : Prop where
  check : entry = tick → ∀ tag failure, (c.tickCheck host).1 = .failed tag failure → failure.Told
  command : ∀ invocation, entry.invocation? host c = some invocation → invocation.Told host

/-- An entry contains what its command raises: it returns normally, and if the code of
the command raised something, its dispatch answers `false` after a report of that. -/
def Contains (host : Host E) (c : Console E) (entry : Entry) : Prop :=
  (∃ answered, (entry.run host c).1 = .ok answered) ∧
  ∀ invocation fault, entry.invocation? host c = some invocation →
    invocation.raised? host = some fault →
      ∃ (report : String) (before : Console E), fault.report = .ok report ∧
        entry.run host c =
          (.ok (entry.answer false), before.writeOutput s!"[error] {report}")

theorem map_answer {entry : Entry} (hdirect : ∀ answered, entry.answer answered = answered)
    (result : Except Failure Bool) : result.map (entry.answer ·) = result := by
  cases result with
  | ok answered => simp [Except.map, hdirect]
  | error failure => rfl

/-- An entry that calls a command concludes its invocation. -/
theorem run_of_invocation {entry : Entry} {invocation : Invocation E}
    (hcalls : entry.invocation? host c = some invocation) :
    entry.run host c = ((invocation.conclude host).1.map (entry.answer ·),
      (invocation.conclude host).2) := by
  cases entry with
  | call line =>
      rw [map_answer fun _ => rfl, run, call_of_invocation hcalls]
  | enter line =>
      rw [map_answer fun _ => rfl, run, enter_of_invocation hcalls]
  | submit =>
      rw [map_answer fun _ => rfl, run, submit_eq, enter_of_invocation hcalls]
  | tick =>
      obtain ⟨⟨line, ready⟩, hready, hline⟩ := Option.bind_eq_some_iff.mp hcalls
      rw [← enter_of_invocation hline]
      exact tick_of_handover hready

/-- Any other entry returns normally, unless it has to tell of a predicate what cannot be
told. -/
theorem run_of_no_invocation {entry : Entry} (hnone : entry.invocation? host c = none)
    (hcheck : entry = tick →
      ∀ tag failure, (c.tickCheck host).1 = .failed tag failure → failure.Told) :
    ∃ answered, (entry.run host c).1 = .ok answered := by
  cases entry with
  | call line =>
      obtain ⟨output, journal, hcall⟩ := call_of_no_invocation host hnone
      exact ⟨false, by rw [run, hcall]⟩
  | enter line =>
      obtain ⟨output, history, journal, henter⟩ := enter_of_no_invocation host hnone
      exact ⟨false, by rw [run, henter]⟩
  | submit =>
      obtain ⟨output, history, journal, henter⟩ := enter_of_no_invocation host hnone
      exact ⟨false, by rw [run, submit_eq, henter]⟩
  | tick =>
      -- The queued line may be blank or call no command, which is still an entered line.
      cases hready : c.handover? host with
      | none =>
          exact ⟨false, by rw [run, tick_of_no_handover hready, answerCheck_of_told (hcheck rfl)]⟩
      | some queued =>
          obtain ⟨line, ready⟩ := queued
          simp only [invocation?, hready, Option.bind_some] at hnone
          obtain ⟨output, history, journal, henter⟩ := enter_of_no_invocation host hnone
          exact ⟨true, by rw [run, tick_of_handover hready, henter]; rfl⟩

/-- An entry that can tell everything returns normally, unless its command fails late. -/
theorem run_answers {entry : Entry} (htold : entry.Told host c)
    (hnever : ∀ invocation, entry.invocation? host c = some invocation →
      invocation.late? host = none) :
    ∃ answered, (entry.run host c).1 = .ok answered := by
  cases hcalls : entry.invocation? host c with
  | none => exact run_of_no_invocation hcalls htold.check
  | some invocation =>
      obtain ⟨answered, hanswer⟩ :=
        Invocation.conclude_answers (htold.command invocation hcalls) (hnever invocation hcalls)
      exact ⟨entry.answer answered, by rw [run_of_invocation hcalls, hanswer]; rfl⟩

/-- What cannot be told escapes from the entry that has to tell it. -/
theorem run_of_not_told {entry : Entry} (hnot : ¬entry.Told host c) :
    (entry.run host c).1 = .error .unwritable := by
  by_cases hcommand : ∀ invocation, entry.invocation? host c = some invocation →
      invocation.Told host
  · -- Only the check of a tick is left to tell of something.
    have hcheck : ¬(entry = tick →
        ∀ tag failure, (c.tickCheck host).1 = .failed tag failure → failure.Told) :=
      fun hcheck => hnot ⟨hcheck, hcommand⟩
    simp only [not_forall] at hcheck
    obtain ⟨rfl, tag, failure, hfailed, huntold⟩ := hcheck
    have hidle : (c.tickCheck host).1.isRunning = false := by
      rw [hfailed]
      rfl
    rw [run, tick_idle hidle, hfailed]
    exact answerCheck_of_not_told huntold
  · simp only [not_forall] at hcommand
    obtain ⟨invocation, hcalls, huntold⟩ := hcommand
    rw [run_of_invocation hcalls, Invocation.conclude_of_not_told huntold]
    rfl

/-- A failure among the items of a reply that can be told escapes. -/
theorem run_of_late {entry : Entry} {invocation : Invocation E} {failure : Failure}
    (htold : entry.Told host c) (hcalls : entry.invocation? host c = some invocation)
    (hlate : invocation.late? host = some failure) :
    (entry.run host c).1 = .error failure := by
  rw [run_of_invocation hcalls,
    Invocation.conclude_of_late (htold.command invocation hcalls) hlate]
  rfl

theorem not_contains_of_error {entry : Entry} {failure : Failure}
    (hescapes : (entry.run host c).1 = .error failure) : ¬ entry.Contains host c := by
  rintro ⟨⟨answered, hanswer⟩, -⟩
  rw [hescapes] at hanswer
  cases hanswer

/-- **Containment.**  An entry contains what its command raises exactly when everything that
it has to write has a text and no failure ends the items of the command's reply. -/
theorem contains_iff (host : Host E) (c : Console E) (entry : Entry) :
    entry.Contains host c ↔
      entry.Told host c ∧ ∀ invocation, entry.invocation? host c = some invocation →
        invocation.late? host = none := by
  constructor
  · -- What the entry cannot write, and a late failure, is what it ends with.
    intro hcontains
    have htold : entry.Told host c := by
      by_contra hnot
      exact not_contains_of_error (run_of_not_told hnot) hcontains
    refine ⟨htold, ?_⟩
    intro invocation hcalls
    by_contra hlate
    obtain ⟨failure, hfailure⟩ := Option.ne_none_iff_exists'.mp hlate
    exact not_contains_of_error (run_of_late htold hcalls hfailure) hcontains
  · rintro ⟨htold, hnever⟩
    refine ⟨run_answers htold hnever, ?_⟩
    intro invocation fault hcalls hraised
    -- What is raised without a late failure is raised by the call.
    have hfault := Invocation.fault_of_raised (hnever invocation hcalls) hraised
    have hcommand := htold.command invocation hcalls
    rw [Invocation.Told, hfault] at hcommand
    obtain ⟨text, htext⟩ := hcommand
    have hreport := Fault.report_of_text htext
    rw [run_of_invocation hcalls, Invocation.conclude_of_fault hfault hreport]
    exact ⟨_, _, hreport, rfl⟩

/-- A program whose one callback gives back a line and fails before the next. -/
def lateHost : Host ⟨Unit, Empty, Unit⟩ where
  call := fun _ _ c =>
    (.ok (.items [.text "one"] (some (.raised "RuntimeError" [.text "late"]))), c)
  ask := fun handle => nomatch handle

/-- Its console, with the command of the callback typed and queued. -/
def lateConsole : Console ⟨Unit, Empty, Unit⟩ :=
  (fresh ()).after lateHost [
    .register
      { name := "gen", help := "", usage := "", category := Command.generalCategory,
        aliases := [], origin := "", action := .callback () },
    .setText "gen",
    .append "gen"]

theorem not_contains_late :
    ¬ (call "gen").Contains lateHost lateConsole ∧
      ¬ (enter "gen").Contains lateHost lateConsole ∧
      ¬ submit.Contains lateHost lateConsole ∧ ¬ tick.Contains lateHost lateConsole := by
  have hescapes : ∀ entry ∈ [call "gen", enter "gen", submit, tick],
      (entry.run lateHost lateConsole).1 = .error (.raised "RuntimeError" [.text "late"]) := by
    intro entry hentry
    simp only [List.mem_cons, List.not_mem_nil, or_false] at hentry
    rcases hentry with rfl | rfl | rfl | rfl <;> rfl
  refine ⟨?_, ?_, ?_, ?_⟩
  all_goals exact not_contains_of_error (hescapes _ (by simp))

end Entry

end Console
end DevConsole
