import DevConsole.Proofs.Console.Creation
import DevConsole.Proofs.Console.Entry
import DevConsole.Proofs.ScrollLog.Refinement
import Mathlib.Data.List.Forall2

/-!
# What the history holds

Lines come into the history when they are entered: by the program, from the input line,
from the queue, or by a callback that runs.  What becomes of the line has no say in this,
nor has anything that scrolls, recalls, edits or writes output.  So the history is the
newest part of all lines entered since it was last dropped (`history_is_tail`).
-/

namespace DevConsole

namespace ScrollLog

/-- The lines written since the last clear, after one more operation. -/
def Op.record (written : List String) : Op → List String
  | .write line => written ++ [line]
  | .clear => []
  | .scroll _ | .scrollToNewest => written

theorem Op.foldl_record_writes (lines : List String) :
    ∀ written, (lines.map Op.write).foldl Op.record written = written ++ lines := by
  induction lines with
  | nil => exact fun written => (List.append_nil written).symm
  | cons line rest ih =>
      intro written
      rw [List.map_cons, List.foldl_cons, ih, Op.record, List.append_assoc,
        List.singleton_append]

theorem after_append (log : ScrollLog) (first second : List Op) :
    log.after (first ++ second) = (log.after first).after second :=
  List.foldl_append

theorem after_writes (log : ScrollLog) (lines : List String) :
    log.after (lines.map .write) = lines.foldl ScrollLog.write log := by
  rw [after, List.foldl_map]
  rfl

/-- The log holds the newest of the lines written to it, as many as fit. -/
structure Keeps (capacity : Nat) (log : ScrollLog) (written : List String) : Prop where
  capacity_eq : log.capacity = capacity
  lines_eq : log.lines = written.drop (written.length - capacity)

namespace Keeps

variable {capacity : Nat} {log next : ScrollLog} {written : List String}

theorem empty (hcapacity : log.capacity = capacity) (hlines : log.lines = []) :
    Keeps capacity log [] :=
  ⟨hcapacity, by rw [hlines, List.drop_nil]⟩

/-- The cursor does not matter. -/
theorem of_same (hkeeps : Keeps capacity log written)
    (hcapacity : next.capacity = log.capacity) (hlines : next.lines = log.lines) :
    Keeps capacity next written :=
  ⟨hcapacity.trans hkeeps.capacity_eq, hlines.trans hkeeps.lines_eq⟩

theorem write (hkeeps : Keeps capacity log written) (hpos : 0 < capacity) (line : String) :
    Keeps capacity (log.write line) (written ++ [line]) := by
  refine ⟨hkeeps.capacity_eq, ?_⟩
  -- The reference with these lines drops the same line, wherever its cursor is.
  have hnewest := Simulates.surviving_write hpos ⟨written, .following⟩ line
  have hfull : log.lines.length = log.capacity ↔ capacity ≤ written.length := by
    rw [hkeeps.lines_eq, hkeeps.capacity_eq, List.length_drop]
    omega
  simp only [UnboundedLog.surviving, UnboundedLog.oldest, UnboundedLog.write] at hnewest
  simp only [ScrollLog.write, hfull]
  rw [hnewest, hkeeps.lines_eq]

theorem apply (hkeeps : Keeps capacity log written) (hpos : 0 < capacity) (op : Op) :
    Keeps capacity (log.apply op) (op.record written) := by
  cases op with
  | write line => exact hkeeps.write hpos line
  | clear => exact .empty hkeeps.capacity_eq rfl
  | scroll up =>
      have hcapacity : (log.scroll up).2.capacity = log.capacity := by
        unfold ScrollLog.scroll
        split <;> rfl
      exact hkeeps.of_same hcapacity (scroll_lines log up)
  | scrollToNewest => exact hkeeps.of_same rfl rfl

theorem after (hpos : 0 < capacity) (ops : List Op) :
    ∀ {log : ScrollLog} {written : List String}, Keeps capacity log written →
      Keeps capacity (log.after ops) (ops.foldl Op.record written) := by
  induction ops with
  | nil => exact fun hkeeps => hkeeps
  | cons op rest ih => exact fun hkeeps => ih (hkeeps.apply hpos op)

theorem writes (hkeeps : Keeps capacity log written) (hpos : 0 < capacity)
    (lines : List String) :
    Keeps capacity (lines.foldl ScrollLog.write log) (written ++ lines) := by
  have hwritten := hkeeps.after hpos (lines.map .write)
  rwa [after_writes, Op.foldl_record_writes] at hwritten

end Keeps
end ScrollLog

namespace Console

open ScrollLog (Keeps)

variable {E : Embedding} {host : Host E} {c : Console E}

/-! ## Entries of the history -/

/-- The text is the line without the carriage returns and line feeds at its end. -/
def Unterminated (line text : String) : Prop :=
  ∃ ending, line.toList = text.toList ++ ending ∧
    (∀ ch ∈ ending, ch = '\r' ∨ ch = '\n') ∧
    ∀ ch ∈ text.toList.getLast?, ch ≠ '\r' ∧ ch ≠ '\n'

theorem unterminated_historyEntry (line : String) :
    Unterminated line (historyEntry line) := by
  unfold Unterminated historyEntry
  rw [String.toList_ofList]
  refine ⟨_, (Text.Chars.trimEnd_append_reverse_takeWhile _ line.toList).symm, ?_, ?_⟩
  · intro ch hch
    have hends := List.mem_takeWhile_imp (List.mem_reverse.mp hch)
    simpa using hends
  · intro ch hch
    rw [Text.Chars.trimEnd, List.getLast?_reverse] at hch
    have hstays := List.head?_dropWhile_not (fun c => c == '\r' || c == '\n') line.toList.reverse
    rw [Option.mem_def.mp hch] at hstays
    simpa using hstays

/-- What lines leave in the history when they are entered one after the other. -/
def entriesOf (lines : List String) : List String :=
  (lines.filter fun line => !Text.isAllBlank line).map historyEntry

@[simp] theorem entriesOf_nil : entriesOf [] = [] := rfl

theorem entriesOf_append (first second : List String) :
    entriesOf (first ++ second) = entriesOf first ++ entriesOf second := by
  simp only [entriesOf, List.filter_append, List.map_append]

theorem recorded_history (c : Console E) (line : String) :
    (c.recorded line).history = (entriesOf [line]).foldl ScrollLog.write c.history := by
  by_cases hwords : Text.words line = []
  · have hblank : Text.isAllBlank line = true := Text.isAllBlank_iff.mpr hwords
    simp [recorded, entriesOf, hwords, hblank]
  · have hkept : Text.isAllBlank line = false := by
      rw [Bool.eq_false_iff, Ne, Text.isAllBlank_iff]
      exact hwords
    simp [recorded, entriesOf, hwords, hkept, writeHistory]

/-! ## What is entered -/

/-- The line that an entry hands over. -/
def Entry.line? (host : Host E) (c : Console E) : Entry → Option String
  | call _ => none
  | enter line => some line
  | submit => some c.input.take.1
  | tick => (c.handover? host).map Prod.fst

/-- The history in which the command of an entry runs has the line of the entry.  Handing in
the input line also puts the cursor on the newest entry. -/
theorem Entry.site_history (host : Host E) (c : Console E) (entry : Entry) :
    (entry.site host c).history =
      (entriesOf (entry.line? host c).toList).foldl ScrollLog.write
        (match entry with
          | .submit => c.history.scrollToNewest
          | _ => c.history) := by
  cases entry with
  | call line => rfl
  | enter line => exact recorded_history c line
  | submit =>
      have hhanded : c.handedIn.history = c.history.scrollToNewest := by
        unfold handedIn
        dsimp only
        split <;> rfl
      simp only [site, recorded_history, line?, Option.toList_some, hhanded]
  | tick =>
      have hchecked : (c.tickCheck host).2.history = c.history := poll_history host _
      simp only [site, line?]
      cases hready : c.handover? host with
      | some queued =>
          obtain ⟨line, ready⟩ := queued
          obtain ⟨-, rest, -, rfl⟩ := handover_eq_some_iff.mp hready
          simp only [recorded_history, Option.map_some, Option.toList_some, hchecked]
      | none => exact (reportCheck_history _ _).trans hchecked

variable {entering : E.Callback → List String → Console E → List String}

/-- Whether the command of an invocation is the one that drops the history. -/
def Invocation.clears (invocation : Invocation E) : Bool :=
  match invocation.command.action with
  | .builtin command => decide (command = .clearhist)
  | .callback _ => false

/-- The lines that the command of an invocation enters, if it is a callback, by what
`entering` says of callbacks. -/
def Invocation.entered (entering : E.Callback → List String → Console E → List String)
    (invocation : Invocation E) : List String :=
  match invocation.command.action with
  | .builtin _ => []
  | .callback handle =>
    entering handle invocation.args
      (invocation.console.report (.dispatched invocation.command.name invocation.args))

/-- What the command of an invocation does to the history is what entering lines does, if it
is a callback.  The cursor it may move. -/
def Invocation.EntersOnly (host : Host E)
    (entering : E.Callback → List String → Console E → List String)
    (invocation : Invocation E) : Prop :=
  ∀ handle, invocation.command.action = .callback handle →
    let entered := (entriesOf (invocation.entered entering)).foldl ScrollLog.write
      invocation.console.history
    (invocation.outcome host).2.history.capacity = entered.capacity ∧
      (invocation.outcome host).2.history.lines = entered.lines

/-- The invocation that a step leads to. -/
def Step.invocation? (host : Host E) (c : Console E) (step : Step E) : Option (Invocation E) :=
  step.entry?.bind fun entry => entry.invocation? host c

/-- Whether a step drops the history, by itself or through the command of a line. -/
def Step.clears (host : Host E) (c : Console E) : Step E → Bool
  | .clearHistory | .reset => true
  | step => (step.invocation? host c).any Invocation.clears

/-- The lines that a step enters: that of its entry, and those of a callback that it runs. -/
def Step.entered (host : Host E)
    (entering : E.Callback → List String → Console E → List String) (c : Console E)
    (step : Step E) : List String :=
  (step.entry?.bind fun entry => entry.line? host c).toList ++
    (step.invocation? host c).elim [] (Invocation.entered entering)

/-- The lines entered since the history was last dropped, from those entered before. -/
def enteredSince (host : Host E)
    (entering : E.Callback → List String → Console E → List String) :
    List String → Console E → List (Step E) → List String
  | before, _, [] => before
  | before, c, step :: rest =>
    enteredSince host entering
      (if step.clears host c then [] else before ++ step.entered host entering c)
      (step.apply host c) rest

/-! ## What a step does to the history -/

theorem Invocation.history_of_builtin (host : Host E) {invocation : Invocation E}
    {command : Builtin} (haction : invocation.command.action = .builtin command) :
    (invocation.outcome host).2.history = (if command = .clearhist
        then invocation.console.history.clear else invocation.console.history) ∧
      (invocation.outcome host).2.recalling = (if command = .clearhist then false
        else invocation.console.recalling) := by
  simp only [outcome, Console.outcome, invoke, haction]
  exact command.run_history invocation.args
    (invocation.console.report (.dispatched invocation.command.name invocation.args))

theorem Invocation.outcome_keeps {capacity : Nat} (hpos : 0 < capacity)
    {invocation : Invocation E} (henters : invocation.EntersOnly host entering)
    {written : List String} (hkeeps : Keeps capacity invocation.console.history written) :
    Keeps capacity (invocation.outcome host).2.history
      (if invocation.clears then []
        else written ++ entriesOf (invocation.entered entering)) := by
  cases haction : invocation.command.action with
  | builtin command =>
      rw [(history_of_builtin host haction).1]
      simp only [clears, entered, haction]
      by_cases hclears : command = .clearhist
      · simp only [hclears, decide_true, if_true]
        exact .empty hkeeps.capacity_eq rfl
      · simp only [hclears, decide_false, Bool.false_eq_true, if_false]
        rw [entriesOf_nil, List.append_nil]
        exact hkeeps
  | callback handle =>
      obtain ⟨hcapacity, hlines⟩ := henters handle haction
      simp only [clears, haction, Bool.false_eq_true, if_false]
      exact (hkeeps.writes hpos _).of_same hcapacity hlines

theorem Entry.site_keeps {capacity : Nat} (hpos : 0 < capacity) (host : Host E) (entry : Entry)
    {written : List String} (hkeeps : Keeps capacity c.history written) :
    Keeps capacity (entry.site host c).history
      (written ++ entriesOf (entry.line? host c).toList) := by
  rw [site_history]
  refine Keeps.writes ?_ hpos _
  cases entry with
  | submit => exact hkeeps.of_same rfl rfl
  | call | enter | tick => exact hkeeps

theorem Entry.run_keeps {capacity : Nat} (hpos : 0 < capacity) {entry : Entry}
    (henters : ∀ invocation, entry.invocation? host c = some invocation →
      invocation.EntersOnly host entering)
    {written : List String} (hkeeps : Keeps capacity c.history written) :
    Keeps capacity (entry.run host c).2.history
      (if (entry.invocation? host c).any Invocation.clears then []
        else written ++ entriesOf ((entry.line? host c).toList ++
          (entry.invocation? host c).elim [] (Invocation.entered entering))) := by
  obtain ⟨output, journal, hnext⟩ := entry.run_changes host c
  have hsite := entry.site_keeps hpos host hkeeps
  rw [hnext, afterCommand]
  cases hcalls : entry.invocation? host c with
  | none =>
      simp only [Option.any_none, Bool.false_eq_true, if_false, Option.elim_none, List.append_nil]
      exact hsite
  | some invocation =>
      rw [← console_eq_site hcalls] at hsite
      have houtcome := Invocation.outcome_keeps hpos (henters invocation hcalls) hsite
      simp only [Option.any_some, Option.elim_some, entriesOf_append]
      rwa [List.append_assoc] at houtcome

/-! ## Steps that have no line run -/

/-- What stepping through the history does to its cursor. -/
def recallOps (c : Console E) (up : Bool) : List ScrollLog.Op :=
  if c.history.lines.isEmpty then []
  else if !c.recalling then if up then [.scrollToNewest] else []
  else if !up && c.history.following then []
  else [.scroll up]

theorem scrollHistory_history (c : Console E) (up : Bool) :
    (c.scrollHistory up).2.history = c.history.after (c.recallOps up) := by
  unfold scrollHistory recallOps
  split
  · rfl
  split
  · split <;> rfl
  split
  · rfl
  · dsimp only
    split <;> rfl

/-- What a step does to the history if it has no line run. -/
def Step.historyOps (c : Console E) : Step E → List ScrollLog.Op
  | .writeHistory line => [.write line]
  | .clearHistory | .reset => [.clear]
  | .scrollHistory up => c.recallOps up
  | _ => []

theorem Step.apply_history (host : Host E) (c : Console E) {step : Step E}
    (hdirect : step.entry? = none) :
    (step.apply host c).history = c.history.after (step.historyOps c) := by
  cases hconcerns : step.concernsHistory with
  | false =>
      have hnone : step.historyOps c = [] := by
        cases step with
        | writeHistory | clearHistory | scrollHistory | reset => cases hconcerns
        | _ => rfl
      rw [hnone]
      exact (step.frame host c hdirect).history hconcerns
  | true =>
      cases step with
      | scrollHistory up => exact scrollHistory_history c up
      | reset =>
          obtain ⟨journal, hnext⟩ := abortScript_changes c
          rw [apply, Console.reset, hnext]
          rfl
      | writeHistory | clearHistory => rfl
      | _ => cases hconcerns

/-- Stepping through the history writes nothing. -/
theorem foldl_record_recallOps (c : Console E) (up : Bool) (written : List String) :
    (c.recallOps up).foldl ScrollLog.Op.record written = written := by
  unfold recallOps
  split
  · rfl
  split
  · split <;> rfl
  split <;> rfl

theorem Step.direct_keeps {capacity : Nat} (hpos : 0 < capacity) (host : Host E)
    {step : Step E} (hdirect : step.entry? = none)
    (hsilent : ∀ line, step ≠ .writeHistory line) {written : List String}
    (hkeeps : Keeps capacity c.history written) :
    Keeps capacity (step.apply host c).history
      (if step.clears host c then [] else written) := by
  have hrecorded : (step.historyOps c).foldl ScrollLog.Op.record written =
      if step.clears host c then [] else written := by
    cases step with
    | submit | enter | call | tick => cases hdirect
    | writeHistory line => exact absurd rfl (hsilent line)
    | scrollHistory up => exact foldl_record_recallOps c up written
    | _ => rfl
  rw [apply_history host c hdirect, ← hrecorded]
  exact hkeeps.after hpos _

/-! ## Runs -/

/-- The step writes to the history by entering lines only: the program does not write to it
directly, and neither does a callback that the step runs. -/
def Step.EntersOnly (host : Host E)
    (entering : E.Callback → List String → Console E → List String) (c : Console E)
    (step : Step E) : Prop :=
  (∀ line, step ≠ .writeHistory line) ∧
    ∀ invocation, step.invocation? host c = some invocation →
      invocation.EntersOnly host entering

theorem Step.apply_keeps {capacity : Nat} (hpos : 0 < capacity) {step : Step E}
    (henters : step.EntersOnly host entering c) {before : List String}
    (hkeeps : Keeps capacity c.history (entriesOf before)) :
    Keeps capacity (step.apply host c).history
      (entriesOf (if step.clears host c then []
        else before ++ step.entered host entering c)) := by
  obtain ⟨hsilent, hcallback⟩ := henters
  cases hentry : step.entry? with
  | none =>
      have hnothing : step.entered host entering c = [] := by
        simp [entered, Step.invocation?, hentry]
      have hnext := direct_keeps hpos host hentry hsilent hkeeps
      rw [hnothing, List.append_nil]
      split at hnext <;> next hclears => simpa [hclears] using hnext
  | some entry =>
      have hinvocation : step.invocation? host c = entry.invocation? host c := by
        rw [Step.invocation?, hentry, Option.bind_some]
      have hclears : step.clears host c = (entry.invocation? host c).any Invocation.clears := by
        cases step <;> cases hentry <;> rfl
      rw [hinvocation] at hcallback
      have hnext := Entry.run_keeps hpos hcallback hkeeps
      rw [apply_of_entry host c hentry, hclears]
      simp only [entered, hinvocation, hentry, Option.bind_some]
      split at hnext <;> next hdropped => simpa [hdropped, entriesOf_append] using hnext

theorem after_keeps {capacity : Nat} (hpos : 0 < capacity) (steps : List (Step E)) :
    ∀ (c : Console E) (before : List String), Keeps capacity c.history (entriesOf before) →
      Along host (Step.EntersOnly host entering) c steps →
      Keeps capacity (c.after host steps).history
        (entriesOf (enteredSince host entering before c steps)) := by
  induction steps with
  | nil => exact fun c before hkeeps _ => hkeeps
  | cons step rest ih =>
      intro c before hkeeps halong
      obtain ⟨hstep, hrest⟩ := halong
      exact ih _ _ (Step.apply_keeps hpos hstep hkeeps) hrest

/-- A console begins with an empty history. -/
theorem keeps_of_create {settings : Settings} {source : LineSource} {world : E.World}
    {start : Console E} (hstart : create settings source world = .ok start) :
    0 < settings.maxHistoryLines ∧ Keeps settings.maxHistoryLines start.history [] := by
  obtain ⟨hsizes, -, rfl⟩ := create_eq_ok_iff.mp hstart
  exact ⟨hsizes.history, .empty rfl rfl⟩

/-- **The history is the tail of what was entered.**  Take a console that was created with
some settings, and a run in which nothing but entered lines comes into the history, by the
program or by its callbacks.  Of the lines entered since the history was last dropped, those
that are not blank leave an entry each, without the carriage returns and line feeds at
their ends.  The history is the newest of these entries, as many as the settings allow,
whatever became of the lines. -/
theorem history_is_tail (host : Host E)
    (entering : E.Callback → List String → Console E → List String) {settings : Settings}
    {source : LineSource} {world : E.World} {start : Console E}
    (hstart : create settings source world = .ok start) {steps : List (Step E)}
    (hsteps : Along host (Step.EntersOnly host entering) start steps) :
    ∃ entries,
      List.Forall₂ Unterminated
        ((enteredSince host entering [] start steps).filter (!Text.isAllBlank ·)) entries ∧
      (start.after host steps).history.lines =
        entries.drop (entries.length - settings.maxHistoryLines) := by
  obtain ⟨hpos, hempty⟩ := keeps_of_create hstart
  have hkeeps := after_keeps hpos steps start [] hempty hsteps
  refine ⟨_, ?_, hkeeps.lines_eq⟩
  rw [entriesOf, List.forall₂_map_right_iff, List.forall₂_same]
  exact fun line _ => unterminated_historyEntry line

/-- Callbacks that leave the history alone enter nothing. -/
theorem Step.entersOnly_of_untouched {step : Step E}
    (huntouched : ∀ handle args c, (host.call handle args c).2.history = c.history)
    (hsilent : ∀ line, step ≠ .writeHistory line) (c : Console E) :
    step.EntersOnly host (fun _ _ _ => []) c := by
  refine ⟨hsilent, ?_⟩
  intro invocation _ handle haction
  have hsame : (invocation.outcome host).2.history = invocation.console.history := by
    simp only [Invocation.outcome, outcome, invoke, haction, huntouched]
    rfl
  simp only [Invocation.entered, haction, hsame]
  exact ⟨rfl, rfl⟩

/-- A console whose history holds two lines. -/
def forgetful : Console ⟨Unit, Empty, Unit⟩ :=
  { fresh () with
    settings := { Settings.default with maxHistoryLines := 2 }
    history := ScrollLog.fresh 2 }

/-- Lines that are dropped, fail, are blank, miss and succeed, from all sources. -/
def forgetfulSteps : List (Step ⟨Unit, Empty, Unit⟩) := [
  .registerAll "" [
    { name := "gen", help := "", usage := "", category := Command.generalCategory,
      aliases := [], origin := "", action := .callback () },
    Builtin.define "" "clearhist" "" "" [] .clearhist,
    Builtin.define "" "quit" "" "" [] .quit],
  .enter "old",
  .enter "clearhist",
  .enter "gen\r\n",
  .enter " \t",
  .scrollHistory true,
  .setText "miss  ",
  .submit,
  .append "quit\r",
  .tick,
  .scrollHistory true,
  .scrollHistory true,
  .complete]

theorem history_is_tail_of_mixed_fates :
    (forgetful.after Entry.lateHost forgetfulSteps).history.lines = ["miss  ", "quit"] ∧
      ∃ entries, List.Forall₂ Unterminated ["gen\r\n", "miss  ", "quit\r"] entries ∧
        (forgetful.after Entry.lateHost forgetfulSteps).history.lines =
          entries.drop (entries.length - 2) := by
  have hstart : create { Settings.default with maxHistoryLines := 2 } (.ofScripts []) () =
      .ok forgetful := rfl
  have hsteps : Along Entry.lateHost (Step.EntersOnly Entry.lateHost fun _ _ _ => [])
      forgetful forgetfulSteps := by
    refine along_of_forall (fun step hstep c => ?_) forgetful
    refine Step.entersOnly_of_untouched (fun _ _ _ => rfl) ?_ c
    rintro line rfl
    simp [forgetfulSteps] at hstep
  obtain ⟨entries, hentries, hlines⟩ :=
    history_is_tail Entry.lateHost (fun _ _ _ => []) hstart hsteps
  have hentered : (enteredSince Entry.lateHost (fun _ _ _ => []) [] forgetful
      forgetfulSteps).filter (!Text.isAllBlank ·) = ["gen\r\n", "miss  ", "quit\r"] := by
    decide +kernel
  rw [hentered] at hentries
  exact ⟨by decide +kernel, entries, hentries, hlines⟩

end Console
end DevConsole
