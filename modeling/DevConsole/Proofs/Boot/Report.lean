import DevConsole.Boot
import DevConsole.Proofs.Console.History
import DevConsole.Proofs.Settings.Refusals

/-!
# What a boot reports

A boot is made of parts.  From a report in which no line tells of a failed step, a part leads to
such a report, or it fails and says so in the last line, or it fails without a line
(`Part.Meets`).  This holds of each part by itself, and of parts one after the other
(`Part.Meets.bind`).

There are three ways to fail without a line (`Escapes`): a bound of the console has too many digits
to be written; the import of a command package raises what cannot be told; or the source of the
script for the start fails, and not because the script cannot be read.  Main statement
(`run_reported_iff`): except for these three, a boot ends with a console and the report of a
completed boot, or with a fault that the last line of its report names.
-/

namespace DevConsole.Boot

/-! ## Lines -/

/-- How the text of a line that tells of a failed step starts. -/
def failureStart : String := "\x1b[31m[FAILED] "

/-- A text tells of a failed step. -/
def IsFailure (text : String) : Prop :=
  failureStart.toList <+: text.toList

/-- No line of a report tells of a failed step. -/
def Clean (report : List Line) : Prop :=
  ∀ line ∈ report, ¬IsFailure line.text

theorem text_done (label : String) :
    (Line.done label).text = "\x1b[32m[  OK  ] " ++ label ++ "\x1b[0m" := by
  have hgreen : ∀ text, Ansi.colorize text ["green"] = "\x1b[32m" ++ text ++ "\x1b[0m" :=
    fun _ => rfl
  rw [Line.text, hgreen]
  apply String.toList_inj.mp
  simp [toString]

theorem text_warning (text : String) :
    (Line.warning text).text = "\x1b[33m[ WARN ] " ++ text ++ "\x1b[0m" := by
  have hyellow : ∀ text, Ansi.colorize text ["yellow"] = "\x1b[33m" ++ text ++ "\x1b[0m" :=
    fun _ => rfl
  rw [Line.text, hyellow]
  apply String.toList_inj.mp
  simp [toString]

theorem text_failed (label kind reason : String) :
    (Line.failed label kind reason).text =
      failureStart ++ label ++ " (" ++ kind ++ ": " ++ reason ++ ")\x1b[0m" := by
  have hred : ∀ text, Ansi.colorize text ["red"] = "\x1b[31m" ++ text ++ "\x1b[0m" :=
    fun _ => rfl
  rw [Line.text, hred]
  apply String.toList_inj.mp
  simp [toString, failureStart]

theorem not_isFailure_done (label : String) : ¬IsFailure (Line.done label).text := by
  rw [text_done]
  simp [IsFailure, failureStart]

theorem not_isFailure_warning (text : String) : ¬IsFailure (Line.warning text).text := by
  rw [text_warning]
  simp [IsFailure, failureStart]

theorem Clean.append {report : List Line} (hclean : Clean report) {line : Line}
    (hline : ¬IsFailure line.text) : Clean (report ++ [line]) := by
  intro other hother
  rcases List.mem_append.mp hother with hbefore | hlast
  · exact hclean other hbefore
  · obtain rfl := List.mem_singleton.mp hlast
    exact hline

theorem Clean.append_done {report : List Line} (hclean : Clean report) (label : String) :
    Clean (report ++ [Line.done label]) :=
  hclean.append (not_isFailure_done label)

/-! ## Parts -/

/-- The fault has a text. -/
def Fault.Told (fault : Fault) : Prop :=
  ∃ text, fault.text = .ok text

/-- The last line of a report is the only one that tells of a failed step. It names the kind and
the words of the fault. -/
def TellsOf (fault : Fault) (report : List Line) : Prop :=
  ∃ before last label text, report = before ++ [last] ∧ Clean before ∧ fault.text = .ok text ∧
    last.text = failureStart ++ label ++ " (" ++ fault.kind ++ ": " ++ text ++ ")\x1b[0m"

theorem TellsOf.not_clean {fault : Fault} {report : List Line} (htells : TellsOf fault report) :
    ¬Clean report := by
  intro hclean
  obtain ⟨before, last, label, text, rfl, -, -, htext⟩ := htells
  refine hclean last (by simp) ?_
  rw [htext]
  simp [IsFailure, String.append_assoc]

namespace Part

/-- How a part of a boot may end after a report that tells of no failed step: with a result that
`post` allows and such a report; with a fault that the report tells of; or, if `silent` allows it,
with a fault that the report does not tell of. -/
structure Meets {α : Type} (part : Part α) (post : α → List Line → Prop) (silent : Prop) :
    Prop where
  ends : ∀ report, Clean report →
    match part report with
    | (.ok a, next) => Clean next ∧ post a next
    | (.error fault, next) => TellsOf fault next ∨ Clean next ∧ silent

theorem bind_apply {α β : Type} (part : Part α) (next : α → Part β) (report : List Line) :
    (part >>= next) report =
      match part report with
      | (.ok a, report) => next a report
      | (.error fault, report) => (.error fault, report) :=
  rfl

namespace Meets

variable {α β : Type} {silent : Prop}

theorem pure {post : α → List Line → Prop} {a : α} (hpost : ∀ report, post a report) :
    Meets (Pure.pure a : Part α) post silent :=
  ⟨fun report hclean => ⟨hclean, hpost report⟩⟩

theorem abandon {post : α → List Line → Prop} {fault : Fault} (hsilent : silent) :
    Meets (Part.abandon fault : Part α) post silent :=
  ⟨fun _ hclean => .inr ⟨hclean, hsilent⟩⟩

theorem step {post : α → List Line → Prop} {label : String} {result : Except Fault α}
    (hpost : ∀ a, result = .ok a → ∀ report, post a report)
    (huntold : ∀ fault, result = .error fault → ¬fault.Told → silent) :
    Meets (Part.step label result) post silent := by
  refine ⟨fun report hclean => ?_⟩
  cases result with
  | ok a => exact ⟨hclean.append_done label, hpost a rfl _⟩
  | error fault =>
      unfold Part.step
      dsimp only
      cases htext : fault.text with
      | ok text => exact .inl ⟨report, _, label, text, rfl, hclean, htext, text_failed _ _ _⟩
      | error other =>
          have hnot : ¬fault.Told := by
            rintro ⟨text, hsome⟩
            cases htext.symm.trans hsome
          exact .inr ⟨hclean, huntold fault rfl hnot⟩

/-- A step whose faults all have a text tells of each. -/
theorem told_step {post : α → List Line → Prop} {label : String} {result : Except Fault α}
    (hpost : ∀ a, result = .ok a → ∀ report, post a report)
    (htold : ∀ fault, result = .error fault → fault.Told) :
    Meets (Part.step label result) post silent :=
  .step hpost fun fault hfault hnot => absurd (htold fault hfault) hnot

theorem bind {part : Part α} {next : α → Part β} {mid : α → Prop}
    {post : β → List Line → Prop} (hpart : Meets part (fun a _ => mid a) silent)
    (hnext : ∀ a, mid a → Meets (next a) post silent) : Meets (part >>= next) post silent := by
  refine ⟨fun report hclean => ?_⟩
  have hfirst := hpart.ends report hclean
  rw [bind_apply]
  cases hresult : part report with
  | mk result reached =>
      rw [hresult] at hfirst
      -- After a fault the rest is left out, so the report stays as the first part left it.
      cases result with
      | ok a => exact (hnext a hfirst.2).ends reached hfirst.1
      | error fault => exact hfirst

theorem say_then {next : Part β} {post : β → List Line → Prop} {line : Line}
    (hline : ¬IsFailure line.text) (hnext : Meets next post silent) :
    Meets (Part.say line >>= fun _ => next) post silent :=
  ⟨fun report hclean => hnext.ends (report ++ [line]) (hclean.append hline)⟩

end Meets

end Part

/-! ## Before the console -/

/-- What a boot has before it makes the console: its settings, and the files and the logger after
the logger was started. -/
structure Prepared (around : Surroundings) (given : Option Settings) (settings : Settings)
    (files : Files) (logger : Logger) : Prop where
  given_or_loaded : given.elim around.loadSettings .ok = .ok settings
  started : Logger.fresh.start around.files around.terminal (levelOf settings)
    settings.logFilePath = (.ok files, logger)

/-- Where a boot takes scripts from. -/
def scriptsOf (source : Option LineSource) (files : Files) (settings : Settings) : LineSource :=
  source.getD (.ofFiles files (some settings.scriptPath))

variable {E : Embedding}

/-- The bounds of the console can be written. -/
def boundsWritable (settings : Settings) : Bool :=
  Value.areWritable
    [.int settings.maxInputLength, .int settings.maxHistoryLines, .int settings.maxOutputLines]

/-- The console that a boot makes before it has commands, with the level of the logger. -/
def created (settings : Settings) (source : LineSource) (logger : Logger) (world : E.World) :
    Except DevConsole.Fault (Console E) :=
  (Console.createSized settings.maxInputLength settings.maxHistoryLines settings.maxOutputLines
    settings source world).map fun console =>
      { console with journal := { console.journal with level := logger.level } }

/-- A boot ends early, and its report does not say so. -/
inductive Escapes (around : Surroundings) (packages : Packages E) (given : Option Settings)
    (source : Option LineSource) (world : E.World) : Prop where
  | bounds {settings files logger} (prepared : Prepared around given settings files logger)
      (unwritable : boundsWritable settings = false)
  | commands {settings files logger console fault}
      (prepared : Prepared around given settings files logger)
      (writable : boundsWritable settings = true)
      (made : created settings (scriptsOf source files settings) logger world = .ok console)
      (refused : (console.loadPackage packages settings.commandsPackage).1 = .error fault)
      (untold : ¬fault.Told)
  | script {settings files logger console count name failure}
      (prepared : Prepared around given settings files logger)
      (writable : boundsWritable settings = true)
      (made : created settings (scriptsOf source files settings) logger world = .ok console)
      (loaded : (console.loadPackage packages settings.commandsPackage).1 = .ok count)
      (named : startScript? settings = some name)
      (fails : (scriptsOf source files settings name).failure = some failure)
      (other : ∀ reason, failure.reason? ≠ some (.ok reason))

/-- What the script for the start leaves: its kept lines are in the queue, or, if it cannot be
read, the queue is empty and the output got the error. -/
def StartScriptDone (settings : Settings) (source : LineSource) (console : Console E) : Prop :=
  match startScript? settings with
  | none => console.queue = [] ∧ console.output.lines = []
  | some name =>
    match source name with
    | ⟨lines, none⟩ =>
      console.queue = Script.keptLines settings.commentStarts lines ∧ console.output.lines = []
    | ⟨_, some failure⟩ =>
      ∃ reason, failure.reason? = some (.ok reason) ∧ console.queue = [] ∧
        ScrollLog.Keeps settings.maxOutputLines console.output
          (Console.outputLines ("[error] Could not open script '" ++ name ++ "': " ++ reason))

/-! ## The parts of a boot -/

variable {around : Surroundings} {packages : Packages E} {given : Option Settings}
  {source : Option LineSource} {world : E.World} {settings : Settings} {files : Files}
  {logger : Logger} {silent : Prop}

open Boot.Part (Meets)

theorem settingsOf_meets :
    Meets (settingsOf around given)
      (fun settings _ => given.elim around.loadSettings .ok = .ok settings) silent := by
  cases given with
  | some settings => exact .pure fun _ => rfl
  | none =>
      refine .told_step (fun settings hloaded _ => hloaded) ?_
      intro fault hrefused
      have hexplained := Settings.explained_load around.files
        (Files.absolute around.files.current) around.files.environment
      unfold Surroundings.loadSettings at hrefused
      dsimp only at hrefused
      cases hload : Settings.load around.files (Files.absolute around.files.current)
          around.files.environment with
      | ok settings =>
          rw [hload] at hrefused
          cases hrefused
      | error refusal =>
          rw [hload] at hexplained hrefused
          cases hrefused
          cases hexplained with
          | refused told => exact told

theorem told_of_start {level : Int} {file : Option String} {failure : Failure}
    (hfails : (Logger.fresh.start files around.terminal level file).1 = .error failure) :
    failure.Told := by
  unfold Logger.start at hfails
  dsimp only at hfails
  split at hfails
  · split at hfails
    · cases hfails
    · next failed happended =>
        cases hfails
        exact Files.told_of_append happended
  · cases hfails

theorem startLogger_meets :
    Meets (startLogger around settings) (fun started _ =>
      Logger.fresh.start around.files around.terminal (levelOf settings) settings.logFilePath =
        (.ok started.1, started.2)) silent := by
  unfold startLogger
  cases hstart : Logger.fresh.start around.files around.terminal (levelOf settings)
      settings.logFilePath with
  | mk result logger =>
      refine .told_step ?_ ?_
      · intro started hstarted _
        cases result with
        | error failure => cases hstarted
        | ok files =>
            cases hstarted
            rfl
      · intro fault hfails
        cases result with
        | ok files => cases hfails
        | error failure =>
            cases hfails
            exact told_of_start (Prod.ext_iff.mp hstart).1

/-- A console is refused in words that show no number. -/
theorem told_of_create {scripts : LineSource} {fault : DevConsole.Fault}
    (hrefused : Console.create (E := E) settings scripts world = .error fault) : fault.Told := by
  unfold Console.create at hrefused
  cases hinput : InputLine.empty? settings.maxInputLength settings.inputPrompt with
  | error refusal =>
      rw [hinput] at hrefused
      cases hrefused
      exact ⟨_, rfl⟩
  | ok input =>
      cases houtput : ScrollLog.empty? settings.maxOutputLines with
      | error refusal =>
          rw [hinput, houtput] at hrefused
          cases hrefused
          exact ⟨_, rfl⟩
      | ok output =>
          cases hhistory : ScrollLog.empty? settings.maxHistoryLines with
          | error refusal =>
              rw [hinput, houtput, hhistory] at hrefused
              cases hrefused
              exact ⟨_, rfl⟩
          | ok history =>
              rw [hinput, houtput, hhistory] at hrefused
              cases hrefused

theorem told_of_createSized {input history output : Int} {scripts : LineSource}
    {fault : DevConsole.Fault} (hrefused : Console.createSized (E := E) input history output
      settings scripts world = .error fault) : fault.Told := by
  unfold Console.createSized at hrefused
  by_cases hinput : input < 1
  · rw [if_pos hinput] at hrefused
    cases hrefused
    exact ⟨_, rfl⟩
  by_cases hhistory : history < 1
  · rw [if_neg hinput, if_pos hhistory] at hrefused
    cases hrefused
    exact ⟨_, rfl⟩
  by_cases houtput : output < 1
  · rw [if_neg hinput, if_neg hhistory, if_pos houtput] at hrefused
    cases hrefused
    exact ⟨_, rfl⟩
  rw [if_neg hinput, if_neg hhistory, if_neg houtput] at hrefused
  exact told_of_create hrefused

theorem told_of_created {scripts : LineSource} {fault : DevConsole.Fault}
    (hrefused : created (E := E) settings scripts logger world = .error fault) : fault.Told := by
  unfold created at hrefused
  cases hsized : Console.createSized (E := E) settings.maxInputLength settings.maxHistoryLines
      settings.maxOutputLines settings scripts world with
  | ok console =>
      rw [hsized] at hrefused
      cases hrefused
  | error refusal =>
      rw [hsized] at hrefused
      cases hrefused
      exact told_of_createSized hsized

/-- The label of the step that makes the console. -/
def consoleLabel (input history output : Nat) : String :=
  s!"Initialize console (input {input}, history {history}, output {output})"

theorem makeConsole_eq (scripts : LineSource) :
    makeConsole settings scripts logger world =
      if boundsWritable settings then
        .step (consoleLabel settings.maxInputLength settings.maxHistoryLines
            settings.maxOutputLines) ((created settings scripts logger world).mapError .console)
      else .abandon (.outside .unwritable) := by
  unfold makeConsole Value.showing boundsWritable
  dsimp only
  -- The condition is the same on both sides, and is not to be computed.
  generalize Value.areWritable [.int settings.maxInputLength, .int settings.maxHistoryLines,
    .int settings.maxOutputLines] = writable
  cases writable <;> rfl

theorem makeConsole_meets {scripts : LineSource}
    (hsilent : boundsWritable settings = false → silent) :
    Meets (makeConsole settings scripts logger world) (fun console _ =>
      boundsWritable settings = true ∧ created settings scripts logger world = .ok console)
      silent := by
  rw [makeConsole_eq]
  cases hwritable : boundsWritable settings with
  | false => exact .abandon (hsilent hwritable)
  | true =>
      refine .told_step (fun console hmade _ => ⟨rfl, mapError_eq_ok_iff.mp hmade⟩) ?_
      intro fault hrefused
      cases hcreated : created settings scripts logger world with
      | ok console =>
          rw [hcreated] at hrefused
          cases hrefused
      | error refusal =>
          rw [hcreated] at hrefused
          cases hrefused
          exact told_of_created hcreated

/-- A console that has been made and has commands, and that nothing else has been done to. -/
structure Ready (console : Console E) (settings : Settings) (scripts : LineSource) : Prop where
  settings_eq : console.settings = settings
  source_eq : console.source = scripts
  queue_eq : console.queue = []
  output_size : 0 < settings.maxOutputLines
  output_keeps : ScrollLog.Keeps settings.maxOutputLines console.output []

theorem Ready.output_empty {console : Console E} {scripts : LineSource}
    (hready : Ready console settings scripts) : console.output.lines = [] := by
  rw [hready.output_keeps.lines_eq, List.drop_nil]

theorem ready_of_created {scripts : LineSource} {console : Console E}
    (hmade : created settings scripts logger world = .ok console) :
    Ready console settings scripts := by
  unfold created at hmade
  cases hsized : Console.createSized settings.maxInputLength settings.maxHistoryLines
      settings.maxOutputLines settings scripts world with
  | error fault =>
      rw [hsized] at hmade
      cases hmade
  | ok unused =>
      rw [hsized] at hmade
      cases hmade
      obtain ⟨hsizes, -, rfl⟩ :=
        Console.create_eq_ok_iff.mp (Console.createSized_eq_ok_iff.mp hsized)
      exact ⟨rfl, rfl, rfl, hsizes.output, .empty rfl rfl⟩

theorem Ready.loadPackage {console : Console E} {scripts : LineSource}
    (hready : Ready console settings scripts) (packages : Packages E) (package : String) :
    Ready (console.loadPackage packages package).2 settings scripts := by
  obtain ⟨registry, descriptions, journal, -, hnext⟩ :=
    Console.loadPackage_changes console packages package
  rw [hnext]
  exact ⟨hready.settings_eq, hready.source_eq, hready.queue_eq, hready.output_size,
    hready.output_keeps⟩

theorem queue_writeOutput (console : Console E) (text : String) :
    (console.writeOutput text).queue = console.queue :=
  rfl

theorem output_writeOutput (console : Console E) (text : String) :
    (console.writeOutput text).output =
      (Console.outputLines text).foldl ScrollLog.write console.output :=
  rfl

theorem error_text (name reason : String) :
    s!"[error] {Script.unreadableText name reason}" =
      "[error] Could not open script '" ++ name ++ "': " ++ reason := by
  have hopening : "[error] " ++ "Could not open script '" = "[error] Could not open script '" := by
    decide
  have hmessage : s!"[error] {Script.unreadableText name reason}" =
      "[error] " ++ ("Could not open script '" ++ name ++ "': " ++ reason) := rfl
  rw [hmessage, ← String.append_assoc, ← String.append_assoc, ← String.append_assoc, hopening]

/-- What a failure of a source amounts to, unless it says that the script cannot be read. -/
theorem ofFailure_other (name : String) {failure : Failure}
    (hother : ∀ reason, failure.reason? ≠ some (.ok reason)) :
    ∃ cause, Script.Fault.ofFailure name failure = .source cause := by
  unfold Script.Fault.ofFailure
  split
  · next reason hreason => exact absurd hreason (hother reason)
  · exact ⟨_, rfl⟩
  · exact ⟨_, rfl⟩

theorem queueAutoexec_meets {console : Console E} {scripts : LineSource}
    (hready : Ready console settings scripts)
    (hsilent : ∀ name failure, startScript? settings = some name →
      (scripts name).failure = some failure →
      (∀ reason, failure.reason? ≠ some (.ok reason)) → silent) :
    Meets (queueAutoexec console) (fun done _ => StartScriptDone settings scripts done) silent := by
  unfold queueAutoexec StartScriptDone
  rw [hready.settings_eq]
  cases hname : startScript? settings with
  | none => exact .pure fun _ => ⟨hready.queue_eq, hready.output_empty⟩
  | some name =>
      have hscript : Script.load console.source console.settings.commentStarts name =
          Script.load scripts settings.commentStarts name := by
        rw [hready.source_eq, hready.settings_eq]
      dsimp only
      unfold Console.loadScript
      rw [hscript]
      unfold Script.load
      cases hstream : scripts name with
      | mk lines ending =>
          cases ending with
          | none =>
              refine .say_then (not_isFailure_done _) (.pure fun _ => ⟨?_, hready.output_empty⟩)
              exact congrArg (· ++ Script.keptLines settings.commentStarts lines) hready.queue_eq
          | some failure =>
              dsimp only
              by_cases htold : ∃ reason, failure.reason? = some (.ok reason)
              · obtain ⟨reason, hreason⟩ := htold
                simp only [Script.Fault.ofFailure, hreason]
                refine .say_then (not_isFailure_warning _) (.pure fun _ => ⟨reason, rfl, ?_, ?_⟩)
                · rw [queue_writeOutput]
                  exact hready.queue_eq
                · rw [output_writeOutput, ← error_text]
                  exact hready.output_keeps.writes hready.output_size _
              · -- Only a script that cannot be read is told of at the console.
                have hother : ∀ reason, failure.reason? ≠ some (.ok reason) :=
                  fun reason hreason => htold ⟨reason, hreason⟩
                obtain ⟨cause, hcause⟩ := ofFailure_other name hother
                simp only [hcause]
                exact .abandon (hsilent name failure hname (by rw [hstream]) hother)

/-- With a console, the script for the start is done and the report ends with the completed boot.
Only a boot that escapes fails without a line. -/
theorem parts_meets :
    Meets (parts around packages given source world) (fun booted report =>
      Prepared around given booted.settings booted.files booted.logger ∧
        StartScriptDone booted.settings (scriptsOf source booted.files booted.settings)
          booted.console ∧
        report.getLast? = some (.done "Boot complete"))
      (Escapes around packages given source world) := by
  unfold parts
  refine .say_then (not_isFailure_done _) (.say_then (not_isFailure_done _) ?_)
  refine settingsOf_meets.bind fun settings hsettings => ?_
  refine startLogger_meets.bind ?_
  rintro ⟨files, logger⟩ hstarted
  have hprepared : Prepared around given settings files logger := ⟨hsettings, hstarted⟩
  dsimp only
  have hbounds : boundsWritable settings = false → Escapes around packages given source world :=
    fun hunwritable => .bounds hprepared hunwritable
  refine (makeConsole_meets hbounds).bind ?_
  rintro made ⟨hwritable, hmade⟩
  have hready := (ready_of_created hmade).loadPackage packages settings.commandsPackage
  cases hload : made.loadPackage packages settings.commandsPackage with
  | mk result console =>
      rw [hload] at hready
      have hanswer : (made.loadPackage packages settings.commandsPackage).1 = result := by
        rw [hload]
      dsimp only
      have hstep : Meets (.step s!"Register commands from '{settings.commandsPackage}'"
          (result.mapError .console)) (fun count _ => result = .ok count)
          (Escapes around packages given source world) := by
        refine .step (fun count hcount _ => mapError_eq_ok_iff.mp hcount) ?_
        intro fault hfault huntold
        cases result with
        | ok count => cases hfault
        | error refusal =>
            cases hfault
            exact .commands hprepared hwritable hmade hanswer huntold
      refine hstep.bind fun count hcount => ?_
      have hqueued := queueAutoexec_meets hready fun name failure hname hfails hother =>
        Escapes.script hprepared hwritable hmade (hanswer.trans hcount) hname hfails hother
      refine hqueued.bind fun console hdone => ?_
      exact ⟨fun report hclean =>
        ⟨hclean.append_done _, hprepared, hdone, List.getLast?_concat⟩⟩

/-! ## Boots that end without a word -/

theorem settingsOf_of_prepared (hprepared : Prepared around given settings files logger)
    {report : List Line} (hclean : Clean report) :
    ∃ next, settingsOf around given report = (.ok settings, next) ∧ Clean next := by
  have hsettings := hprepared.given_or_loaded
  cases given with
  | none =>
      refine ⟨report ++ [Line.done "Load configuration"], ?_, hclean.append_done _⟩
      have hloaded : around.loadSettings = .ok settings := hsettings
      rw [settingsOf, hloaded]
      rfl
  | some given =>
      cases hsettings
      exact ⟨report, rfl, hclean⟩

theorem startLogger_of_prepared (hprepared : Prepared around given settings files logger)
    (report : List Line) :
    startLogger around settings report =
      (.ok (files, logger), report ++ [Line.done "Initialize logger"]) := by
  unfold startLogger
  rw [hprepared.started]
  rfl

theorem makeConsole_of_unwritable {scripts : LineSource}
    (hbounds : boundsWritable settings = false) (report : List Line) :
    makeConsole settings scripts logger world report =
      (.error (.outside .unwritable), report) := by
  rw [makeConsole_eq, hbounds]
  rfl

theorem makeConsole_of_created {scripts : LineSource} {console : Console E}
    (hbounds : boundsWritable settings = true)
    (hmade : created settings scripts logger world = .ok console) {report : List Line}
    (hclean : Clean report) :
    ∃ next, makeConsole settings scripts logger world report = (.ok console, next) ∧
      Clean next := by
  rw [makeConsole_eq, hbounds, hmade]
  exact ⟨_, rfl, hclean.append_done _⟩

/-- A step that fails with what has no text ends the boot, and adds no line. -/
theorem step_of_not_told (α : Type) {fault : Fault} (hnot : ¬fault.Told) (label : String)
    (report : List Line) :
    ∃ other, (Part.step label (.error fault) : Part α) report =
      (.error (.outside other), report) := by
  unfold Part.step
  dsimp only
  cases htext : fault.text with
  | ok text => exact absurd ⟨text, htext⟩ hnot
  | error other => exact ⟨other, rfl⟩

theorem queueAutoexec_of_failing {console : Console E} {scripts : LineSource} {name : String}
    {failure : Failure} (hready : Ready console settings scripts)
    (hname : startScript? settings = some name) (hfails : (scripts name).failure = some failure)
    (hother : ∀ reason, failure.reason? ≠ some (.ok reason)) (report : List Line) :
    queueAutoexec console report =
      (.error (.console (.script (.ofFailure name failure))), report) := by
  obtain ⟨cause, hcause⟩ := ofFailure_other name hother
  have hload : console.loadScript name = (.error (.source cause), console) := by
    unfold Console.loadScript Script.load
    rw [hready.source_eq]
    cases hstream : scripts name with
    | mk lines ending =>
        rw [hstream] at hfails
        obtain rfl : ending = some failure := hfails
        simp only [hcause]
  unfold queueAutoexec
  rw [hready.settings_eq, hname]
  dsimp only
  rw [hload, hcause]
  rfl

theorem clean_opening (around : Surroundings) :
    Clean [.done "Enable ANSI sequences", .done s!"Detect environment: {around.machine}"] :=
  have hnone : Clean [] := nofun
  (hnone.append_done _).append_done _

theorem run_of_unwritable (packages : Packages E) (source : Option LineSource) (world : E.World)
    (hprepared : Prepared around given settings files logger)
    (hbounds : boundsWritable settings = false) :
    ∃ report, run around packages given source world =
      (.error (.outside .unwritable), report) ∧ Clean report := by
  obtain ⟨report, hsettings, hclean⟩ := settingsOf_of_prepared hprepared (clean_opening around)
  refine ⟨report ++ [Line.done "Initialize logger"], ?_, hclean.append_done _⟩
  simp only [run, parts, Part.bind_apply, Part.say, List.nil_append, List.singleton_append,
    hsettings, startLogger_of_prepared hprepared, makeConsole_of_unwritable hbounds]

/-- The parts of a boot from the commands on, after a console has been made. -/
theorem run_of_created (packages : Packages E) {console : Console E}
    (hprepared : Prepared around given settings files logger)
    (hbounds : boundsWritable settings = true)
    (hmade : created settings (scriptsOf source files settings) logger world = .ok console) :
    ∃ report, Clean report ∧ run around packages given source world =
      (do
        let loaded ← Part.step s!"Register commands from '{settings.commandsPackage}'"
          ((console.loadPackage packages settings.commandsPackage).1.mapError .console)
        let console ← queueAutoexec (console.loadPackage packages settings.commandsPackage).2
        Part.say (.done "Boot complete")
        return ⟨settings, logger, files, console, loaded⟩ : Part (Booted E)) report := by
  obtain ⟨report, hsettings, hclean⟩ := settingsOf_of_prepared hprepared (clean_opening around)
  obtain ⟨next, hmake, hnext⟩ := makeConsole_of_created hbounds hmade
    (hclean.append_done "Initialize logger")
  unfold scriptsOf at hmake
  refine ⟨next, hnext, ?_⟩
  simp only [run, parts, Part.bind_apply, Part.say, List.nil_append, List.singleton_append,
    hsettings, startLogger_of_prepared hprepared, hmake]

theorem run_of_untold_commands {console : Console E} {fault : DevConsole.Fault}
    (hprepared : Prepared around given settings files logger)
    (hbounds : boundsWritable settings = true)
    (hmade : created settings (scriptsOf source files settings) logger world = .ok console)
    (hrefused : (console.loadPackage packages settings.commandsPackage).1 = .error fault)
    (huntold : ¬fault.Told) :
    ∃ other report, run around packages given source world =
      (.error (.outside other), report) ∧ Clean report := by
  obtain ⟨report, hclean, hrun⟩ := run_of_created packages hprepared hbounds hmade
  have hnot : ¬(Fault.console fault).Told := huntold
  obtain ⟨other, hstep⟩ := step_of_not_told Nat hnot
    s!"Register commands from '{settings.commandsPackage}'" report
  refine ⟨other, report, ?_, hclean⟩
  rw [hrun, hrefused]
  simp only [Except.mapError, Part.bind_apply, hstep]

theorem run_of_broken_script {console : Console E} {count : Nat} {name : String}
    {failure : Failure} (hprepared : Prepared around given settings files logger)
    (hbounds : boundsWritable settings = true)
    (hmade : created settings (scriptsOf source files settings) logger world = .ok console)
    (hloaded : (console.loadPackage packages settings.commandsPackage).1 = .ok count)
    (hname : startScript? settings = some name)
    (hfails : (scriptsOf source files settings name).failure = some failure)
    (hother : ∀ reason, failure.reason? ≠ some (.ok reason)) :
    ∃ report, run around packages given source world =
      (.error (.console (.script (.ofFailure name failure))), report) ∧ Clean report := by
  obtain ⟨report, hclean, hrun⟩ := run_of_created packages hprepared hbounds hmade
  have hready := (ready_of_created hmade).loadPackage packages settings.commandsPackage
  refine ⟨_, ?_, hclean.append_done s!"Register commands from '{settings.commandsPackage}'"⟩
  rw [hrun, hloaded]
  simp only [Except.mapError, Part.step, Part.bind_apply,
    queueAutoexec_of_failing hready hname hfails hother]

/-- A boot that escapes ends with a fault, and no line of its report tells of a failed step. -/
theorem run_of_escapes (hescapes : Escapes around packages given source world) :
    ∃ fault report, run around packages given source world = (.error fault, report) ∧
      Clean report := by
  cases hescapes with
  | bounds hprepared hbounds =>
      exact ⟨_, run_of_unwritable packages source world hprepared hbounds⟩
  | commands hprepared hbounds hmade hrefused huntold =>
      obtain ⟨other, hrun⟩ := run_of_untold_commands hprepared hbounds hmade hrefused huntold
      exact ⟨_, hrun⟩
  | script hprepared hbounds hmade hloaded hname hfails hother =>
      exact ⟨_, run_of_broken_script hprepared hbounds hmade hloaded hname hfails hother⟩

/-! ## The report -/

/-- What a boot ended with and its report fit together. With a console, no line tells of a failed
step, the last one tells of the completed boot, and the script for the start is done. With a
fault, the last line and no other tells of a failed step, and it names the fault. -/
def Reported (around : Surroundings) (given : Option Settings) (source : Option LineSource) :
    Except Fault (Booted E) × List Line → Prop
  | (.ok booted, report) =>
    Prepared around given booted.settings booted.files booted.logger ∧
      StartScriptDone booted.settings (scriptsOf source booted.files booted.settings)
        booted.console ∧
      Clean report ∧
      report.getLast?.map Line.text = some "\x1b[32m[  OK  ] Boot complete\x1b[0m"
  | (.error fault, report) => TellsOf fault report

/-- **Boots report how they end.**  Take surroundings, all packages that can be imported, settings
or none, a source of scripts or none, and a world.  Unless the boot escapes, what it ends with and
its report fit together: it has a console, its report tells of no failed step and ends with the
completed boot, and the kept lines of the script for the start are in the queue, or, if that cannot
be read, nothing is in the queue and the output got the error; or it has a fault, and the last line
of its report alone tells of a failed step and names the fault.  A boot that escapes ends with a
fault, and no line tells of a failed step. -/
theorem run_reported_iff (around : Surroundings) (packages : Packages E) (given : Option Settings)
    (source : Option LineSource) (world : E.World) :
    (Reported around given source (run around packages given source world) ↔
        ¬Escapes around packages given source world) ∧
      (Escapes around packages given source world → ∃ fault report,
        run around packages given source world = (.error fault, report) ∧ Clean report) := by
  refine ⟨⟨?_, ?_⟩, run_of_escapes⟩
  · -- The last line would tell of a failed step in a report in which no line does.
    intro hreported hescapes
    obtain ⟨fault, report, hrun, hclean⟩ := run_of_escapes hescapes
    rw [hrun] at hreported
    exact TellsOf.not_clean hreported hclean
  · intro hnot
    have hmeets : Meets (parts around packages given source world) _ _ := parts_meets
    have hends := hmeets.ends [] nofun
    unfold run
    cases hparts : parts around packages given source world [] with
    | mk result report =>
        rw [hparts] at hends
        cases result with
        | ok booted =>
            obtain ⟨hclean, hprepared, hdone, hlast⟩ := hends
            refine ⟨hprepared, hdone, hclean, ?_⟩
            rw [hlast, Option.map_some, text_done]
            rfl
        | error fault =>
            rcases hends with htells | ⟨-, hescapes⟩
            · exact htells
            · exact absurd hescapes hnot

/-- A directory without files, seen from a terminal without colours. -/
def plain : Surroundings := ⟨⟨[], [], ∅⟩, "", false⟩

/-- Settings that name a script for the start. -/
def eager : Settings := { Settings.default with autoexec := some "a" }

/-- A script whose source fails after a line, and not because it cannot be read. -/
def breaking : LineSource :=
  .ofScripts [("a", ⟨["x"], some (.raised "RuntimeError" [.text "late"])⟩)]

/-- The console that the boot makes for them. -/
def eagerConsole : Console .bare :=
  { Console.unused eager breaking () with journal := ⟨Level.warning, []⟩ }

/-- The categories of built-in commands are in the order in which they are loaded. -/
theorem loadedMembers_builtinCategories (description : String) :
    (PackageTree.package description [] (PackageTree.builtinCategories (E := E))).loadedMembers =
      PackageTree.builtinCategories := by
  have hpublic : ∀ member ∈ PackageTree.builtinCategories (E := E),
      (!Text.startsWith member.1 "_") = true := by
    simp only [PackageTree.builtinCategories, PackageTree.builtinCategory, List.forall_mem_cons]
    exact ⟨by decide, by decide, by decide, List.forall_mem_nil _⟩
  unfold PackageTree.loadedMembers
  dsimp only
  rw [List.filter_eq_self.mpr hpublic]
  refine List.mergeSort_of_pairwise ?_
  simp [PackageTree.builtinCategories, PackageTree.builtinCategory]

theorem eagerConsole_loads : ∃ count,
    (eagerConsole.loadPackage PackageTree.standard eager.commandsPackage).1 = .ok count := by
  have hcount : (eagerConsole.registerMembers eager.commandsPackage 0
      PackageTree.builtinCategories).1.toOption = some 17 := by decide +kernel
  have hfind : PackageTree.find PackageTree.standard eager.commandsPackage =
      .ok (.package "Built-in console commands, one subpackage per category." []
        (PackageTree.builtinCategories (E := .bare))) := rfl
  unfold Console.loadPackage
  rw [hfind]
  dsimp only
  rw [loadedMembers_builtinCategories]
  generalize eagerConsole.registerMembers eager.commandsPackage 0
    PackageTree.builtinCategories = result at hcount
  obtain ⟨answer, next⟩ := result
  cases answer with
  | error fault => cases hcount
  | ok count => exact ⟨count, rfl⟩

/-- The boot ends with the failure of the source, and its report does not say so. -/
theorem breaking_script_unreported :
    ∃ report, run (E := .bare) plain PackageTree.standard (some eager) (some breaking) () =
        (.error (.console (.script (.source (.raised "RuntimeError" [.text "late"])))), report) ∧
      Clean report ∧
      ¬Reported plain (some eager) (some breaking)
        (run (E := .bare) plain PackageTree.standard (some eager) (some breaking) ()) := by
  have hprepared : Prepared plain (some eager) eager plain.files
      ⟨Level.warning, true, false, none⟩ := ⟨rfl, rfl⟩
  have hbounds : boundsWritable eager = true := by decide +kernel
  have hmade : created eager (scriptsOf (some breaking) plain.files eager)
      ⟨Level.warning, true, false, none⟩ () = .ok eagerConsole := rfl
  have hname : startScript? eager = some "a" := rfl
  have hfails : (scriptsOf (some breaking) plain.files eager "a").failure =
      some (.raised "RuntimeError" [.text "late"]) := rfl
  have hother : ∀ reason, (Failure.raised "RuntimeError" [.text "late"]).reason? ≠
      some (.ok reason) := nofun
  obtain ⟨count, hloaded⟩ := eagerConsole_loads
  obtain ⟨report, hrun, hclean⟩ :=
    run_of_broken_script hprepared hbounds hmade hloaded hname hfails hother
  refine ⟨report, hrun, hclean, ?_⟩
  rw [hrun]
  exact fun hreported => TellsOf.not_clean hreported hclean

end DevConsole.Boot
