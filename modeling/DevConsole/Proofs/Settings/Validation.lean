import DevConsole.Proofs.Dictionary
import DevConsole.Proofs.Registry.NameSpace
import DevConsole.Settings.Validation

/-!
# What settings that pass validation hold

Validation reads each setting by the rule of its kind and keeps what is no setting
(`Reads`).  It gives settings exactly when each rule gives its part
(`ofEntries_eq_ok_iff`), so what is known of a rule is known of the settings: sizes and
the tick rate are above zero (`one_le_of_positive`).
-/

namespace DevConsole.Settings

/-- Every setting is what its rule reads from its value, and the entries that are no setting
are kept as they are. -/
structure Reads (files : Files) (entries : Dictionary Value) (settings : Settings) : Prop where
  maxInputLength :
    positive "MAX_INPUT_LEN" (valueOf entries "MAX_INPUT_LEN") = .ok settings.maxInputLength
  maxHistoryLines :
    positive "MAX_HIST_LINES" (valueOf entries "MAX_HIST_LINES") = .ok settings.maxHistoryLines
  maxOutputLines :
    positive "MAX_OUT_LINES" (valueOf entries "MAX_OUT_LINES") = .ok settings.maxOutputLines
  inputPrompt : textOrEmpty (valueOf entries "INPUT_PREFIX") = .ok settings.inputPrompt
  commentStarts : commentMarks (valueOf entries "COMMENT_PREFIXES") = .ok settings.commentStarts
  scriptPath : textOf (valueOf entries "SCRIPT_PATH") >>= path files = .ok settings.scriptPath
  commandsPackage :
    optionalText (valueOf entries "COMMANDS_PACKAGE") = .ok (some settings.commandsPackage)
  logLevel : level (valueOf entries "LOG_LEVEL") = .ok settings.logLevel
  logFilePath : optionalPath files (valueOf entries "LOG_FILE_PATH") = .ok settings.logFilePath
  echoInput : boolean (valueOf entries "ECHO_INPUT") = .ok settings.echoInput
  suggestOnMiss : boolean (valueOf entries "SUGGEST_ON_MISS") = .ok settings.suggestOnMiss
  tickRate : positive "TICK_RATE" (valueOf entries "TICK_RATE") = .ok settings.tickRate
  autoexec : optionalText (valueOf entries "AUTOEXEC") = .ok settings.autoexec
  extra : settings.extra = ⟨entries.entries.filter fun entry => !defaults.contains entry.1⟩

theorem bind_eq_ok_iff {ε α β : Type} {x : Except ε α} {f : α → Except ε β} {b : β} :
    x >>= f = .ok b ↔ ∃ a, x = .ok a ∧ f a = .ok b := by
  cases x <;> simp [bind, Except.bind]

theorem ofEntries_eq_ok_iff {files : Files} {entries : Dictionary Value} {settings : Settings} :
    ofEntries files entries = .ok settings ↔ Reads files entries settings := by
  unfold ofEntries
  simp only [bind_eq_ok_iff]
  constructor
  · -- The marks of comments and the package are read before the record is built.
    rintro ⟨commentStarts, hcomments, package, hpackage, hrest⟩
    cases package with
    | none => cases hrest
    | some package =>
        simp only [bind_eq_ok_iff] at hrest
        obtain ⟨input, hinput, history, hhistory, output, houtput, prompt, hprompt, text, htext,
          script, hscript, level, hlevel, logFile, hlogFile, echo, hecho, suggest, hsuggest,
          rate, hrate, autoexec, hautoexec, hsettings⟩ := hrest
        cases hsettings
        exact ⟨hinput, hhistory, houtput, hprompt, hcomments,
          bind_eq_ok_iff.mpr ⟨text, htext, hscript⟩, hpackage, hlevel, hlogFile, hecho,
          hsuggest, hrate, hautoexec, rfl⟩
  · intro hreads
    obtain ⟨text, htext, hscript⟩ := bind_eq_ok_iff.mp hreads.scriptPath
    refine ⟨_, hreads.commentStarts, _, hreads.commandsPackage, ?_⟩
    simp only [hreads.maxInputLength, hreads.maxHistoryLines, hreads.maxOutputLines,
      hreads.inputPrompt, htext, hreads.logLevel, hreads.logFilePath, hreads.echoInput,
      hreads.suggestOnMiss, hreads.tickRate, hreads.autoexec, ← hreads.extra]
    change path files text >>= _ = _
    rw [hscript]
    rfl

theorem one_le_of_positive {key : String} {value : Value} {n : Nat}
    (hread : positive key value = .ok n) : 1 ≤ n := by
  obtain ⟨whole, -, hrest⟩ := bind_eq_ok_iff.mp hread
  by_cases hsmall : whole < 1
  · rw [if_pos hsmall] at hrest
    obtain ⟨_, habsurd, -⟩ := bind_eq_ok_iff.mp hrest
    cases habsurd
  · rw [if_neg hsmall] at hrest
    cases hrest
    omega

/-! ## Settings that are accepted -/

theorem path_dot (files : Files) : path files "." = .ok (Files.absolute files.current) := by
  have hexpand : files.expand "." = "." := by
    have hhome : files.expandHome "." = "." := rfl
    rw [Files.expand, hhome]
    simp [Files.expandChars]
  rw [path, hexpand]
  rfl

/-- Every default passes its own rule. -/
theorem reads_defaults (files : Files) :
    Reads files defaults { default with scriptPath := Files.absolute files.current } := by
  constructor
  case scriptPath => exact path_dot files
  all_goals rfl

theorem valueOf_insert (entries : Dictionary Value) (key : String) (v : Value) (known : String) :
    valueOf (entries.insert key v) known = if known == key then v else valueOf entries known := by
  unfold valueOf
  rw [Dictionary.get?_insert]
  cases known == key <;> rfl

namespace Reads

variable {files : Files} {entries : Dictionary Value} {settings : Settings}

/-- Settings depend on the values of their keys only, and the rest is extra. The size of the
output may be another one. -/
theorem of_values (hreads : Reads files entries settings) {others : Dictionary Value}
    (hvalue : ∀ known ∈ defaults.keys, known ≠ "MAX_OUT_LINES" →
      valueOf others known = valueOf entries known)
    {size : Nat} (hsize : positive "MAX_OUT_LINES" (valueOf others "MAX_OUT_LINES") = .ok size) :
    Reads files others { settings with
      maxOutputLines := size
      extra := ⟨others.entries.filter fun entry => !defaults.contains entry.1⟩ } := by
  simp only [defaults, Dictionary.keys, List.map_cons, List.map_nil, List.forall_mem_cons] at hvalue
  obtain ⟨hinput, hhistory, -, hprompt, hcomments, hscript, hpackage, hlevel, hlogFile,
    hecho, hsuggest, hrate, hautoexec, -⟩ := hvalue
  exact ⟨hinput (by decide) ▸ hreads.maxInputLength,
    hhistory (by decide) ▸ hreads.maxHistoryLines, hsize,
    hprompt (by decide) ▸ hreads.inputPrompt, hcomments (by decide) ▸ hreads.commentStarts,
    hscript (by decide) ▸ hreads.scriptPath, hpackage (by decide) ▸ hreads.commandsPackage,
    hlevel (by decide) ▸ hreads.logLevel, hlogFile (by decide) ▸ hreads.logFilePath,
    hecho (by decide) ▸ hreads.echoInput, hsuggest (by decide) ▸ hreads.suggestOnMiss,
    hrate (by decide) ▸ hreads.tickRate, hautoexec (by decide) ▸ hreads.autoexec, rfl⟩

theorem valueOf_insert_of_ne (entries : Dictionary Value) {key known : String} (v : Value)
    (hother : known ≠ key) : valueOf (entries.insert key v) known = valueOf entries known := by
  rw [valueOf_insert, if_neg (by simpa using hother)]

/-- An entry that is no setting is kept and changes nothing else. -/
theorem insert_extra (hreads : Reads files entries settings) {key : String}
    (hextra : defaults.contains key = false) (v : Value) :
    Reads files (entries.insert key v)
      { settings with extra := settings.extra.insert key v } := by
  have hsame : ∀ known ∈ defaults.keys,
      valueOf (entries.insert key v) known = valueOf entries known := by
    intro known hknown
    refine valueOf_insert_of_ne entries v ?_
    rintro rfl
    exact Dictionary.contains_eq_false_iff.mp hextra hknown
  have hkept : (settings.extra.insert key v).entries =
      (entries.insert key v).entries.filter fun entry => !defaults.contains entry.1 := by
    simp only [hreads.extra, Dictionary.insert]
    rw [Dictionary.filter_insertEntry (fun name => !defaults.contains name), hextra]
    rfl
  have hothers := hreads.of_values (fun known hknown _ => hsame known hknown)
    ((hsame "MAX_OUT_LINES" (by decide)) ▸ hreads.maxOutputLines)
  rw [← hkept] at hothers
  exact hothers

/-- Every size of the output log from one on is accepted. -/
theorem insert_outputSize (hreads : Reads files entries settings) {size : Nat} (hsize : 1 ≤ size) :
    Reads files (entries.insert "MAX_OUT_LINES" (.int size))
      { settings with maxOutputLines := size } := by
  have hgiven : positive "MAX_OUT_LINES"
      (valueOf (entries.insert "MAX_OUT_LINES" (.int size)) "MAX_OUT_LINES") = .ok size := by
    rw [valueOf_insert, if_pos (beq_self_eq_true _)]
    have hlarge : ¬(size : Int) < 1 := by omega
    simp only [positive, integer, bind, Except.bind, if_neg hlarge]
    rfl
  have hkept : settings.extra =
      ⟨(entries.insert "MAX_OUT_LINES" (.int size)).entries.filter fun entry =>
        !defaults.contains entry.1⟩ := by
    have hknown : defaults.contains "MAX_OUT_LINES" = true := by decide
    rw [hreads.extra, Dictionary.insert,
      Dictionary.filter_insertEntry (fun name => !defaults.contains name), hknown]
    rfl
  have hothers := hreads.of_values
    (fun known _ hother => valueOf_insert_of_ne entries (.int size) hother) hgiven
  rw [← hkept] at hothers
  exact hothers

end Reads

end DevConsole.Settings
