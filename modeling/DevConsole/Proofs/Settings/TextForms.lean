import DevConsole.Proofs.Settings.Validation
import DevConsole.Proofs.Text.Numeral
import DevConsole.Proofs.Text.Words
import DevConsole.Settings.Sources

/-!
# Settings in their text form

A `.env` file, an INI file and the environment deliver every value as text.  The text form of a
value is its text; that of a list is the texts of its items with commas between them
(`textForm`).  A rule reads a value and its text form alike: both give the same result or both are
refused with a `ValueError` (`Agree`).  This passes through a sequence of readings (`Agree.bind`),
and so from the rules to the settings (`ofEntries_agree`).

Main statement (`ofMapping_textForms`): a mapping and its text form give the same settings, or are
both refused.
-/

namespace DevConsole.Settings

/-- A value as a source of texts delivers it. -/
def textForm : Value → Value
  | .list items => .text (Text.join "," (items.map Value.toText))
  | v => .text v.toText

/-- Single values: texts, null, truth values and numbers that can be written. -/
inductive IsPlain : Value → Prop where
  | text (s : String) : IsPlain (.text s)
  | null : IsPlain .null
  | bool (b : Bool) : IsPlain (.bool b)
  | int {n : Int} (hdigits : (Nat.toDigits 10 n.natAbs).length ≤ Text.maxDigits) : IsPlain (.int n)

/-- Values for a key that texts can stand for. A prompt is taken as it is, so it has to be a text
already. Only the starts of comments come as a list, and none of them may hold the comma that parts
them. -/
inductive HasTextForm (key : String) : Value → Prop where
  | plain {v : Value} (hplain : IsPlain v) (hprompt : key = "INPUT_PREFIX" → ∃ s, v = .text s) :
      HasTextForm key v
  | list {texts : List String} (hfree : ∀ s ∈ texts, ',' ∉ s.toList)
      (hkey : key = "COMMENT_PREFIXES") : HasTextForm key (.list (texts.map .text))

theorem IsPlain.textOf_eq {v : Value} (hplain : IsPlain v) : textOf v = .ok v.toText := by
  cases hplain with
  | @int n hdigits =>
      have hsize : n.natAbs < 10 ^ Text.maxDigits :=
        (Nat.length_toDigits_le_iff (by decide) (by decide)).mp hdigits
      have hwritable : (Value.int n).isWritable = decide (n.natAbs < 10 ^ Text.maxDigits) := rfl
      rw [textOf, hwritable, if_pos (decide_eq_true hsize)]
  | _ => rfl

theorem IsPlain.textForm_eq {v : Value} (hplain : IsPlain v) : textForm v = .text v.toText := by
  cases hplain <;> rfl

/-! ## Readings that agree -/

/-- Two readings agree if both accept and what they give is related, or both are refused with a
`ValueError`. -/
inductive Agree {α β : Type} (R : α → β → Prop) : Except Fault α → Except Fault β → Prop where
  | accepted {a : α} {b : β} (hrelated : R a b) : Agree R (.ok a) (.ok b)
  | refused {fault other : Fault} (hfault : fault.kind = "ValueError")
      (hother : other.kind = "ValueError") : Agree R (.error fault) (.error other)

namespace Agree

variable {α β γ : Type} {R : β → γ → Prop}

theorem bind {x y : Except Fault α} (h : Agree Eq x y) {f : α → Except Fault β}
    {g : α → Except Fault γ} (hnext : ∀ a, Agree R (f a) (g a)) :
    Agree R (x >>= f) (y >>= g) := by
  cases h with
  | accepted hsame => exact hsame ▸ hnext _
  | refused hfault hother => exact .refused hfault hother

theorem self {x y : Except Fault α} (h : Agree Eq x y) : Agree Eq x x := by
  cases h with
  | accepted _ => exact .accepted rfl
  | refused hfault _ => exact .refused hfault hfault

end Agree

/-! ## Single values -/

section Plain

variable {v : Value} {text : String}

/-- The number that a text is a numeral for. A refusal shows the value that the text is of. -/
def numeral (shown : Value) (text : String) : Except Fault Int :=
  match Text.int? (Text.trim text) with
  | some n => .ok n
  | none => .error (.notInteger shown)

theorem integer_eq_numeral (htext : textOf v = .ok text) (hint : ∀ n, v ≠ .int n) :
    integer v = numeral v text := by
  rw [integer, htext, numeral]
  · cases hread : Text.int? (Text.trim text) with
    | some n => simp only [bind, Except.bind, hread]; rfl
    | none => simp only [bind, Except.bind, hread]; rfl
  · exact hint

theorem integer_agrees (hplain : IsPlain v) :
    Agree Eq (integer v) (integer (.text v.toText)) := by
  have hform : integer (.text v.toText) = numeral (.text v.toText) v.toText :=
    integer_eq_numeral rfl fun _ => Value.noConfusion
  rw [hform]
  by_cases hint : ∃ n, v = .int n
  · -- A number is written as a numeral for it.
    obtain ⟨n, rfl⟩ := hint
    cases hplain with
    | int hdigits =>
        have htext : (Value.int n).toText = toString n := rfl
        rw [numeral, htext, Text.trim_toString, Text.int?_toString hdigits]
        exact .accepted rfl
  · rw [integer_eq_numeral hplain.textOf_eq fun n hn => hint ⟨n, hn⟩]
    unfold numeral
    cases Text.int? (Text.trim v.toText) with
    | some n => exact .accepted rfl
    | none => exact .refused rfl rfl

theorem positive_agrees (key : String) (hplain : IsPlain v) :
    Agree Eq (positive key v) (positive key (.text v.toText)) := by
  refine (integer_agrees hplain).bind fun n => ?_
  by_cases hsmall : n < 1
  · rw [if_pos hsmall]
    by_cases hsize : (Value.int n).isWritable
    · rw [if_pos hsize]
      exact .refused rfl rfl
    · rw [if_neg hsize]
      exact .refused rfl rfl
  · rw [if_neg hsmall]
    exact .accepted rfl

/-- The answer that a text is a word for. A refusal shows the value that the text is of. -/
def answer (shown : Value) (text : String) : Except Fault Bool :=
  if yesWords.contains (Text.lower (Text.trim text)) then .ok true
  else if noWords.contains (Text.lower (Text.trim text)) then .ok false
  else .error (.notBoolean shown)

theorem boolean_eq_answer (htext : textOf v = .ok text) (hbool : ∀ b, v ≠ .bool b) :
    boolean v = answer v text := by
  rw [boolean, htext, answer]
  · cases hyes : yesWords.contains (Text.lower (Text.trim text)) with
    | true => simp only [bind, Except.bind, hyes]; rfl
    | false =>
        cases hno : noWords.contains (Text.lower (Text.trim text)) <;>
          simp only [bind, Except.bind, hyes, hno] <;> rfl
  · exact hbool

theorem boolean_agrees (hplain : IsPlain v) :
    Agree Eq (boolean v) (boolean (.text v.toText)) := by
  have hform : boolean (.text v.toText) = answer (.text v.toText) v.toText :=
    boolean_eq_answer rfl fun _ => Value.noConfusion
  rw [hform]
  by_cases hbool : ∃ b, v = .bool b
  · -- Both truth values are written as words for them.
    obtain ⟨b, rfl⟩ := hbool
    cases b <;> exact .accepted rfl
  · rw [boolean_eq_answer hplain.textOf_eq fun b hb => hbool ⟨b, hb⟩]
    unfold answer
    split
    · exact .accepted rfl
    · split
      · exact .accepted rfl
      · exact .refused rfl rfl

/-- Null is written as the word for nothing, so it needs no case of its own. -/
theorem optionalText_eq (htext : textOf v = .ok text) :
    optionalText v =
      .ok (if ["", "none"].contains (Text.lower (Text.trim text)) then none else some text) := by
  by_cases hnull : v = .null
  · subst hnull
    obtain rfl : "None" = text := Except.ok.inj htext
    rfl
  · rw [optionalText, htext]
    · rfl
    · exact hnull

theorem optionalText_agrees (hplain : IsPlain v) :
    Agree Eq (optionalText v) (optionalText (.text v.toText)) := by
  rw [optionalText_eq hplain.textOf_eq, optionalText_eq (v := .text v.toText) rfl]
  exact .accepted rfl

theorem level_agrees (hplain : IsPlain v) : Agree Eq (level v) (level (.text v.toText)) := by
  refine (optionalText_agrees hplain).bind fun found => ?_
  cases found with
  | none => exact .accepted rfl
  | some text =>
      dsimp only
      split
      · exact .accepted rfl
      · exact .refused rfl rfl

theorem path_agrees (files : Files) (text : String) :
    Agree Eq (path files text) (path files text) := by
  unfold path
  dsimp only
  split
  · exact .refused rfl rfl
  · exact .accepted rfl

theorem textOf_agrees (hplain : IsPlain v) : Agree Eq (textOf v) (textOf (.text v.toText)) := by
  rw [hplain.textOf_eq]
  exact .accepted rfl

theorem optionalPath_agrees (files : Files) (hplain : IsPlain v) :
    Agree Eq (optionalPath files v) (optionalPath files (.text v.toText)) := by
  refine (optionalText_agrees hplain).bind fun found => ?_
  cases found with
  | none => exact .accepted rfl
  | some text => exact (path_agrees files text).bind fun _ => .accepted rfl

end Plain

/-! ## Starts of comments -/

/-- Items without the blanks around them and without blank ones. -/
def marks (items : List String) : List String :=
  (items.map Text.trim).filter fun mark => !mark.isEmpty

theorem commentMarks_plain {v : Value} (hplain : IsPlain v) :
    commentMarks v = .ok (marks (Text.fields ',' v.toText)) := by
  have htext := hplain.textOf_eq
  unfold commentMarks
  cases hplain <;> (dsimp only; rw [htext]; rfl)

theorem commentMarks_list (texts : List String) :
    commentMarks (.list (texts.map .text)) = .ok (marks texts) := by
  have hitems : (texts.map Value.text).mapM textOf = .ok texts := by
    induction texts with
    | nil => rfl
    | cons s rest ih =>
        rw [List.map_cons, List.mapM_cons, ih]
        rfl
  unfold commentMarks
  dsimp only
  rw [hitems]
  rfl

/-- Joined by commas, items without commas are read as they were. -/
theorem marks_fields_join {texts : List String} (hfree : ∀ s ∈ texts, ',' ∉ s.toList) :
    marks (Text.fields ',' (Text.join "," texts)) = marks texts := by
  by_cases hnone : texts = []
  · -- No items are joined to the empty text. It has one field, which is blank.
    subst hnone
    rfl
  · exact congrArg marks (Text.fields_join hnone hfree)

/-! ## Rules of settings -/

/-- The rule for a key reads the values for it and their text forms alike. -/
def ReadsAlike {α : Type} (key : String) (rule : Value → Except Fault α) : Prop :=
  ∀ v, HasTextForm key v → Agree Eq (rule v) (rule (textForm v))

theorem readsAlike_of_plain {α : Type} {key : String} {rule : Value → Except Fault α}
    (hrule : ∀ {v}, IsPlain v → Agree Eq (rule v) (rule (.text v.toText)))
    (hkey : key ≠ "COMMENT_PREFIXES") : ReadsAlike key rule := by
  intro v hv
  cases hv with
  | plain hplain _ => exact hplain.textForm_eq ▸ hrule hplain
  | list _ hlist => exact absurd hlist hkey

theorem readsAlike_commentMarks (key : String) : ReadsAlike key commentMarks := by
  intro v hv
  cases hv with
  | plain hplain _ =>
      rw [hplain.textForm_eq, commentMarks_plain hplain, commentMarks_plain (.text v.toText)]
      exact .accepted rfl
  | @list texts hfree _ =>
      have htexts : (texts.map Value.text).map Value.toText = texts := by
        rw [List.map_map]
        exact List.map_id texts
      rw [textForm, htexts, commentMarks_list, commentMarks_plain (.text _)]
      exact .accepted (marks_fields_join hfree).symm

theorem readsAlike_textOrEmpty : ReadsAlike "INPUT_PREFIX" textOrEmpty := by
  intro v hv
  cases hv with
  | plain _ hprompt =>
      obtain ⟨s, rfl⟩ := hprompt rfl
      have hform : textForm (.text s) = .text s := rfl
      rw [hform, textOrEmpty]
      split <;> exact .accepted rfl
  | list _ hkey => exact absurd hkey (by decide)

/-! ## All settings -/

/-- A value for a key is kept as it is or put in its text form. -/
inductive Restates (key : String) (v : Value) : Value → Prop where
  | kept (hform : HasTextForm key v) : Restates key v v
  | asText (hform : HasTextForm key v) : Restates key v (textForm v)

theorem ReadsAlike.agree {α : Type} {key : String} {rule : Value → Except Fault α}
    (hrule : ReadsAlike key rule) {v w : Value} (hrestates : Restates key v w) :
    Agree Eq (rule v) (rule w) := by
  cases hrestates with
  | kept hform => exact (hrule v hform).self
  | asText hform => exact hrule v hform

/-- The entries of a dictionary that are no settings. -/
def extraOf (entries : Dictionary Value) : Dictionary Value :=
  ⟨entries.entries.filter fun entry => !defaults.contains entry.1⟩

theorem ofEntries_agree (files : Files) {entries others : Dictionary Value}
    (hrestates : ∀ key, Restates key (valueOf entries key) (valueOf others key)) :
    Agree (fun settings textual => textual = { settings with extra := extraOf others })
      (ofEntries files entries) (ofEntries files others) := by
  have hplain : ∀ {α : Type} {rule : Value → Except Fault α} (key : String),
      (∀ {v}, IsPlain v → Agree Eq (rule v) (rule (.text v.toText))) →
      key ≠ "COMMENT_PREFIXES" →
      Agree Eq (rule (valueOf entries key)) (rule (valueOf others key)) :=
    fun key hrule hkey => (readsAlike_of_plain hrule hkey).agree (hrestates key)
  unfold ofEntries
  -- One step for each reading, in the order of `ofEntries`.
  refine ((readsAlike_commentMarks _).agree (hrestates _)).bind fun starts => ?_
  refine (hplain _ optionalText_agrees (by decide)).bind fun package => ?_
  cases package with
  | none => exact .refused rfl rfl
  | some package =>
      refine (hplain _ (positive_agrees _) (by decide)).bind fun input => ?_
      refine (hplain _ (positive_agrees _) (by decide)).bind fun history => ?_
      refine (hplain _ (positive_agrees _) (by decide)).bind fun output => ?_
      refine (readsAlike_textOrEmpty.agree (hrestates _)).bind fun prompt => ?_
      refine (hplain _ textOf_agrees (by decide)).bind fun scriptText => ?_
      refine (path_agrees files scriptText).bind fun script => ?_
      refine (hplain _ level_agrees (by decide)).bind fun level => ?_
      refine (hplain _ (optionalPath_agrees files) (by decide)).bind fun logFile => ?_
      refine (hplain _ boolean_agrees (by decide)).bind fun echo => ?_
      refine (hplain _ boolean_agrees (by decide)).bind fun suggest => ?_
      refine (hplain _ (positive_agrees _) (by decide)).bind fun rate => ?_
      refine (hplain _ optionalText_agrees (by decide)).bind fun autoexec => ?_
      exact .accepted rfl

/-! ## Mappings -/

/-- A mapping with every value in its text form. -/
def textForms (values : Dictionary Value) : Dictionary Value :=
  values.mapValues textForm

theorem normalize_textForms (values : Dictionary Value) :
    normalize (textForms values).entries = textForms (normalize values.entries) := by
  unfold normalize textForms
  rw [Dictionary.mapValues_ofList, List.map_map]
  unfold Dictionary.mapValues
  rw [List.map_map]
  rfl

theorem hasTextForm_text (key s : String) : HasTextForm key (.text s) :=
  .plain (.text s) fun _ => ⟨s, rfl⟩

theorem IsPlain.hasTextForm {key : String} {v : Value} (hplain : IsPlain v)
    (hkey : key ≠ "INPUT_PREFIX") : HasTextForm key v :=
  .plain hplain fun hprompt => absurd hprompt hkey

/-- Every default has a text form. -/
theorem hasTextForm_defaults : ∀ entry ∈ defaults.entries, HasTextForm entry.1 entry.2 := by
  simp only [defaults, List.forall_mem_cons]
  exact ⟨(IsPlain.int (by decide)).hasTextForm (by decide),
    (IsPlain.int (by decide)).hasTextForm (by decide),
    (IsPlain.int (by decide)).hasTextForm (by decide), hasTextForm_text _ _, hasTextForm_text _ _,
    hasTextForm_text _ _, hasTextForm_text _ _, IsPlain.null.hasTextForm (by decide),
    IsPlain.null.hasTextForm (by decide), (IsPlain.bool _).hasTextForm (by decide),
    (IsPlain.bool _).hasTextForm (by decide), (IsPlain.int (by decide)).hasTextForm (by decide),
    IsPlain.null.hasTextForm (by decide), fun _ hnone => absurd hnone List.not_mem_nil⟩

theorem hasTextForm_default (key : String) :
    HasTextForm key ((defaults.get? key).getD .null) := by
  cases hdefault : defaults.get? key with
  | none =>
      -- The prompt has a default, so the key is not that of the prompt.
      refine .plain .null ?_
      rintro rfl
      exact absurd hdefault (by simp [defaults, Dictionary.get?])
  | some v =>
      have hnodup : defaults.keys.Nodup := by decide
      exact hasTextForm_defaults _ ((Dictionary.get?_eq_some_iff hnodup).mp hdefault)

/-- The value that a mapping gives a key, or else the default. -/
theorem valueOf_merge (values : Dictionary Value) (key : String) :
    valueOf (merge defaults [values.entries]) key =
      ((Dictionary.lastValue? (normalize values.entries).entries key).or
        (defaults.get? key)).getD .null := by
  have hmerge : merge defaults [values.entries] =
      defaults.insertMany (normalize values.entries).entries := rfl
  rw [valueOf, hmerge, Dictionary.get?_insertMany, Option.or_assoc, Option.or_self]

section Mapping

variable {values : Dictionary Value}

theorem hasTextForm_of_lastValue?
    (hforms : ∀ entry ∈ values.entries, HasTextForm (normalKey entry.1) entry.2) {key : String}
    {v : Value} (hlast : Dictionary.lastValue? (normalize values.entries).entries key = some v) :
    HasTextForm key v := by
  obtain ⟨entry, hentry, rfl⟩ := Option.map_eq_some_iff.mp hlast
  obtain ⟨hmember, hkey⟩ := List.mem_filter.mp (List.mem_of_getLast? hentry)
  obtain rfl : entry.1 = key := by simpa using hkey
  obtain ⟨source, hsource, rfl⟩ := List.mem_map.mp (Dictionary.mem_of_mem_ofList hmember)
  exact hforms source hsource

theorem restates_textForms
    (hforms : ∀ entry ∈ values.entries, HasTextForm (normalKey entry.1) entry.2) (key : String) :
    Restates key (valueOf (merge defaults [values.entries]) key)
      (valueOf (merge defaults [(textForms values).entries]) key) := by
  have hlast : Dictionary.lastValue? (textForms (normalize values.entries)).entries key =
      (Dictionary.lastValue? (normalize values.entries).entries key).map textForm :=
    Dictionary.lastValue?_mapValues textForm _ key
  rw [valueOf_merge, valueOf_merge, normalize_textForms, hlast]
  cases hgiven : Dictionary.lastValue? (normalize values.entries).entries key with
  | none =>
      -- Both mappings leave the default, which is not put in its text form.
      exact .kept (hasTextForm_default key)
  | some v => exact .asText (hasTextForm_of_lastValue? hforms hgiven)

/-- What is no setting comes from the mapping alone. -/
theorem extraOf_merge (values : Dictionary Value) :
    extraOf (merge defaults [values.entries]) =
      .ofList ((normalize values.entries).entries.filter fun entry =>
        !defaults.contains entry.1) := by
  have hmerge : merge defaults [values.entries] =
      defaults.insertMany (normalize values.entries).entries := rfl
  have hnone : defaults.entries.filter (fun entry => !defaults.contains entry.1) = [] := by
    decide
  rw [extraOf, hmerge, Dictionary.filter_insertMany (fun key => !defaults.contains key), hnone]
  rfl

theorem extraOf_textForms (values : Dictionary Value) :
    extraOf (merge defaults [(textForms values).entries]) =
      textForms (extraOf (merge defaults [values.entries])) := by
  rw [extraOf_merge, extraOf_merge, normalize_textForms]
  unfold textForms
  rw [Dictionary.mapValues_ofList]
  unfold Dictionary.mapValues
  rw [List.filter_map]
  rfl

/-- **Settings from values and from texts.**  Take a mapping in which every value can stand as a
text under its key: a number of at most 4300 digits, a truth value, a text or null, for the starts
of comments also a list of texts without commas, for the prompt a text only.

The mapping and its text form give the same settings, or both are refused with a `ValueError`.
What is no setting is kept in the form in which it came. Names in any case and with `CONSOLE_` in
front stand for their keys; paths may be given too. -/
theorem ofMapping_textForms (files : Files)
    (hforms : ∀ entry ∈ values.entries, HasTextForm (normalKey entry.1) entry.2) :
    (∃ settings, ofMapping files values = .ok settings ∧
        ofMapping files (textForms values) =
          .ok { settings with extra := textForms settings.extra }) ∨
      ∃ fault other, ofMapping files values = .error fault ∧ fault.kind = "ValueError" ∧
        ofMapping files (textForms values) = .error other ∧ other.kind = "ValueError" := by
  have hagree := ofEntries_agree files (restates_textForms hforms)
  rw [extraOf_textForms] at hagree
  unfold ofMapping
  generalize hnative : ofEntries files (merge defaults [values.entries]) = native at hagree ⊢
  generalize ofEntries files (merge defaults [(textForms values).entries]) = textual at hagree ⊢
  cases hagree with
  | @accepted settings _ hsame =>
      have hextra : settings.extra = extraOf (merge defaults [values.entries]) :=
        (ofEntries_eq_ok_iff.mp hnative).extra
      rw [← hextra] at hsame
      exact .inl ⟨settings, rfl, congrArg _ hsame⟩
  | refused hfault hother => exact .inr ⟨_, _, rfl, hfault, rfl, hother⟩

end Mapping

/-- Values of several kinds, one of them under a name in another spelling. -/
def mixed : Dictionary Value := ⟨[
  ("tick_rate", .int 60),
  ("ECHO_INPUT", .bool false),
  ("COMMENT_PREFIXES", .list [.text "#", .text " // "])]⟩

theorem ofMapping_textForms_mixed :
    (∀ entry ∈ mixed.entries, HasTextForm (normalKey entry.1) entry.2) ∧
      ∃ settings, ofMapping ⟨[], [], ∅⟩ mixed = .ok settings ∧
        ofMapping ⟨[], [], ∅⟩ (textForms mixed) =
          .ok { settings with extra := textForms settings.extra } ∧
        settings.tickRate = 60 ∧ settings.echoInput = false ∧
        settings.commentStarts = ["#", "//"] := by
  have hrate : normalKey "tick_rate" = "TICK_RATE" := by decide +kernel
  have hecho : normalKey "ECHO_INPUT" = "ECHO_INPUT" := by decide +kernel
  have hcomments : normalKey "COMMENT_PREFIXES" = "COMMENT_PREFIXES" := by decide +kernel
  have hforms : ∀ entry ∈ mixed.entries, HasTextForm (normalKey entry.1) entry.2 := by
    simp only [mixed, List.forall_mem_cons, hrate, hecho, hcomments]
    have hstarts : ∀ s ∈ ["#", " // "], ',' ∉ s.toList := by decide
    exact ⟨(IsPlain.int (by decide)).hasTextForm (by decide),
      (IsPlain.bool false).hasTextForm (by decide), .list hstarts rfl,
      fun _ hnone => absurd hnone List.not_mem_nil⟩
  have hmerged : merge defaults [mixed.entries] =
      ((defaults.insert "TICK_RATE" (.int 60)).insert "ECHO_INPUT" (.bool false)).insert
        "COMMENT_PREFIXES" (.list [.text "#", .text " // "]) := by
    have hnormal : normalize mixed.entries = .ofList [
        ("TICK_RATE", .int 60), ("ECHO_INPUT", .bool false),
        ("COMMENT_PREFIXES", .list [.text "#", .text " // "])] := by
      simp only [normalize, mixed, List.map_cons, List.map_nil, hrate, hecho, hcomments]
    rw [merge, List.foldl_cons, List.foldl_nil, hnormal]
    rfl
  have hreads : Reads ⟨[], [], ∅⟩ (merge defaults [mixed.entries])
      { default with
        scriptPath := Files.absolute [], tickRate := 60, echoInput := false
        commentStarts := ["#", "//"] } := by
    rw [hmerged]
    constructor
    case scriptPath => exact path_dot ⟨[], [], ∅⟩
    all_goals rfl
  refine ⟨hforms, _, ofEntries_eq_ok_iff.mpr hreads, ?_, rfl, rfl, rfl⟩
  rcases ofMapping_textForms ⟨[], [], ∅⟩ hforms with
    ⟨settings, hnative, htextual⟩ | ⟨_, _, hrefused, _⟩
  · obtain rfl := Except.ok.inj ((ofEntries_eq_ok_iff.mpr hreads).symm.trans hnative)
    exact htextual
  · cases (ofEntries_eq_ok_iff.mpr hreads).symm.trans hrefused

end DevConsole.Settings
