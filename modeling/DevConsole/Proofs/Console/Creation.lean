import DevConsole.Proofs.Console.Step
import DevConsole.Proofs.ScrollLog.Refinement
import DevConsole.Proofs.Settings.Validation
import DevConsole.Settings.Sources

/-!
# Making a console

A console can be made from settings exactly if all sizes are from one on and both logs are of at
most `ScrollLog.maxCapacity` lines, and then it is the console that nothing has been done to
(`Console.create_eq_ok_iff`).

Settings that are accepted have sizes from one on, without an upper limit
(`Settings.ofMapping_outputSize`).  So a console can be made from accepted settings exactly if
both logs are within the limit for logs, and then it has the sizes that the settings ask for
(`Console.made_of_accepted_iff`).
-/

namespace DevConsole

theorem mapError_eq_ok_iff {ε ε' α : Type} {x : Except ε α} {f : ε → ε'} {a : α} :
    x.mapError f = .ok a ↔ x = .ok a := by
  cases x <;> simp [Except.mapError]

theorem InputLine.empty?_eq_ok_iff {cap : Nat} {prompt : String} {line : InputLine} :
    empty? cap prompt = .ok line ↔ 1 ≤ cap ∧ line = ⟨cap, prompt, [], 0⟩ := by
  unfold empty?
  by_cases hsmall : (cap : Int) < 1
  · rw [if_pos hsmall]
    exact ⟨nofun, fun hline => absurd hline.1 (by omega)⟩
  · rw [if_neg hsmall]
    exact ⟨fun hline => ⟨by omega, (Except.ok.inj hline).symm⟩, fun hline => hline.2 ▸ rfl⟩

/-! ## Consoles that nothing has been done to -/

namespace Console

variable {E : Embedding}

/-- All sizes are from one on, as the parts of a console demand. -/
structure SizesPositive (settings : Settings) : Prop where
  input : 1 ≤ settings.maxInputLength
  history : 1 ≤ settings.maxHistoryLines
  output : 1 ≤ settings.maxOutputLines

/-- The sizes of both logs are within the limit for logs. -/
structure LogsFit (settings : Settings) : Prop where
  history : settings.maxHistoryLines ≤ ScrollLog.maxCapacity
  output : settings.maxOutputLines ≤ ScrollLog.maxCapacity

/-- The console that nothing has been done to. -/
def unused (settings : Settings) (source : LineSource) (world : E.World) : Console E where
  settings := settings
  registry := ∅
  descriptions := ∅
  input := ⟨settings.maxInputLength, settings.inputPrompt, [], 0⟩
  output := .fresh settings.maxOutputLines
  history := .fresh settings.maxHistoryLines
  queue := []
  scheduler := .empty
  source := source
  journal := .empty
  world := world
  enabled := true
  quitRequested := false
  recalling := false
  ticks := 0

variable {settings : Settings} {source : LineSource} {world : E.World} {c : Console E}

theorem create_eq_ok_iff :
    create settings source world = .ok c ↔
      SizesPositive settings ∧ LogsFit settings ∧ c = unused settings source world := by
  unfold create
  simp only [Settings.bind_eq_ok_iff, mapError_eq_ok_iff, InputLine.empty?_eq_ok_iff,
    ScrollLog.empty?_eq_ok_iff]
  constructor
  · rintro ⟨_, ⟨hinput, rfl⟩, _, ⟨houtput, houtputFits, rfl⟩, _,
      ⟨hhistory, hhistoryFits, rfl⟩, hmade⟩
    exact ⟨⟨hinput, hhistory, houtput⟩, ⟨hhistoryFits, houtputFits⟩, (Except.ok.inj hmade).symm⟩
  · rintro ⟨hsizes, hfit, rfl⟩
    exact ⟨_, ⟨hsizes.input, rfl⟩, _, ⟨hsizes.output, hfit.output, rfl⟩, _,
      ⟨hsizes.history, hfit.history, rfl⟩, rfl⟩

theorem createSized_eq (hsizes : SizesPositive settings) (source : LineSource)
    (world : E.World) :
    createSized settings.maxInputLength settings.maxHistoryLines settings.maxOutputLines settings
      source world = create settings source world := by
  have hinput : ¬(settings.maxInputLength : Int) < 1 := by have := hsizes.input; omega
  have hhistory : ¬(settings.maxHistoryLines : Int) < 1 := by have := hsizes.history; omega
  have houtput : ¬(settings.maxOutputLines : Int) < 1 := by have := hsizes.output; omega
  unfold createSized
  rw [if_neg hinput, if_neg hhistory, if_neg houtput]
  rfl

theorem createSized_eq_ok_iff :
    createSized settings.maxInputLength settings.maxHistoryLines settings.maxOutputLines settings
      source world = .ok c ↔ create settings source world = .ok c := by
  by_cases hsizes : SizesPositive settings
  · rw [createSized_eq hsizes]
  · have hrefused : ∀ next, createSized settings.maxInputLength settings.maxHistoryLines
        settings.maxOutputLines settings source world ≠ .ok next := by
      intro next hmade
      unfold createSized at hmade
      by_cases hinput : (settings.maxInputLength : Int) < 1
      · rw [if_pos hinput] at hmade
        cases hmade
      by_cases hhistory : (settings.maxHistoryLines : Int) < 1
      · rw [if_neg hinput, if_pos hhistory] at hmade
        cases hmade
      by_cases houtput : (settings.maxOutputLines : Int) < 1
      · rw [if_neg hinput, if_neg hhistory, if_pos houtput] at hmade
        cases hmade
      · exact hsizes ⟨by omega, by omega, by omega⟩
    exact ⟨fun hmade => absurd hmade (hrefused c),
      fun hmade => absurd (create_eq_ok_iff.mp hmade).1 hsizes⟩

theorem create_of_large (hsizes : SizesPositive settings) (hlarge : ¬LogsFit settings)
    (source : LineSource) (world : E.World) :
    create settings source world = .error (.log .capacityTooLarge) := by
  have hinput := InputLine.empty?_eq_ok_iff.mpr
    (⟨hsizes.input, rfl⟩ : _ ∧ _ = (⟨_, settings.inputPrompt, [], 0⟩ : InputLine))
  have hrefused : ∀ {size : Nat}, 1 ≤ size → ScrollLog.maxCapacity < size →
      ScrollLog.empty? size = .error .capacityTooLarge := by
    intro size hsize hover
    unfold ScrollLog.empty?
    rw [if_neg (by omega), if_pos hover]
  unfold create
  rw [hinput]
  -- The output is made before the history, and both fail in the same way.
  by_cases houtput : (settings.maxOutputLines : Int) ≤ ScrollLog.maxCapacity
  · have hhistory : ScrollLog.maxCapacity < (settings.maxHistoryLines : Int) := by
      by_contra hwithin
      exact hlarge ⟨by omega, houtput⟩
    rw [ScrollLog.empty?_eq_fresh hsizes.output houtput, hrefused hsizes.history hhistory]
    rfl
  · rw [hrefused hsizes.output (by omega)]
    rfl

end Console

/-! ## Accepted settings -/

/-- The settings of a console that is told nothing but the size of its output. -/
def Settings.ofOutputSize (files : Files) (size : Nat) : Settings :=
  { default with
    scriptPath := Files.absolute files.current
    maxOutputLines := size }

theorem Settings.ofMapping_outputSize (files : Files) {size : Nat} (hsize : 1 ≤ size) :
    ofMapping files ⟨[("MAX_OUT_LINES", .int size)]⟩ = .ok (ofOutputSize files size) := by
  have hkey : normalKey "MAX_OUT_LINES" = "MAX_OUT_LINES" := by decide +kernel
  have hmerged : merge defaults [[("MAX_OUT_LINES", .int size)]] =
      defaults.insert (normalKey "MAX_OUT_LINES") (.int size) := rfl
  rw [ofMapping, hmerged, hkey]
  exact ofEntries_eq_ok_iff.mpr ((reads_defaults files).insert_outputSize hsize)

namespace Console

variable {E : Embedding}

theorem sizesPositive_of_accepted {files : Files} {entries : Dictionary Value}
    {settings : Settings} (haccepted : Settings.ofMapping files entries = .ok settings) :
    SizesPositive settings :=
  have hreads := Settings.ofEntries_eq_ok_iff.mp haccepted
  ⟨Settings.one_le_of_positive hreads.maxInputLength,
    Settings.one_le_of_positive hreads.maxHistoryLines,
    Settings.one_le_of_positive hreads.maxOutputLines⟩

/-- The bounds of a console are those that settings ask for. -/
structure HasBounds (c : Console E) (settings : Settings) : Prop where
  input : c.input.cap = settings.maxInputLength
  history : c.history.capacity = settings.maxHistoryLines
  output : c.output.capacity = settings.maxOutputLines

/-- **Consoles from accepted settings.**  Take settings that a mapping gives, a source of lines
and a world.  Making a console from them succeeds, with exactly the bounds that the settings ask
for, if and only if both logs are within the limit for logs; otherwise it fails because a log is
too large.  Making it with the three sizes given apart is the same. -/
theorem made_of_accepted_iff {files : Files} {entries : Dictionary Value} {settings : Settings}
    (haccepted : Settings.ofMapping files entries = .ok settings) (source : LineSource)
    (world : E.World) :
    ((∃ c, create settings source world = .ok c ∧ c.HasBounds settings) ↔ LogsFit settings) ∧
      (¬LogsFit settings → create settings source world = .error (.log .capacityTooLarge)) ∧
      createSized settings.maxInputLength settings.maxHistoryLines settings.maxOutputLines
        settings source world = create settings source world := by
  have hsizes := sizesPositive_of_accepted haccepted
  refine ⟨⟨?_, ?_⟩, fun hlarge => create_of_large hsizes hlarge source world,
    createSized_eq hsizes source world⟩
  · rintro ⟨c, hmade, -⟩
    exact (create_eq_ok_iff.mp hmade).2.1
  · intro hfit
    exact ⟨_, create_eq_ok_iff.mpr ⟨hsizes, hfit, rfl⟩, rfl, rfl, rfl⟩

/-- The largest output log that a console can have. -/
theorem made_of_accepted_largest :
    Settings.ofMapping ⟨[], [], ∅⟩ ⟨[("MAX_OUT_LINES", .int 9223372036854775807)]⟩ =
        .ok (.ofOutputSize ⟨[], [], ∅⟩ 9223372036854775807) ∧
      ∃ c : Console .bare, create (.ofOutputSize ⟨[], [], ∅⟩ 9223372036854775807)
          (.ofScripts []) () = .ok c ∧ c.output.capacity = 9223372036854775807 := by
  have haccepted := Settings.ofMapping_outputSize ⟨[], [], ∅⟩
    (by decide : 1 ≤ 9223372036854775807)
  obtain ⟨c, hmade, hbounds⟩ :=
    (made_of_accepted_iff (E := .bare) haccepted (.ofScripts []) ()).1.mpr
      ⟨by decide, by decide⟩
  exact ⟨haccepted, c, hmade, hbounds.output⟩

/-- One line more is accepted as a setting, and no console can be made. -/
theorem accepted_too_large :
    ∃ settings, Settings.ofMapping ⟨[], [], ∅⟩
        ⟨[("MAX_OUT_LINES", .int 9223372036854775808)]⟩ = .ok settings ∧
      create (E := .bare) settings (.ofScripts []) () = .error (.log .capacityTooLarge) ∧
      createSized (E := .bare) settings.maxInputLength settings.maxHistoryLines
        settings.maxOutputLines settings (.ofScripts []) () =
        .error (.log .capacityTooLarge) := by
  have haccepted := Settings.ofMapping_outputSize ⟨[], [], ∅⟩
    (by decide : 1 ≤ 9223372036854775808)
  have hsizes := sizesPositive_of_accepted haccepted
  have hlarge : ¬LogsFit (.ofOutputSize ⟨[], [], ∅⟩ 9223372036854775808) :=
    fun hfit => absurd hfit.output (by decide)
  have hfails := create_of_large (E := .bare) hsizes hlarge (.ofScripts []) ()
  exact ⟨_, haccepted, hfails, (createSized_eq hsizes _ _).trans hfails⟩

end Console
end DevConsole
