import DevConsole.Proofs.Settings.Dotenv.Reading

/-!
# Several spellings of one setting

Names that stand for one key may differ in case and in a leading `CONSOLE_`.  The dictionary of a
file keeps them apart, each in the place of its first assignment and with the value of its last
one.  When the keys are made normal, the spelling that comes last counts (`newest?`).

So the value of a key is not always that of the last line that assigns it
(`last_assignment_counts_iff`): a spelling that is assigned again keeps its place before those
that came after its first assignment.
-/

namespace DevConsole.Settings.Dotenv

/-- Of the names that stand for a key, the one whose first assignment comes after those of all
others. -/
def newest? (key text : String) : Option String :=
  ((assignedTo key text).map (·.1)).eraseDups.getLast?

/-- The value of a key is the last one that is assigned to its newest name. -/
theorem value?_eq (key text : String) :
    value? key text = (newest? key text).bind (Dictionary.lastValue? (assignedTo key text)) :=
  Dictionary.getLast?_entries_ofList _

theorem exists_value? {key text : String} (hsome : assignedTo key text ≠ []) :
    ∃ used, value? key text = some used := by
  have hentries : (Dictionary.ofList (assignedTo key text)).entries ≠ [] :=
    mt Dictionary.ofList_eq_nil_iff.mp hsome
  refine ⟨(List.getLast _ hentries).2, ?_⟩
  rw [value?, List.getLast?_eq_some_getLast hentries]
  rfl

/-- **The last assignment.**  Take a `.env` file that assigns values to names of a key, and no
source above it that defines this key.

The settings are made of merged entries in which the key has the value of the last line that
assigns it exactly if the newest of its names was last assigned this value. -/
theorem last_assignment_counts_iff {files : Files} {directory text key name value : String}
    {environment : Dictionary String} {sources : Sources}
    (hread : Sources.read files directory environment = .ok sources)
    (hfile : files.Holds (pathIn directory ".env") text)
    (hhigher : ∀ layer ∈ sources.layers.tail, ¬ layer.Defines key)
    (hlast : (assignedTo key text).getLast? = some (name, value)) :
    load files directory environment = ofEntries files sources.merged ∧
      (sources.merged.get? key = some (.text value) ↔
        ∃ newest, newest? key text = some newest ∧
          Dictionary.lastValue? (assignedTo key text) newest = some value) := by
  refine ⟨(Sources.of_read hread).2, ?_⟩
  have hsome : assignedTo key text ≠ [] := List.ne_nil_of_mem (List.mem_of_getLast? hlast)
  obtain ⟨used, hused⟩ := exists_value? hsome
  have hmerged : sources.merged.get? key = some (.text used) := by
    rw [merged_of_dotenv hread hfile hhigher, hused]
    rfl
  rw [hmerged, ← Option.bind_eq_some_iff, ← value?_eq, hused]
  simp

/-- A file in which each line has a spelling of its own. -/
def threeSpellings : String := "tick_rate=1\nCONSOLE_TICK_RATE=2\nTick_Rate=3\n"

theorem last_assignment_counts_iff_three_spellings :
    ∃ sources, Sources.read (onlyDotenv threeSpellings) "/base" ∅ = .ok sources ∧
      sources.merged.get? "TICK_RATE" = some (.text "3") := by
  have hascii : isAscii threeSpellings = true := by decide +kernel
  have hread := read_onlyDotenv hascii
  have hassigned : assignedTo "TICK_RATE" threeSpellings =
      [("tick_rate", "1"), ("CONSOLE_TICK_RATE", "2"), ("Tick_Rate", "3")] := by decide +kernel
  have hlast : (assignedTo "TICK_RATE" threeSpellings).getLast? = some ("Tick_Rate", "3") := by
    rw [hassigned]
    rfl
  obtain ⟨-, hcounts⟩ := last_assignment_counts_iff hread (holds_onlyDotenv hascii)
    (Sources.not_defines_ofDotenv _ _) hlast
  refine ⟨_, hread, hcounts.mpr ⟨"Tick_Rate", ?_, ?_⟩⟩
  · rw [newest?, hassigned]
    decide +kernel
  · rw [hassigned]
    decide +kernel

/-- A file whose last line has the spelling of its first. -/
def repeatedSpelling : String := "tick_rate=1\nTICK_RATE=2\ntick_rate=3\n"

theorem repeated_spelling_passed_over :
    (assignedTo "TICK_RATE" repeatedSpelling).getLast? = some ("tick_rate", "3") ∧
      ∃ sources, Sources.read (onlyDotenv repeatedSpelling) "/base" ∅ = .ok sources ∧
        (∀ layer ∈ sources.layers.tail, ¬ layer.Defines "TICK_RATE") ∧
        sources.merged.get? "TICK_RATE" = some (.text "2") := by
  have hascii : isAscii repeatedSpelling = true := by decide +kernel
  have hassigned : assignedTo "TICK_RATE" repeatedSpelling =
      [("tick_rate", "1"), ("TICK_RATE", "2"), ("tick_rate", "3")] := by decide +kernel
  have hread := read_onlyDotenv hascii
  have hhigher := Sources.not_defines_ofDotenv (.ofList (assigned repeatedSpelling)) "TICK_RATE"
  refine ⟨by rw [hassigned]; rfl, _, hread, hhigher, ?_⟩
  have hvalue : value? "TICK_RATE" repeatedSpelling = some "2" := by
    rw [value?, hassigned]
    decide +kernel
  rw [merged_of_dotenv hread (holds_onlyDotenv hascii) hhigher, hvalue]
  rfl

end DevConsole.Settings.Dotenv
