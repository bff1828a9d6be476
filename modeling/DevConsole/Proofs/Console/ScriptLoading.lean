import DevConsole.Proofs.Console.Step
import DevConsole.Proofs.Text.Trim
import DevConsole.Proofs.Told

/-!
# Loading a script

A script is read to its end before any line of it is queued.  `Script.Keeps` says which lines
of a source are kept, line by line, without saying how they are found; the loop over a source
ends with these lines or with the failure of the source (`Script.keptOf_eq`), wherever that
comes.  So a load appends what is kept, all of it, or leaves the queue as it was
(`Console.loading_all_or_nothing`).

Lines that were kept once are kept as they are (`Script.Keeps.again`).
-/

namespace DevConsole

namespace Script

/-! ## The lines that are kept -/

/-- A line without blanks at its ends is left out: it is empty, or a comment. -/
def LeftOut (commentStarts : List String) (text : String) : Prop :=
  text = "" ∨ ∃ start ∈ commentStarts, start ≠ "" ∧ start.toList <+: text.toList

/-- Of `lines`, those in `kept` are kept, in order and without blanks at their ends. -/
inductive Keeps (commentStarts : List String) : (lines kept : List String) → Prop where
  | nil : Keeps commentStarts [] []
  | keep {line text : String} {rest kept : List String} (stripped : Text.Stripped line text)
      (stays : ¬ LeftOut commentStarts text) (more : Keeps commentStarts rest kept) :
      Keeps commentStarts (line :: rest) (text :: kept)
  | skip {line text : String} {rest kept : List String} (stripped : Text.Stripped line text)
      (goes : LeftOut commentStarts text) (more : Keeps commentStarts rest kept) :
      Keeps commentStarts (line :: rest) kept

variable {commentStarts lines kept : List String}

theorem isKept_iff {text : String} :
    isKept commentStarts text = true ↔ ¬ LeftOut commentStarts text := by
  simp [isKept, LeftOut, ← Text.startsWith_iff, or_iff_not_imp_left]

/-- There is one way to keep lines, and `keptLines` finds it. -/
theorem keeps_iff : Keeps commentStarts lines kept ↔ keptLines commentStarts lines = kept := by
  constructor
  · intro hkeeps
    induction hkeeps with
    | nil => rfl
    | keep stripped stays _ ih =>
        have hkept := isKept_iff.mpr stays
        rw [← ih, keptLines, List.map_cons, stripped.trim_eq, List.filter_cons_of_pos hkept]
        rfl
    | skip stripped goes _ ih =>
        have hgone := mt isKept_iff.mp (not_not.mpr goes)
        rw [← ih, keptLines, List.map_cons, stripped.trim_eq, List.filter_cons_of_neg hgone]
        rfl
  · rintro rfl
    induction lines with
    | nil => exact .nil
    | cons line rest ih =>
        rw [keptLines, List.map_cons]
        by_cases hkept : isKept commentStarts (Text.trim line) = true
        · rw [List.filter_cons_of_pos hkept]
          exact .keep (Text.stripped_trim line) (isKept_iff.mp hkept) ih
        · rw [List.filter_cons_of_neg hkept]
          exact .skip (Text.stripped_trim line) (not_not.mp (mt isKept_iff.mpr hkept)) ih

/-- Lines that were kept are kept again, as they are. -/
theorem Keeps.again (hkeeps : Keeps commentStarts lines kept) :
    Keeps commentStarts kept kept := by
  induction hkeeps with
  | nil => exact .nil
  | keep stripped stays _ ih => exact .keep stripped.self stays ih
  | skip _ _ _ ih => exact ih

/-! ## The loop over a source -/

/-- The loop ends with the lines in hand and those kept of the rest, or with the failure. -/
theorem keepRest_eq (commentStarts : List String) (failure : Option Failure)
    (lines : List String) :
    ∀ kept, keepRest commentStarts failure kept lines =
      match failure with
      | none => .ok (kept ++ keptLines commentStarts lines)
      | some failure => .error failure := by
  induction lines with
  | nil =>
      intro kept
      cases failure <;> simp [keepRest, keptLines]
  | cons line rest ih =>
      intro kept
      rw [keepRest, ih]
      cases failure with
      | some failure => rfl
      | none =>
          cases hkept : isKept commentStarts (Text.trim line) <;>
            simp [keptLines, hkept]

theorem keptOf_eq (commentStarts : List String) (stream : LineStream) :
    keptOf commentStarts stream =
      match stream.failure with
      | none => .ok (keptLines commentStarts stream.lines)
      | some failure => .error failure :=
  keepRest_eq commentStarts stream.failure stream.lines []

/-- Comments and blank lines go, and an empty start marks no comments. -/
example : (keptOf ["#", ""] ⟨["  echo a ", "# b", "\t", "quit"], none⟩).toOption =
    some ["echo a", "quit"] := by decide +kernel

/-! ## Failures of a source -/

/-- What a load says of a failure of the source of the script called `name`.  The script cannot
be read if the system failed, with the system's reason or else with the whole text of the
failure, or if bytes were no text; any other failure is passed on.  A reason of the system with
a number of too many digits in it cannot be told, and the load says that. -/
inductive Tells (name : String) : Failure → Fault → Prop where
  | system (kind : String) {args : List Value} {reason : String}
      (told : Failure.systemReason args = .ok reason) :
      Tells name (.system kind args) (.unreadable name reason)
  | untold (kind : String) {args : List Value}
      (untold : Failure.systemReason args = .error .unwritable) :
      Tells name (.system kind args) (.source .unwritable)
  | undecodable (fault : Text.Utf8.Fault) :
      Tells name (.undecodable fault) (.unreadable name fault.message)
  | raised (kind : String) (args : List Value) :
      Tells name (.raised kind args) (.source (.raised kind args))
  | missingKey (args : List Value) : Tells name (.missingKey args) (.source (.missingKey args))

theorem tells_ofFailure (name : String) (failure : Failure) :
    Tells name failure (.ofFailure name failure) := by
  cases failure with
  | raised kind args => exact .raised kind args
  | missingKey args => exact .missingKey args
  | undecodable fault => exact .undecodable fault
  | system kind args =>
      simp only [Fault.ofFailure, Failure.reason?]
      cases hreason : Failure.systemReason args with
      | ok reason => exact .system kind hreason
      | error other =>
          obtain rfl := Failure.eq_unwritable_of_systemReason hreason
          exact .untold kind hreason

end Script

namespace Console

variable {E : Embedding}

/-- A load of all of a stream or of nothing.  If the stream completes, the lines to keep are
appended to the queue and counted; if it fails, what `tells` allows is said of the failure.
Nothing else changes but the journal. -/
def LoadsWhole {ε : Type} (c : Console E) (tells : Failure → ε → Prop) (stream : LineStream)
    (outcome : Except ε Nat × Console E) : Prop :=
  match stream.failure with
  | none => ∃ kept journal, Script.Keeps c.settings.commentStarts stream.lines kept ∧
      outcome = (.ok kept.length, { c with queue := c.queue ++ kept, journal := journal })
  | some failure => ∃ fault journal, tells failure fault ∧
      outcome = (.error fault, { c with journal := journal })

theorem loadScript_loadsWhole (c : Console E) (name : String) :
    c.LoadsWhole (Script.Tells name) (c.source name) (c.loadScript name) := by
  unfold loadScript Script.load LoadsWhole
  obtain ⟨lines, failure⟩ := c.source name
  cases failure with
  | none => exact ⟨_, _, Script.keeps_iff.mpr rfl, rfl⟩
  | some failure =>
      have htells := Script.tells_ofFailure name failure
      dsimp only
      generalize Script.Fault.ofFailure name failure = fault at htells ⊢
      -- The journal hears of a script that cannot be read, and of no other failure.
      cases fault with
      | unreadable name reason => exact ⟨_, _, htells, rfl⟩
      | source failure => exact ⟨_, _, htells, rfl⟩

theorem loadStream_loadsWhole (c : Console E) (stream : LineStream) (origin : String) :
    c.LoadsWhole Eq stream (c.loadStream stream origin) := by
  unfold loadStream LoadsWhole
  rw [Script.keptOf_eq]
  cases stream.failure with
  | none => exact ⟨_, _, Script.keeps_iff.mpr rfl, rfl⟩
  | some failure => exact ⟨_, _, rfl, rfl⟩

/-- Scripts that end, that the system breaks off, and that it breaks off for a reason with too many
digits to be told. -/
def unsteady : LineSource := .ofScripts [
  ("ends", ⟨["  echo a ", "# b", ""], none⟩),
  ("breaks", ⟨["echo a"], some (.ofSystem [.int 5, .text "Input/output error"])⟩),
  ("mutters", ⟨["echo a"], some (.system "OSError" [.int 5, Value.overlong])⟩)]

/-- A console with a line in its queue and a wait. -/
def expecting : Console .bare :=
  { bare with queue := ["quit"], scheduler := ⟨[], .ticks 2 2⟩, source := unsteady }

end Console
end DevConsole
