import DevConsole.Fault
import Mathlib.Tactic.Common

/-!
# What can be told

A value with a whole number of too many digits in it has no text, and neither has a failure that
shows such a value.  `Told` says of a failure or a fault that it has one.  Who asks for the report
of what cannot be told gets one failure in its place, whatever it is that cannot be told
(`Failure.report_of_not_told`, `Fault.report_of_not_told`), and that failure can be told
(`Failure.told_unwritable`).  What code of the program raises can be told exactly if every value
that it is raised with can be written (`Failure.told_raised_iff`).
-/

namespace DevConsole

namespace Value

variable {v : Value} {values : List Value} {text : String} {other : Failure}

theorem eq_unwritable_of_showing (herror : showing values text = .error other) :
    other = .unwritable := by
  unfold showing at herror
  split at herror
  · cases herror
  · exact (Except.error.inj herror).symm

/-- A text that shows some values can be made if all of them can be written. -/
theorem exists_showing_iff :
    (∃ shown, showing values text = .ok shown) ↔ areWritable values = true := by
  unfold showing
  by_cases hwritable : areWritable values = true
  · rw [if_pos hwritable]
    exact ⟨fun _ => hwritable, fun _ => ⟨text, rfl⟩⟩
  · rw [if_neg hwritable]
    exact ⟨nofun, fun hall => absurd hall hwritable⟩

theorem write_of_isWritable (hwritable : v.isWritable = true) : v.write = .ok v.toText := by
  simp only [write, showing, areWritable, hwritable, Bool.and_self, if_true]

theorem write_of_not_isWritable (hnot : v.isWritable = false) : v.write = .error .unwritable := by
  simp only [write, showing, areWritable, hnot, Bool.false_and, Bool.false_eq_true, if_false]

/-- The least whole number with too many digits. -/
def overlong : Value :=
  .int (Int.ofNat (Nat.pow 10 Text.maxDigits))

theorem isWritable_overlong : overlong.isWritable = false := by
  decide +kernel

end Value

namespace Failure

variable {failure other : Failure}

/-- The failure has a text. -/
def Told (failure : Failure) : Prop :=
  ∃ text, failure.text = .ok text

theorem told_unwritable : unwritable.Told :=
  ⟨Value.limitText, rfl⟩

theorem eq_unwritable_of_argsText {args : List Value} (herror : argsText args = .error other) :
    other = .unwritable :=
  Value.eq_unwritable_of_showing herror

theorem eq_unwritable_of_systemText {args : List Value} (herror : systemText args = .error other) :
    other = .unwritable := by
  rw [systemText.eq_def] at herror
  split at herror <;> exact Value.eq_unwritable_of_showing herror

theorem eq_unwritable_of_systemReason {args : List Value}
    (herror : systemReason args = .error other) : other = .unwritable := by
  unfold systemReason at herror
  split at herror
  · split at herror
    · exact Value.eq_unwritable_of_showing herror
    · exact eq_unwritable_of_systemText herror
  · exact eq_unwritable_of_systemText herror

/-- Only a number of too many digits keeps a failure from being told. -/
theorem eq_unwritable_of_text (herror : failure.text = .error other) : other = .unwritable := by
  cases failure with
  | raised kind args => exact eq_unwritable_of_argsText herror
  | missingKey args =>
      cases args with
      | nil => exact eq_unwritable_of_argsText herror
      | cons v rest =>
          cases rest with
          | nil => exact Value.eq_unwritable_of_showing herror
          | cons _ _ => exact eq_unwritable_of_argsText herror
  | system kind args => exact eq_unwritable_of_systemText herror
  | undecodable fault => cases herror

theorem text_of_not_told (hnot : ¬failure.Told) : failure.text = .error .unwritable := by
  cases htext : failure.text with
  | ok text => exact absurd ⟨text, htext⟩ hnot
  | error other => rw [eq_unwritable_of_text htext]

/-- What code raises can be told if no value that it is raised with has such a number in it. -/
theorem told_raised_iff {kind : String} {args : List Value} :
    (raised kind args).Told ↔ Value.areWritable args = true :=
  Value.exists_showing_iff

theorem report_of_text {text : String} (htext : failure.text = .ok text) :
    failure.report = .ok s!"{failure.kind}: {text}" := by
  rw [report, htext, Except.map]

theorem report_of_not_told (hnot : ¬failure.Told) : failure.report = .error .unwritable := by
  rw [report, text_of_not_told hnot, Except.map]

theorem Told.exists_report (htold : failure.Told) : ∃ report, failure.report = .ok report := by
  obtain ⟨text, htext⟩ := htold
  exact ⟨_, report_of_text htext⟩

end Failure

namespace Fault

variable {fault : Fault} {other : Failure}

/-- The fault has a text. -/
def Told (fault : Fault) : Prop :=
  ∃ text, fault.text = .ok text

theorem eq_unwritable_of_text (herror : fault.text = .error other) : other = .unwritable := by
  cases fault with
  | outside failure => exact Failure.eq_unwritable_of_text herror
  | script fault =>
      cases fault with
      | unreadable name reason => cases herror
      | source failure => exact Failure.eq_unwritable_of_text herror
  | wait fault => cases fault <;> cases herror
  | name | input | log | size | package => cases herror

theorem report_of_text {text : String} (htext : fault.text = .ok text) :
    fault.report = .ok s!"{fault.kind}: {text}" := by
  rw [report, htext, Except.map]

theorem report_of_not_told (hnot : ¬fault.Told) : fault.report = .error .unwritable := by
  cases htext : fault.text with
  | ok text => exact absurd ⟨text, htext⟩ hnot
  | error other => rw [report, htext, eq_unwritable_of_text htext, Except.map]

end Fault

end DevConsole
