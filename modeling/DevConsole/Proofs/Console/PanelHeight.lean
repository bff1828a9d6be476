import DevConsole.Proofs.Console.Panel
import DevConsole.Proofs.Text.Numeral
import DevConsole.Proofs.Text.Words

/-!
# How high the panel is

Text comes into the output through `writeOutput`, which cuts it at line feeds, so no line of the
output holds one (`Console.DisplayReaches.unbroken`).  Hence every line that the panel shows is
one row, and so is the marker, and the rows above the prompt can be counted
(`Console.lineFeeds_panel`).

Main statement: on two rows or more the prompt is always within the rows of the panel.  On one
row it is while the output follows its newest line (`Console.panel_fits_iff`): the marker of an
output that is scrolled back takes a row, also where the input line has taken the only one.
-/

namespace DevConsole

namespace ScrollLog

theorem mem_lines_write {log : ScrollLog} {line new : String}
    (hline : line ∈ (log.write new).lines) : line ∈ log.lines ∨ line = new := by
  rcases List.mem_append.mp hline with hold | hnew
  · left
    split at hold
    · exact List.mem_of_mem_drop hold
    · exact hold
  · exact Or.inr (List.mem_singleton.mp hnew)

/-- What holds of the lines of a log and of the lines written to it holds of its lines after
that. -/
theorem forall_lines_writes {p : String → Prop} {new : List String} (hnew : ∀ line ∈ new, p line) :
    ∀ {log : ScrollLog}, (∀ line ∈ log.lines, p line) →
      ∀ line ∈ (new.foldl write log).lines, p line := by
  induction new with
  | nil => exact fun hlog => hlog
  | cons first rest ih =>
      intro log hlog
      obtain ⟨hfirst, hrest⟩ := List.forall_mem_cons.mp hnew
      refine ih hrest fun line hline => ?_
      rcases mem_lines_write hline with hold | rfl
      · exact hlog line hold
      · exact hfirst

theorem CursorAt.length_window {log : ScrollLog} {shown : Nat} (hat : log.CursorAt shown)
    (rows : Int) : (log.window rows).length = min rows.toNat shown := by
  have hlines := hat.le_length
  rw [hat.window_eq, List.length_drop, List.length_take]
  omega

end ScrollLog

namespace Console

variable {E : Embedding} {host : Host E} {start c next : Console E} {settings : Settings}

/-! ## Lines without line feeds -/

/-- No line of the output holds a line feed. -/
def Unbroken (c : Console E) : Prop :=
  ∀ line ∈ c.output.lines, '\n' ∉ line.toList

theorem not_mem_of_mem_outputLines {text line : String} (hline : line ∈ outputLines text) :
    '\n' ∉ line.toList := by
  obtain ⟨field, hfield, rfl⟩ := List.mem_map.mp hline
  rw [String.toList_ofList]
  exact fun hfeed => Text.Chars.not_mem_of_mem_fields hfield
    ((Text.Chars.trimEnd_prefix _ field).subset hfeed)

namespace Unbroken

theorem of_output_lines (hc : c.Unbroken) (hsame : next.output.lines = c.output.lines) :
    next.Unbroken := by
  unfold Unbroken
  rwa [hsame]

theorem writeOutput (hc : c.Unbroken) (text : String) : (c.writeOutput text).Unbroken :=
  ScrollLog.forall_lines_writes (fun _ => not_mem_of_mem_outputLines) hc

end Unbroken

/-- What the operations of a console do to the output keeps its lines unbroken. -/
theorem DisplayReaches.unbroken (hreaches : c.DisplayReaches next) (hc : c.Unbroken) :
    next.Unbroken := by
  induction hreaches with
  | refl => exact hc
  | same _ hsame ih => exact ih.of_output_lines (congrArg ScrollLog.lines hsame.output)
  | write _ text ih => exact ih.writeOutput text
  | clear => exact fun _ hline => absurd hline List.not_mem_nil
  | scroll _ up ih => exact ih.of_output_lines (ScrollLog.scroll_lines _ up)
  | toNewest _ ih => exact ih.of_output_lines rfl
  | edit _ op ih => exact ih.of_output_lines rfl

/-! ## Rows above the prompt -/

/-- The line feeds in some fragments: the rows that they end. -/
def lineFeeds (fragments : List Fragment) : Nat :=
  (fragments.flatMap fun fragment => fragment.text.toList).count '\n'

/-- The fragments of a panel that come before its prompt. -/
def abovePrompt (fragments : List Fragment) : List Fragment :=
  fragments.takeWhile fun fragment => fragment.style != "class:prompt"

@[simp] theorem lineFeeds_append (first second : List Fragment) :
    lineFeeds (first ++ second) = lineFeeds first + lineFeeds second := by
  simp [lineFeeds]

/-- An unbroken text and the end of a row are one row. -/
theorem lineFeeds_row {text : String} (htext : '\n' ∉ text.toList) (style : String) :
    lineFeeds [⟨style, text⟩, rowEnd] = 1 := by
  simp [lineFeeds, rowEnd, List.count_eq_zero_of_not_mem htext]

theorem lineFeeds_outputRows {lines : List String}
    (hlines : ∀ line ∈ lines, '\n' ∉ line.toList) :
    lineFeeds (lines.flatMap outputRow) = lines.length := by
  induction lines with
  | nil => rfl
  | cons line rest ih =>
      obtain ⟨hline, hrest⟩ := List.forall_mem_cons.mp hlines
      rw [List.flatMap_cons, lineFeeds_append, outputRow, lineFeeds_row hline, ih hrest,
        List.length_cons, Nat.add_comm]

/-- The marker of an output that is scrolled back is one row. -/
theorem lineFeeds_marker (log : ScrollLog) :
    lineFeeds (marker log) = if log.following then 0 else 1 := by
  have hmarker (hidden : Int) : '\n' ∉ s!"-- {hidden} more line(s) below --".toList := by
    have hnumber : '\n' ∉ (toString hidden).toList := fun hfeed => by
      cases Text.isBlank_of_mem_toString hfeed
    simp only [String.toList_append, List.mem_append, not_or]
    exact ⟨⟨by decide, hnumber⟩, by decide⟩
  unfold marker
  split
  · rfl
  · exact lineFeeds_row (hmarker _) _

theorem abovePrompt_append {above : List Fragment}
    (habove : ∀ fragment ∈ above, fragment.style ≠ "class:prompt") (input : InputLine) :
    abovePrompt (above ++ inputRow input) = above := by
  unfold abovePrompt
  rw [List.takeWhile_append_of_pos (by simpa using habove)]
  simp [inputRow]

/-- Output and marker are above the prompt. -/
theorem abovePrompt_panel (c : Console E) (rows : Int) :
    abovePrompt (c.panel rows) =
      (c.output.window (bodyRows rows (!c.output.following))).flatMap outputRow ++
        marker c.output := by
  have hbody (line : String) : ∀ fragment ∈ outputRow line, fragment.style ≠ "class:prompt" := by
    unfold outputRow rowEnd
    split <;> simp
  have hmarker : ∀ fragment ∈ marker c.output, fragment.style ≠ "class:prompt" := by
    unfold marker rowEnd
    split <;> simp
  refine abovePrompt_append ?_ c.input
  intro fragment hfragment
  rcases List.mem_append.mp hfragment with hrows | hlast
  · obtain ⟨line, -, hrow⟩ := List.mem_flatMap.mp hrows
    exact hbody line fragment hrow
  · exact hmarker fragment hlast

/-- The rows above the prompt are those of the lines up to the cursor, as many as there is room
for, and that of the marker. -/
theorem lineFeeds_panel (hc : c.Unbroken) {shown : Nat} (hat : c.output.CursorAt shown)
    (rows : Int) :
    lineFeeds (abovePrompt (c.panel rows)) =
      if c.output.following then min (rows - 1).toNat shown
      else min (rows - 2).toNat shown + 1 := by
  have hwindow : ∀ line ∈ c.output.window (bodyRows rows (!c.output.following)),
      '\n' ∉ line.toList := by
    intro line hline
    rw [hat.window_eq] at hline
    exact hc line (List.mem_of_mem_take (List.mem_of_mem_drop hline))
  rw [abovePrompt_panel, lineFeeds_append, lineFeeds_outputRows hwindow, lineFeeds_marker,
    hat.length_window, toNat_bodyRows]
  cases c.output.following with
  | true => simp
  | false =>
      have hleft : rows - 1 - 1 = rows - 2 := by omega
      simp [hleft]

/-- **When the panel fits.**  Take a console that was created with some settings, in which
callbacks operate on output and input line as on any console, at any moment of a run, and any
number of rows from one on.

* No line of the output holds a line feed.
* The fragments above the prompt and the row of the input line make up the panel.
* At most `rows - 1` line feeds come before the prompt, so that it is in one of the first `rows`
  rows, if and only if there are two rows or more, or the output follows its newest line. -/
theorem panel_fits_iff (host : Host E) {source : LineSource} {world : E.World}
    (hstart : create settings source world = .ok start) (hcallbacks : OperatesDisplay host)
    {steps : List (Step E)} (hwithin : (start.after host steps).DisplayReaches c) {rows : Int}
    (hrows : 1 ≤ rows) :
    (∀ line ∈ c.output.lines, '\n' ∉ line.toList) ∧
      c.panel rows = abovePrompt (c.panel rows) ++ inputRow c.input ∧
      ((lineFeeds (abovePrompt (c.panel rows)) : Int) ≤ rows - 1 ↔
        2 ≤ rows ∨ c.output.following = true) := by
  obtain ⟨hsizes, -, rfl⟩ := create_eq_ok_iff.mp hstart
  have hreaches := (after_displayReaches hcallbacks steps _).trans hwithin
  have hunbroken : c.Unbroken :=
    hreaches.unbroken fun _ hline => absurd hline List.not_mem_nil
  obtain ⟨⟨ref, hsim⟩, -⟩ := (framed_unused settings source world).reaches hsizes.output hreaches
  obtain ⟨shown, hat⟩ := hsim.exists_cursorAt hsizes.output
  refine ⟨hunbroken, ?_, ?_⟩
  · rw [abovePrompt_panel, panel]
  · rw [lineFeeds_panel hunbroken hat]
    cases c.output.following with
    | true => simp only [if_true, or_true, iff_true]; omega
    | false => simp only [Bool.false_eq_true, if_false, or_false]; omega

/-- Of two rows one is for the marker; of a single row none is left for it. -/
theorem panel_fits_iff_scrolled_back :
    let c := shallow.after spillingHost spilledSteps
    c.output.following = false ∧ c.output.lines = ["b", "c", "[error] d", "e", "f"] ∧
      (∀ line ∈ c.output.lines, '\n' ∉ line.toList) ∧
      lineFeeds (abovePrompt (c.panel 2)) ≤ 1 ∧ ¬lineFeeds (abovePrompt (c.panel 1)) ≤ 0 := by
  intro c
  have hscrolled : c.output.following = false := by decide +kernel
  have hlines : c.output.lines = ["b", "c", "[error] d", "e", "f"] := by decide +kernel
  have hstart : create { Settings.default with maxOutputLines := 5, inputPrompt := "$ " }
      (.ofScripts []) () = .ok shallow := rfl
  have hcallbacks : OperatesDisplay spillingHost := fun _ _ c => .scroll (.write .refl _) true
  have hwithin : (shallow.after spillingHost spilledSteps).DisplayReaches c := .refl
  obtain ⟨hunbroken, -, htwo⟩ :=
    panel_fits_iff spillingHost hstart hcallbacks hwithin (show (1 : Int) ≤ 2 by decide)
  obtain ⟨-, -, hone⟩ :=
    panel_fits_iff spillingHost hstart hcallbacks hwithin (show (1 : Int) ≤ 1 by decide)
  clear_value c
  rw [hscrolled] at htwo hone
  refine ⟨hscrolled, hlines, hunbroken, ?_, ?_⟩
  · exact Int.ofNat_le.mp (htwo.mpr (.inl (Int.le_refl 2)))
  · intro hfits
    exact absurd (hone.mp (Int.ofNat_le.mpr hfits)) (by decide)

/-- The marker of an output that is scrolled back stands in the only row there is, and the prompt
comes in a second one. -/
theorem marker_takes_only_row :
    let c := shallow.after spillingHost [.writeOutput "a\nb", .scrollOutput true]
    c.panel 1 = [⟨"class:marker", "-- 1 more line(s) below --"⟩, rowEnd] ++ inputRow c.input ∧
      ¬(lineFeeds (abovePrompt (c.panel 1)) : Int) ≤ 1 - 1 := by
  decide +kernel

end Console
end DevConsole
