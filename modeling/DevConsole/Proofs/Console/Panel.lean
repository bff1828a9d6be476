import DevConsole.Console.Panel
import DevConsole.Proofs.Console.Creation
import DevConsole.Proofs.Console.Display
import DevConsole.Proofs.Console.History

/-!
# What the panel shows

The invariant is that the output of a console simulates the unbounded log and that its input
line is the line of a zipper (`Console.Framed`).  It is kept by everything that can happen to
output and input line, so it holds of every console.

By the first part the scroll cursor is on a line, and follows exactly on the newest one
(`ScrollLog.CursorAt`).  So a window of the output and the lines that are hidden below it are
neighbours (`ScrollLog.CursorAt.parted`), and the number in the marker is that of the lines below
the cursor.  By the second part the cursor of the input line is within its text.
-/

namespace DevConsole

namespace ScrollLog

/-- The lines of a log, parted behind the line under the cursor and before the block of up to
`budget` lines that ends there. -/
structure Parted (log : ScrollLog) (budget : Nat) (above block below : List String) : Prop where
  lines_eq : log.lines = above ++ block ++ below
  cursor?_eq : log.lines ≠ [] → log.cursor? = some (((above ++ block).length : Int) - 1)
  current?_eq : (above ++ block).getLast? = log.current?
  length_eq : block.length = min budget (above ++ block).length
  newest_iff : below = [] ↔ log.lines = [] ∨ log.cursor? = some log.newestIndex

/-- The cursor of a log is on the last of its first `shown` lines: windows end there, and it
follows exactly if these are all lines. -/
structure CursorAt (log : ScrollLog) (shown : Nat) : Prop where
  le_length : shown ≤ log.lines.length
  cursor?_eq : log.lines ≠ [] → log.cursor? = some ((shown : Int) - 1)
  current?_eq : log.current? = (log.lines.take shown).getLast?
  window_eq : ∀ rows, log.window rows = (log.lines.take shown).drop (shown - rows.toNat)
  following_iff : log.following = true ↔ shown = log.lines.length

namespace Simulates

variable {capacity : Nat} {log : ScrollLog} {ref : UnboundedLog}

theorem cursorAt_of_none (hsim : Simulates capacity log ref) (hindex : ref.index? = none) :
    log.CursorAt 0 := by
  obtain rfl := hsim.tidy.of_index?_eq_none hindex
  have hlines : log.lines = [] := by
    simpa [UnboundedLog.surviving, UnboundedLog.empty] using hsim.lines_eq
  have hfollows : log.following = true := hsim.following_eq
  constructor
  · exact Nat.zero_le _
  · exact fun hsome => absurd hlines hsome
  · simp [current?, hlines]
  · simp [window, hlines]
  · simp [hlines, hfollows]

/-- Lines that have been dropped do not count. -/
theorem cursorAt_of_some (hsim : Simulates capacity log ref) (hpos : 0 < capacity)
    {index : Nat} (hindex : ref.index? = some index) :
    log.CursorAt (index + 1 - ref.oldest capacity) := by
  obtain ⟨hlow, hhigh, -⟩ := hsim.tidy.index_between hpos hindex
  have hagrees := hsim.agrees_of_some hpos hindex
  have hlength : log.lines.length = ref.written.length - ref.oldest capacity := by
    rw [hsim.lines_eq, UnboundedLog.surviving, List.length_drop]
  have hinside : index + 1 - ref.oldest capacity ≤ log.lines.length := by omega
  constructor
  · exact hinside
  · intro _
    rw [hagrees.cursor?_eq, hindex]
    show some ((index : Int) - ref.oldest capacity) = _
    rw [Option.some.injEq]
    omega
  · rw [hsim.current?_of_index hpos hindex, ← hsim.getElem?_lines hlow,
      List.getLast?_eq_getElem?, List.length_take, Nat.min_eq_left hinside,
      List.getElem?_take_of_lt (by omega)]
    congr 1
    omega
  · exact hsim.window_of_index hpos hindex
  · rw [hsim.following_iff hpos hindex]
    omega

theorem exists_cursorAt (hsim : Simulates capacity log ref) (hpos : 0 < capacity) :
    ∃ shown, log.CursorAt shown := by
  cases hindex : ref.index? with
  | none => exact ⟨0, hsim.cursorAt_of_none hindex⟩
  | some index => exact ⟨_, hsim.cursorAt_of_some hpos hindex⟩

end Simulates

namespace CursorAt

variable {log : ScrollLog} {shown : Nat}

/-- There are no lines below a cursor that follows. -/
theorem drop_eq_nil_iff (hat : log.CursorAt shown) :
    log.lines.drop shown = [] ↔ log.following = true := by
  have hlines := hat.le_length
  rw [List.drop_eq_nil_iff, hat.following_iff]
  omega

theorem newest_iff (hat : log.CursorAt shown) :
    log.following = true ↔ log.lines = [] ∨ log.cursor? = some log.newestIndex := by
  rw [← hat.drop_eq_nil_iff]
  by_cases hempty : log.lines = []
  · simp [hempty]
  · have hlines := hat.le_length
    simp only [hempty, false_or, hat.cursor?_eq hempty, newestIndex, Option.some.injEq,
      List.drop_eq_nil_iff]
    omega

/-- A window is the block that ends with the line under the cursor. -/
theorem parted (hat : log.CursorAt shown) (rows : Int) :
    log.Parted rows.toNat ((log.lines.take shown).take (shown - rows.toNat)) (log.window rows)
      (log.lines.drop shown) := by
  have hlines := hat.le_length
  have hwindow := hat.window_eq rows
  -- However they are cut, the first two parts are the lines up to the cursor.
  have hdown : (log.lines.take shown).take (shown - rows.toNat) ++ log.window rows =
      log.lines.take shown := by
    rw [hwindow, List.take_append_drop]
  constructor
  · rw [hdown, List.take_append_drop]
  · rw [hdown, List.length_take, Nat.min_eq_left hlines]
    exact hat.cursor?_eq
  · rw [hdown, hat.current?_eq]
  · rw [hdown, hwindow, List.length_drop, List.length_take]
    omega
  · exact hat.drop_eq_nil_iff.trans hat.newest_iff

end CursorAt
end ScrollLog

namespace Console

open ScrollLog (Simulates)

variable {E : Embedding} {host : Host E} {start c next : Console E} {settings : Settings}

/-- **The invariant of what is shown.**  The output simulates the unbounded log, and the input
line is the line of a zipper behind the prompt of the settings. -/
structure Framed (settings : Settings) (c : Console E) : Prop where
  output : ∃ ref, Simulates settings.maxOutputLines c.output ref
  input : ∃ z : Zipper, c.input = z.line settings.maxInputLength settings.inputPrompt

theorem framed_unused (settings : Settings) (source : LineSource) (world : E.World) :
    (unused settings source world).Framed settings :=
  ⟨⟨_, .fresh_empty _⟩, ⟨.empty, rfl⟩⟩

namespace Framed

theorem same (hframed : c.Framed settings) (hsame : SameDisplay c next) :
    next.Framed settings := by
  constructor
  · rw [hsame.output]
    exact hframed.output
  · rw [hsame.input]
    exact hframed.input

/-- Operations on the output keep it. -/
theorem log (hframed : c.Framed settings) (hpos : 0 < settings.maxOutputLines)
    (ops : List ScrollLog.Op) :
    Framed settings { c with output := c.output.after ops } := by
  obtain ⟨ref, hsim⟩ := hframed.output
  exact ⟨⟨_, hsim.after hpos ops⟩, hframed.input⟩

theorem write (hframed : c.Framed settings) (hpos : 0 < settings.maxOutputLines)
    (text : String) : (c.writeOutput text).Framed settings := by
  have hwritten := hframed.log hpos ((outputLines text).map .write)
  rwa [ScrollLog.after_writes] at hwritten

/-- Edits of the input line keep it. -/
theorem edit (hframed : c.Framed settings) (op : InputLine.Op) :
    Framed settings { c with input := (c.input.apply op).2 } := by
  obtain ⟨z, hinput⟩ := hframed.input
  refine ⟨hframed.output, ⟨(z.apply settings.maxInputLength op).2, ?_⟩⟩
  rw [hinput, Zipper.apply_line]

theorem reaches (hframed : c.Framed settings) (hpos : 0 < settings.maxOutputLines)
    (hreaches : c.DisplayReaches next) : next.Framed settings := by
  induction hreaches with
  | refl => exact hframed
  | same _ hsame ih => exact ih.same hsame
  | write _ text ih => exact ih.write hpos text
  | clear _ ih => exact ih.log hpos [.clear]
  | scroll _ up ih => exact ih.log hpos [.scroll up]
  | toNewest _ ih => exact ih.log hpos [.scrollToNewest]
  | edit _ op ih => exact ih.edit op

end Framed

/-! ## The rows of the panel -/

/-- The row of a line of output. A line that says of itself that it reports an error has a style
of its own. -/
def lineRow (line : String) : List Fragment :=
  [⟨if isErrorText line then "class:error" else "class:output", line⟩, ⟨"", "\n"⟩]

/-- The row that says how many newer lines are hidden, if there are any. -/
def hiddenRow (hidden : Nat) : List Fragment :=
  if hidden = 0 then []
  else [⟨"class:marker", s!"-- {hidden} more line(s) below --"⟩, ⟨"", "\n"⟩]

/-- The row of the prompt and of the text of the input line on both sides of its cursor. -/
def promptRow (prompt front back : String) : List Fragment :=
  [⟨"class:prompt", prompt⟩, ⟨"", front⟩, ⟨"[SetCursorPosition]", ""⟩, ⟨"", back⟩]

theorem marker_eq_hiddenRow {log : ScrollLog} {shown : Nat} (hat : log.CursorAt shown) :
    marker log = hiddenRow (log.lines.drop shown).length := by
  have hnone : (log.lines.drop shown).length = 0 ↔ log.following = true :=
    List.length_eq_zero_iff.trans hat.drop_eq_nil_iff
  unfold marker hiddenRow
  by_cases hfollows : log.following = true
  · rw [if_pos hfollows, if_pos (hnone.mpr hfollows)]
  · rw [if_neg hfollows, if_neg (mt hnone.mp hfollows)]
    have hsome : log.lines ≠ [] := fun hempty => hfollows (hat.newest_iff.mpr (.inl hempty))
    have hnumber : (log.length : Int) - 1 - log.cursor?.getD 0 =
        ((log.lines.drop shown).length : Nat) := by
      have hlines := hat.le_length
      rw [hat.cursor?_eq hsome, Option.getD_some, List.length_drop, ScrollLog.length]
      omega
    simp only [hnumber]
    rfl

theorem inputRow_line (cap : Nat) (prompt : String) (z : Zipper) :
    inputRow (z.line cap prompt) =
      promptRow prompt (String.ofList z.left) (String.ofList z.right) := by
  simp [inputRow, promptRow, InputLine.before, InputLine.after, Zipper.line, Zipper.chars]

/-- The input line takes one row, and the marker one more if there is one. -/
theorem toNat_bodyRows (rows : Int) (scrolled : Bool) :
    (bodyRows rows scrolled).toNat = (rows - 1 - if scrolled then 1 else 0).toNat := by
  unfold bodyRows
  by_cases hscrolled : scrolled = true
  · simp only [hscrolled, Bool.true_and, bne_iff_ne, ne_eq, if_true]
    split <;> omega
  · simp only [Bool.not_eq_true] at hscrolled
    simp only [hscrolled, Bool.false_and, Bool.false_eq_true, if_false]
    omega

/-- **The panel shows the right lines.**  Take a console that was created with some settings,
in which callbacks operate on output and input line as on any console, at any moment of a run,
and any number of rows.  The panel is a block of rows, a row for the marker if there is one, and
the row of the input line.

The lines of the output are those above the block, the block and those below it.  The block ends
with the line under the scroll cursor.  It holds as many lines as there are rows left by the
input line and the marker, or all lines up to the cursor.  There is a marker exactly if the cursor
is not on the newest line, and then its number is that of the lines below the block.  What
follows is the prompt and the input line, parted at its cursor. -/
theorem panel_shows_block (host : Host E) {source : LineSource} {world : E.World}
    (hstart : create settings source world = .ok start) (hcallbacks : OperatesDisplay host)
    {steps : List (Step E)} (hwithin : (start.after host steps).DisplayReaches c) (rows : Int) :
    ∃ above block below front back,
      c.output.Parted (rows - 1 - if below = [] then 0 else 1).toNat above block below ∧
      front ++ back = c.input.text ∧ front.length = c.input.cursor ∧
      c.panel rows = block.flatMap lineRow ++ hiddenRow below.length ++
        promptRow settings.inputPrompt front back := by
  obtain ⟨hsizes, -, rfl⟩ := create_eq_ok_iff.mp hstart
  have hreaches := (after_displayReaches hcallbacks steps _).trans hwithin
  obtain ⟨⟨ref, hsim⟩, z, hinput⟩ :=
    (framed_unused settings source world).reaches hsizes.output hreaches
  obtain ⟨shown, hat⟩ := hsim.exists_cursorAt hsizes.output
  have hparted := hat.parted (bodyRows rows (!c.output.following))
  -- The rows are shared out by the mode of the cursor, which tells whether there are lines below.
  have hbudget : (bodyRows rows (!c.output.following)).toNat =
      (rows - 1 - if c.output.lines.drop shown = [] then 0 else 1).toNat := by
    rw [toNat_bodyRows]
    cases hfollowing : c.output.following <;> simp [hat.drop_eq_nil_iff, hfollowing]
  refine ⟨_, _, c.output.lines.drop shown, String.ofList z.left, String.ofList z.right,
    hbudget ▸ hparted, ?_, ?_, ?_⟩
  · rw [hinput]
    exact String.ofList_append.symm
  · rw [hinput]
    exact String.length_ofList
  · rw [panel, marker_eq_hiddenRow hat, hinput, inputRow_line]
    rfl

/-- A program whose one callback writes two lines and scrolls back by one. -/
def spillingHost : Host ⟨Unit, Empty, Unit⟩ where
  call := fun _ _ c => (.ok (.value .null), ((c.writeOutput "[error] d\ne").scrollOutput true).2)
  ask := fun handle => nomatch handle

/-- A console with room for few lines of output. -/
def shallow : Console ⟨Unit, Empty, Unit⟩ :=
  unused { Settings.default with maxOutputLines := 5, inputPrompt := "$ " } (.ofScripts []) ()

/-- The oldest line is dropped while the cursor is parked, and the text is edited. -/
def spilledSteps : List (Step ⟨Unit, Empty, Unit⟩) := [
  .register
    { name := "spill", help := "", usage := "", category := Command.generalCategory,
      aliases := [], origin := "", action := .callback () },
  .writeOutput "a\nb\nc\r",
  .enter "spill",
  .writeOutput "f",
  .setText "help",
  .move true]

/-- Of four rows one is for the marker and one for the input line. -/
theorem panel_shows_block_scrolled_back :
    let c := shallow.after spillingHost spilledSteps
    c.output.lines = ["b", "c", "[error] d", "e", "f"] ∧
      c.output.current? = some "[error] d" ∧
      c.panel 4 =
        [⟨"class:output", "c"⟩, ⟨"", "\n"⟩, ⟨"class:error", "[error] d"⟩, ⟨"", "\n"⟩] ++
        [⟨"class:marker", "-- 2 more line(s) below --"⟩, ⟨"", "\n"⟩] ++
        [⟨"class:prompt", "$ "⟩, ⟨"", "hel"⟩, ⟨"[SetCursorPosition]", ""⟩, ⟨"", "p"⟩] := by
  intro c
  have hlines : c.output.lines = ["b", "c", "[error] d", "e", "f"] := by decide +kernel
  have hat : c.output.cursor? = some 2 := by decide +kernel
  have htext : c.input.text = "help" := by decide +kernel
  have hplace : c.input.cursor = 3 := by decide +kernel
  have hstart : create { Settings.default with maxOutputLines := 5, inputPrompt := "$ " }
      (.ofScripts []) () = .ok shallow := rfl
  have hcallbacks : OperatesDisplay spillingHost := fun _ _ c => .scroll (.write .refl _) true
  have hwithin : (shallow.after spillingHost spilledSteps).DisplayReaches c := .refl
  obtain ⟨above, block, below, front, back, hparted, hinput, hcursor, hpanel⟩ :=
    panel_shows_block spillingHost hstart hcallbacks hwithin 4
  clear_value c
  -- Three lines reach down to the cursor and two are below it.
  have hreach : (above ++ block).length = 3 := by
    have hindex := hparted.cursor?_eq (by simp [hlines])
    rw [hat, Option.some.injEq] at hindex
    omega
  have hall : above ++ block ++ below = ["b", "c", "[error] d"] ++ ["e", "f"] :=
    hparted.lines_eq.symm.trans hlines
  obtain ⟨hdown, rfl⟩ := List.append_inj hall hreach
  have hblock : block.length = 2 := by
    rw [hparted.length_eq, hreach]
    rfl
  have habove : above.length = 1 := by
    rw [List.length_append] at hreach
    omega
  have hparts : above ++ block = ["b"] ++ ["c", "[error] d"] := hdown
  obtain ⟨rfl, rfl⟩ := List.append_inj hparts habove
  have hfront : front.toList = ['h', 'e', 'l'] ∧ back.toList = ['p'] := by
    refine List.append_inj ?_ (by rw [String.length_toList, hcursor, hplace]; rfl)
    rw [← String.toList_append, hinput, htext]
    rfl
  obtain rfl : front = "hel" := String.toList_inj.mp hfront.1
  obtain rfl : back = "p" := String.toList_inj.mp hfront.2
  have hrows : ["c", "[error] d"].flatMap lineRow =
      [⟨"class:output", "c"⟩, ⟨"", "\n"⟩, ⟨"class:error", "[error] d"⟩, ⟨"", "\n"⟩] := by
    decide +kernel
  refine ⟨hlines, hparted.current?_eq.symm, ?_⟩
  rw [← hrows]
  exact hpanel

end Console
end DevConsole
