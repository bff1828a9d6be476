import DevConsole.Proofs.Console.ScriptTiming
import DevConsole.Proofs.Text.Layout

/-!
# The words of an entered line

A line is read as words in two places.  What enters a line trims it and asks whether anything is
left; what calls its command cuts the line into words and asks whether there is one.  Both ask the
same question, so a line goes into the history exactly if it calls a command or is reported for
calling none (`line_words_exact`), and the name and the arguments are the words of the line as it
was typed, however it was laid out.
-/

namespace DevConsole
namespace Console

variable {E : Embedding}

/-- **The words of a line.**

* The line is a layout of its words and of no other list of words, whatever blank characters
  stand around and between them.
* The words are not empty and hold no blank character, they hold every other character of the
  line in its place, and each of them is a run of the line: what is next to it is blank.
* There is no word exactly if trimming leaves nothing.
* Trimming the line, or joining its words by single blanks, leaves the words as they are.
* A line without words changes nothing when it is entered.
* Any other line goes into the history and is called, as its words joined by single blanks would
  be: its first word is looked up and the others are the arguments.  What `echo` writes for these
  has them as its words. -/
theorem line_words_exact (host : Host E) (c : Console E) (line : String) :
    (∀ parts, Text.LaidOut parts line ↔ Text.words line = parts) ∧
    ((∀ word ∈ Text.words line, Text.IsWord word) ∧
      (Text.words line).flatMap String.toList =
        line.toList.filter (fun ch => !Text.isBlank ch) ∧
      ∀ left word right, Text.words line = left ++ word :: right ↔
        ∃ before after, line = before ++ word ++ after ∧ Text.IsRun before word after ∧
          Text.words before = left ∧ Text.words after = right) ∧
    (Text.words line = [] ↔ (Text.trim line).isEmpty = true) ∧
    (Text.words (Text.trim line) = Text.words line ∧
      Text.words (Text.join " " (Text.words line)) = Text.words line) ∧
    (Text.words line = [] → c.enter host line = (.ok false, c)) ∧
    ∀ name args, Text.words line = name :: args →
      (c.enter host line = (c.writeHistory (historyEntry line)).call host line ∧
        (c.writeHistory (historyEntry line)).call host line =
          (c.writeHistory (historyEntry line)).call host (Text.join " " (name :: args))) ∧
      (∀ command, c.registry.get? name = some command → c.enter host line =
        conclude command ((c.writeHistory (historyEntry line)).outcome host command args)) ∧
      (c.registry.get? name = none → c.enter host line =
        (.ok false, (c.writeHistory (historyEntry line)).reportUnknown name
          (if c.registry.aliases.resolve name = name then none
            else some (c.registry.aliases.resolve name)))) ∧
      ∃ echoed, Builtin.echo.run args c = (.ok (.value (.text echoed)), c) ∧
        Text.words echoed = args := by
  have hall : ∀ word ∈ Text.words line, Text.IsWord word := fun _ => Text.isWord_of_mem_words
  have hjoined := Text.words_join hall
  refine ⟨fun parts => Text.laidOut_iff,
    ⟨hall, Text.flatMap_words line, fun left word right => Text.words_eq_append_iff⟩,
    (Text.trim_isEmpty_iff line).symm, ⟨Text.words_trim line, hjoined⟩, enter_blank, ?_⟩
  intro name args hwords
  have hsome : Text.words line ≠ [] := by rw [hwords]; exact List.cons_ne_nil _ _
  refine ⟨⟨enter_of_words hsome, ?_⟩, fun command => enter_known hwords, enter_unknown hwords,
    Text.join " " args, rfl, ?_⟩
  · rw [← hwords]
    exact call_congr hjoined.symm
  · rw [hwords] at hall
    exact Text.words_join (List.forall_mem_cons.mp hall).2

/-- A line with blank characters of many kinds: an em space, an ideographic space, a no-break
space, a separator of files and a separator of lines. -/
def spacedOut : String := "\u2003echo\u3000Hello,\u00a0 \x1cworld\u2028"

theorem line_words_exact_spaced_out :
    Text.LaidOut ["echo", "Hello,", "world"] spacedOut ∧
    (∃ before after, spacedOut = before ++ "Hello," ++ after ∧
      Text.IsRun before "Hello," after ∧ Text.words before = ["echo"] ∧
      Text.words after = ["world"]) ∧
    (furnished.enter .bare spacedOut).1 = .ok true ∧
    (furnished.enter .bare spacedOut).2.history.lines = [spacedOut] ∧
    (furnished.enter .bare spacedOut).2.output.lines = ["Hello, world"] ∧
    (∃ echoed, Builtin.echo.run ["Hello,", "world"] furnished =
      (.ok (.value (.text echoed)), furnished) ∧ Text.words echoed = ["Hello,", "world"]) ∧
    furnished.enter .bare "\u2003\x1f\u3000" = (.ok false, furnished) := by
  have hwords : Text.words spacedOut = ["echo", "Hello,", "world"] := by decide +kernel
  obtain ⟨hlaid, ⟨-, -, hruns⟩, -, -, -, hcalls⟩ := line_words_exact .bare furnished spacedOut
  obtain ⟨-, hknown, -, hechoes⟩ := hcalls "echo" ["Hello,", "world"] hwords
  obtain ⟨-, -, -, -, hnothing, -⟩ := line_words_exact .bare furnished "\u2003\x1f\u3000"
  have henters := hknown _ rfl
  exact ⟨(hlaid _).mpr hwords, (hruns ["echo"] "Hello," ["world"]).mp hwords,
    by rw [henters]; rfl, by rw [henters]; decide +kernel, by rw [henters]; decide +kernel,
    hechoes, hnothing (by decide +kernel)⟩

end Console
end DevConsole
