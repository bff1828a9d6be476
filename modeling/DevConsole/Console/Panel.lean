import DevConsole.Console.Dispatch

/-!
# The panel

What a terminal shows of a console: the output up to its scroll cursor, a marker if newer lines
are hidden, the prompt and the input line with its cursor, and a line of status.  Text is given in
fragments, each with the name of its style.
-/

namespace DevConsole

/-- A piece of text and the name of its style. -/
structure Fragment where
  style : String
  text : String
  deriving DecidableEq, Repr

namespace Console

variable {E : Embedding}

/-- The end of a row. -/
def rowEnd : Fragment := ⟨"", "\n"⟩

/-- The rows that are left for output in a panel of `rows` rows: the input line takes one, and a
marker takes one more. -/
def bodyRows (rows : Int) (scrolled : Bool) : Int :=
  let body := max 0 (rows - 1)
  if scrolled && body != 0 then body - 1 else body

/-- A line of output, with reports of errors in a style of their own. -/
def outputRow (line : String) : List Fragment :=
  [⟨if isErrorText line then "class:error" else "class:output", line⟩, rowEnd]

/-- The marker that says how many newer lines are hidden. -/
def marker (log : ScrollLog) : List Fragment :=
  if log.following then []
  else
    let hidden := (log.length : Int) - 1 - log.cursor?.getD 0
    [⟨"class:marker", s!"-- {hidden} more line(s) below --"⟩, rowEnd]

/-- The prompt and the input line around its cursor. -/
def inputRow (input : InputLine) : List Fragment :=
  [⟨"class:prompt", input.prompt⟩, ⟨"", input.before⟩, ⟨"[SetCursorPosition]", ""⟩,
    ⟨"", input.after⟩]

/-- The panel on `rows` rows. -/
def panel (c : Console E) (rows : Int) : List Fragment :=
  let body := c.output.window (bodyRows rows (!c.output.following))
  body.flatMap outputRow ++ marker c.output ++ inputRow c.input

/-- What the status says about the wait. -/
def waitStatus : WaitState → Except Failure String
  | .running => .ok "running"
  | .ticks remaining initial =>
    Value.showing [.int remaining, .int initial] s!"waiting {remaining}/{initial}"
  | .condition _ tag _ _ _ => .ok s!"waiting for {tag}"

/-- The line of status. -/
def status (c : Console E) : Except Failure (List Fragment) := do
  let wait ← waitStatus c.scheduler.state
  let ticks ← (Value.int c.ticks).write
  return [⟨"class:status",
    s!" tick {ticks} | {wait} | queued {c.queue.length} | ctrl-t hide, ctrl-c quit "⟩]

end Console

end DevConsole
