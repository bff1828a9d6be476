import DevConsole.Console.Panel
import DevConsole.Text.Printable

/-!
# The frontend

A frontend shows the panel of a console on a terminal, forwards keys to it, and ticks it until
the console asks to quit.
-/

namespace DevConsole

/-- What a user can press. Anything without a meaning of its own is text. -/
inductive Key where
  | backspace
  | delete
  | left
  | right
  | lineStart
  | lineEnd
  | up
  | down
  | pageUp
  | pageDown
  | tab
  | enter
  | toggle
  | exit
  | text (data : String)
  deriving DecidableEq, Repr

/-- The key with a given name; `data` is the text that it types if the name has no meaning. -/
def Key.ofName (name data : String) : Key :=
  match name with
  | "backspace" => backspace
  | "delete" => delete
  | "left" => left
  | "right" => right
  | "home" => lineStart
  | "end" => lineEnd
  | "up" => up
  | "down" => down
  | "pageup" => pageUp
  | "pagedown" => pageDown
  | "tab" => tab
  | "enter" => enter
  | "c-t" => toggle
  | "c-c" => exit
  | "c-d" => exit
  | _ => text data

/-- Whether a key also works while the console is hidden. -/
def Key.worksHidden : Key → Bool
  | toggle | exit => true
  | _ => false

/-- What became of a key. -/
inductive KeyOutcome where
  | handled
  | exit
  | ignored
  deriving DecidableEq, Repr

/-- The state of a frontend: its ticks per second and the lines that a page key scrolls by. -/
structure Frontend where
  tickRate : Int
  page : Nat
  deriving Repr

namespace Frontend

variable {E : Embedding}

/-- A frontend with the given rate, or the rate of the settings if none or zero is given. -/
def create (settings : Settings) (tickRate : Option Int) : Frontend where
  tickRate := (tickRate.filter (· != 0)).getD settings.tickRate
  page := 5

/-- The panel on a terminal of `rows` rows, of which the status takes one. A page is half a
panel. -/
def panel (frontend : Frontend) (c : Console E) (rows : Int) : List Fragment × Frontend :=
  let rows := rows - 1
  (c.panel rows, { frontend with page := (max 1 (rows / 2)).toNat })

/-- Types the printable characters of a text. -/
def type (c : Console E) (data : String) : Console E :=
  let shown := data.toList.filter Text.isPrintable
  { c with input := shown.foldl (fun line ch => (line.insert ch).2) c.input }

/-- Scrolls the output by a number of lines. -/
def scrollBy (c : Console E) (up : Bool) : Nat → Console E
  | 0 => c
  | n + 1 => scrollBy (c.scrollOutput up).2 up n

/-- What a key does to a console that is shown. -/
def apply (frontend : Frontend) (host : Host E) (c : Console E) :
    Key → Except Failure Unit × Console E
  | .backspace => (.ok (), (c.edit InputLine.backspace).2)
  | .delete => (.ok (), (c.edit InputLine.delete).2)
  | .left => (.ok (), { c with input := c.input.move true })
  | .right => (.ok (), { c with input := c.input.move false })
  | .lineStart => (.ok (), { c with input := c.input.home })
  | .lineEnd => (.ok (), { c with input := c.input.goToEnd })
  | .up => (.ok (), (c.scrollHistory true).2)
  | .down => (.ok (), (c.scrollHistory false).2)
  | .pageUp => (.ok (), scrollBy c true frontend.page)
  | .pageDown => (.ok (), scrollBy c false frontend.page)
  | .tab => (.ok (), c.complete.2)
  | .enter => let (result, c) := c.submit host; (result.map fun _ => (), c)
  | .toggle => (.ok (), c.toggle)
  | .exit => (.ok (), c)
  | .text data => (.ok (), type c data)

/-- Presses a key. While the console is hidden, most keys do nothing. -/
def press (frontend : Frontend) (host : Host E) (c : Console E) (key : Key) :
    Except Failure KeyOutcome × Console E :=
  if !c.enabled && !key.worksHidden then (.ok .ignored, c)
  else
    let (result, c) := frontend.apply host c key
    (result.map fun _ => if key = .exit then .exit else .handled, c)

/-- Ticks a console until it asks to quit, but no more than `limit` times. -/
def run (host : Host E) : (limit : Nat) → Console E → Except Failure Unit × Console E
  | 0, c => (.ok (), c)
  | limit + 1, c =>
    match c.tick host with
    | (.error failure, c) => (.error failure, c)
    | (.ok _, c) => if c.quitRequested then (.ok (), c) else run host limit c

end Frontend

end DevConsole
