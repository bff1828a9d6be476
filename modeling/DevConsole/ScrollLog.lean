/-!
# Scrolling logs

A log keeps the newest lines written to it, up to its capacity, and a scroll cursor on one of
them.  A cursor that follows stays on the newest line as lines are written; a parked cursor stays
on its line for as long as the log keeps it, and on the oldest line after that.
-/

namespace DevConsole

/-- The lines of a log, oldest first, and its scroll cursor: the index of a line, or `-1` while
there is none. -/
structure ScrollLog where
  capacity : Nat
  lines : List String
  position : Int
  following : Bool
  deriving Repr

namespace ScrollLog

/-- Why a log cannot be made. -/
inductive Fault where
  | capacityTooSmall
  | capacityTooLarge
  deriving DecidableEq, Repr

/-- The words for a fault. -/
def Fault.message : Fault → String
  | capacityTooSmall => "capacity must be >= 1"
  | capacityTooLarge => "Python int too large to convert to C ssize_t"

/-- The largest capacity, `2 ^ 63 - 1`. -/
def maxCapacity : Int := 9223372036854775807

/-- An empty log. -/
def empty? (capacity : Int) : Except Fault ScrollLog :=
  if capacity < 1 then .error .capacityTooSmall
  else if maxCapacity < capacity then .error .capacityTooLarge
  else .ok { capacity := capacity.toNat, lines := [], position := -1, following := true }

/-- The number of lines. -/
def length (log : ScrollLog) : Nat :=
  log.lines.length

/-- The index of the newest line, `-1` if there is none. -/
def newestIndex (log : ScrollLog) : Int :=
  (log.lines.length : Int) - 1

/-- Appends a line; a full log drops its oldest line. -/
def write (log : ScrollLog) (line : String) : ScrollLog :=
  let evicting := log.lines.length = log.capacity
  let lines := (if evicting then log.lines.drop 1 else log.lines) ++ [line]
  { log with
    lines := lines
    position :=
      if log.following then (lines.length : Int) - 1
      else if evicting then max 0 (log.position - 1)
      else log.position }

/-- Drops all lines. -/
def clear (log : ScrollLog) : ScrollLog :=
  { log with lines := [], position := -1, following := true }

/-- Moves the cursor to the next older line (`up`) or the next newer one, and tells whether there
is one. A cursor that reaches the newest line follows. -/
def scroll (log : ScrollLog) (up : Bool) : Bool × ScrollLog :=
  if log.lines.isEmpty then (false, log)
  else
    let newest := log.newestIndex
    let wanted := if up then log.position - 1 else log.position + 1
    let target := max 0 (min newest wanted)
    (target != log.position, { log with position := target, following := target == newest })

/-- Moves the cursor to the newest line, which it then follows. -/
def scrollToNewest (log : ScrollLog) : ScrollLog :=
  { log with position := log.newestIndex, following := true }

/-- The index of the line under the cursor. -/
def cursor? (log : ScrollLog) : Option Int :=
  if log.lines.isEmpty then none else some log.position

/-- The line with the given index; a negative index counts back from the end. -/
def get? (log : ScrollLog) (index : Int) : Option String :=
  let i := if index < 0 then index + log.lines.length else index
  if i < 0 then none else log.lines[i.toNat]?

/-- The line under the cursor. -/
def current? (log : ScrollLog) : Option String :=
  if log.lines.isEmpty then none else log.get? log.position

/-- The newest line. -/
def newest? (log : ScrollLog) : Option String :=
  log.lines.getLast?

/-- Up to `rows` lines that end with the line under the cursor, oldest first. -/
def window (log : ScrollLog) (rows : Int) : List String :=
  if log.lines.isEmpty || rows ≤ 0 then []
  else
    let stop := log.position + 1
    let start := max 0 (stop - rows)
    (log.lines.take stop.toNat).drop start.toNat

/-- A description for diagnostics. -/
def describe (log : ScrollLog) : String :=
  let cursor := match log.cursor? with
    | some i => toString i
    | none => "None"
  s!"ScrollableLog(len={log.length}, capacity={log.capacity}, cursor={cursor})"

end ScrollLog

end DevConsole
