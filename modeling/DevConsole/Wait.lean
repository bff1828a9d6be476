import DevConsole.Failure
import DevConsole.Text.Case

/-!
# Waiting

A script paces itself against the ticks of its host by arming a wait: for a number of ticks, or
for a condition that the host has registered under a code and a tag.  The scheduler is polled once
per tick.  A poll of a tick wait with nothing left ends the wait, and any other poll of it takes
one tick off, so a wait for `n` ticks holds `n` polls and ends with the next.  A condition with a
predicate ends when a poll finds the predicate true; one without lasts until the host satisfies
it.  A predicate that fails is reported once and not asked again before the wait is armed anew.
-/

namespace DevConsole

open Text (fold)

/-- What the queue of a console waits for. -/
inductive WaitState where
  | running
  | ticks (remaining initial : Nat)
  | condition (code : Int) (tag : String) (remaining initial : Int) (faulted : Bool)
  deriving DecidableEq, Repr

namespace WaitState

/-- The code of the kind of wait. -/
def mode : WaitState → Int
  | running => 0
  | ticks .. => 1
  | condition code .. => code

/-- The ticks left, or what a condition makes of its parameter. -/
def remaining : WaitState → Int
  | running => 0
  | ticks remaining _ => remaining
  | condition _ _ remaining _ _ => remaining

/-- What the wait was armed with. -/
def initial : WaitState → Int
  | running => 0
  | ticks _ initial => initial
  | condition _ _ _ initial _ => initial

/-- The tag of the condition waited for. -/
def tag? : WaitState → Option String
  | condition _ tag _ _ _ => some tag
  | _ => none

/-- The name of the condition waited for: its tag, or its code if the tag is empty. -/
def label? : WaitState → Option (Except Failure String)
  | condition code tag _ _ _ => some (if tag.isEmpty then (Value.int code).write else .ok tag)
  | _ => none

/-- Whether the predicate of the condition has failed since the wait was armed. -/
def isFaulted : WaitState → Bool
  | condition _ _ _ _ faulted => faulted
  | _ => false

/-- Whether there is no wait. -/
def isRunning : WaitState → Bool
  | running => true
  | _ => false

end WaitState

/-- A condition that can be waited for, with the handle of the predicate that decides it. -/
structure WaitCondition (π : Type) where
  code : Int
  tag : String
  predicate : Option π

/-- What a predicate answers: whether the condition holds, and what is left of the parameter of the
wait. -/
structure Verdict where
  holds : Except Failure Bool
  remaining : Int

/-- Why a wait is refused. -/
inductive WaitFault where
  | reservedCode (code : Int)
  | negativeCode
  | conditionTaken (code : Int) (tag : String)
  | unknownCondition (tag : String)
  | negativeDelay
  | unknownMode (mode : Int)
  | conditionFailed (tag report : String)

namespace WaitFault

/-- The name of the kind of fault. -/
def kind : WaitFault → String
  | unknownCondition _ => "KeyError"
  | conditionFailed .. => "WaitConditionError"
  | _ => "ValueError"

/-- Words that show a number, or what is said of a number that cannot be written. -/
def showing (n : Int) (words : String → String) : String :=
  if (Value.int n).isWritable then words (toString n) else Value.limitText

/-- The words for a fault. -/
def message : WaitFault → String
  | reservedCode code => s!"Wait mode {code} is reserved."
  | negativeCode => "Wait mode codes must be non-negative."
  | conditionTaken code tag =>
    showing code fun code => s!"Wait condition {code}/{Text.quoted tag} already registered."
  | unknownCondition tag => s!"Unknown wait condition: {tag}"
  | negativeDelay => "delay must be >= 0"
  | unknownMode mode => showing mode fun mode => s!"Unknown wait mode: {mode}"
  | conditionFailed tag report => s!"Wait condition '{tag}' failed: {report}"

/-- What a check raises when the predicate of the condition called `tag` failed, unless the report
of that failure cannot be made. -/
def ofFailure (tag : String) (failure : Failure) : Except Failure WaitFault :=
  failure.report.map (conditionFailed tag)

end WaitFault

/-- The registered conditions and the current wait. -/
structure WaitScheduler (π : Type) where
  conditions : List (WaitCondition π)
  state : WaitState

/-- What a poll finds. -/
inductive Poll where
  | running
  | elapsed
  | counting
  | unwatched
  | muted
  | pending
  | met (tag : String)
  | failed (tag : String) (failure : Failure)

/-- Whether lines may run after the poll. -/
def Poll.isRunning : Poll → Bool
  | .running | .elapsed | .met _ => true
  | _ => false

namespace WaitScheduler

variable {π ω : Type}

/-- No conditions and no wait. -/
def empty : WaitScheduler π := ⟨[], .running⟩

/-- The condition with the given code. -/
def withCode? (s : WaitScheduler π) (code : Int) : Option (WaitCondition π) :=
  s.conditions.find? (·.code == code)

/-- The condition with the given tag, up to case. -/
def withTag? (s : WaitScheduler π) (tag : String) : Option (WaitCondition π) :=
  s.conditions.find? fun c => fold c.tag == fold tag

/-- Adds a condition under a code and a tag that are both free. -/
def register (s : WaitScheduler π) (c : WaitCondition π) : Except WaitFault (WaitScheduler π) :=
  if c.code = 0 ∨ c.code = 1 then .error (.reservedCode c.code)
  else if c.code < 0 then .error .negativeCode
  else if (s.withCode? c.code).isSome || (s.withTag? c.tag).isSome then
    .error (.conditionTaken c.code c.tag)
  else .ok { s with conditions := s.conditions ++ [c] }

/-- The code of the condition with the given tag. -/
def codeOf (s : WaitScheduler π) (tag : String) : Except WaitFault Int :=
  match s.withTag? tag with
  | some c => .ok c.code
  | none => .error (.unknownCondition tag)

/-- The conditions in the order of their codes. -/
def sorted (s : WaitScheduler π) : List (WaitCondition π) :=
  s.conditions.mergeSort fun a b => decide (a.code ≤ b.code)

/-- Ends any wait. -/
def clear (s : WaitScheduler π) : WaitScheduler π :=
  { s with state := .running }

/-- Arms a wait of the given mode: `0` ends any wait, `1` waits for `delay` ticks, and any other
mode must be the code of a condition. -/
def arm (s : WaitScheduler π) (mode delay : Int) : Except WaitFault (WaitScheduler π) :=
  if delay < 0 then .error .negativeDelay
  else if mode = 0 then .ok s.clear
  else if mode = 1 then .ok { s with state := .ticks delay.toNat delay.toNat }
  else
    match s.withCode? mode with
    | some c => .ok { s with state := .condition mode c.tag delay delay false }
    | none => .error (.unknownMode mode)

/-- Arms a wait for the condition with the given tag. -/
def armFor (s : WaitScheduler π) (tag : String) (parameter : Int) :
    Except WaitFault (WaitScheduler π) := do
  s.arm (← s.codeOf tag) parameter

/-- Ends the wait if it is for the condition called `tag`. -/
def satisfy (s : WaitScheduler π) (tag : String) : Bool × WaitScheduler π :=
  match s.state.tag? with
  | some current => if fold current == fold tag then (true, s.clear) else (false, s)
  | none => (false, s)

/-- Advances the wait by one tick. A predicate is asked with `ask`, which may read and change the
world of the host. -/
def poll (ask : π → WaitState → ω → Verdict × ω) (s : WaitScheduler π) (world : ω) :
    Poll × WaitScheduler π × ω :=
  match s.state with
  | .running => (.running, s, world)
  | .ticks 0 _ => (.elapsed, s.clear, world)
  | .ticks (n + 1) initial => (.counting, { s with state := .ticks n initial }, world)
  | .condition code tag _ initial faulted =>
    match s.withCode? code with
    | none => (.unwatched, s, world)
    | some c =>
      match c.predicate with
      | none => (.unwatched, s, world)
      | some predicate =>
        if faulted then (.muted, s, world)
        else
          let (verdict, world) := ask predicate s.state world
          let left (faulted : Bool) : WaitScheduler π :=
            { s with state := .condition code tag verdict.remaining initial faulted }
          match verdict.holds with
          | .ok true => (.met c.tag, s.clear, world)
          | .ok false => (.pending, left false, world)
          | .error failure => (.failed c.tag failure, left true, world)

end WaitScheduler

end DevConsole
