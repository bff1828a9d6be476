import DevConsole.Proofs.Console.Dispatch
import DevConsole.Proofs.Console.Tick
import Mathlib.Algebra.GroupWithZero.Nat

/-!
# When the lines of a script run

A script is a list of lines, each with its pace: a line that dispatches `wait k` paces
the script by `k` ticks, and a line that leaves queue and wait alone does not pace it.
Loaded into an idle console, line `i` (from `0`) is entered by the tick with the number
`slot paces i`, which is `i` plus the waits before it (`script_runs_on_time`).

The invariant at a slot is that the gate is open and that the queue is what is left of
the script (`line_at_slot`).  One line and the ticks that it paces lead from one slot to
the next (`segment`).
-/

namespace DevConsole
namespace Console

variable {E : Embedding} {host : Host E} {c : Console E}

/-- The console after `t` ticks. -/
def later (host : Host E) (c : Console E) : Nat → Console E
  | 0 => c
  | t + 1 => ((later host c t).tick host).2

theorem later_add (host : Host E) (c : Console E) (s t : Nat) :
    c.later host (s + t) = (c.later host s).later host t := by
  induction t with
  | zero => rfl
  | succ t ih =>
      rw [← Nat.add_assoc]
      simp only [later]
      rw [ih]

/-! ## The gate at one tick -/

/-- The next check lets lines run whatever the host does: nothing is waited for, or a
wait for ticks has none left. -/
def GateOpen (c : Console E) : Prop :=
  c.scheduler.state = .running ∨ ∃ initial, c.scheduler.state = .ticks 0 initial

/-- The next tick answers `false` and changes the tick counter and the countdown only. -/
def CountsDown (host : Host E) (c : Console E) : Prop :=
  ∃ left initial, c.scheduler.state = .ticks (left + 1) initial ∧
    c.tick host = (.ok false, { c with
      ticks := c.ticks + 1
      scheduler := { c.scheduler with state := .ticks left initial } })

theorem countsDown_of_ticks (host : Host E) {left initial : Nat}
    (hstate : c.scheduler.state = .ticks (left + 1) initial) : c.CountsDown host := by
  have hchecked := tickCheck_of_counting host hstate
  have hidle : (c.tickCheck host).1.isRunning = false := by rw [hchecked]; rfl
  exact ⟨left, initial, hstate, by rw [tick_idle hidle, hchecked]; rfl⟩

theorem tickCheck_of_open (host : Host E) (hopen : c.GateOpen) :
    (c.tickCheck host).1.isRunning = true ∧ (c.tickCheck host).2.queue = c.queue ∧
      (c.tickCheck host).2.scheduler.state = .running := by
  rcases hopen with hstate | ⟨initial, hstate⟩
  · rw [tickCheck_of_running host hstate]
    exact ⟨rfl, rfl, hstate⟩
  · rw [tickCheck_of_elapsed host hstate]
    exact ⟨rfl, rfl, rfl⟩

/-- A tick at an open gate enters the oldest queued line, in a console that waits for
nothing and has the other lines queued. -/
theorem tick_of_open {line : String} {rest : List String} (hopen : c.GateOpen)
    (hqueue : c.queue = line :: rest) :
    ∃ ready, c.handover? host = some (line, ready) ∧ ready.queue = rest ∧
      ready.scheduler.state = .running ∧
      c.tick host = ((ready.enter host line).1.map fun _ => true,
        (ready.enter host line).2) := by
  obtain ⟨hruns, hsame, hstate⟩ := tickCheck_of_open host hopen
  have hchecked : (c.tickCheck host).2.queue = line :: rest := hsame.trans hqueue
  have hready : c.handover? host =
      some (line, { (c.tickCheck host).2 with queue := rest }) := by
    simp [handover?, hruns, hchecked]
  exact ⟨_, hready, rfl, hstate, tick_of_handover hready⟩

/-! ## Paces -/

/-- The console dispatches `line` at the given pace.  At the pace `some ticks`, the line
calls the built-in `wait` with a numeral for `ticks` as its one argument.  At the pace
`none`, its dispatch returns normally and leaves queue and wait as they are. -/
def Plays (host : Host E) (c : Console E) (line : String) : Option Nat → Prop
  | some ticks => ∃ name arg command, Text.words line = [name, arg] ∧
      c.registry.get? name = some command ∧ command.action = .builtin .wait ∧
      Text.int? arg = some (ticks : Int)
  | none => (∃ succeeded, (c.enter host line).1 = .ok succeeded) ∧
      (c.enter host line).2.queue = c.queue ∧
      (c.enter host line).2.scheduler.state = c.scheduler.state

/-- The wait that a line leaves behind. -/
def waitOf : Option Nat → WaitState
  | some ticks => .ticks ticks ticks
  | none => .running

/-- The ticks that a line adds. -/
def delayOf (pace : Option Nat) : Nat := pace.getD 0

theorem count?_of_int? {text : String} {n : Nat} (hint : Text.int? text = some (n : Int)) :
    Text.count? text = some n := by
  unfold Text.count?
  rw [hint]

/-- The built-in `wait` arms a wait for its ticks and leaves the queue alone. -/
theorem enter_wait {line name arg : String} {command : Command (Action E)} {ticks : Nat}
    (hwords : Text.words line = [name, arg]) (hcommand : c.registry.get? name = some command)
    (haction : command.action = .builtin .wait) (hticks : Text.int? arg = some (ticks : Int)) :
    (c.enter host line).1 = .ok true ∧ (c.enter host line).2.queue = c.queue ∧
      (c.enter host line).2.scheduler.state = .ticks ticks ticks := by
  rw [enter_known hwords hcommand]
  simp only [outcome, haction, invoke, Builtin.run, Builtin.runWait, count?_of_int? hticks,
    setWait_ticks]
  exact ⟨rfl, rfl, rfl⟩

/-- A line that plays at its pace returns normally, leaves the queue alone, and leaves
the wait of its pace. -/
theorem enter_of_plays {line : String} {pace : Option Nat} (hplays : Plays host c line pace)
    (hstate : c.scheduler.state = .running) :
    (∃ succeeded, (c.enter host line).1 = .ok succeeded) ∧
      (c.enter host line).2.queue = c.queue ∧
      (c.enter host line).2.scheduler.state = waitOf pace := by
  cases pace with
  | none =>
      obtain ⟨hanswer, hqueue, hsame⟩ := hplays
      exact ⟨hanswer, hqueue, hsame.trans hstate⟩
  | some ticks =>
      obtain ⟨name, arg, command, hwords, hcommand, haction, hticks⟩ := hplays
      obtain ⟨hanswer, hqueue, hwait⟩ := enter_wait hwords hcommand haction hticks
      exact ⟨⟨true, hanswer⟩, hqueue, hwait⟩

/-! ## One line and the ticks that it paces -/

/-- A wait for ticks is taken down by ticks that do nothing else. -/
theorem later_of_ticks (host : Host E) {d initial : Nat}
    (hstate : c.scheduler.state = .ticks d initial) :
    ∀ t, t ≤ d → (c.later host t).scheduler.state = .ticks (d - t) initial ∧
      (c.later host t).queue = c.queue := by
  intro t
  induction t with
  | zero =>
      intro _
      exact ⟨hstate, rfl⟩
  | succ t ih =>
      intro ht
      obtain ⟨hleft, hqueue⟩ := ih (by omega)
      -- At least one tick is left, so this tick counts down.
      rw [show d - t = d - (t + 1) + 1 by omega] at hleft
      obtain ⟨left, found, hfound, htick⟩ := countsDown_of_ticks host hleft
      rw [hleft] at hfound
      cases hfound
      simp only [later]
      rw [htick]
      exact ⟨rfl, hqueue⟩

/-- The wait that a line leaves behind runs out after the ticks that the line adds. -/
theorem wait_runs_out (host : Host E) {pace : Option Nat}
    (hstate : c.scheduler.state = waitOf pace) :
    (∀ t, t < delayOf pace → (c.later host t).CountsDown host) ∧
      (c.later host (delayOf pace)).GateOpen ∧
      (c.later host (delayOf pace)).queue = c.queue := by
  cases pace with
  | none => exact ⟨fun t ht => absurd ht (Nat.not_lt_zero t), Or.inl hstate, rfl⟩
  | some ticks =>
      refine ⟨?_, ?_, ?_⟩
      · intro t ht
        have hleft := (later_of_ticks host hstate t (Nat.le_of_lt ht)).1
        rw [show ticks - t = ticks - (t + 1) + 1 by simp [delayOf] at ht; omega] at hleft
        exact countsDown_of_ticks host hleft
      · have hleft := (later_of_ticks host hstate ticks (Nat.le_refl _)).1
        rw [Nat.sub_self] at hleft
        exact Or.inr ⟨ticks, hleft⟩
      · exact (later_of_ticks host hstate ticks (Nat.le_refl _)).2

/-- From an open gate, one tick enters the oldest line, the ticks that the line adds
count down, and the gate is open again for the rest of the queue. -/
theorem segment {line : String} {rest : List String} {pace : Option Nat}
    (hopen : c.GateOpen) (hqueue : c.queue = line :: rest)
    (hplays : ∀ ready, c.handover? host = some (line, ready) → Plays host ready line pace) :
    (∃ ready, c.handover? host = some (line, ready) ∧ ready.queue = rest ∧
      c.tick host = (.ok true, (ready.enter host line).2)) ∧
    (c.later host 1).scheduler.state = waitOf pace ∧
    (∀ t, t < delayOf pace → (c.later host (1 + t)).CountsDown host) ∧
    (c.later host (1 + delayOf pace)).GateOpen ∧
    (c.later host (1 + delayOf pace)).queue = rest := by
  obtain ⟨ready, hhandover, hrest, hready, htick⟩ := tick_of_open hopen hqueue
  obtain ⟨⟨succeeded, hanswer⟩, hkept, hwait⟩ :=
    enter_of_plays (hplays ready hhandover) hready
  rw [hanswer] at htick
  have hnext : c.later host 1 = (ready.enter host line).2 := by
    simp only [later]
    rw [htick]
  have hstate : (c.later host 1).scheduler.state = waitOf pace := by rw [hnext, hwait]
  obtain ⟨hcounts, hagain, hsame⟩ := wait_runs_out host hstate
  refine ⟨⟨ready, hhandover, hrest, htick⟩, hstate, ?_, ?_, ?_⟩
  · intro t ht
    rw [later_add]
    exact hcounts t ht
  · rw [later_add]
    exact hagain
  · rw [later_add, hsame, hnext, hkept, hrest]

/-! ## Whole scripts -/

/-- The tick that enters line `i`, counted from `0`. -/
def slot (script : List (String × Option Nat)) (i : Nat) : Nat :=
  i + ((script.take i).map fun line => delayOf line.2).sum

theorem slot_succ (script : List (String × Option Nat)) {i : Nat} (hi : i < script.length) :
    slot script (i + 1) = slot script i + (1 + delayOf script[i].2) := by
  unfold slot
  rw [List.take_add_one, List.getElem?_eq_getElem hi]
  simp only [Option.toList_some, List.map_append, List.map_cons, List.map_nil, List.sum_append,
    List.sum_cons, List.sum_nil]
  omega

/-- The console `c` comes from `before` by loading `lines`: from a list of lines or from a
script that is read to its end, of which they are the kept ones. -/
def Loads (before : Console E) (lines : List String) (c : Console E) : Prop :=
  (∃ given origin, c = (before.loadLines given origin).2 ∧
    lines = Script.keptLines before.settings.commentStarts given) ∨
  ∃ name given count, before.source name = ⟨given, none⟩ ∧
    before.loadScript name = (.ok count, c) ∧
    lines = Script.keptLines before.settings.commentStarts given

theorem loads_queue {before : Console E} {lines : List String}
    (hloads : before.Loads lines c) :
    c.queue = before.queue ++ lines ∧ c.scheduler = before.scheduler := by
  rcases hloads with ⟨given, origin, rfl, rfl⟩ | ⟨name, given, count, hsource, hload, rfl⟩
  · exact ⟨rfl, rfl⟩
  · simp only [loadScript, Script.load, hsource] at hload
    cases hload
    exact ⟨rfl, rfl⟩

section Script

variable {script : List (String × Option Nat)} (hopen : c.GateOpen)
  (hqueue : c.queue = script.map (·.1))
  (hplays : ∀ i (hi : i < script.length) ready,
    (c.later host (slot script i)).handover? host = some (script[i].1, ready) →
    Plays host ready script[i].1 script[i].2)

include hopen hqueue hplays

/-- At the slot of a line the gate is open and the line is the oldest in the queue. -/
theorem line_at_slot (i : Nat) (hi : i ≤ script.length) :
    (c.later host (slot script i)).GateOpen ∧
      (c.later host (slot script i)).queue = (script.drop i).map (·.1) := by
  induction i with
  | zero => exact ⟨hopen, by simpa [slot, later] using hqueue⟩
  | succ i ih =>
      obtain ⟨hopenHere, hqueueHere⟩ := ih (by omega)
      rw [List.drop_eq_getElem_cons hi, List.map_cons] at hqueueHere
      obtain ⟨-, -, -, hopenNext, hqueueNext⟩ :=
        segment hopenHere hqueueHere (hplays i hi)
      rw [slot_succ script hi, later_add]
      exact ⟨hopenNext, hqueueNext⟩

/-- Up to the slot of line `i`, every tick that is not the slot of an earlier line counts
down. -/
theorem countsDown_between (i : Nat) (hi : i ≤ script.length) {t : Nat}
    (ht : t < slot script i) (hother : ∀ j, j < i → t ≠ slot script j) :
    (c.later host t).CountsDown host := by
  induction i with
  | zero => exact absurd ht (by simp [slot])
  | succ i ih =>
      obtain ⟨hopenHere, hqueueHere⟩ := line_at_slot hopen hqueue hplays i (by omega)
      rw [List.drop_eq_getElem_cons hi, List.map_cons] at hqueueHere
      obtain ⟨-, -, hcounts, -, -⟩ := segment hopenHere hqueueHere (hplays i hi)
      rw [slot_succ script hi] at ht
      by_cases hearlier : t < slot script i
      · exact ih (by omega) hearlier fun j hj => hother j (by omega)
      · -- The tick falls into the ticks that line `i` paces.
        have hlater : t ≠ slot script i := hother i (by omega)
        rw [show t = slot script i + (1 + (t - slot script i - 1)) by omega, later_add]
        exact hcounts _ (by omega)

end Script

/-- **Script timing.**  Let a script be loaded into a console that waits for nothing and
has nothing queued, and let each line, entered at its slot, play at its pace.  Then the
tick at slot `i` enters line `i`, with the lines after it still queued, and leaves the
wait of its pace; and every tick before that is the slot of an earlier line or counts
down. -/
theorem script_runs_on_time (host : Host E) (before c : Console E)
    (script : List (String × Option Nat)) (hidle : before.scheduler.state = .running)
    (hempty : before.queue = []) (hloads : before.Loads (script.map (·.1)) c)
    (hplays : ∀ i (hi : i < script.length) ready,
      (c.later host (slot script i)).handover? host = some (script[i].1, ready) →
      Plays host ready script[i].1 script[i].2) :
    ∀ i (hi : i < script.length),
      (∃ ready, (c.later host (slot script i)).handover? host = some (script[i].1, ready) ∧
        ready.queue = (script.drop (i + 1)).map (·.1) ∧
        (c.later host (slot script i)).tick host =
          (.ok true, (ready.enter host script[i].1).2)) ∧
      (c.later host (slot script i + 1)).scheduler.state = waitOf script[i].2 ∧
      ∀ t, t < slot script i → (∀ j, j < i → t ≠ slot script j) →
        (c.later host t).CountsDown host := by
  obtain ⟨hqueue, hscheduler⟩ := loads_queue hloads
  rw [hempty, List.nil_append] at hqueue
  have hopen : c.GateOpen := Or.inl (by rw [hscheduler, hidle])
  intro i hi
  obtain ⟨hopenHere, hqueueHere⟩ :=
    line_at_slot hopen hqueue hplays i (Nat.le_of_lt hi)
  rw [List.drop_eq_getElem_cons hi, List.map_cons] at hqueueHere
  obtain ⟨henters, hwait, -, -, -⟩ := segment hopenHere hqueueHere (hplays i hi)
  refine ⟨henters, ?_, ?_⟩
  · rw [later_add]
    exact hwait
  · intro t
    exact countsDown_between hopen hqueue hplays i (Nat.le_of_lt hi)

/-- A console with the built-in commands for output and for scripts. -/
def furnished : Console .bare :=
  bare.after .bare [
    .registerAll Settings.builtinPackage (Builtin.consoleCommands "console"),
    .registerAll Settings.builtinPackage (Builtin.scriptCommands "script")]

/-- The same with a comment and two lines loaded. -/
def furnishedLoaded : Console .bare :=
  (furnished.loadLines ["# pace", " wait 2", "echo on"] "demo").2

theorem script_runs_on_time_echo_after_wait :
    (∃ ready : Console .bare, (furnishedLoaded.later .bare 3).tick .bare =
      (.ok true, (ready.enter .bare "echo on").2)) ∧
    (furnishedLoaded.later .bare 4).scheduler.state = .running ∧
    (furnishedLoaded.later .bare 1).CountsDown .bare := by
  have hwait : ∀ ready, furnishedLoaded.handover? .bare = some ("wait 2", ready) →
      Plays .bare ready "wait 2" (some 2) := by
    intro ready hready
    have hhandover : furnishedLoaded.handover? .bare = some ("wait 2",
        { (furnishedLoaded.tickCheck .bare).2 with queue := ["echo on"] }) := rfl
    obtain ⟨-, rfl⟩ := Prod.mk.inj (Option.some.inj (hhandover.symm.trans hready))
    exact ⟨"wait", "2", _, rfl, rfl, rfl, rfl⟩
  have hecho : ∀ ready,
      (furnishedLoaded.later .bare 3).handover? .bare = some ("echo on", ready) →
      Plays .bare ready "echo on" none := by
    intro ready hready
    have hhandover : (furnishedLoaded.later .bare 3).handover? .bare = some ("echo on",
        { ((furnishedLoaded.later .bare 3).tickCheck .bare).2 with queue := [] }) := rfl
    obtain ⟨-, rfl⟩ := Prod.mk.inj (Option.some.inj (hhandover.symm.trans hready))
    exact ⟨⟨true, rfl⟩, rfl, rfl⟩
  have hplays : ∀ i (hi : i < [("wait 2", some 2), ("echo on", none)].length) ready,
      (furnishedLoaded.later .bare
        (slot [("wait 2", some 2), ("echo on", none)] i)).handover? .bare =
          some ([("wait 2", some 2), ("echo on", none)][i].1, ready) →
      Plays .bare ready [("wait 2", some 2), ("echo on", none)][i].1
        [("wait 2", some 2), ("echo on", none)][i].2 := by
    intro i hi
    rcases i with _ | _ | i
    · exact hwait
    · exact hecho
    · exact absurd hi (by simp)
  obtain ⟨⟨ready, -, -, htick⟩, hstate, hcounts⟩ :=
    script_runs_on_time .bare furnished furnishedLoaded
      [("wait 2", some 2), ("echo on", none)] rfl rfl
      (Or.inl ⟨["# pace", " wait 2", "echo on"], "demo", rfl, rfl⟩) hplays 1 (by decide)
  refine ⟨⟨ready, htick⟩, hstate, hcounts 1 (by decide) ?_⟩
  intro j hj
  obtain rfl : j = 0 := by omega
  decide

end Console
end DevConsole
