import DevConsole.Proofs.Console.Entry

/-!
# Queued lines are conserved

Lines enter the queue at its end and leave it from its front: a tick hands the oldest
line over, and an abort drops all lines.  The trail of a run lists its stages in order,
those inside callbacks included, each with what has just been moved.

Every stage balances (`Balanced`): what it removes, followed by the queue, is the queue
before it followed by what it adds.  Balanced trails compose, so that the books of a whole
run balance at each of its stages (`queue_conserved`).
-/

namespace DevConsole
namespace Console

variable {E : Embedding}

/-! ## Stages -/

/-- A movement of lines through the queue. -/
inductive Movement where
  | queued (lines : List String)
  | handedOver (line : String)
  | dropped (lines : List String)

namespace Movement

/-- The lines that enter the queue, in order. -/
def added : Movement → List String
  | queued lines => lines
  | handedOver _ | dropped _ => []

/-- The lines that leave the queue, in order. -/
def removed : Movement → List String
  | queued _ => []
  | handedOver line => [line]
  | dropped lines => lines

/-- The line that leaves the queue to be entered. -/
def handed : Movement → List String
  | handedOver line => [line]
  | queued _ | dropped _ => []

end Movement

/-- A stage of a run: what has just been moved, and the console. -/
structure Stage (E : Embedding) where
  moved : Option Movement
  console : Console E

namespace Stage

/-- What has just entered the queue. -/
def added (stage : Stage E) : List String :=
  stage.moved.elim [] Movement.added

/-- What has just left the queue. -/
def removed (stage : Stage E) : List String :=
  stage.moved.elim [] Movement.removed

/-- What has just been handed over by the queue. -/
def handed (stage : Stage E) : List String :=
  stage.moved.elim [] Movement.handed

end Stage

/-- The queue at the end of a trail that begins with `queue`. -/
def queueAfter (queue : List String) (trail : List (Stage E)) : List String :=
  trail.foldl (fun _ stage => stage.console.queue) queue

/-- At every stage of the trail, lines leave from the front and enter at the end. -/
def Balanced : List String → List (Stage E) → Prop
  | _, [] => True
  | queue, stage :: rest =>
    stage.removed ++ stage.console.queue = queue ++ stage.added ∧
      Balanced stage.console.queue rest

/-- A stage at which nothing moves balances if the queue is as before. -/
theorem balanced_still {queue : List String} {c : Console E} (hqueue : c.queue = queue) :
    Balanced queue [⟨none, c⟩] := by
  refine ⟨?_, trivial⟩
  simp [Stage.removed, Stage.added, hqueue]

theorem balanced_append {first second : List (Stage E)} :
    ∀ {queue : List String}, Balanced queue (first ++ second) ↔
      Balanced queue first ∧ Balanced (queueAfter queue first) second := by
  induction first with
  | nil =>
      intro queue
      simp [Balanced, queueAfter]
  | cons stage rest ih =>
      intro queue
      simp only [List.cons_append, Balanced, ih, and_assoc]
      rfl

/-- The books of a balanced trail balance. -/
theorem Balanced.total {trail : List (Stage E)} :
    ∀ {queue : List String}, Balanced queue trail →
      trail.flatMap Stage.removed ++ queueAfter queue trail =
        queue ++ trail.flatMap Stage.added := by
  induction trail with
  | nil =>
      intro queue _
      simp [queueAfter]
  | cons stage rest ih =>
      intro queue hbalanced
      calc
        (stage :: rest).flatMap Stage.removed ++ queueAfter queue (stage :: rest) =
            stage.removed ++
              (rest.flatMap Stage.removed ++ queueAfter stage.console.queue rest) := by
          rw [List.flatMap_cons, List.append_assoc]
          rfl
        _ = (stage.removed ++ stage.console.queue) ++ rest.flatMap Stage.added := by
          rw [ih hbalanced.2, List.append_assoc]
        _ = queue ++ (stage :: rest).flatMap Stage.added := by
          rw [hbalanced.1, List.append_assoc, List.flatMap_cons]

/-! ## Calls that have no line run -/

/-- What such a call moves. -/
def Step.movement? (c : Console E) : Step E → Option Movement
  | .loadLines lines _ => some (.queued (Script.keptLines c.settings.commentStarts lines))
  | .loadScript name =>
    match Script.load c.source c.settings.commentStarts name with
    | .ok kept => some (.queued kept)
    | .error _ => none
  | .append line => some (.queued [line])
  | .abort | .reset => some (.dropped c.queue)
  | _ => none

/-- The stage after such a call. -/
def Step.stage (host : Host E) (c : Console E) (step : Step E) : Stage E :=
  ⟨step.movement? c, step.apply host c⟩

/-- A call that moves nothing leaves the queue as it is. -/
theorem Step.apply_queue (host : Host E) {c : Console E} {step : Step E}
    (hdirect : step.entry? = none) (hstill : step.movement? c = none) :
    (step.apply host c).queue = c.queue := by
  cases hconcerns : step.concernsQueue with
  | false => exact (step.frame host c hdirect).queue hconcerns
  | true =>
      cases step with
      | loadScript name =>
          rw [apply, Console.loadScript]
          cases hloaded : Script.load c.source c.settings.commentStarts name with
          | ok kept => simp [movement?, hloaded] at hstill
          | error fault => cases fault <;> rfl
      | loadLines | append | abort | reset => cases hstill
      | _ => cases hconcerns

theorem Step.stage_balanced (host : Host E) (c : Console E) {step : Step E}
    (hdirect : step.entry? = none) : Balanced c.queue [step.stage host c] := by
  refine ⟨?_, trivial⟩
  cases hmoved : step.movement? c with
  | none =>
      rw [stage, hmoved]
      exact (balanced_still (apply_queue host hdirect hmoved)).1
  | some moved =>
      simp only [stage, Stage.removed, Stage.added, hmoved, Option.elim_some]
      cases step with
      | loadLines lines origin =>
          obtain rfl := Option.some.inj hmoved
          rfl
      | loadScript name =>
          rw [apply, Console.loadScript]
          cases hloaded : Script.load c.source c.settings.commentStarts name with
          | ok kept =>
              obtain rfl : .queued kept = moved := by simpa [movement?, hloaded] using hmoved
              rfl
          | error fault => simp [movement?, hloaded] at hmoved
      | append line =>
          obtain rfl := Option.some.inj hmoved
          rfl
      | abort | reset =>
          obtain rfl := Option.some.inj hmoved
          obtain ⟨journal, hnext⟩ := abortScript_changes c
          simp only [apply, Console.reset, hnext]
          rfl
      | _ => cases hmoved

end Console

/-! ## Commands -/

namespace Routine

open Console (Stage)

variable {E : Embedding}

/-- The stages of a routine. -/
def trail (host : Host E) : Routine E → Console E → List (Stage E)
  | raise _, _ | give .., _ => []
  | act step _ next, c =>
    step.stage host c :: (next (step.apply host c)).trail host (step.apply host c)
  | change f _ next, c => ⟨none, f c⟩ :: (next (f c)).trail host (f c)

theorem trail_balanced (host : Host E) (routine : Routine E) :
    ∀ c : Console E, Console.Balanced c.queue (routine.trail host c) ∧
      Console.queueAfter c.queue (routine.trail host c) = (routine.run host c).2.queue := by
  induction routine with
  | raise fault => exact fun c => ⟨trivial, rfl⟩
  | give reply ends => exact fun c => ⟨trivial, rfl⟩
  | act step direct next ih =>
      intro c
      obtain ⟨hrest, hlast⟩ := ih (step.apply host c) (step.apply host c)
      exact ⟨⟨(Console.Step.stage_balanced host c direct).1, hrest⟩, hlast⟩
  | change f keeps next ih =>
      intro c
      obtain ⟨hrest, hlast⟩ := ih (f c) (f c)
      exact ⟨⟨(Console.balanced_still (keeps c)).1, hrest⟩, hlast⟩

end Routine

namespace Console

variable {E : Embedding}

/-- The stages while a command runs, from the console that is about to call it. -/
def Invocation.trail (code : Code E) (invocation : Invocation E) : List (Stage E) :=
  let called := invocation.console.report
    (.dispatched invocation.command.name invocation.args)
  match invocation.command.action with
  | .builtin command =>
    [⟨(command.step? invocation.args).bind (Step.movement? called),
      (command.run invocation.args called).2⟩]
  | .callback handle =>
    (code.routine handle invocation.args called).trail (Host.asking code.ask) called

theorem Invocation.trail_balanced (code : Code E) (invocation : Invocation E) :
    Balanced invocation.console.queue (invocation.trail code) ∧
      queueAfter invocation.console.queue (invocation.trail code) =
        (invocation.outcome code.host).2.queue := by
  obtain ⟨c, command, args⟩ := invocation
  unfold trail outcome Console.outcome
  dsimp only
  -- The command runs after the report of its dispatch, which leaves the queue alone.
  change Balanced (c.report (.dispatched command.name args)).queue _ ∧
    queueAfter (c.report (.dispatched command.name args)).queue _ = _
  generalize c.report (.dispatched command.name args) = called
  cases command.action with
  | callback handle => exact Routine.trail_balanced _ _ called
  | builtin builtin =>
      refine ⟨?_, rfl⟩
      dsimp only
      cases hstep : builtin.step? (E := E) args with
      | some step =>
          have hdirect : step.entry? = none := by
            unfold Builtin.step? at hstep
            split at hstep <;> cases hstep <;> rfl
          rw [Option.bind_some, Builtin.run_of_step hstep code.host called]
          exact Step.stage_balanced code.host called hdirect
      | none => exact balanced_still (Builtin.run_queue hstep called)

/-! ## Entries -/

/-- The stages of an entry before it calls a command. -/
def Entry.opening (host : Host E) (c : Console E) : Entry → List (Stage E)
  | tick =>
    ⟨none, (c.tickCheck host).2⟩ ::
      ((c.handover? host).map fun (line, ready) => ⟨some (.handedOver line), ready⟩).toList
  | call _ | enter _ | submit => []

theorem handedIn_queue (c : Console E) : c.handedIn.queue = c.queue := by
  unfold handedIn
  dsimp only
  split <;> rfl

theorem recorded_queue (c : Console E) (line : String) : (c.recorded line).queue = c.queue := by
  unfold recorded
  split <;> rfl

namespace Entry

variable {host : Host E} {c : Console E} {entry : Entry}

theorem opening_balanced (host : Host E) (c : Console E) (entry : Entry) :
    Balanced c.queue (entry.opening host c) := by
  cases entry with
  | call line | enter line | submit => trivial
  | tick =>
      refine ⟨(balanced_still (poll_queue host _)).1, ?_⟩
      cases hready : c.handover? host with
      | none => trivial
      | some queued =>
          obtain ⟨line, ready⟩ := queued
          obtain ⟨-, rest, hqueue, rfl⟩ := handover_eq_some_iff.mp hready
          refine ⟨?_, trivial⟩
          simp [Stage.removed, Stage.added, Movement.removed, Movement.added, hqueue]

/-- The command of an entry is called with the queue that its opening leaves. -/
theorem opening_queue (host : Host E) (c : Console E) (entry : Entry) :
    queueAfter c.queue (entry.opening host c) = (entry.site host c).queue := by
  cases entry with
  | call line => rfl
  | enter line => exact (recorded_queue c line).symm
  | submit =>
      rw [site, recorded_queue]
      exact (handedIn_queue c).symm
  | tick =>
      unfold site opening
      cases c.handover? host with
      | none => exact (reportCheck_queue _ _).symm
      | some queued => exact (recorded_queue queued.2 queued.1).symm

/-- The stages of an entry: its opening, those of the command that it calls, and its end. -/
def trail (code : Code E) (c : Console E) (entry : Entry) : List (Stage E) :=
  entry.opening code.host c ++
    ((entry.invocation? code.host c).toList.flatMap (Invocation.trail code) ++
      [⟨none, (entry.run code.host c).2⟩])

theorem trail_balanced (code : Code E) (c : Console E) (entry : Entry) :
    Balanced c.queue (entry.trail code c) := by
  refine balanced_append.mpr ⟨opening_balanced code.host c entry, ?_⟩
  -- What the dispatcher writes in the end does not concern the queue.
  obtain ⟨output, journal, hrun⟩ := entry.run_changes code.host c
  have hend : (entry.run code.host c).2.queue = (entry.afterCommand code.host c).queue := by
    rw [hrun]
  rw [opening_queue]
  unfold afterCommand at hend
  cases hcalls : entry.invocation? code.host c with
  | none =>
      rw [hcalls] at hend
      exact balanced_still hend
  | some invocation =>
      rw [hcalls] at hend
      obtain ⟨hbalanced, hlast⟩ := Invocation.trail_balanced code invocation
      rw [← console_eq_site hcalls, Option.toList_some, List.flatMap_singleton]
      exact balanced_append.mpr ⟨hbalanced, balanced_still (hend.trans hlast.symm)⟩

theorem queueAfter_trail (code : Code E) (c : Console E) (entry : Entry) (queue : List String) :
    queueAfter queue (entry.trail code c) = (entry.run code.host c).2.queue := by
  simp [trail, queueAfter]

end Entry

/-! ## Runs -/

/-- The stages of a step. -/
def Step.trail (code : Code E) (c : Console E) (step : Step E) : List (Stage E) :=
  match step.entry? with
  | some entry => entry.trail code c
  | none => [step.stage code.host c]

theorem Step.trail_balanced (code : Code E) (c : Console E) (step : Step E) :
    Balanced c.queue (step.trail code c) ∧
      queueAfter c.queue (step.trail code c) = (step.apply code.host c).queue := by
  unfold trail
  cases hentry : step.entry? with
  | none => exact ⟨stage_balanced code.host c hentry, rfl⟩
  | some entry =>
      rw [apply_of_entry code.host c hentry]
      exact ⟨entry.trail_balanced code c, entry.queueAfter_trail code c _⟩

/-- The stages of a run. -/
def trail (code : Code E) : Console E → List (Step E) → List (Stage E)
  | _, [] => []
  | c, step :: rest => step.trail code c ++ trail code (step.apply code.host c) rest

theorem trail_balanced (code : Code E) (steps : List (Step E)) :
    ∀ c : Console E, Balanced c.queue (trail code c steps) ∧
      queueAfter c.queue (trail code c steps) = (c.after code.host steps).queue := by
  induction steps with
  | nil => exact fun c => ⟨trivial, rfl⟩
  | cons step rest ih =>
      intro c
      obtain ⟨hstep, hnext⟩ := step.trail_balanced code c
      obtain ⟨hrest, hlast⟩ := ih (step.apply code.host c)
      refine ⟨balanced_append.mpr ⟨hstep, ?_⟩, ?_⟩
      · rw [hnext]
        exact hrest
      · calc
          queueAfter c.queue (trail code c (step :: rest)) =
              queueAfter (queueAfter c.queue (step.trail code c))
                (trail code (step.apply code.host c) rest) := List.foldl_append
          _ = (c.after code.host (step :: rest)).queue := by rw [hnext, hlast, after_cons]

/-! ## Lines that are handed over -/

/-- Only a tick hands lines over: no call that has no line run does. -/
theorem Step.handed_of_movement {c : Console E} {step : Step E} {moved : Movement}
    (hmoved : step.movement? c = some moved) : moved.handed = [] := by
  cases step with
  | loadLines | append | abort | reset =>
      obtain rfl := Option.some.inj hmoved
      rfl
  | loadScript name =>
      cases hloaded : Script.load c.source c.settings.commentStarts name with
      | ok kept =>
          obtain rfl : .queued kept = moved := by simpa [movement?, hloaded] using hmoved
          rfl
      | error fault => simp [movement?, hloaded] at hmoved
  | _ => cases hmoved

end Console

theorem Routine.handed_trail (host : Host E) (routine : Routine E) :
    ∀ c : Console E, (routine.trail host c).flatMap Console.Stage.handed = [] := by
  induction routine with
  | raise fault => exact fun c => rfl
  | give reply ends => exact fun c => rfl
  | act step direct next ih =>
      intro c
      rw [trail, List.flatMap_cons, ih, List.append_nil]
      cases hmoved : step.movement? c with
      | none => simp only [Console.Step.stage, Console.Stage.handed, hmoved, Option.elim_none]
      | some moved =>
          simp only [Console.Step.stage, Console.Stage.handed, hmoved, Option.elim_some]
          exact Console.Step.handed_of_movement hmoved
  | change f keeps next ih =>
      intro c
      rw [trail, List.flatMap_cons, ih]
      rfl

namespace Console

theorem Invocation.handed_trail (code : Code E) (invocation : Invocation E) :
    (invocation.trail code).flatMap Stage.handed = [] := by
  unfold trail
  dsimp only
  split
  · next command _ =>
      rw [List.flatMap_singleton]
      unfold Stage.handed
      cases hstep : command.step? (E := E) invocation.args with
      | none => rfl
      | some step =>
          dsimp only
          rw [Option.bind_some]
          cases hmoved : step.movement? _ with
          | none => rfl
          | some moved => exact Step.handed_of_movement hmoved
  · exact Routine.handed_trail _ _ _

/-- The stages of a tick show the line that is handed over, and no other. -/
theorem handed_tick (code : Code E) (c : Console E) :
    (trail code c [.tick]).flatMap Stage.handed =
      ((c.handover? code.host).map Prod.fst).toList := by
  have hcommand (found : Option (Invocation E)) :
      (found.toList.flatMap (Invocation.trail code)).flatMap Stage.handed = [] := by
    cases found with
    | none => rfl
    | some invocation =>
        rw [Option.toList_some, List.flatMap_singleton, Invocation.handed_trail]
  simp only [trail, Step.trail, Step.entry?, Entry.trail, Entry.opening, List.flatMap_append,
    hcommand]
  cases c.handover? code.host with
  | none => rfl
  | some queued => rfl

/-- A program with one callback, which appends, drops and loads lines before it raises. -/
def meddlingCode : Code ⟨Unit, Empty, Unit⟩ where
  routine := fun _ _ _ =>
    .act (.append "one") rfl fun _ =>
      .act .abort rfl fun _ =>
        .act (.loadLines ["# two", " three "] "memory") rfl fun _ =>
          .raise (.outside (.raised "RuntimeError" []))
  ask := fun handle => nomatch handle

/-- A program with one callback, which gives back a number of too many digits. -/
def muddlingCode : Code ⟨Unit, Empty, Unit⟩ where
  routine := fun _ _ _ => .give (.value Value.overlong) rfl
  ask := fun handle => nomatch handle

end Console
end DevConsole
