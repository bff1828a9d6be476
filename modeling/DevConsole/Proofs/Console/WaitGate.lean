import DevConsole.Proofs.Console.Tick

/-!
# The wait gate

A console enters queued lines only while nothing is waited for.  Over any run:

* a tick whose check leaves a wait enters no line (`tick_held`);
* a wait for `n` ticks is taken down by checks alone, one tick each.  The next `n`
  checks answer that lines may not run, and the one after them ends the wait
  (`ticks_along`);
* a wait for a condition ends only by its predicate, by its tag, by force, or by
  another wait in its place (`condition_along`).

The second and the third are step lemmas followed by an induction over the run.
Their invariants are `.ticks left initial` with `left` sinking with each check,
and `WaitsFor`.
-/

namespace DevConsole
namespace Console

variable {E : Embedding} {host : Host E} {c : Console E}

/-! ## Ticks that are held back -/

/-- The next tick enters no line: it leaves queue and history as they are, does the same
whatever the code of commands does, and answers `false`, unless a predicate fails with what
cannot be told. -/
def HoldsBack (host : Host E) (c : Console E) : Prop :=
  ((∀ tag failure, (c.tickCheck host).1 = .failed tag failure → failure.Told) →
      (c.tick host).1 = .ok false) ∧
    (c.tick host).2.queue = c.queue ∧
    (c.tick host).2.history = c.history ∧
    ∀ call, c.tick { host with call := call } = c.tick host

theorem tick_held (hwaits : (c.tickCheck host).2.scheduler.state ≠ .running) :
    HoldsBack host c := by
  have hidle : (c.tickCheck host).1.isRunning = false := by
    rw [Bool.eq_false_iff]
    exact fun hruns => hwaits ((poll_isRunning_iff host _).mp hruns)
  have htick := tick_idle hidle
  refine ⟨?_, ?_, ?_, ?_⟩
  · intro htold
    rw [htick]
    exact answerCheck_of_told htold
  · rw [htick]
    exact (reportCheck_queue _ _).trans (poll_queue host _)
  · rw [htick]
    exact (reportCheck_history _ _).trans (poll_history host _)
  · intro call
    -- The check asks predicates only, so it is the same check for both hosts.
    have hsame : c.tickCheck { host with call := call } = c.tickCheck host := rfl
    rw [tick_idle (by rw [hsame]; exact hidle), hsame, htick]

/-- After a tick that is held back the scheduler is as its check left it. -/
theorem tick_scheduler_of_idle (hidle : (c.tickCheck host).1.isRunning = false) :
    (c.tick host).2.scheduler = (c.tickCheck host).2.scheduler := by
  rw [tick_idle hidle]
  exact reportCheck_scheduler _ _

/-! ## Waits for ticks -/

/-- The step neither arms a wait nor ends one by force: a command that it runs leaves
the wait alone, and a wait that it asks for is refused. -/
def Step.KeepsTicks (host : Host E) (c : Console E) : Step E → Prop
  | .submit => (c.submit host).2.scheduler.state = c.scheduler.state
  | .enter line => (c.enter host line).2.scheduler.state = c.scheduler.state
  | .call line => (c.call host line).2.scheduler.state = c.scheduler.state
  | .setWait mode delay => ∃ fault, c.setWait mode delay = .error fault
  | .waitFor tag parameter => ∃ fault, c.waitFor tag parameter = .error fault
  | .abort | .reset => False
  | _ => True

/-- A step without a check leaves a wait for ticks as it is. -/
theorem Step.apply_ticks_of_no_check {step : Step E} {left initial : Nat}
    (hstate : c.scheduler.state = .ticks left initial) (hkeeps : step.KeepsTicks host c)
    (hcheck : step.check? host c = none) :
    (step.apply host c).scheduler.state = .ticks left initial := by
  rw [← hstate]
  cases hconcerns : step.concernsWait with
  | false => exact apply_state_of_not_concernsWait host c step hconcerns
  | true =>
      cases step with
      | submit => simpa only [apply, KeepsTicks] using hkeeps
      | enter line => simpa only [apply, KeepsTicks] using hkeeps
      | call line => simpa only [apply, KeepsTicks] using hkeeps
      | setWait mode delay =>
          obtain ⟨fault, hrefused⟩ := hkeeps
          simp only [apply, hrefused, orSame_error]
      | waitFor tag parameter =>
          obtain ⟨fault, hrefused⟩ := hkeeps
          simp only [apply, hrefused, orSame_error]
      | satisfy tag =>
          have hother : c.satisfy tag = (false, c) :=
            satisfy_of_other (by simp [hstate, WaitState.tag?])
          simp only [apply, hother]
      | check | tick => cases hcheck
      | abort | reset => exact hkeeps.elim
      | _ => cases hconcerns

/-- A check that finds ticks left takes one off. -/
theorem Step.check?_counting {step : Step E} {left initial : Nat} {result : Poll}
    {checked : Console E} (hstate : c.scheduler.state = .ticks (left + 1) initial)
    (hcheck : step.check? host c = some (result, checked)) :
    result.isRunning = false ∧
      (step.apply host c).scheduler.state = .ticks left initial := by
  cases step with
  | check =>
      simp only [check?, Option.some.injEq] at hcheck
      simp only [apply]
      rw [poll_of_counting host hstate] at hcheck ⊢
      cases hcheck
      exact ⟨rfl, rfl⟩
  | tick =>
      simp only [check?, Option.some.injEq] at hcheck
      have hchecked := tickCheck_of_counting host hstate
      have hidle : (c.tickCheck host).1.isRunning = false := by rw [hchecked]; rfl
      constructor
      · rw [hcheck] at hidle
        exact hidle
      · simp only [apply]
        rw [tick_scheduler_of_idle hidle, hchecked]
  | _ => cases hcheck

/-- A check that finds no tick left ends the wait. -/
theorem Step.check?_elapsed {step : Step E} {initial : Nat} {result : Poll}
    {checked : Console E} (hstate : c.scheduler.state = .ticks 0 initial)
    (hcheck : step.check? host c = some (result, checked)) :
    result.isRunning = true ∧ checked.scheduler.state = .running := by
  cases step with
  | check =>
      simp only [check?, Option.some.injEq] at hcheck
      rw [poll_of_elapsed host hstate] at hcheck
      cases hcheck
      exact ⟨rfl, rfl⟩
  | tick =>
      simp only [check?, Option.some.injEq] at hcheck
      rw [tickCheck_of_elapsed host hstate] at hcheck
      cases hcheck
      exact ⟨rfl, rfl⟩
  | _ => cases hcheck

/-- A run of at most `left` checks finds the gate closed each time and takes a tick off
each time. -/
theorem ticks_along {initial : Nat} (steps : List (Step E)) :
    ∀ (c : Console E) (left : Nat), c.scheduler.state = .ticks left initial →
      Along host (fun c step => step.KeepsTicks host c) c steps →
      (c.checks host steps).length ≤ left →
      c.checks host steps = List.replicate (c.checks host steps).length false ∧
        (c.after host steps).scheduler.state =
          .ticks (left - (c.checks host steps).length) initial := by
  induction steps with
  | nil =>
      intro c left hstate _ _
      exact ⟨rfl, hstate⟩
  | cons step rest ih =>
      intro c left hstate hkeeps hfew
      obtain ⟨hkeepsStep, hkeepsRest⟩ := hkeeps
      cases hcheck : step.check? host c with
      | none =>
          -- The countdown stands, and the bound on the checks is that of the rest.
          have hnext := step.apply_ticks_of_no_check hstate hkeepsStep hcheck
          have hchecks : c.checks host (step :: rest) =
              (step.apply host c).checks host rest := by
            simp [checks, hcheck]
          rw [hchecks] at hfew ⊢
          exact ih _ left hnext hkeepsRest hfew
      | some checked =>
          obtain ⟨result, checked⟩ := checked
          -- A check uses up one of the `left` that the bound allows.
          cases left with
          | zero => simp [checks, hcheck] at hfew
          | succ left =>
              obtain ⟨hanswer, hnext⟩ := step.check?_counting hstate hcheck
              have hchecks : c.checks host (step :: rest) =
                  false :: (step.apply host c).checks host rest := by
                simp [checks, hcheck, hanswer]
              rw [hchecks] at hfew ⊢
              simp only [List.length_cons] at hfew ⊢
              obtain ⟨hanswers, hlast⟩ := ih _ left hnext hkeepsRest (by omega)
              refine ⟨?_, ?_⟩
              · rw [List.replicate_succ, ← hanswers]
              · rw [after_cons, hlast]
                congr 1
                omega

/-! ## Waits for conditions -/

/-- A command that the step runs leaves the wait alone. -/
def Step.KeepsDispatch (host : Host E) (c : Console E) : Step E → Prop
  | .submit => (c.submit host).2.scheduler.state = c.scheduler.state
  | .enter line => (c.enter host line).2.scheduler.state = c.scheduler.state
  | .call line => (c.call host line).2.scheduler.state = c.scheduler.state
  | _ => True

/-- The step may end the wait for the condition `code` under `tag`: its check finds the
predicate true, it names the tag, it ends waits by force, or it arms another wait. -/
def Step.EndsCondition (host : Host E) (c : Console E) (code : Int) (tag : String) :
    Step E → Prop
  | .check | .tick => c.scheduler.Holds host.ask code c.world
  | .satisfy name => Text.fold tag = Text.fold name
  | .setWait mode delay =>
    (mode = 0 ∧ 0 ≤ delay) ∨
      ∃ next, c.setWait mode delay = .ok next ∧ next.scheduler.state ≠ .running
  | .waitFor name parameter => ∃ next, c.waitFor name parameter = .ok next
  | .abort | .reset => True
  | _ => False

/-- A `setWait` that neither ends the wait nor puts another in its place is refused. -/
theorem setWait_refused {mode delay : Int}
    (hends : ¬ ((mode = 0 ∧ 0 ≤ delay) ∨
      ∃ next, c.setWait mode delay = .ok next ∧ next.scheduler.state ≠ .running)) :
    ∃ fault, c.setWait mode delay = .error fault := by
  cases haccepted : c.setWait mode delay with
  | error fault => exact ⟨fault, rfl⟩
  | ok next =>
      exfalso
      apply hends
      obtain ⟨hdelay, -, ⟨hmode, -⟩ | ⟨-, hstate⟩ | ⟨-, -, condition, -, hstate⟩⟩ :=
        WaitScheduler.arm_cases (arm_of_setWait haccepted)
      -- Mode `0` ends waits; the other two modes leave a wait of their own.
      · exact Or.inl ⟨hmode, hdelay⟩
      · exact Or.inr ⟨next, haccepted, by simp [hstate]⟩
      · exact Or.inr ⟨next, haccepted, by simp [hstate]⟩

/-- A step that does not end the wait for a condition leaves it standing. -/
theorem Step.apply_waitsFor {step : Step E} {code initial : Int} {tag : String}
    (hwaits : c.scheduler.WaitsFor code tag initial)
    (hkeeps : step.KeepsDispatch host c) (hends : ¬ step.EndsCondition host c code tag) :
    (step.apply host c).scheduler.WaitsFor code tag initial := by
  -- All but the checks leave the state of the scheduler as it is.
  have hsame (hstate : (step.apply host c).scheduler.state = c.scheduler.state) :
      (step.apply host c).scheduler.WaitsFor code tag initial := by
    obtain ⟨remaining, faulted, hwaits⟩ := hwaits
    exact ⟨remaining, faulted, hstate.trans hwaits⟩
  cases hconcerns : step.concernsWait with
  | false => exact hsame (apply_state_of_not_concernsWait host c step hconcerns)
  | true =>
      cases step with
      | submit => exact hsame (by simpa only [apply, KeepsDispatch] using hkeeps)
      | enter line => exact hsame (by simpa only [apply, KeepsDispatch] using hkeeps)
      | call line => exact hsame (by simpa only [apply, KeepsDispatch] using hkeeps)
      | setWait mode delay =>
          obtain ⟨fault, hrefused⟩ := setWait_refused hends
          exact hsame (by simp only [apply, hrefused, orSame_error])
      | waitFor name parameter =>
          cases haccepted : c.waitFor name parameter with
          | error fault => exact hsame (by simp only [apply, haccepted, orSame_error])
          | ok next => exact absurd ⟨next, haccepted⟩ hends
      | satisfy name =>
          have hother : c.satisfy name = (false, c) := by
            apply satisfy_of_other
            obtain ⟨remaining, faulted, hstate⟩ := hwaits
            intro current hcurrent
            simp only [hstate, WaitState.tag?, Option.some.injEq] at hcurrent
            exact hcurrent ▸ hends
          exact hsame (by simp only [apply, hother])
      | check =>
          rcases WaitScheduler.poll_condition host.ask c.world hwaits with
            ⟨-, hstands⟩ | ⟨-, hholds, -⟩
          · simp only [apply, poll_scheduler]
            exact hstands
          · exact absurd hholds hends
      | tick =>
          rcases WaitScheduler.poll_condition host.ask c.world hwaits with
            ⟨hidle, hstands⟩ | ⟨-, hholds, -⟩
          · simp only [apply]
            rw [tick_scheduler_of_idle hidle, tickCheck, poll_scheduler]
            exact hstands
          · exact absurd hholds hends
      | abort | reset => exact absurd trivial hends
      | _ => cases hconcerns

/-- A run either leaves the wait for a condition standing, or has a first step that
ends it. -/
theorem condition_along {code initial : Int} {tag : String} (steps : List (Step E)) :
    ∀ c : Console E, c.scheduler.WaitsFor code tag initial →
      Along host (fun c step => step.KeepsDispatch host c) c steps →
      (c.after host steps).scheduler.WaitsFor code tag initial ∨
        ∃ before step rest, steps = before ++ step :: rest ∧
          (c.after host before).scheduler.WaitsFor code tag initial ∧
          step.EndsCondition host (c.after host before) code tag := by
  induction steps with
  | nil =>
      intro c hwaits _
      exact Or.inl hwaits
  | cons step rest ih =>
      intro c hwaits hkeeps
      by_cases hends : step.EndsCondition host c code tag
      · exact Or.inr ⟨[], step, rest, rfl, hwaits, hends⟩
      · have hnext := step.apply_waitsFor hwaits hkeeps.1 hends
        rcases ih _ hnext hkeeps.2 with hstands | ⟨before, last, after, rfl, hlast, hends⟩
        · exact Or.inl hstands
        · exact Or.inr ⟨step :: before, last, after, rfl, hlast, hends⟩

/-! ## The gate -/

/-- **The wait gate.**  A tick whose check leaves a wait enters no line.  A wait for
ticks is taken down by checks only, whatever else happens: as many checks as there are
ticks left find the gate closed, and the next one ends the wait.  A wait for a condition
ends only by a step that may end it. -/
theorem wait_gates_queue (host : Host E) :
    (∀ c : Console E, (c.tickCheck host).2.scheduler.state ≠ .running →
      HoldsBack host c) ∧
    (∀ (c : Console E) (delay : Nat), ∃ armed, c.setWait 1 delay = .ok armed ∧
      armed.scheduler.state = .ticks delay delay) ∧
    (∀ (c : Console E) (left initial : Nat) (steps : List (Step E)),
      c.scheduler.state = .ticks left initial →
      Along host (fun c step => step.KeepsTicks host c) c steps →
      (c.checks host steps).length ≤ left →
      c.checks host steps = List.replicate (c.checks host steps).length false ∧
      (c.after host steps).scheduler.state =
        .ticks (left - (c.checks host steps).length) initial ∧
      ((c.checks host steps).length = left → ∀ (step : Step E) result checked,
        step.check? host (c.after host steps) = some (result, checked) →
        result.isRunning = true ∧ checked.scheduler.state = .running)) ∧
    (∀ (c : Console E) (code initial : Int) (tag : String) (steps : List (Step E)),
      c.scheduler.WaitsFor code tag initial →
      Along host (fun c step => step.KeepsDispatch host c) c steps →
      (c.after host steps).scheduler.WaitsFor code tag initial ∨
      ∃ before step rest, steps = before ++ step :: rest ∧
        (c.after host before).scheduler.WaitsFor code tag initial ∧
        step.EndsCondition host (c.after host before) code tag) := by
  refine ⟨fun c => tick_held, ?_, ?_, ?_⟩
  · intro c delay
    exact ⟨_, setWait_ticks c delay, rfl⟩
  · intro c left initial steps hstate hkeeps hfew
    obtain ⟨hanswers, hlast⟩ := ticks_along steps c left hstate hkeeps hfew
    refine ⟨hanswers, hlast, ?_⟩
    intro hall step result checked hcheck
    -- After exactly `left` checks no tick is left.
    rw [hall, Nat.sub_self] at hlast
    exact step.check?_elapsed hlast hcheck
  · intro c code initial tag steps
    exact condition_along steps c

/-- The gate at work: a wait for two ticks under a load, a refused wait and a tag that is
not waited for, and a wait for a condition that its tag ends. -/
theorem wait_gates_queue_two_waits :
    (let armed := bare.after .bare [.setWait 1 2]
      let steps := [.loadLines ["echo late"] "script", .tick, .satisfy "ready",
        .setWait 7 0, .check]
      armed.scheduler.state = .ticks 2 2 ∧ HoldsBack .bare armed ∧
        armed.checks .bare steps = [false, false] ∧
        (armed.after .bare steps).scheduler.state = .ticks 0 2 ∧
        ((armed.after .bare steps).tickCheck .bare).2.scheduler.state = .running) ∧
    (let waiting := bare.after .bare
        [.registerCondition ⟨2, "Ready", none⟩, .waitFor "ready" 5]
      let steps := [.tick, .writeOutput "loading", .satisfy "other", .satisfy "READY"]
      waiting.scheduler.WaitsFor 2 "Ready" 5 ∧
        ∃ before step rest, steps = before ++ step :: rest ∧
          (waiting.after .bare before).scheduler.WaitsFor 2 "Ready" 5 ∧
          step.EndsCondition .bare (waiting.after .bare before) 2 "Ready") := by
  obtain ⟨hheld, -, hticks, hcondition⟩ := wait_gates_queue Host.bare
  constructor
  · intro armed steps
    obtain ⟨hanswers, hlast, hended⟩ := hticks armed 2 2 steps rfl
      ⟨trivial, trivial, trivial, ⟨_, rfl⟩, trivial, trivial⟩ (by decide)
    have hstate : (armed.tickCheck .bare).2.scheduler.state = .ticks 1 2 := rfl
    exact ⟨rfl, hheld armed (by simp [hstate]), hanswers, hlast,
      (hended rfl .tick _ _ rfl).2⟩
  · intro waiting steps
    have hwaits : waiting.scheduler.WaitsFor 2 "Ready" 5 := ⟨5, false, rfl⟩
    have hgone : ¬ (waiting.after .bare steps).scheduler.WaitsFor 2 "Ready" 5 := by
      rintro ⟨remaining, faulted, hstate⟩
      cases hstate
    exact ⟨hwaits, (hcondition waiting 2 5 "Ready" steps hwaits
      ⟨trivial, trivial, trivial, trivial, trivial⟩).resolve_left hgone⟩

end Console
end DevConsole
