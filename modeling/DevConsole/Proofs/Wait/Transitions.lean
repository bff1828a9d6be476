import DevConsole.Wait

/-!
# What the scheduler does

Each operation of the scheduler is a case analysis on the current wait.  This file
states the cases once, so that no later proof opens an operation.  For a poll they
are the constructors of `Polled`:

* without a wait a poll changes nothing;
* a tick wait loses one tick, or ends if none is left;
* a condition wait ends exactly if the predicate of its condition is asked and
  answers `true`; otherwise it stays, with its code, its tag and what it was armed
  with.

In every case lines may run after the poll exactly when no wait is left.  An accepted
`arm` ends the wait, or puts a new one in its place (`arm_cases`), and an accepted
`register` adds its condition under a code and a tag that were free (`register_cases`).
-/

namespace DevConsole
namespace WaitScheduler

variable {π ω : Type}

/-- The scheduler waits for the condition `code` under `tag`, armed with `initial`.
What predicates have made of the parameter, and whether one has failed, is left
open: the wait stays the same wait. -/
def WaitsFor (s : WaitScheduler π) (code : Int) (tag : String) (initial : Int) : Prop :=
  ∃ remaining faulted, s.state = .condition code tag remaining initial faulted

/-- The predicate, if any, that decides the condition `code`. -/
def predicate? (s : WaitScheduler π) (code : Int) : Option π :=
  (s.withCode? code).bind (·.predicate)

/-- The condition `code` has a predicate, and the predicate answers `true` when it
is asked in the world `world`. -/
def Holds (ask : π → WaitState → ω → Verdict × ω) (s : WaitScheduler π) (code : Int)
    (world : ω) : Prop :=
  ∃ predicate, s.predicate? code = some predicate ∧
    (ask predicate s.state world).1.holds = .ok true

@[simp] theorem clear_state (s : WaitScheduler π) : s.clear.state = .running := rfl

/-! ## Polls without a condition -/

section Cases

variable (ask : π → WaitState → ω → Verdict × ω) {s : WaitScheduler π} (world : ω)

theorem poll_running (hstate : s.state = .running) :
    s.poll ask world = (.running, s, world) := by
  simp only [poll, hstate]

theorem poll_elapsed {initial : Nat} (hstate : s.state = .ticks 0 initial) :
    s.poll ask world = (.elapsed, s.clear, world) := by
  simp only [poll, hstate]

theorem poll_counting {left initial : Nat} (hstate : s.state = .ticks (left + 1) initial) :
    s.poll ask world = (.counting, { s with state := .ticks left initial }, world) := by
  simp only [poll, hstate]

/-! ## Polls of a condition -/

theorem predicate?_of_withCode? {code : Int} {condition : WaitCondition π}
    (hcondition : s.withCode? code = some condition) :
    s.predicate? code = condition.predicate := by
  simp [predicate?, hcondition]

section Condition

variable {code : Int} {tag : String} {remaining initial : Int} {faulted : Bool}

theorem poll_unwatched
    (hstate : s.state = .condition code tag remaining initial faulted)
    (hpredicate : s.predicate? code = none) :
    s.poll ask world = (.unwatched, s, world) := by
  unfold predicate? at hpredicate
  cases hcondition : s.withCode? code with
  | none => simp only [poll, hstate, hcondition]
  | some condition =>
      simp only [hcondition, Option.bind_some] at hpredicate
      simp only [poll, hstate, hcondition, hpredicate]

theorem poll_muted {condition : WaitCondition π} {predicate : π}
    (hstate : s.state = .condition code tag remaining initial true)
    (hcondition : s.withCode? code = some condition)
    (hpredicate : condition.predicate = some predicate) :
    s.poll ask world = (.muted, s, world) := by
  simp only [poll, hstate, hcondition, hpredicate, if_true]

/-- A predicate is asked if it has not failed since the wait was armed. Its verdict
decides. -/
theorem poll_asked {condition : WaitCondition π} {predicate : π}
    (hstate : s.state = .condition code tag remaining initial false)
    (hcondition : s.withCode? code = some condition)
    (hpredicate : condition.predicate = some predicate) :
    s.poll ask world =
      let answer := ask predicate s.state world
      match answer.1.holds with
      | .ok true => (.met condition.tag, s.clear, answer.2)
      | .ok false =>
        (.pending,
          { s with state := .condition code tag answer.1.remaining initial false }, answer.2)
      | .error failure =>
        (.failed condition.tag failure,
          { s with state := .condition code tag answer.1.remaining initial true },
          answer.2) := by
  rw [hstate]
  unfold poll
  rw [hstate]
  dsimp only
  rw [hcondition]
  dsimp only
  rw [hpredicate]
  exact if_neg Bool.false_ne_true

end Condition

/-! ## All polls -/

/-- What a poll finds in a scheduler and makes of it, case by case. -/
inductive Polled (s : WaitScheduler π) : Poll × WaitScheduler π × ω → Prop where
  | running (hstate : s.state = .running) : Polled s (.running, s, world)
  | elapsed {initial : Nat} (hstate : s.state = .ticks 0 initial) :
      Polled s (.elapsed, s.clear, world)
  | counting {left initial : Nat} (hstate : s.state = .ticks (left + 1) initial) :
      Polled s (.counting, { s with state := .ticks left initial }, world)
  | unwatched {code : Int} {tag : String} {remaining initial : Int} {faulted : Bool}
      (hstate : s.state = .condition code tag remaining initial faulted)
      (hpredicate : s.predicate? code = none) :
      Polled s (.unwatched, s, world)
  | muted {code : Int} {tag : String} {remaining initial : Int}
      {condition : WaitCondition π} {predicate : π}
      (hstate : s.state = .condition code tag remaining initial true)
      (hcondition : s.withCode? code = some condition)
      (hpredicate : condition.predicate = some predicate) :
      Polled s (.muted, s, world)
  | met {code : Int} {tag : String} {remaining initial : Int}
      {condition : WaitCondition π} {predicate : π}
      (hstate : s.state = .condition code tag remaining initial false)
      (hcondition : s.withCode? code = some condition)
      (hpredicate : condition.predicate = some predicate)
      (hverdict : (ask predicate s.state world).1.holds = .ok true) :
      Polled s (.met condition.tag, s.clear, (ask predicate s.state world).2)
  | pending {code : Int} {tag : String} {remaining initial : Int}
      {condition : WaitCondition π} {predicate : π}
      (hstate : s.state = .condition code tag remaining initial false)
      (hcondition : s.withCode? code = some condition)
      (hpredicate : condition.predicate = some predicate)
      (hverdict : (ask predicate s.state world).1.holds = .ok false) :
      Polled s (.pending,
        { s with
          state := .condition code tag (ask predicate s.state world).1.remaining initial
            false },
        (ask predicate s.state world).2)
  | failed {code : Int} {tag : String} {remaining initial : Int}
      {condition : WaitCondition π} {predicate : π} {failure : Failure}
      (hstate : s.state = .condition code tag remaining initial false)
      (hcondition : s.withCode? code = some condition)
      (hpredicate : condition.predicate = some predicate)
      (hverdict : (ask predicate s.state world).1.holds = .error failure) :
      Polled s (.failed condition.tag failure,
        { s with
          state := .condition code tag (ask predicate s.state world).1.remaining initial
            true },
        (ask predicate s.state world).2)

theorem poll_polled (s : WaitScheduler π) : Polled ask world s (s.poll ask world) := by
  cases hstate : s.state with
  | running =>
      rw [poll_running ask world hstate]
      exact .running hstate
  | ticks remaining initial =>
      cases remaining with
      | zero =>
          rw [poll_elapsed ask world hstate]
          exact .elapsed hstate
      | succ left =>
          rw [poll_counting ask world hstate]
          exact .counting hstate
  | condition code tag remaining initial faulted =>
      cases hasked : s.predicate? code with
      | none =>
          rw [poll_unwatched ask world hstate hasked]
          exact .unwatched hstate hasked
      | some predicate =>
          obtain ⟨condition, hcondition, hpredicate⟩ := Option.bind_eq_some_iff.mp hasked
          cases faulted with
          | true =>
              rw [poll_muted ask world hstate hcondition hpredicate]
              exact .muted hstate hcondition hpredicate
          | false =>
              -- The predicate is asked, and its verdict decides.
              rw [poll_asked ask world hstate hcondition hpredicate]
              cases hverdict : (ask predicate s.state world).1.holds with
              | error failure =>
                  simp only [hverdict]
                  exact .failed hstate hcondition hpredicate hverdict
              | ok holds =>
                  cases holds with
                  | false =>
                      simp only [hverdict]
                      exact .pending hstate hcondition hpredicate hverdict
                  | true =>
                      simp only [hverdict]
                      exact .met hstate hcondition hpredicate hverdict

/-- A poll of a condition either lets the wait stand, or finds the predicate true
and ends it. -/
theorem poll_condition {code : Int} {tag : String} {initial : Int}
    (hwaits : s.WaitsFor code tag initial) :
    ((s.poll ask world).1.isRunning = false ∧
        (s.poll ask world).2.1.WaitsFor code tag initial) ∨
      ((s.poll ask world).1.isRunning = true ∧ s.Holds ask code world ∧
        (s.poll ask world).2.1 = s.clear) := by
  obtain ⟨remaining, faulted, hwaits⟩ := hwaits
  have hpolled := poll_polled ask world s
  generalize s.poll ask world = result at hpolled ⊢
  cases hpolled with
  | running hstate | elapsed hstate | counting hstate =>
      rw [hwaits] at hstate
      cases hstate
  | unwatched | muted => exact Or.inl ⟨rfl, remaining, faulted, hwaits⟩
  | met hstate hcondition hpredicate hverdict =>
      have hsame := hwaits.symm.trans hstate
      cases hsame
      have hasked := (predicate?_of_withCode? hcondition).trans hpredicate
      exact Or.inr ⟨rfl, ⟨_, hasked, hverdict⟩, rfl⟩
  | pending hstate =>
      have hsame := hwaits.symm.trans hstate
      cases hsame
      exact Or.inl ⟨rfl, _, false, rfl⟩
  | failed hstate =>
      have hsame := hwaits.symm.trans hstate
      cases hsame
      exact Or.inl ⟨rfl, _, true, rfl⟩

/-- Lines may run after a poll exactly when the poll leaves no wait. -/
theorem poll_isRunning_iff :
    (s.poll ask world).1.isRunning = true ↔
      (s.poll ask world).2.1.state = .running := by
  have hpolled := poll_polled ask world s
  generalize s.poll ask world = result at hpolled ⊢
  cases hpolled with
  | running hstate => simp [Poll.isRunning, hstate]
  | elapsed | met => simp [Poll.isRunning]
  | counting | pending | failed => simp [Poll.isRunning]
  | unwatched hstate | muted hstate => simp [Poll.isRunning, hstate]

end Cases

/-! ## The other operations -/

/-- An accepted condition has a code from `2` up, and neither its code nor its tag was in
use. It comes after the others. -/
theorem register_cases {s next : WaitScheduler π} {condition : WaitCondition π}
    (haccepted : s.register condition = .ok next) :
    2 ≤ condition.code ∧ s.withCode? condition.code = none ∧
      s.withTag? condition.tag = none ∧
      next = { s with conditions := s.conditions ++ [condition] } := by
  unfold register at haccepted
  by_cases hreserved : condition.code = 0 ∨ condition.code = 1
  · simp [hreserved] at haccepted
  rw [if_neg hreserved] at haccepted
  by_cases hnegative : condition.code < 0
  · simp [hnegative] at haccepted
  rw [if_neg hnegative] at haccepted
  split at haccepted
  · cases haccepted
  · next hfree =>
      simp only [Bool.or_eq_true, not_or, Option.not_isSome_iff_eq_none] at hfree
      refine ⟨by omega, hfree.1, hfree.2, ?_⟩
      exact (Except.ok.inj haccepted).symm

/-- An accepted wait has a delay that is not negative, and leaves no wait, a wait for
that many ticks, or a wait for a registered condition, according to its mode. -/
theorem arm_cases {s next : WaitScheduler π} {mode delay : Int}
    (haccepted : s.arm mode delay = .ok next) :
    0 ≤ delay ∧ next.conditions = s.conditions ∧
      ((mode = 0 ∧ next.state = .running) ∨
        (mode = 1 ∧ next.state = .ticks delay.toNat delay.toNat) ∨
        (mode ≠ 0 ∧ mode ≠ 1 ∧ ∃ condition, s.withCode? mode = some condition ∧
          next.state = .condition mode condition.tag delay delay false)) := by
  unfold arm at haccepted
  by_cases hnegative : delay < 0
  · simp [hnegative] at haccepted
  have hdelay : 0 ≤ delay := by omega
  rw [if_neg hnegative] at haccepted
  by_cases hzero : mode = 0
  · rw [if_pos hzero] at haccepted
    cases haccepted
    exact ⟨hdelay, rfl, Or.inl ⟨hzero, rfl⟩⟩
  rw [if_neg hzero] at haccepted
  by_cases hone : mode = 1
  · rw [if_pos hone] at haccepted
    cases haccepted
    exact ⟨hdelay, rfl, Or.inr (Or.inl ⟨hone, rfl⟩)⟩
  rw [if_neg hone] at haccepted
  cases hcondition : s.withCode? mode with
  | none => simp [hcondition] at haccepted
  | some condition =>
      simp only [hcondition] at haccepted
      cases haccepted
      exact ⟨hdelay, rfl, Or.inr (Or.inr ⟨hzero, hone, condition, rfl, rfl⟩)⟩

/-- An accepted wait for `delay` ticks stands as such. -/
theorem arm_ticks (s : WaitScheduler π) (delay : Nat) :
    s.arm 1 delay = .ok { s with state := .ticks delay delay } := by
  simp [arm]

/-- A new condition does not change the current wait. -/
theorem register_state {s next : WaitScheduler π} {condition : WaitCondition π}
    (hregister : s.register condition = .ok next) : next.state = s.state := by
  obtain ⟨-, -, -, rfl⟩ := register_cases hregister
  rfl

/-- An accepted wait for a tag is an accepted wait for the code that the tag stands for. -/
theorem arm_of_armFor {s next : WaitScheduler π} {tag : String} {parameter : Int}
    (haccepted : s.armFor tag parameter = .ok next) :
    ∃ code, s.codeOf tag = .ok code ∧ s.arm code parameter = .ok next := by
  unfold armFor at haccepted
  cases hcode : s.codeOf tag with
  | error fault =>
      rw [hcode] at haccepted
      cases haccepted
  | ok code =>
      rw [hcode] at haccepted
      exact ⟨code, rfl, haccepted⟩

/-- A tag ends the wait or changes nothing. -/
theorem satisfy_cases (s : WaitScheduler π) (tag : String) :
    s.satisfy tag = (true, s.clear) ∨ s.satisfy tag = (false, s) := by
  unfold satisfy
  split
  · split
    · exact Or.inl rfl
    · exact Or.inr rfl
  · exact Or.inr rfl

/-- Only the wait for the condition called `tag` is ended by that tag. -/
theorem satisfy_of_other {s : WaitScheduler π} {tag : String}
    (hother : ∀ current, s.state.tag? = some current → Text.fold current ≠ Text.fold tag) :
    s.satisfy tag = (false, s) := by
  unfold satisfy
  cases htag : s.state.tag? with
  | none => rfl
  | some current => simp [hother current htag]

end WaitScheduler
end DevConsole
