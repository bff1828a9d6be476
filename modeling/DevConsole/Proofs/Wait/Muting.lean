import DevConsole.Proofs.Wait.Coherence

/-!
# Predicates that fail

A predicate that fails is reported by the poll that asked it and is not asked again before
the wait is armed anew.  Between two calls that arm, satisfy or clear the wait
(`Undisturbed`):

* at most one poll reports a failure (`countP_failed_le`), since such a poll leaves a wait
  that cannot fail, and no other call makes one that can;
* after it every poll finds the wait muted and changes nothing, whatever predicates would
  answer (`muted_along`);
* the wait keeps its mode, its tag and what it was armed with until it ends
  (`after_stands`).

Arming the wait anew makes its predicate live again (`Arms.poll`).
-/

namespace DevConsole

/-- Whether the poll reports that a predicate has failed. -/
def Poll.isFailed : Poll → Bool
  | .failed .. => true
  | _ => false

namespace WaitState

/-- Whether a predicate may be asked: a condition is waited for and has not failed. -/
def isLive : WaitState → Bool
  | condition _ _ _ _ faulted => !faulted
  | _ => false

/-- Two states of one wait: they agree in what the wait was armed with. -/
def SameWait (a b : WaitState) : Prop :=
  a.mode = b.mode ∧ a.tag? = b.tag? ∧ a.initial = b.initial

theorem SameWait.refl (a : WaitState) : a.SameWait a :=
  ⟨rfl, rfl, rfl⟩

theorem SameWait.trans {a b c : WaitState} (hab : a.SameWait b) (hbc : b.SameWait c) :
    a.SameWait c :=
  ⟨hab.1.trans hbc.1, hab.2.1.trans hbc.2.1, hab.2.2.trans hbc.2.2⟩

theorem SameWait.eq_running {a : WaitState} (hsame : a.SameWait .running) : a = .running := by
  obtain ⟨hmode, htag, -⟩ := hsame
  cases a with
  | running => rfl
  | ticks remaining initial => cases hmode
  | condition code tag remaining initial faulted => cases htag

end WaitState

namespace WaitScheduler

variable {π ω : Type} {ask : π → WaitState → ω → Verdict × ω}

/-! ## Calls that leave the wait to itself -/

/-- The call arms, satisfies or clears the wait. -/
def Call.Renews (s : WaitScheduler π) : Call π → Prop
  | arm mode delay => ∃ next, s.arm mode delay = .ok next
  | armFor tag parameter => ∃ next, s.armFor tag parameter = .ok next
  | satisfy tag => (s.satisfy tag).1 = true
  | clear => True
  | register _ | poll => False

/-- What the call finds, if it polls. -/
def Call.poll? (ask : π → WaitState → ω → Verdict × ω) (now : WaitScheduler π × ω) :
    Call π → Option Poll
  | poll => some (now.1.poll ask now.2).1
  | _ => none

/-- What the polls of a run find, in order. -/
def polls (ask : π → WaitState → ω → Verdict × ω) :
    WaitScheduler π × ω → List (Call π) → List Poll
  | _, [] => []
  | now, call :: rest => (call.poll? ask now).toList ++ polls ask (call.apply ask now) rest

/-- No call of a run arms, satisfies or clears the wait. -/
def Undisturbed (ask : π → WaitState → ω → Verdict × ω) :
    WaitScheduler π × ω → List (Call π) → Prop
  | _, [] => True
  | now, call :: rest => ¬ call.Renews now.1 ∧ Undisturbed ask (call.apply ask now) rest

theorem after_append (now : WaitScheduler π × ω) (first second : List (Call π)) :
    after ask now (first ++ second) = after ask (after ask now first) second :=
  List.foldl_append

theorem undisturbed_append {first second : List (Call π)} :
    ∀ {now : WaitScheduler π × ω}, Undisturbed ask now (first ++ second) ↔
      Undisturbed ask now first ∧ Undisturbed ask (after ask now first) second := by
  induction first with
  | nil =>
      intro now
      simp [Undisturbed, after]
  | cons call rest ih =>
      intro now
      simp only [List.cons_append, Undisturbed, ih, and_assoc]
      rfl

/-- A call that does not poll and leaves the wait to itself changes neither wait nor
world, and takes no condition away. -/
theorem Call.apply_of_quiet {call : Call π} {now : WaitScheduler π × ω}
    (hquiet : ¬ call.Renews now.1) (hpoll : call.poll? ask now = none) :
    (call.apply ask now).1.state = now.1.state ∧ (call.apply ask now).2 = now.2 ∧
      ∀ code condition, now.1.withCode? code = some condition →
        (call.apply ask now).1.withCode? code = some condition := by
  -- A refused call changes nothing at all.
  have hrefused (hsame : call.apply ask now = now) :
      (call.apply ask now).1.state = now.1.state ∧ (call.apply ask now).2 = now.2 ∧
        ∀ code condition, now.1.withCode? code = some condition →
          (call.apply ask now).1.withCode? code = some condition := by
    rw [hsame]
    exact ⟨rfl, rfl, fun _ _ hfound => hfound⟩
  cases call with
  | register condition =>
      cases haccepted : now.1.register condition with
      | error fault => exact hrefused (by simp only [apply, haccepted, orSame])
      | ok next =>
          have hnext : (Call.register condition).apply ask now = (next, now.2) := by
            simp only [apply, haccepted, orSame]
          obtain ⟨-, -, -, rfl⟩ := register_cases haccepted
          rw [hnext]
          refine ⟨rfl, rfl, ?_⟩
          intro code found hfound
          unfold withCode? at hfound ⊢
          rw [List.find?_append, hfound, Option.some_or]
  | arm mode delay =>
      cases haccepted : now.1.arm mode delay with
      | error fault => exact hrefused (by simp only [apply, haccepted, orSame])
      | ok next => exact absurd ⟨next, haccepted⟩ hquiet
  | armFor tag parameter =>
      cases haccepted : now.1.armFor tag parameter with
      | error fault => exact hrefused (by simp only [apply, haccepted, orSame])
      | ok next => exact absurd ⟨next, haccepted⟩ hquiet
  | satisfy tag =>
      rcases satisfy_cases now.1 tag with hended | hkept
      · exact absurd (by simp only [Renews, hended]) hquiet
      · exact hrefused (by simp only [apply, hkept])
  | clear => exact absurd trivial hquiet
  | poll => cases hpoll

/-! ## At most one report -/

variable (ask) in
/-- A call that leaves the wait to itself uses up the chance of a failure when it reports
one, and never gives a new chance. -/
theorem Call.apply_isLive {call : Call π} {now : WaitScheduler π × ω}
    (hquiet : ¬ call.Renews now.1) :
    (call.poll? ask now).toList.countP Poll.isFailed +
        (call.apply ask now).1.state.isLive.toNat ≤ now.1.state.isLive.toNat := by
  cases hpoll : call.poll? ask now with
  | none =>
      rw [(call.apply_of_quiet hquiet hpoll).1]
      simp
  | some found =>
      cases call with
      | poll =>
          obtain rfl : (now.1.poll ask now.2).1 = found := Option.some.inj hpoll
          simp only [apply]
          have hpolled := poll_polled ask now.2 now.1
          generalize now.1.poll ask now.2 = result at hpolled ⊢
          cases hpolled with
          | running hstate | unwatched hstate | muted hstate =>
              simp [Poll.isFailed]
          | elapsed | counting | met =>
              simp [Poll.isFailed, WaitState.isLive]
          | pending hstate | failed hstate =>
              simp [Poll.isFailed, List.countP_cons, WaitState.isLive, hstate]
      | _ => cases hpoll

theorem countP_failed_le (calls : List (Call π)) :
    ∀ now : WaitScheduler π × ω, Undisturbed ask now calls →
      (polls ask now calls).countP Poll.isFailed ≤ now.1.state.isLive.toNat := by
  induction calls with
  | nil =>
      intro now _
      exact Nat.zero_le _
  | cons call rest ih =>
      intro now hquiet
      have hfirst := Call.apply_isLive ask hquiet.1
      have hrest := ih _ hquiet.2
      simp only [polls, List.countP_append]
      omega

/-! ## After a failure -/

/-- The wait is muted: the predicate of its condition has failed. -/
def Muted (s : WaitScheduler π) : Prop :=
  ∃ code tag remaining initial condition predicate,
    s.state = .condition code tag remaining initial true ∧
    s.withCode? code = some condition ∧ condition.predicate = some predicate

/-- A poll that reports a failure leaves the wait muted. -/
theorem muted_of_failed {s : WaitScheduler π} {world : ω}
    (hfailed : (s.poll ask world).1.isFailed = true) : (s.poll ask world).2.1.Muted := by
  have hpolled := poll_polled ask world s
  generalize s.poll ask world = result at hpolled hfailed ⊢
  cases hpolled with
  | failed hstate hcondition hpredicate =>
      exact ⟨_, _, _, _, _, _, rfl, hcondition, hpredicate⟩
  | _ => cases hfailed

theorem Muted.poll {s : WaitScheduler π} (hmuted : s.Muted) (world : ω) :
    s.poll ask world = (.muted, s, world) := by
  obtain ⟨code, tag, remaining, initial, condition, predicate, hstate, hcondition,
    hpredicate⟩ := hmuted
  exact poll_muted ask world hstate hcondition hpredicate

variable (ask) in
/-- A muted wait that is left to itself stays as it is and muted, whatever predicates
would answer. -/
theorem Call.apply_of_muted {call : Call π} {now : WaitScheduler π × ω}
    (hmuted : now.1.Muted) (hquiet : ¬ call.Renews now.1)
    (asked : π → WaitState → ω → Verdict × ω) :
    call.apply asked now = call.apply ask now ∧ call.poll? asked now = call.poll? ask now ∧
      (∀ found ∈ call.poll? ask now, found = .muted) ∧
      (call.apply ask now).1.state = now.1.state ∧ (call.apply ask now).2 = now.2 ∧
      (call.apply ask now).1.Muted := by
  cases hpoll : call.poll? ask now with
  | none =>
      obtain ⟨hstate, hworld, hkept⟩ := call.apply_of_quiet hquiet hpoll
      have hnext : (call.apply ask now).1.Muted := by
        obtain ⟨code, tag, remaining, initial, condition, predicate, hnow, hcondition,
          hpredicate⟩ := hmuted
        exact ⟨code, tag, remaining, initial, condition, predicate, hstate.trans hnow,
          hkept code condition hcondition, hpredicate⟩
      -- Only a poll depends on what predicates answer.
      cases call with
      | poll => cases hpoll
      | _ => exact ⟨rfl, rfl, by simp, hstate, hworld, hnext⟩
  | some found =>
      cases call with
      | poll =>
          have hkept (asked : π → WaitState → ω → Verdict × ω) :
              Call.poll.apply asked now = now := by
            simp only [apply, hmuted.poll]
          have hfound (asked : π → WaitState → ω → Verdict × ω) :
              Call.poll.poll? asked now = some .muted := by
            simp only [poll?, hmuted.poll]
          obtain rfl : Poll.muted = found := Option.some.inj ((hfound ask).symm.trans hpoll)
          rw [hkept, hkept, hfound]
          exact ⟨rfl, rfl, by simp, rfl, rfl, hmuted⟩
      | _ => cases hpoll

/-- As long as a muted wait is left to itself, every poll finds it muted, nothing
changes, and no predicate is asked. -/
theorem muted_along (calls : List (Call π)) :
    ∀ now : WaitScheduler π × ω, now.1.Muted → Undisturbed ask now calls →
      ∀ asked : π → WaitState → ω → Verdict × ω,
        polls asked now calls = polls ask now calls ∧
        (∀ found ∈ polls ask now calls, found = .muted) ∧
        (after asked now calls).1.state = now.1.state ∧
        (after asked now calls).2 = now.2 := by
  induction calls with
  | nil =>
      intro now _ _ asked
      exact ⟨rfl, by simp [polls], rfl, rfl⟩
  | cons call rest ih =>
      intro now hmuted hquiet asked
      obtain ⟨happly, hpoll, hfound, hstate, hworld, hnext⟩ :=
        Call.apply_of_muted ask hmuted hquiet.1 asked
      obtain ⟨hpolls, hfoundRest, hstateRest, hworldRest⟩ := ih _ hnext hquiet.2 asked
      refine ⟨?_, ?_, ?_, ?_⟩
      · simp only [polls, happly, hpoll, hpolls]
      · intro found hmember
        rcases List.mem_append.mp hmember with hfirst | hlater
        · exact hfound found (by simpa using hfirst)
        · exact hfoundRest found hlater
      · rw [← hstate, ← hstateRest, ← happly]
        rfl
      · rw [← hworld, ← hworldRest, ← happly]
        rfl

/-! ## The wait stands -/

variable (ask) in
theorem Call.apply_stands {call : Call π} {now : WaitScheduler π × ω}
    (hquiet : ¬ call.Renews now.1) :
    (call.apply ask now).1.state = .running ∨
      (call.apply ask now).1.state.SameWait now.1.state := by
  cases hpoll : call.poll? ask now with
  | none =>
      right
      rw [(call.apply_of_quiet hquiet hpoll).1]
      exact .refl _
  | some found =>
      cases call with
      | poll =>
          simp only [apply]
          have hpolled := poll_polled ask now.2 now.1
          generalize now.1.poll ask now.2 = result at hpolled ⊢
          cases hpolled with
          | running | unwatched | muted => exact Or.inr (.refl _)
          | elapsed | met => exact Or.inl rfl
          | counting hstate | pending hstate | failed hstate =>
              right
              rw [hstate]
              exact ⟨rfl, rfl, rfl⟩
      | _ => cases hpoll

/-- A wait that is left to itself has ended or is the wait that was armed. -/
theorem after_stands (calls : List (Call π)) :
    ∀ now : WaitScheduler π × ω, Undisturbed ask now calls →
      (after ask now calls).1.state = .running ∨
        (after ask now calls).1.state.SameWait now.1.state := by
  induction calls with
  | nil =>
      intro now _
      exact Or.inr (.refl _)
  | cons call rest ih =>
      intro now hquiet
      rcases ih _ hquiet.2 with hended | hsame
      · exact Or.inl hended
      · rcases Call.apply_stands ask hquiet.1 with hfirst | hfirst
        · rw [hfirst] at hsame
          exact Or.inl hsame.eq_running
        · exact Or.inr (hsame.trans hfirst)

/-! ## Arming anew -/

/-- The scheduler `next` comes from `s` by arming a wait, by its code or by its tag. -/
def Arms (s next : WaitScheduler π) : Prop :=
  (∃ mode delay, s.arm mode delay = .ok next) ∨
    ∃ tag parameter, s.armFor tag parameter = .ok next

/-- A condition that has just been armed has not failed, whatever was waited for before. -/
theorem Arms.state_eq {s next : WaitScheduler π} (harms : s.Arms next)
    (hcondition : next.state.tag?.isSome = true) :
    ∃ code tag delay, next.state = .condition code tag delay delay false := by
  have harm : ∃ mode delay, s.arm mode delay = .ok next := by
    rcases harms with harm | ⟨tag, parameter, harmFor⟩
    · exact harm
    · obtain ⟨code, -, harm⟩ := arm_of_armFor harmFor
      exact ⟨code, parameter, harm⟩
  obtain ⟨mode, delay, harm⟩ := harm
  obtain ⟨-, -, ⟨-, hstate⟩ | ⟨-, hstate⟩ | ⟨-, -, condition, -, hstate⟩⟩ := arm_cases harm
  · simp [hstate, WaitState.tag?] at hcondition
  · simp [hstate, WaitState.tag?] at hcondition
  · exact ⟨mode, condition.tag, delay, hstate⟩

/-- The predicate of a condition that has just been armed is asked by the next poll, and
its verdict decides. -/
theorem Arms.poll {s next : WaitScheduler π} (harms : s.Arms next)
    (hcondition : next.state.tag?.isSome = true) {predicate : π}
    (hpredicate : next.predicate? next.state.mode = some predicate) (world : ω) :
    ((next.poll ask world).1.isRunning = true ↔
        (ask predicate next.state world).1.holds = .ok true) ∧
      ((next.poll ask world).1.isFailed = true ↔
        ∃ failure, (ask predicate next.state world).1.holds = .error failure) ∧
      (next.poll ask world).2.2 = (ask predicate next.state world).2 := by
  obtain ⟨code, tag, delay, hstate⟩ := harms.state_eq hcondition
  have hcode : next.predicate? code = some predicate := by
    rw [← hpredicate, hstate]
    rfl
  obtain ⟨found, hfound, hasked⟩ := Option.bind_eq_some_iff.mp hcode
  rw [poll_asked ask world hstate hfound hasked]
  cases hverdict : (ask predicate next.state world).1.holds with
  | error failure => simp [hverdict, Poll.isRunning, Poll.isFailed]
  | ok holds => cases holds <;> simp [hverdict, Poll.isRunning, Poll.isFailed]

end WaitScheduler
end DevConsole
