import DevConsole.Proofs.Wait.Transitions
import Mathlib.Data.List.Nodup

/-!
# Coherence of the scheduler

A `Call` is one call on a scheduler, accepted or refused.  Two invariants hold after
any run of calls on an empty scheduler (`after_coherent`):

* the conditions have codes from `2` up, no two of them share a code, and no two share a
  tag up to case, so codes and folded tags name the same conditions;
* the wait fits the conditions (`Admits`): a countdown lies between zero and what it was
  armed with, and a condition that is waited for is registered, under the tag that the
  wait shows, and has failed only if it has a predicate.

The first is kept because `register` checks both names.  The second is kept because
conditions are never taken away, a poll keeps the condition that is waited for, and only
a predicate that was asked can fail.
-/

namespace DevConsole
namespace WaitScheduler

open Text (fold)

variable {π ω : Type}

/-! ## Calls and runs -/

/-- One call on a scheduler. -/
inductive Call (π : Type) where
  | register (condition : WaitCondition π)
  | arm (mode delay : Int)
  | armFor (tag : String) (parameter : Int)
  | satisfy (tag : String)
  | clear
  | poll

/-- The scheduler after a call that may be refused. -/
def orSame (s : WaitScheduler π) : Except WaitFault (WaitScheduler π) → WaitScheduler π
  | .ok next => next
  | .error _ => s

/-- The scheduler and the world after one call. -/
def Call.apply (ask : π → WaitState → ω → Verdict × ω) (now : WaitScheduler π × ω) :
    Call π → WaitScheduler π × ω
  | register condition => (now.1.orSame (now.1.register condition), now.2)
  | arm mode delay => (now.1.orSame (now.1.arm mode delay), now.2)
  | armFor tag parameter => (now.1.orSame (now.1.armFor tag parameter), now.2)
  | satisfy tag => ((now.1.satisfy tag).2, now.2)
  | clear => (now.1.clear, now.2)
  | poll => (now.1.poll ask now.2).2

/-- The scheduler and the world after a run of calls. -/
def after (ask : π → WaitState → ω → Verdict × ω) (now : WaitScheduler π × ω)
    (calls : List (Call π)) : WaitScheduler π × ω :=
  calls.foldl (fun now call => call.apply ask now) now

/-! ## The conditions -/

/-- In a list without repeated keys a key finds the one item that has it. -/
theorem find?_key_eq_some_iff {α β : Type} [BEq β] [LawfulBEq β] (key : α → β)
    {items : List α} (hnodup : (items.map key).Nodup) {k : β} {item : α} :
    items.find? (fun other => key other == k) = some item ↔ item ∈ items ∧ key item = k := by
  constructor
  · intro hfound
    exact ⟨List.mem_of_find?_eq_some hfound, by simpa using List.find?_some hfound⟩
  · rintro ⟨hitem, rfl⟩
    cases hfound : items.find? (fun other => key other == key item) with
    | none => exact absurd (List.find?_eq_none.mp hfound item hitem) (by simp)
    | some other =>
        have hother : key other = key item := by simpa using List.find?_some hfound
        rw [List.inj_on_of_nodup_map hnodup (List.mem_of_find?_eq_some hfound) hitem hother]

/-- The conditions have codes from `2` up, and each of their two names is one condition's
only. -/
structure WellNamed (conditions : List (WaitCondition π)) : Prop where
  two_le : ∀ condition ∈ conditions, 2 ≤ condition.code
  codes : (conditions.map (·.code)).Nodup
  tags : (conditions.map fun condition => fold condition.tag).Nodup

section WellNamed

variable {s : WaitScheduler π} (hnamed : WellNamed s.conditions)
include hnamed

theorem withCode?_eq_some_iff {code : Int} {condition : WaitCondition π} :
    s.withCode? code = some condition ↔
      condition ∈ s.conditions ∧ condition.code = code :=
  find?_key_eq_some_iff WaitCondition.code hnamed.codes

theorem withTag?_eq_some_iff {tag : String} {condition : WaitCondition π} :
    s.withTag? tag = some condition ↔
      condition ∈ s.conditions ∧ fold condition.tag = fold tag :=
  find?_key_eq_some_iff (fun condition : WaitCondition π => fold condition.tag) hnamed.tags

/-- A tag stands for the code of the condition that has the tag. -/
theorem codeOf_eq_ok_iff {tag : String} {code : Int} :
    s.codeOf tag = .ok code ↔
      ∃ condition ∈ s.conditions, fold condition.tag = fold tag ∧ condition.code = code := by
  unfold codeOf
  constructor
  · intro hcode
    split at hcode
    · next condition hcondition =>
        obtain ⟨hmember, htag⟩ := (withTag?_eq_some_iff hnamed).mp hcondition
        exact ⟨condition, hmember, htag, Except.ok.inj hcode⟩
    · cases hcode
  · rintro ⟨condition, hmember, htag, rfl⟩
    rw [(withTag?_eq_some_iff hnamed).mpr ⟨hmember, htag⟩]

/-- A new condition is well named among the others. -/
theorem register_wellNamed {next : WaitScheduler π} {condition : WaitCondition π}
    (haccepted : s.register condition = .ok next) : WellNamed next.conditions := by
  obtain ⟨hcode, hnoCode, hnoTag, rfl⟩ := register_cases haccepted
  have hnewCode : condition.code ∉ s.conditions.map (·.code) := by
    rw [List.mem_map]
    rintro ⟨other, hother, hsame⟩
    exact absurd hsame (by simpa using List.find?_eq_none.mp hnoCode other hother)
  have hnewTag :
      fold condition.tag ∉ s.conditions.map fun condition => fold condition.tag := by
    rw [List.mem_map]
    rintro ⟨other, hother, hsame⟩
    exact absurd hsame (by simpa using List.find?_eq_none.mp hnoTag other hother)
  refine ⟨?_, ?_, ?_⟩
  · intro other hother
    rcases List.mem_append.mp hother with hold | hnew
    · exact hnamed.two_le other hold
    · rw [List.mem_singleton.mp hnew]
      exact hcode
  · rw [List.map_append, List.map_singleton]
    exact List.nodup_append_comm.mp (List.nodup_cons.mpr ⟨hnewCode, hnamed.codes⟩)
  · rw [List.map_append, List.map_singleton]
    exact List.nodup_append_comm.mp (List.nodup_cons.mpr ⟨hnewTag, hnamed.tags⟩)

end WellNamed

/-! ## The wait -/

/-- The wait fits the conditions. -/
def Admits (s : WaitScheduler π) : WaitState → Prop
  | .running => True
  | .ticks remaining initial => remaining ≤ initial
  | .condition code tag _ _ faulted =>
    ∃ condition, s.withCode? code = some condition ∧ condition.tag = tag ∧
      (faulted = true → condition.predicate.isSome = true)

/-- What fits some conditions still fits when there are more. -/
theorem Admits.of_register {s next : WaitScheduler π} {condition : WaitCondition π}
    {state : WaitState} (hfits : s.Admits state)
    (haccepted : s.register condition = .ok next) : next.Admits state := by
  obtain ⟨-, -, -, rfl⟩ := register_cases haccepted
  cases state with
  | running => trivial
  | ticks remaining initial => exact hfits
  | condition code tag remaining initial faulted =>
      obtain ⟨found, hfound, htag, hfaulted⟩ := hfits
      refine ⟨found, ?_, htag, hfaulted⟩
      unfold withCode? at hfound ⊢
      rw [List.find?_append, hfound, Option.some_or]

/-- The conditions are well named, and the wait fits them. -/
structure Coherent (s : WaitScheduler π) : Prop where
  named : WellNamed s.conditions
  fits : s.Admits s.state

theorem empty_coherent : (empty : WaitScheduler π).Coherent :=
  ⟨⟨by simp [empty], by simp [empty], by simp [empty]⟩, trivial⟩

namespace Coherent

variable {s next : WaitScheduler π} (hs : s.Coherent)
include hs

theorem clear : s.clear.Coherent :=
  ⟨hs.named, trivial⟩

theorem register {condition : WaitCondition π} (haccepted : s.register condition = .ok next) :
    next.Coherent := by
  refine ⟨register_wellNamed hs.named haccepted, ?_⟩
  rw [register_state haccepted]
  exact hs.fits.of_register haccepted

theorem arm {mode delay : Int} (haccepted : s.arm mode delay = .ok next) :
    next.Coherent := by
  obtain ⟨-, hconditions, hstate⟩ := arm_cases haccepted
  refine ⟨hconditions ▸ hs.named, ?_⟩
  rcases hstate with ⟨-, hstate⟩ | ⟨-, hstate⟩ | ⟨-, -, condition, hfound, hstate⟩
  · rw [hstate]
    trivial
  · rw [hstate]
    exact Nat.le_refl _
  · rw [hstate]
    refine ⟨condition, ?_, rfl, by simp⟩
    unfold withCode? at hfound ⊢
    rw [hconditions, hfound]

theorem armFor {tag : String} {parameter : Int}
    (haccepted : s.armFor tag parameter = .ok next) : next.Coherent := by
  obtain ⟨code, -, harm⟩ := arm_of_armFor haccepted
  exact hs.arm harm

theorem satisfy (tag : String) : (s.satisfy tag).2.Coherent := by
  rcases satisfy_cases s tag with h | h
  · rw [h]
    exact hs.clear
  · rw [h]
    exact hs

/-- A poll may note anything about the parameter of a condition, and that the condition
has failed if it has a predicate. -/
theorem note {code : Int} {tag : String} {before initial : Int} {condition : WaitCondition π}
    (hstate : s.state = .condition code tag before initial false)
    (hcondition : s.withCode? code = some condition) (after : Int) {failed : Bool}
    (hfailed : failed = true → condition.predicate.isSome = true) :
    ({ s with state := .condition code tag after initial failed } :
      WaitScheduler π).Coherent := by
  have hfits : s.Admits (.condition code tag before initial false) := hstate ▸ hs.fits
  obtain ⟨found, hfound, htag, -⟩ := hfits
  obtain rfl : found = condition := Option.some.inj (hfound.symm.trans hcondition)
  exact ⟨hs.named, found, hfound, htag, hfailed⟩

theorem poll (ask : π → WaitState → ω → Verdict × ω) (world : ω) :
    (s.poll ask world).2.1.Coherent := by
  have hpolled := poll_polled ask world s
  generalize s.poll ask world = result at hpolled ⊢
  cases hpolled with
  | running | unwatched | muted => exact hs
  | elapsed | met => exact hs.clear
  | @counting left initial hstate =>
      have hfits : s.Admits (.ticks (left + 1) initial) := hstate ▸ hs.fits
      exact ⟨hs.named, Nat.le_of_succ_le hfits⟩
  | pending hstate hcondition => exact hs.note hstate hcondition _ (by simp)
  | failed hstate hcondition hpredicate =>
      -- Only a predicate that was asked can have failed.
      exact hs.note hstate hcondition _ (by simp [hpredicate])

theorem orSame {result : Except WaitFault (WaitScheduler π)}
    (haccepted : ∀ next, result = .ok next → next.Coherent) : (s.orSame result).Coherent := by
  cases result with
  | ok next => exact haccepted next rfl
  | error fault => exact hs

/-- Every call keeps a scheduler coherent. -/
theorem apply (ask : π → WaitState → ω → Verdict × ω) (world : ω) (call : Call π) :
    (call.apply ask (s, world)).1.Coherent := by
  cases call with
  | register condition => exact hs.orSame fun _ haccepted => hs.register haccepted
  | arm mode delay => exact hs.orSame fun _ haccepted => hs.arm haccepted
  | armFor tag parameter => exact hs.orSame fun _ haccepted => hs.armFor haccepted
  | satisfy tag => exact hs.satisfy tag
  | clear => exact hs.clear
  | poll => exact hs.poll ask world

end Coherent

theorem after_coherent (ask : π → WaitState → ω → Verdict × ω) (calls : List (Call π)) :
    ∀ now : WaitScheduler π × ω, now.1.Coherent → (after ask now calls).1.Coherent := by
  induction calls with
  | nil => exact fun _ hnow => hnow
  | cons call rest ih => exact fun now hnow => ih _ (hnow.apply ask now.2 call)

/-! ## What coherence says of the parts of the wait -/

namespace Coherent

variable {s : WaitScheduler π} (hs : s.Coherent)
include hs

/-- A condition that is waited for has a code of its own. -/
theorem two_le_of_condition {code : Int} {tag : String} {remaining initial : Int}
    {faulted : Bool} (hstate : s.state = .condition code tag remaining initial faulted) :
    2 ≤ code := by
  have hfits : s.Admits (.condition code tag remaining initial faulted) := hstate ▸ hs.fits
  obtain ⟨condition, hfound, -⟩ := hfits
  obtain ⟨hmember, rfl⟩ := (withCode?_eq_some_iff hs.named).mp hfound
  exact hs.named.two_le condition hmember

theorem of_mode_zero (hmode : s.state.mode = 0) : s.state = .running := by
  cases hstate : s.state with
  | running => rfl
  | ticks remaining initial => simp [hstate, WaitState.mode] at hmode
  | condition code tag remaining initial faulted =>
      have htwo := hs.two_le_of_condition hstate
      simp only [hstate, WaitState.mode] at hmode
      omega

theorem of_mode_one (hmode : s.state.mode = 1) :
    ∃ remaining initial, s.state = .ticks remaining initial ∧ remaining ≤ initial := by
  cases hstate : s.state with
  | running => simp [hstate, WaitState.mode] at hmode
  | ticks remaining initial =>
      have hfits : s.Admits (.ticks remaining initial) := hstate ▸ hs.fits
      exact ⟨remaining, initial, rfl, hfits⟩
  | condition code tag remaining initial faulted =>
      have htwo := hs.two_le_of_condition hstate
      simp only [hstate, WaitState.mode] at hmode
      omega

theorem of_mode_other (hzero : s.state.mode ≠ 0) (hone : s.state.mode ≠ 1) :
    2 ≤ s.state.mode ∧ ∃ condition, s.withCode? s.state.mode = some condition ∧
      s.state.tag? = some condition.tag ∧
      (s.state.isFaulted = true → condition.predicate.isSome = true) := by
  cases hstate : s.state with
  | running => exact absurd (by simp [hstate, WaitState.mode]) hzero
  | ticks remaining initial => exact absurd (by simp [hstate, WaitState.mode]) hone
  | condition code tag remaining initial faulted =>
      have hfits : s.Admits (.condition code tag remaining initial faulted) := hstate ▸ hs.fits
      obtain ⟨condition, hfound, htag, hfaulted⟩ := hfits
      exact ⟨hs.two_le_of_condition hstate, condition, hfound, by rw [← htag]; rfl, hfaulted⟩

/-- A condition that is waited for without being asked is registered without a
predicate: it is never missing. -/
theorem of_unwatched {ask : π → WaitState → ω → Verdict × ω} {world : ω}
    (hunwatched : (s.poll ask world).1 = .unwatched) :
    ∃ condition, s.withCode? s.state.mode = some condition ∧ condition.predicate = none := by
  have hpolled := poll_polled ask world s
  generalize s.poll ask world = result at hpolled hunwatched
  cases hpolled with
  | @unwatched code tag remaining initial faulted hstate hpredicate =>
      have hfits : s.Admits (.condition code tag remaining initial faulted) := hstate ▸ hs.fits
      obtain ⟨condition, hfound, -⟩ := hfits
      refine ⟨condition, by rw [hstate]; exact hfound, ?_⟩
      rw [← predicate?_of_withCode? hfound, hpredicate]
  | _ => cases hunwatched

end Coherent

/-- **Coherence.**  After any run of calls on an empty scheduler, whatever predicates do:
the mode tells which parts of the wait are in use and what they may hold; codes and folded
tags name the same conditions, each exactly one, with codes from `2` up; and a poll that
asks no predicate and counts no tick waits for a registered condition without one. -/
theorem scheduler_coherent (ask : π → WaitState → ω → Verdict × ω) (world : ω)
    (calls : List (Call π)) :
    let s := (after ask (empty, world) calls).1
    (s.state.mode = 0 → s.state.remaining = 0 ∧ s.state.initial = 0 ∧
      s.state.tag? = none ∧ s.state.isFaulted = false) ∧
    (s.state.mode = 1 → s.state.tag? = none ∧ s.state.isFaulted = false ∧
      0 ≤ s.state.remaining ∧ s.state.remaining ≤ s.state.initial) ∧
    (s.state.mode ≠ 0 → s.state.mode ≠ 1 → 2 ≤ s.state.mode ∧
      ∃ condition, s.withCode? s.state.mode = some condition ∧
        s.state.tag? = some condition.tag ∧
        (s.state.isFaulted = true → condition.predicate.isSome = true)) ∧
    (∀ code condition, s.withCode? code = some condition →
      2 ≤ code ∧ condition.code = code ∧ s.codeOf condition.tag = .ok code) ∧
    (∀ tag code, s.codeOf tag = .ok code →
      ∃ condition, s.withCode? code = some condition ∧ fold condition.tag = fold tag) ∧
    (∀ condition ∈ s.conditions, s.withCode? condition.code = some condition) ∧
    (∀ (asked : π → WaitState → ω → Verdict × ω) (later : ω),
      (s.poll asked later).1 = .unwatched →
      ∃ condition, s.withCode? s.state.mode = some condition ∧
        condition.predicate = none) := by
  intro s
  have hs : s.Coherent := after_coherent ask calls _ empty_coherent
  refine ⟨?_, ?_, hs.of_mode_other, ?_, ?_, ?_, fun _ _ => hs.of_unwatched⟩
  · intro hmode
    rw [hs.of_mode_zero hmode]
    exact ⟨rfl, rfl, rfl, rfl⟩
  · intro hmode
    obtain ⟨remaining, initial, hstate, hle⟩ := hs.of_mode_one hmode
    rw [hstate]
    exact ⟨rfl, rfl, Int.natCast_nonneg _, Int.ofNat_le.mpr hle⟩
  · intro code condition hfound
    obtain ⟨hmember, rfl⟩ := (withCode?_eq_some_iff hs.named).mp hfound
    exact ⟨hs.named.two_le condition hmember, rfl,
      (codeOf_eq_ok_iff hs.named).mpr ⟨condition, hmember, rfl, rfl⟩⟩
  · intro tag code hcode
    obtain ⟨condition, hmember, htag, rfl⟩ := (codeOf_eq_ok_iff hs.named).mp hcode
    exact ⟨condition, (withCode?_eq_some_iff hs.named).mpr ⟨hmember, rfl⟩, htag⟩
  · intro condition hmember
    exact (withCode?_eq_some_iff hs.named).mpr ⟨hmember, rfl⟩

/-- A predicate that uses up one of its parameter and fails. -/
def failsAtOnce (_ : Unit) (state : WaitState) (world : Unit) : Verdict × Unit :=
  (⟨.error (.raised "RuntimeError" [.text "lost"]), state.remaining - 1⟩, world)

/-- A run after which a condition is waited for and has failed, and another after which
ticks are counted. -/
theorem scheduler_coherent_failed_and_counting :
    (let calls : List (Call Unit) := [.register ⟨7, "Ready", some ()⟩,
        .register ⟨8, "READY", none⟩, .armFor "ready" 5, .poll, .poll, .arm 9 0]
      let s := (after failsAtOnce (empty, ()) calls).1
      s.state = .condition 7 "Ready" 4 5 true ∧ 2 ≤ s.state.mode ∧
        ∃ condition, s.withCode? s.state.mode = some condition ∧
          s.state.tag? = some condition.tag ∧ condition.predicate.isSome = true) ∧
    (let calls : List (Call Unit) := [.arm 1 3, .poll, .arm 1 (-1)]
      let s := (after failsAtOnce (empty, ()) calls).1
      s.state = .ticks 2 3 ∧ 0 ≤ s.state.remaining ∧
        s.state.remaining ≤ s.state.initial) := by
  constructor
  · intro calls s
    have hstate : s.state = .condition 7 "Ready" 4 5 true := by decide +kernel
    obtain ⟨-, -, hcondition, -⟩ := scheduler_coherent failsAtOnce () calls
    obtain ⟨htwo, condition, hfound, htag, hfaulted⟩ :=
      hcondition (by decide +kernel) (by decide +kernel)
    exact ⟨hstate, htwo, condition, hfound, htag, hfaulted (by decide +kernel)⟩
  · intro calls s
    have hstate : s.state = .ticks 2 3 := by decide +kernel
    obtain ⟨-, hticks, -⟩ := scheduler_coherent failsAtOnce () calls
    obtain ⟨-, -, hlower, hupper⟩ := hticks (by decide +kernel)
    exact ⟨hstate, hlower, hupper⟩

end WaitScheduler
end DevConsole
