import DevConsole.Proofs.Wait.Muting

/-!
# Which tag ends a wait

A script arms a wait for a condition by a tag, which is looked up among the conditions.  The host
ends it by a tag, which is compared with the tag that the wait shows.  Both go by the folded form
of tags.  In a coherent scheduler the condition that is waited for is registered under the tag
that the wait shows, and no two conditions share a folded tag, so the two agree: a tag ends the
wait exactly if it stands for the code of the condition that is waited for
(`WaitScheduler.Coherent.satisfy_fst_iff`).

A wait that is left to itself keeps its tag (`WaitScheduler.after_stands`).  So as long as it
lasts it is ended by the tag that it was armed with, in any case, and by no other.
-/

namespace DevConsole
namespace WaitScheduler

open Text (fold)

variable {π ω : Type} {s armed : WaitScheduler π} {tag name : String}

/-! ## What ends a wait -/

theorem satisfy_of_current {current : String} (hcurrent : s.state.tag? = some current)
    (hsame : fold current = fold tag) : s.satisfy tag = (true, s.clear) := by
  unfold satisfy
  simp [hcurrent, hsame]

/-- A tag ends the wait if it is that of the condition that is waited for, up to case. -/
theorem satisfy_fst_iff_tag :
    (s.satisfy tag).1 = true ↔ ∃ current, s.state.tag? = some current ∧ fold current = fold tag := by
  constructor
  · intro hended
    by_contra hnone
    rw [satisfy_of_other fun current hcurrent hsame => hnone ⟨current, hcurrent, hsame⟩] at hended
    cases hended
  · rintro ⟨current, hcurrent, hsame⟩
    rw [satisfy_of_current hcurrent hsame]

theorem satisfy_snd (s : WaitScheduler π) (tag : String) :
    (s.satisfy tag).2 = if (s.satisfy tag).1 then s.clear else s := by
  rcases satisfy_cases s tag with hended | hkept
  · rw [hended, if_pos rfl]
  · rw [hkept, if_neg Bool.false_ne_true]

namespace Coherent

variable (hs : s.Coherent)
include hs

theorem two_le_of_codeOf {code : Int} (hcode : s.codeOf tag = .ok code) : 2 ≤ code := by
  obtain ⟨condition, hmember, -, rfl⟩ := (codeOf_eq_ok_iff hs.named).mp hcode
  exact hs.named.two_le condition hmember

/-- The tags of the condition that is waited for are those that stand for its code. -/
theorem codeOf_mode_iff :
    s.codeOf tag = .ok s.state.mode ↔
      ∃ current, s.state.tag? = some current ∧ fold current = fold tag := by
  cases hstate : s.state with
  | running =>
      refine iff_of_false (fun hcode => ?_) (by simp [WaitState.tag?])
      exact absurd (hs.two_le_of_codeOf hcode) (by simp [WaitState.mode])
  | ticks remaining initial =>
      refine iff_of_false (fun hcode => ?_) (by simp [WaitState.tag?])
      exact absurd (hs.two_le_of_codeOf hcode) (by simp [WaitState.mode])
  | condition code current remaining initial faulted =>
      have hfits : s.Admits (.condition code current remaining initial faulted) :=
        hstate ▸ hs.fits
      obtain ⟨waited, hwaited, rfl, -⟩ := hfits
      obtain ⟨hmember, hcode⟩ := (withCode?_eq_some_iff hs.named).mp hwaited
      rw [codeOf_eq_ok_iff hs.named]
      constructor
      · rintro ⟨condition, hcondition, hsame, hmode⟩
        -- There is one condition with this code.
        obtain rfl : condition = waited := Option.some.inj
          (((withCode?_eq_some_iff hs.named).mpr ⟨hcondition, hmode⟩).symm.trans hwaited)
        exact ⟨condition.tag, rfl, hsame⟩
      · rintro ⟨current, hcurrent, hsame⟩
        obtain rfl : waited.tag = current := Option.some.inj hcurrent
        exact ⟨waited, hmember, hsame, hcode⟩

theorem satisfy_fst_iff : (s.satisfy tag).1 = true ↔ s.codeOf tag = .ok s.state.mode :=
  satisfy_fst_iff_tag.trans hs.codeOf_mode_iff.symm

/-- The tag of a condition that is not waited for changes nothing. -/
theorem satisfy_of_other_condition {other : WaitCondition π} (hother : other ∈ s.conditions)
    (hcode : other.code ≠ s.state.mode) : s.satisfy other.tag = (false, s) := by
  have hnamed : s.codeOf other.tag = .ok other.code :=
    (codeOf_eq_ok_iff hs.named).mpr ⟨other, hother, rfl, rfl⟩
  rcases satisfy_cases s other.tag with hended | hkept
  · have hmode := hs.satisfy_fst_iff.mp (congrArg Prod.fst hended)
    exact absurd (Except.ok.inj (hnamed.symm.trans hmode)) hcode
  · exact hkept

/-- A wait that has been armed for a tag is a wait for the condition with this tag. -/
theorem tag?_of_armFor {parameter : Int} (haccepted : s.armFor name parameter = .ok armed) :
    ∃ current, armed.state.tag? = some current ∧ fold current = fold name := by
  obtain ⟨code, hcode, harm⟩ := arm_of_armFor haccepted
  have htwo := hs.two_le_of_codeOf hcode
  obtain ⟨-, hconditions, ⟨rfl, -⟩ | ⟨rfl, -⟩ | ⟨-, -, condition, -, hstate⟩⟩ := arm_cases harm
  · omega
  · omega
  · refine (hs.armFor haccepted).codeOf_mode_iff.mp ?_
    rw [hstate, codeOf_eq_ok_iff (hs.armFor haccepted).named, hconditions]
    exact (codeOf_eq_ok_iff hs.named).mp hcode

end Coherent

/-- As long as a wait for a tag is left to itself and lasts, the tags that end it are those that
are this tag up to case. -/
theorem satisfy_fst_iff_of_undisturbed {ask : π → WaitState → ω → Verdict × ω} {world : ω}
    {later : List (Call π)} {current : String} (hcurrent : armed.state.tag? = some current)
    (hquiet : Undisturbed ask (armed, world) later) :
    let waiting := (after ask (armed, world) later).1
    (waiting.satisfy tag).1 = true ↔ waiting.state ≠ .running ∧ fold tag = fold current := by
  intro waiting
  rw [satisfy_fst_iff_tag]
  rcases after_stands later (armed, world) hquiet with hended | hsame
  · have hrunning : waiting.state = .running := hended
    simp [hrunning, WaitState.tag?]
  · have htag : waiting.state.tag? = some current := hsame.2.1.trans hcurrent
    have hwaits : waiting.state ≠ .running := by
      intro hrunning
      rw [hrunning] at htag
      cases htag
    simp [htag, hwaits, eq_comm]

/-- **Host and script name conditions alike.**  After any run of calls on an empty scheduler,
whatever predicates do:

* A tag ends the wait exactly if it stands for the code that is the current mode.  Then there is
  no wait, and otherwise nothing changes.
* Once a wait has been armed for the condition called `name` and is left to itself, the tags that
  end it, as long as it lasts, are those that are `name` up to case.  The tag of another condition
  changes nothing. -/
theorem satisfied_by_name (ask : π → WaitState → ω → Verdict × ω) (world : ω)
    (calls : List (Call π)) :
    let s := (after ask (empty, world) calls).1
    (∀ tag, ((s.satisfy tag).1 = true ↔ s.codeOf tag = .ok s.state.mode) ∧
      (s.satisfy tag).2 = if (s.satisfy tag).1 then { s with state := .running } else s) ∧
    ∀ name parameter armed, s.armFor name parameter = .ok armed →
      armed.state ≠ .running ∧
      ∀ world later, Undisturbed ask (armed, world) later →
        let waiting := (after ask (armed, world) later).1
        (∀ tag, (waiting.satisfy tag).1 = true ↔
          waiting.state ≠ .running ∧ fold tag = fold name) ∧
        ∀ other ∈ waiting.conditions, other.code ≠ waiting.state.mode →
          waiting.satisfy other.tag = (false, waiting) := by
  intro s
  have hs : s.Coherent := after_coherent ask calls _ empty_coherent
  refine ⟨fun tag => ⟨hs.satisfy_fst_iff, satisfy_snd s tag⟩, ?_⟩
  intro name parameter armed haccepted
  obtain ⟨current, hcurrent, hname⟩ := hs.tag?_of_armFor haccepted
  refine ⟨?_, ?_⟩
  · intro hrunning
    rw [hrunning] at hcurrent
    cases hcurrent
  · intro world later hquiet waiting
    have hwaiting : waiting.Coherent := after_coherent ask later _ (hs.armFor haccepted)
    refine ⟨?_, fun _ => hwaiting.satisfy_of_other_condition⟩
    intro tag
    rw [← hname]
    exact satisfy_fst_iff_of_undisturbed hcurrent hquiet

/-- A wait that was armed in capitals and whose predicate has failed since.  The host ends it in
small letters; the tag of another condition, registered while it lasts, leaves it alone. -/
theorem satisfied_by_name_after_failure :
    let s := (after failsAtOnce (empty, ()) [.register ⟨7, "Straße", some ()⟩, .arm 1 2]).1
    let later : List (Call Unit) := [.poll, .register ⟨8, "late", none⟩, .arm 9 0, .poll]
    (s.satisfy "strasse").1 = false ∧
      ∃ armed, s.armFor "STRASSE" 5 = .ok armed ∧
        Undisturbed failsAtOnce (armed, ()) later ∧
        let waiting := (after failsAtOnce (armed, ()) later).1
        waiting.state = .condition 7 "Straße" 4 5 true ∧
          (waiting.satisfy "strasse").1 = true ∧ waiting.satisfy "late" = (false, waiting) := by
  intro s later
  obtain ⟨hends, harms⟩ := satisfied_by_name failsAtOnce ()
    [.register ⟨7, "Straße", some ()⟩, .arm 1 2]
  have hcode : s.codeOf "strasse" = .ok 7 := rfl
  have harmed : s.armFor "STRASSE" 5 =
      .ok { s with state := .condition 7 "Straße" 5 5 false } := rfl
  obtain ⟨-, hlasts⟩ := harms "STRASSE" 5 _ harmed
  have hquiet : Undisturbed failsAtOnce
      ({ s with state := .condition 7 "Straße" 5 5 false }, ()) later := by
    refine ⟨id, id, ?_, id, trivial⟩
    rintro ⟨next, haccepted⟩
    cases haccepted
  obtain ⟨hlast, hothers⟩ := hlasts () later hquiet
  refine ⟨?_, _, harmed, hquiet, ?_, ?_, ?_⟩
  · rw [Bool.eq_false_iff, Ne, (hends "strasse").1]
    intro hmode
    cases hcode.symm.trans hmode
  · decide +kernel
  · exact (hlast "strasse").mpr ⟨by decide +kernel, by decide +kernel⟩
  · exact hothers ⟨8, "late", none⟩ (.tail _ (.head _)) (by decide +kernel)

end WaitScheduler
end DevConsole
