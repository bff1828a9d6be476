import DevConsole.Proofs.Text.Fold
import Mathlib.Data.List.Basic

/-!
# Upper case is final

No character that an upper-case form consists of has another upper-case form
(`isFixed_of_mem_upper`), so a text that is in upper case stays as it is (`upper_upper`).
-/

namespace DevConsole.Text

/-! ## Runs that lead past each other -/

/-- Whether a run moves the code point `n`. -/
def CaseRun.moves (run : CaseRun) (n : Nat) : Bool :=
  Nat.ble run.first n && Nat.ble n run.last && (n - run.first) % run.step == 0

theorem CaseRun.image?_eq_none_iff {run : CaseRun} {n : Nat} :
    run.image? n = none ↔ run.moves n = false := by
  simp [image?, moves, and_assoc, Bool.eq_false_iff]

/-- Where a run moves the code point `n`. -/
def CaseRun.target (run : CaseRun) (n : Nat) : Nat :=
  (n + run.shift).toNat

/-- Nothing that `run` moves comes to lie on a code point that `other` moves: the image lies
below or above, or in the gaps of a run of every second code point. -/
def CaseRun.avoids (run other : CaseRun) : Bool :=
  Nat.blt (run.target run.last) other.first || Nat.blt other.last (run.target run.first) ||
    (other.step == 2 && (run.step == 2 || run.first == run.last) &&
      (run.target run.first + other.first) % 2 == 1)

theorem CaseRun.image?_eq_none_of_avoids {run other : CaseRun}
    (hforward : 0 < run.target run.first) (havoids : run.avoids other = true) {n image : Nat}
    (himage : run.image? n = some image) : other.image? image = none := by
  simp only [avoids, target, Nat.blt_eq, Bool.and_eq_true, Bool.or_eq_true, beq_iff_eq] at *
  unfold image? at himage ⊢
  split at himage
  · next hmoved =>
      obtain rfl := Option.some.inj himage
      obtain ⟨hfirst, hlast, hstep⟩ := hmoved
      refine if_neg ?_
      rintro ⟨hlow, hhigh, hother⟩
      -- In the last case both runs move every second code point, and the images are between
      -- those that the other run moves.
      rcases havoids with (hbelow | habove) | ⟨⟨htwo, hsparse⟩, hodd⟩
      · omega
      · omega
      · rw [htwo] at hother
        rcases hsparse with hpairs | hsingle
        · rw [hpairs] at hstep
          omega
        · omega
  · cases himage

/-! ## Characters that stay -/

/-- A mapping has no form of its own for a code point. -/
def CaseMap.isFixed (mapping : CaseMap) (n : Nat) : Bool :=
  (mapping.runs.all fun run => !run.moves n) && mapping.longer.all fun entry => entry.1 != n

theorem CaseMap.char_of_isFixed {mapping : CaseMap} {c : Char}
    (hfixed : mapping.isFixed c.toNat = true) : mapping.char c = [c] := by
  simp only [isFixed, Bool.and_eq_true, List.all_eq_true, Bool.not_eq_true',
    ← CaseRun.image?_eq_none_iff] at hfixed
  obtain ⟨hruns, hlonger⟩ := hfixed
  have hnone : mapping.longer.lookup c.toNat = none := by
    rw [List.lookup_eq_none_iff]
    intro entry hentry
    have hother := hlonger entry hentry
    rw [bne_iff_ne] at hother ⊢
    exact hother.symm
  unfold char
  rw [List.findSome?_eq_none_iff.mpr hruns, hnone]

/-- A code point that is none is replaced by zero. -/
theorem CaseMap.isFixed_ofNat {mapping : CaseMap} {n : Nat} (hzero : mapping.isFixed 0 = true)
    (hfixed : mapping.isFixed n = true) : mapping.isFixed (Char.ofNat n).toNat = true := by
  rcases toNat_ofNat_cases n with hsame | hnone
  · rw [hsame]
    exact hfixed
  · rw [hnone]
    exact hzero

/-! ## Upper-case forms -/

/-- The runs of upper-case letters lead past each other and past the characters with longer
forms. -/
theorem upperMap_runs : ∀ run ∈ upperMap.runs, 0 < run.target run.first ∧
    (∀ other ∈ upperMap.runs, run.avoids other = true) ∧
    ∀ entry ∈ upperMap.longer, entry.1 < run.target run.first ∨ run.target run.last < entry.1 := by
  have hall : (upperMap.runs.all fun run => Nat.blt 0 (run.target run.first) &&
      upperMap.runs.all run.avoids && upperMap.longer.all fun entry =>
        Nat.blt entry.1 (run.target run.first) || Nat.blt (run.target run.last) entry.1) =
      true := by decide +kernel
  simpa [and_assoc] using hall

theorem upperMap_longer : ∀ entry ∈ upperMap.longer, ∀ n ∈ entry.2,
    upperMap.isFixed n = true := by
  have hall : (upperMap.longer.all fun entry => entry.2.all upperMap.isFixed) = true := by
    decide +kernel
  simpa using hall

theorem upperMap_isFixed_zero : upperMap.isFixed 0 = true := by
  decide +kernel

theorem isFixed_of_image? {run : CaseRun} (hrun : run ∈ upperMap.runs) {n image : Nat}
    (himage : run.image? n = some image) : upperMap.isFixed image = true := by
  obtain ⟨hforward, hruns, hlonger⟩ := upperMap_runs run hrun
  rw [CaseMap.isFixed, Bool.and_eq_true, List.all_eq_true, List.all_eq_true]
  refine ⟨?_, ?_⟩
  · intro other hother
    rw [Bool.not_eq_true', ← CaseRun.image?_eq_none_iff]
    exact CaseRun.image?_eq_none_of_avoids hforward (hruns other hother) himage
  · intro entry hentry
    have hapart := hlonger entry hentry
    unfold CaseRun.image? at himage
    unfold CaseRun.target at hapart hforward
    split at himage
    · next hmoved =>
        obtain rfl := Option.some.inj himage
        rw [bne_iff_ne]
        omega
    · cases himage

theorem isFixed_of_mem_upper {c d : Char} (hd : d ∈ upperMap.char c) :
    upperMap.isFixed d.toNat = true := by
  unfold CaseMap.char at hd
  split at hd
  · next n hn =>
      obtain ⟨run, hrun, himage⟩ := List.exists_of_findSome?_eq_some hn
      obtain rfl := List.mem_singleton.mp hd
      exact CaseMap.isFixed_ofNat upperMap_isFixed_zero (isFixed_of_image? hrun himage)
  · next hnone =>
      split at hd
      · next form hform =>
          obtain ⟨before, after, hentries, -⟩ := List.lookup_eq_some_iff.mp hform
          have hentry : (c.toNat, form) ∈ upperMap.longer := by simp [hentries]
          obtain ⟨n, hn, rfl⟩ := List.mem_map.mp hd
          exact CaseMap.isFixed_ofNat upperMap_isFixed_zero (upperMap_longer _ hentry n hn)
      · next hshort =>
          obtain rfl := List.mem_singleton.mp hd
          rw [CaseMap.isFixed, Bool.and_eq_true, List.all_eq_true, List.all_eq_true]
          refine ⟨?_, ?_⟩
          · intro run hrun
            rw [Bool.not_eq_true', ← CaseRun.image?_eq_none_iff]
            exact List.findSome?_eq_none_iff.mp hnone run hrun
          · intro entry hentry
            rw [bne_comm]
            exact List.lookup_eq_none_iff.mp hshort entry hentry

@[simp] theorem toList_upper (s : String) : (upper s).toList = s.toList.flatMap upperMap.char := by
  simp [upper]

/-- A text in upper case stays as it is. -/
theorem upper_upper (s : String) : upper (upper s) = upper s := by
  apply String.toList_inj.mp
  rw [toList_upper, toList_upper, List.flatMap_assoc]
  refine List.flatMap_congr ?_
  intro c _
  calc
    (upperMap.char c).flatMap upperMap.char = (upperMap.char c).flatMap (fun d => [d]) :=
      List.flatMap_congr fun d hd => CaseMap.char_of_isFixed (isFixed_of_mem_upper hd)
    _ = upperMap.char c := List.flatMap_singleton' _

end DevConsole.Text
