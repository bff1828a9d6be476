import DevConsole.Proofs.Completion.Replacement
import Mathlib.Order.Bounds.Basic

/-!
# What words have in common at the start

Two words agree up to the first place where one of them ends or their characters differ up to
case (`Completion.le_agreement_iff`).  The words of a list have in common what each of them has
in common with the first, which is measured by narrowing down the length of the first word by
one word after the other (`Completion.shared_iff`).

Main statement: that is the greatest number of characters that all words share with the first
(`Completion.commonStart_greatest`).  Sharing with one word of a list is sharing with any other
(`Completion.Shared.of_mem`), so the number is the same in every order of the words.
-/

namespace DevConsole.Completion

open Text (fold foldChar)

/-- Every word has at least `n` characters, and each of its first `n` characters is that of
`first` up to case. -/
def Shared (first : String) (words : List String) (n : Nat) : Prop :=
  ∀ word ∈ words, n ≤ word.length ∧
    ∀ i < n, word.toList[i]?.map foldChar = first.toList[i]?.map foldChar

/-- Two words agree in `n` characters if both have them and they are the same up to case. -/
theorem le_agreement_iff {cs ds : List Char} {n : Nat} :
    n ≤ agreement cs ds ↔ n ≤ cs.length ∧ n ≤ ds.length ∧
      ∀ i < n, ds[i]?.map foldChar = cs[i]?.map foldChar := by
  induction n generalizing cs ds with
  | zero => simp
  | succ n ih =>
      cases cs with
      | nil => simp [agreement]
      | cons c cs =>
          cases ds with
          | nil => simp [agreement]
          | cons d ds =>
              -- The first characters, and the places after the first.
              simp only [agreement, List.length_cons, Nat.add_le_add_iff_right,
                Nat.forall_lt_succ_left, List.getElem?_cons_zero, List.getElem?_cons_succ,
                Option.map_some, Option.some.injEq]
              split
              · next hsame => simp [ih, hsame]
              · next hother => simp [Ne.symm hother]

/-- What words have in common is what they share with the first of them. -/
theorem shared_iff {first : String} {rest : List String} {n : Nat} :
    Shared first (first :: rest) n ↔ n ≤ (commonStart (first :: rest)).length := by
  have hsize : n ≤ (commonStart (first :: rest)).length ↔ n ≤ first.length ∧
      ∀ word ∈ rest, n ≤ agreement first.toList word.toList := by
    rw [commonStart, String.length_ofList, List.length_take, String.length_toList, Nat.le_min,
      le_foldl_min_iff, and_iff_left_iff_imp]
    exact And.left
  rw [hsize, Shared, List.forall_mem_cons]
  constructor
  · rintro ⟨⟨hfirst, -⟩, hrest⟩
    refine ⟨hfirst, fun word hword => le_agreement_iff.mpr ?_⟩
    obtain ⟨hlength, hplaces⟩ := hrest word hword
    exact ⟨by rwa [String.length_toList], by rwa [String.length_toList], hplaces⟩
  · rintro ⟨hfirst, hrest⟩
    refine ⟨⟨hfirst, fun _ _ => rfl⟩, fun word hword => ?_⟩
    obtain ⟨-, hlength, hplaces⟩ := le_agreement_iff.mp (hrest word hword)
    exact ⟨by rwa [← String.length_toList], hplaces⟩

/-- Words that share with one of them share with any other. -/
theorem Shared.of_mem {first other : String} {words : List String} {n : Nat}
    (hshared : Shared first words n) (hother : other ∈ words) : Shared other words n := by
  intro word hword
  obtain ⟨hlength, hplaces⟩ := hshared word hword
  refine ⟨hlength, fun i hi => ?_⟩
  rw [hplaces i hi, (hshared other hother).2 i hi]

theorem Shared.perm {first : String} {words other : List String} {n : Nat}
    (hshared : Shared first words n) (hperm : other.Perm words) : Shared first other n :=
  fun word hword => hshared word (hperm.mem_iff.mp hword)

/-- In another order the words have as many characters in common. -/
theorem length_commonStart_of_perm {words other : List String} (hperm : other.Perm words) :
    (commonStart other).length = (commonStart words).length := by
  have hle : ∀ {words other : List String}, other.Perm words →
      (commonStart words).length ≤ (commonStart other).length := by
    intro words other hperm
    cases words with
    | nil => exact Nat.zero_le _
    | cons first rest =>
        cases other with
        | nil => exact absurd hperm.nil_eq (List.cons_ne_nil _ _).symm
        | cons next more =>
            have hshared := shared_iff.mpr (Nat.le_refl (commonStart (first :: rest)).length)
            have hnext : next ∈ first :: rest := hperm.mem_iff.mp (List.mem_cons_self ..)
            exact shared_iff.mp ((hshared.of_mem hnext).perm hperm)
  exact Nat.le_antisymm (hle hperm.symm) (hle hperm)

/-- **What words have in common is the most they share.**  Take any list of words with a first
one, and let `n` be the length of what they have in common.

* What they have in common is the first `n` characters of the first word.
* `n` is the greatest number such that every word has at least `n` characters and agrees with the
  first word in each of the first `n`, up to case.
* In every other order of the words it is the same number.
* Up to case, all words start with what they have in common. -/
theorem commonStart_greatest (first : String) (rest : List String) :
    let words := first :: rest
    let n := (commonStart words).length
    commonStart words = String.ofList (first.toList.take n) ∧
      IsGreatest {k | Shared first words k} n ∧
      (∀ other : List String, other.Perm words → (commonStart other).length = n) ∧
      ∀ word ∈ words, Text.startsWith (fold word) (fold (commonStart words)) = true := by
  intro words n
  refine ⟨?_, ⟨shared_iff.mpr (Nat.le_refl n), fun k hk => shared_iff.mp hk⟩,
    fun _ => length_commonStart_of_perm, fun _ => startsWith_commonStart⟩
  simp only [n, words, commonStart, String.length_ofList, List.length_take]
  rw [← List.take_eq_take_min]

/-- Characters are compared one by one: `ß` is not the first of two letters `s`, though it folds
to two. -/
theorem commonStart_greatest_sharp_s :
    let words := ["Maße", "MASSIV", "mast"]
    commonStart words = "Ma" ∧ IsGreatest {k | Shared "Maße" words k} 2 ∧
      (commonStart ["mast", "Maße", "MASSIV"]).length = 2 ∧
      Text.startsWith (fold "MASSIV") (fold "Ma") = true := by
  intro words
  have hcommon : commonStart words = "Ma" := by decide +kernel
  obtain ⟨-, hgreatest, horder, hstarts⟩ := commonStart_greatest "Maße" ["MASSIV", "mast"]
  have hperm : ["mast", "Maße", "MASSIV"].Perm words := by decide +kernel
  have hlength : (commonStart words).length = 2 := by rw [hcommon]; rfl
  refine ⟨hcommon, hlength ▸ hgreatest, (horder _ hperm).trans hlength, ?_⟩
  exact hcommon ▸ hstarts "MASSIV" (by decide)

end DevConsole.Completion
