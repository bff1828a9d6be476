import DevConsole.Proofs.Text.Trim
import DevConsole.Text.Numeral

/-!
# Numerals that numbers are written as

A whole number is written with the digits `0` to `9`, after a minus sign if it is negative.  That
is a numeral, and it is read back as the number, unless it has more digits than a numeral may
(`Text.int?_toString`).
-/

namespace DevConsole
namespace Text

theorem toNat_of_isDigit {c : Char} (hdigit : c.isDigit = true) : 48 ≤ c.toNat ∧ c.toNat ≤ 57 :=
  Char.isDigit_iff_toNat.mp hdigit

theorem isBlank_of_isDigit {c : Char} (hdigit : c.isDigit = true) : isBlank c = false := by
  have hbounds := toNat_of_isDigit hdigit
  simp only [isBlank, Bool.or_eq_false_iff, Bool.and_eq_false_iff, decide_eq_false_iff_not,
    beq_eq_false_iff_ne]
  omega

theorem digitValue?_of_isDigit {c : Char} (hdigit : c.isDigit = true) :
    digitValue? c = some (c.toNat - 48) := by
  have hbounds := toNat_of_isDigit hdigit
  have hfirst : (decide (48 ≤ c.toNat) && decide (c.toNat < 48 + 10)) = true := by
    simp only [Bool.and_eq_true, decide_eq_true_eq]
    omega
  unfold digitValue? digitZeros
  rw [List.find?_cons, hfirst]
  rfl

namespace Chars

theorem digits?_of_isDigit {cs : List Char} (hne : cs ≠ [])
    (hdigits : ∀ c ∈ cs, c.isDigit = true) :
    digits? cs = some (cs.map fun c => c.toNat - 48) := by
  induction cs with
  | nil => exact absurd rfl hne
  | cons c rest ih =>
      obtain ⟨hc, hrest⟩ := List.forall_mem_cons.mp hdigits
      cases rest with
      | nil => rw [digits?, digitValue?_of_isDigit hc]; rfl
      | cons d rest =>
          have hline : d ≠ '_' := by
            rintro rfl
            exact absurd (hrest '_' List.mem_cons_self) (by decide)
          rw [digits?, ih (List.cons_ne_nil _ _) hrest, digitValue?_of_isDigit hc]
          · rfl
          · exact List.cons_ne_nil _ _
          · exact fun _ hcons => hline (List.cons.inj hcons).1

theorem isDigit_of_mem_toDigits {n : Nat} {c : Char} (hc : c ∈ Nat.toDigits 10 n) :
    c.isDigit = true :=
  Nat.isDigit_of_mem_toDigits (by decide) (by decide) hc

theorem ofDigits_toDigits (n : Nat) :
    ofDigits ((Nat.toDigits 10 n).map fun c => c.toNat - 48) = n := by
  rw [ofDigits, List.foldl_map]
  exact (Nat.ofDigitChars_eq_foldl.symm).trans Nat.ofDigitChars_ten_toDigits

theorem nat?_toDigits {n : Nat} (hdigits : (Nat.toDigits 10 n).length ≤ maxDigits) :
    nat? (Nat.toDigits 10 n) = some n := by
  rw [nat?, digits?_of_isDigit Nat.toDigits_ne_nil fun c => isDigit_of_mem_toDigits]
  simp only [List.length_map, if_pos hdigits, ofDigits_toDigits]

/-- Nothing is trimmed off a text in which no character is of the class. -/
theorem trim_margin_eq_self {p : Char → Bool} {cs : List Char} (hnone : ∀ c ∈ cs, p c = false) :
    trimEnd p (trimStart p cs) = cs := by
  rw [trimStart_eq_self fun c hc => hnone c (List.mem_of_head? hc),
    trimEnd_eq_self fun c hc => hnone c (List.mem_of_getLast? hc)]

end Chars

theorem toList_toString (n : Int) :
    (toString n).toList =
      if n < 0 then '-' :: Nat.toDigits 10 n.natAbs else Nat.toDigits 10 n.natAbs := by
  rw [Int.toString_eq_repr, Int.repr_eq_if]
  by_cases hneg : n < 0
  · have habs : n.natAbs = (-n).toNat := by omega
    have hnot : ¬0 ≤ n := by omega
    simp [habs, hneg, hnot]
  · have habs : n.natAbs = n.toNat := by omega
    have hnot : 0 ≤ n := by omega
    simp [habs, hneg, hnot]

theorem isBlank_of_mem_toString {n : Int} {c : Char} (hc : c ∈ (toString n).toList) :
    isBlank c = false := by
  have hdigit : ∀ d ∈ Nat.toDigits 10 n.natAbs, isBlank d = false := fun d hd =>
    isBlank_of_isDigit (Chars.isDigit_of_mem_toDigits hd)
  rw [toList_toString] at hc
  split at hc
  · rcases List.mem_cons.mp hc with rfl | hrest
    · rfl
    · exact hdigit c hrest
  · exact hdigit c hc

theorem trim_toString (n : Int) : trim (toString n) = toString n := by
  apply String.toList_inj.mp
  rw [toList_trim, Chars.trim, Chars.trim_margin_eq_self fun c => isBlank_of_mem_toString]

/-- The numeral that a number is written as is read as the number. -/
theorem int?_toString {n : Int} (hdigits : (Nat.toDigits 10 n.natAbs).length ≤ maxDigits) :
    int? (toString n) = some n := by
  have hmargin : ∀ c ∈ (toString n).toList, Chars.isMargin c = false := by
    intro c hc
    rw [Chars.isMargin, isBlank_of_mem_toString hc, Bool.false_and]
  have hnat := Chars.nat?_toDigits hdigits
  rw [int?, Chars.int?, Chars.trim_margin_eq_self hmargin, toList_toString]
  by_cases hneg : n < 0
  · have habs : -(n.natAbs : Int) = n := by omega
    rw [if_pos hneg]
    simp only [hnat]
    exact congrArg some habs
  · have habs : (n.natAbs : Int) = n := by omega
    rw [if_neg hneg]
    -- A digit comes first, not a sign.
    split
    · next rest hsign =>
        exact absurd (Chars.isDigit_of_mem_toDigits (hsign ▸ List.mem_cons_self)) (by decide)
    · next rest hsign =>
        exact absurd (Chars.isDigit_of_mem_toDigits (hsign ▸ List.mem_cons_self)) (by decide)
    · rw [hnat]
      exact congrArg some habs

end Text
end DevConsole
