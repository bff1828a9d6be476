import DevConsole.Proofs.Text.Words
import DevConsole.Registry

/-!
# Folding and blank characters

Folding maps no character to nothing, no blank character to others, and no other character
to a blank one (`any_isBlank_foldChar`).  So texts with the same folded form are names, in
the sense of `isName`, together or not at all (`isName_eq_of_fold_eq`), and no text becomes
shorter (`length_le_length_fold`).
-/

namespace DevConsole
namespace Text

/-- The code points of blank characters, in runs from a first to a last. -/
def blankRanges : List (Nat × Nat) :=
  [(9, 13), (28, 32), (0x85, 0x85), (0xA0, 0xA0), (0x1680, 0x1680), (0x2000, 0x200A),
    (0x2028, 0x2029), (0x202F, 0x202F), (0x205F, 0x205F), (0x3000, 0x3000)]

theorem isBlank_iff (c : Char) :
    isBlank c = true ↔ ∃ range ∈ blankRanges, range.1 ≤ c.toNat ∧ c.toNat ≤ range.2 := by
  simp only [isBlank, blankRanges, List.mem_cons, List.not_mem_nil, or_false, exists_eq_or_imp,
    exists_eq_left, Bool.or_eq_true, Bool.and_eq_true, decide_eq_true_eq, beq_iff_eq]
  omega

theorem blankRanges_pos : ∀ range ∈ blankRanges, 0 < range.1 := by
  decide

/-- A number that is no code point stands for the character zero. -/
theorem toNat_ofNat_cases (n : Nat) :
    (Char.ofNat n).toNat = n ∨ (Char.ofNat n).toNat = 0 := by
  by_cases hvalid : n.isValidChar
  · left
    rw [Char.ofNat, dif_pos hvalid]
    rfl
  · right
    rw [Char.ofNat, dif_neg hvalid]
    rfl

/-- A number outside these runs is not the code point of a blank character. -/
theorem isBlank_ofNat {n : Nat}
    (houtside : ∀ range ∈ blankRanges, n < range.1 ∨ range.2 < n) :
    isBlank (Char.ofNat n) = false := by
  rw [Bool.eq_false_iff, Ne, isBlank_iff]
  rintro ⟨range, hrange, hfirst, hlast⟩
  have hcode := toNat_ofNat_cases n
  have := houtside range hrange
  have := blankRanges_pos range hrange
  omega

/-- The run moves no blank character, and nothing onto one. -/
def CaseRun.isBlankFree (run : CaseRun) : Bool :=
  blankRanges.all fun range =>
    (run.last < range.1 || range.2 < run.first) &&
      (run.last + run.shift < range.1 || range.2 < run.first + run.shift)

theorem foldMap_runs : ∀ run ∈ foldMap.runs, run.isBlankFree = true :=
  List.all_eq_true.mp (by decide +kernel)

theorem foldMap_longer : ∀ entry ∈ foldMap.longer, isBlank (Char.ofNat entry.1) = false ∧
    entry.2 ≠ [] ∧ ∀ n ∈ entry.2, isBlank (Char.ofNat n) = false := by
  decide +kernel

theorem CaseRun.of_image? {run : CaseRun} (hfree : run.isBlankFree = true) {n image : Nat}
    (himage : run.image? n = some image) :
    isBlank (Char.ofNat n) = false ∧ isBlank (Char.ofNat image) = false := by
  have hranges : ∀ range ∈ blankRanges,
      (run.last < range.1 ∨ range.2 < run.first) ∧
        (run.last + run.shift < range.1 ∨ range.2 < run.first + run.shift) := by
    simpa [isBlankFree] using hfree
  unfold image? at himage
  split at himage
  · obtain rfl := Option.some.inj himage
    refine ⟨isBlank_ofNat ?_, isBlank_ofNat ?_⟩
    all_goals
      intro range hrange
      have := hranges range hrange
      have := blankRanges_pos range hrange
      omega
  · cases himage

/-- The form of a character under the folding is the character itself or, like the
character, free of blank characters and not empty. -/
theorem foldMap_char (c : Char) : foldMap.char c = [c] ∨
    isBlank c = false ∧ foldMap.char c ≠ [] ∧ ∀ d ∈ foldMap.char c, isBlank d = false := by
  unfold CaseMap.char
  split
  · next n hn =>
      right
      obtain ⟨run, hrun, himage⟩ := List.exists_of_findSome?_eq_some hn
      obtain ⟨hletter, hmoved⟩ := CaseRun.of_image? (foldMap_runs run hrun) himage
      rw [Char.ofNat_toNat] at hletter
      exact ⟨hletter, List.cons_ne_nil _ _, by simpa using hmoved⟩
  · split
    · next form hform =>
        right
        obtain ⟨before, after, hentries, -⟩ := List.lookup_eq_some_iff.mp hform
        have hentry : (c.toNat, form) ∈ foldMap.longer := by simp [hentries]
        obtain ⟨hletter, hnonempty, hforms⟩ := foldMap_longer _ hentry
        rw [Char.ofNat_toNat] at hletter
        exact ⟨hletter, by simpa using hnonempty, by simpa using hforms⟩
    · exact Or.inl rfl

/-- So is its folded form. -/
theorem foldChar_cases (c : Char) : foldChar c = [c] ∨
    isBlank c = false ∧ foldChar c ≠ [] ∧ ∀ d ∈ foldChar c, isBlank d = false := by
  unfold foldChar
  split
  · split
    · next hcapital =>
        right
        have hletters : ∀ n, n ≤ 90 → 65 ≤ n → isBlank (Char.ofNat n) = false ∧
            isBlank (Char.ofNat (n + 32)) = false := by decide
        obtain ⟨hletter, hsmall⟩ := hletters c.toNat hcapital.2 hcapital.1
        rw [Char.ofNat_toNat] at hletter
        exact ⟨hletter, List.cons_ne_nil _ _, by simpa using hsmall⟩
    · exact Or.inl rfl
  · exact foldMap_char c

theorem any_isBlank_foldChar (c : Char) : (foldChar c).any isBlank = isBlank c := by
  rcases foldChar_cases c with hself | ⟨hletter, -, hforms⟩
  · simp [hself]
  · rw [hletter, List.any_eq_false]
    exact fun d hd => by simp [hforms d hd]

theorem hasBlank_fold (s : String) : hasBlank (fold s) = hasBlank s := by
  simp [hasBlank, List.any_flatMap, any_isBlank_foldChar]

theorem foldChar_ne_nil (c : Char) : foldChar c ≠ [] := by
  rcases foldChar_cases c with hself | ⟨-, hnonempty, -⟩
  · simp [hself]
  · exact hnonempty

theorem fold_eq_empty_iff (s : String) : fold s = "" ↔ s = "" := by
  rw [← String.toList_inj, toList_fold, String.toList_empty, List.flatMap_eq_nil_iff,
    ← String.toList_inj, String.toList_empty, List.eq_nil_iff_forall_not_mem]
  exact forall₂_congr fun c _ => iff_of_false (foldChar_ne_nil c) id

/-- Folding makes no text shorter. -/
theorem length_le_length_fold (s : String) : s.length ≤ (fold s).length := by
  rw [← String.length_toList, ← String.length_toList, toList_fold]
  induction s.toList with
  | nil => exact Nat.le_refl 0
  | cons c cs ih =>
      have hform := List.length_pos_iff.mpr (foldChar_ne_nil c)
      rw [List.flatMap_cons, List.length_append, List.length_cons]
      omega

/-- A text grows only by characters that fold to several. -/
theorem length_fold_of_single {s : String} (hsingle : ∀ c ∈ s.toList, (foldChar c).length = 1) :
    (fold s).length = s.length := by
  rw [← String.length_toList, ← String.length_toList, toList_fold, List.length_flatMap,
    List.map_congr_left hsingle, List.map_const', List.sum_replicate_nat, Nat.mul_one]

end Text

/-- A name is a text that can be a word of a line. -/
theorem isName_iff (s : String) : isName s = true ↔ Text.IsWord s := by
  rw [isName, Bool.and_eq_true, Bool.not_eq_true', Bool.not_eq_true', ← Bool.not_eq_true,
    String.isEmpty_iff]
  rfl

/-- Texts with the same folded form are names together or not at all. -/
theorem isName_eq_of_fold_eq {s t : String} (hsame : Text.fold s = Text.fold t) :
    isName s = isName t := by
  have hempty : s.isEmpty = t.isEmpty := by
    rw [Bool.eq_iff_iff, String.isEmpty_iff, String.isEmpty_iff, ← Text.fold_eq_empty_iff,
      hsame, Text.fold_eq_empty_iff]
  rw [isName, isName, hempty, ← Text.hasBlank_fold s, hsame, Text.hasBlank_fold]

end DevConsole
