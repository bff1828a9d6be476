import DevConsole.Proofs.Registry.Content
import Mathlib.Data.List.Nodup

/-!
# Suggested names

Suggestions are found by a filter, a loop that leaves out words seen before, and a sort.  What
comes out can be said without them: the words in the order of their folded forms, no two with
the same (`Completion.suggest_ascending`), and under each folded form the first word of that
form, commands before aliases (`Completion.mem_suggest_iff`).  Since a list in strict order is
determined by its members (`Completion.eq_of_ascending`), this says which list it is; what
a longer start leaves of the suggestions follows.
-/

namespace DevConsole.Completion

open Text (fold)

/-! ## Lists in strict order -/

/-- Words in the order of their folded forms, which are all different. -/
def Ascending (words : List String) : Prop :=
  words.Pairwise fun a b => fold a < fold b

instance (words : List String) : Decidable (Ascending words) :=
  inferInstanceAs (Decidable (words.Pairwise _))

theorem Ascending.nodup {words : List String} (hascending : Ascending words) : words.Nodup :=
  hascending.imp fun {a b} hless (hsame : a = b) => String.lt_irrefl _ (hsame ▸ hless)

/-- A list in strict order is determined by its members. -/
theorem eq_of_ascending {words others : List String} (hwords : Ascending words)
    (hothers : Ascending others) (hmembers : ∀ word, word ∈ words ↔ word ∈ others) :
    words = others := by
  refine List.Perm.eq_of_pairwise ?_ hwords hothers
    ((List.perm_ext_iff_of_nodup hwords.nodup hothers.nodup).mpr hmembers)
  intro a b _ _ hab hba
  exact absurd hba (String.lt_asymm hab)

/-- Sorting puts words with different folded forms in strict order. -/
theorem ascending_sortByFold {words : List String} (hdistinct : (words.map fold).Nodup) :
    Ascending (sortByFold words) :=
  pairwise_lt_mergeSort_key fold hdistinct

/-! ## Words that are left out -/

/-- A word is kept if its folded form is new and no word of that form comes before it. -/
theorem mem_distinct_iff {words : List String} {word : String} :
    ∀ {seen : List String}, word ∈ distinct seen words ↔
      fold word ∉ seen ∧ words.find? (fold · == fold word) = some word := by
  induction words with
  | nil => simp [distinct]
  | cons first rest ih =>
      intro seen
      by_cases hsame : fold first = fold word
      · by_cases hseen : fold first ∈ seen
        · -- `first` is left out, and so is every later word of its form.
          rw [distinct, if_pos (by simpa using hseen), ih, hsame.symm]
          exact iff_of_false (fun hword => hword.1 hseen) fun hword => hword.1 hseen
        · rw [distinct, if_neg (by simpa using hseen), List.mem_cons, ih,
            List.find?_cons_of_pos (by simpa using hsame), Option.some.injEq, hsame.symm]
          constructor
          · rintro (rfl | ⟨hnew, -⟩)
            · exact ⟨hseen, rfl⟩
            · exact absurd List.mem_cons_self hnew
          · rintro ⟨-, rfl⟩
            exact Or.inl rfl
      · have hpast : (first :: rest).find? (fold · == fold word) =
            rest.find? (fold · == fold word) :=
          List.find?_cons_of_neg (by simpa using hsame)
        have hother : word ≠ first := by
          rintro rfl
          exact hsame rfl
        rw [hpast, distinct]
        split
        · exact ih
        · rw [List.mem_cons, or_iff_right hother, ih, List.mem_cons, not_or,
            and_iff_right (Ne.symm hsame)]

theorem nodup_distinct (words : List String) :
    ∀ seen, ((distinct seen words).map fold).Nodup := by
  induction words with
  | nil => exact fun _ => List.nodup_nil
  | cons first rest ih =>
      intro seen
      unfold distinct
      split
      · exact ih seen
      · rw [List.map_cons, List.nodup_cons]
        refine ⟨?_, ih _⟩
        rw [List.mem_map]
        rintro ⟨word, hword, hsame⟩
        exact (mem_distinct_iff.mp hword).1 (hsame ▸ List.mem_cons_self)

/-! ## Suggestions -/

variable {α : Type}

/-- The spelling under which a folded name is suggested: that of the command, if a command has
the name, and otherwise that of the alias. -/
def spelling? (commands : CommandTable α) (aliases : AliasTable) (key : String) :
    Option String :=
  (commands.names.find? (fold · == key)).or (aliases.names.find? (fold · == key))

theorem suggest_ascending (commands : CommandTable α) (aliases : AliasTable) (start : String) :
    Ascending (suggest commands aliases start) :=
  ascending_sortByFold (nodup_distinct _ [])

/-- Any ordered list of the words that are not left out is the list of suggestions. -/
theorem suggest_eq_of_perm {commands : CommandTable α} {aliases : AliasTable} {start : String}
    {words : List String} (hascending : Ascending words)
    (hperm : words.Perm (distinct [] ((commands.names ++ aliases.names).filter fun word =>
      Text.startsWith (fold word) (fold start)))) :
    suggest commands aliases start = words :=
  eq_of_ascending (suggest_ascending ..) hascending fun _ =>
    List.mem_mergeSort.trans hperm.mem_iff.symm

theorem mem_suggest_iff {commands : CommandTable α} {aliases : AliasTable}
    {start word : String} :
    word ∈ suggest commands aliases start ↔
      Text.startsWith (fold word) (fold start) = true ∧
        spelling? commands aliases (fold word) = some word := by
  simp only [suggest, sortByFold, List.mem_mergeSort, mem_distinct_iff, spelling?,
    List.not_mem_nil, not_false_eq_true, true_and, ← List.find?_append]
  by_cases hstart : Text.startsWith (fold word) (fold start) = true
  · -- Words of the same folded form start in the same way, so the filter takes none of them.
    have hsame : ∀ other : String, (decide (Text.startsWith (fold other) (fold start) = true ∧
        (fold other == fold word) = true)) = (fold other == fold word) := by
      intro other
      by_cases hother : fold other = fold word
      · simp [hother, hstart]
      · simp [hother]
    simp only [List.find?_filter, hsame, hstart, true_and]
  · refine iff_of_false ?_ fun hword => hstart hword.1
    intro hfound
    exact hstart (List.mem_filter.mp (List.mem_of_find?_eq_some hfound)).2

theorem spelling?_isSome_iff {commands : CommandTable α} {aliases : AliasTable} {key : String} :
    (spelling? commands aliases key).isSome = true ↔
      ∃ name ∈ commands.names ++ aliases.names, fold name = key := by
  rw [spelling?, ← List.find?_append, List.find?_isSome]
  simp only [beq_iff_eq]

theorem fold_of_spelling? {commands : CommandTable α} {aliases : AliasTable}
    {key word : String} (hword : spelling? commands aliases key = some word) :
    fold word = key := by
  rw [spelling?, ← List.find?_append] at hword
  simpa using List.find?_some hword

/-- Starts that leave the same words suggest the same. -/
theorem suggest_congr {commands : CommandTable α} {aliases : AliasTable} {start other : String}
    (hmembers : ∀ word, word ∈ suggest commands aliases start ↔
      word ∈ suggest commands aliases other) :
    suggest commands aliases start = suggest commands aliases other :=
  eq_of_ascending (suggest_ascending ..) (suggest_ascending ..) hmembers

theorem startsWith_fold_append {text start more : String}
    (hlonger : Text.startsWith text (fold (start ++ more)) = true) :
    Text.startsWith text (fold start) = true := by
  rw [Text.startsWith_iff, Text.fold_append, String.toList_append] at hlonger
  rw [Text.startsWith_iff]
  exact (List.prefix_append _ _).trans hlonger

/-- **Suggestions are exact.**  Take any commands and aliases, which may share names, and the
start of a word.

* The suggestions come in the order of their folded forms, no two with the same.
* A word is suggested if and only if its folded form starts like that of the start and it is
  the spelling of this form: that of the command, if a command has the name, and otherwise
  that of the alias.
* A folded form has a suggestion, and then exactly one, if and only if it is that of a command
  or an alias and starts like that of the start.
* A longer start leaves of the suggestions those that start like it, up to case. -/
theorem suggestions_exact (commands : CommandTable α) (aliases : AliasTable) (start : String) :
    let words := suggest commands aliases start
    words.Pairwise (fun a b => fold a < fold b) ∧
      (∀ word, word ∈ words ↔ Text.startsWith (fold word) (fold start) = true ∧
        spelling? commands aliases (fold word) = some word) ∧
      (∀ key, (∃! word, word ∈ words ∧ fold word = key) ↔
        (∃ name ∈ commands.names ++ aliases.names, fold name = key) ∧
          Text.startsWith key (fold start) = true) ∧
      ∀ more, suggest commands aliases (start ++ more) =
        words.filter fun word => Text.startsWith (fold word) (fold (start ++ more)) := by
  intro words
  refine ⟨suggest_ascending commands aliases start, fun word => mem_suggest_iff, ?_, ?_⟩
  · intro key
    rw [← spelling?_isSome_iff]
    constructor
    · rintro ⟨word, ⟨hword, rfl⟩, -⟩
      obtain ⟨hstart, hspelling⟩ := mem_suggest_iff.mp hword
      exact ⟨Option.isSome_of_eq_some hspelling, hstart⟩
    · rintro ⟨hnamed, hstart⟩
      obtain ⟨word, hspelling⟩ := Option.isSome_iff_exists.mp hnamed
      obtain rfl := fold_of_spelling? hspelling
      refine ⟨word, ⟨mem_suggest_iff.mpr ⟨hstart, hspelling⟩, rfl⟩, ?_⟩
      rintro other ⟨hother, hsame⟩
      obtain ⟨-, hotherSpelling⟩ := mem_suggest_iff.mp hother
      rw [hsame, hspelling] at hotherSpelling
      exact (Option.some.inj hotherSpelling).symm
  · intro more
    refine eq_of_ascending (suggest_ascending ..)
      ((suggest_ascending commands aliases start).filter _) ?_
    intro word
    rw [List.mem_filter, mem_suggest_iff, mem_suggest_iff]
    constructor
    · rintro ⟨hlonger, hspelling⟩
      exact ⟨⟨startsWith_fold_append hlonger, hspelling⟩, hlonger⟩
    · rintro ⟨⟨-, hspelling⟩, hlonger⟩
      exact ⟨hlonger, hspelling⟩

end DevConsole.Completion
