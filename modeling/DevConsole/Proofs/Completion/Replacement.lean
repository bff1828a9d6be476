import DevConsole.Proofs.Completion.Suggestions
import DevConsole.Proofs.Text.Fold
import Mathlib.Data.List.Infix

/-!
# What completion puts in place of a word

Completion replaces a word by the only suggestion for it, or by what all suggestions have in
common at the start if that has more characters than the word.  Every suggestion goes on from
such a replacement (`Completion.startsWith_commonStart`).  If the replacement in turn goes on
from the word, the suggestions stay the same and completing again changes nothing
(`Completion.goesOn_of_startsWith`).

Both are prefixes of the folded suggestions, so the longer goes on from the shorter.  Words are
told apart in folded form, but counted as they are spelled: a word with characters that fold to
several can be longer than a replacement with more characters, and then a part of it is lost.
Main statement: this is the only way to lose something (`Completion.replacement_goes_on_iff`).
-/

namespace DevConsole.Completion

open Text (fold foldChar)

/-! ## Starts of texts -/

theorem length_le_of_startsWith {text start : String}
    (hstart : Text.startsWith text start = true) : start.length ≤ text.length := by
  rw [← String.length_toList, ← String.length_toList]
  exact (Text.startsWith_iff.mp hstart).length_le

/-- Of two starts of one text the longer goes on from the shorter. -/
theorem startsWith_of_length_le {text start longer : String}
    (hstart : Text.startsWith text start = true) (hlonger : Text.startsWith text longer = true)
    (hlength : start.length ≤ longer.length) : Text.startsWith longer start = true := by
  rw [← String.length_toList, ← String.length_toList] at hlength
  rw [Text.startsWith_iff] at hstart hlonger ⊢
  exact List.prefix_of_prefix_length_le hstart hlonger hlength

/-! ## What words have in common -/

/-- Up to where two words agree, their folded forms are the same. -/
theorem flatMap_take_of_le_agreement {cs ds : List Char} :
    ∀ {n : Nat}, n ≤ agreement cs ds →
      (cs.take n).flatMap foldChar = (ds.take n).flatMap foldChar := by
  induction cs generalizing ds with
  | nil =>
      intro n hn
      obtain rfl : n = 0 := by simpa [agreement] using hn
      rfl
  | cons c cs ih =>
      intro n hn
      cases n with
      | zero => rfl
      | succ n =>
          cases ds with
          | nil => simp [agreement] at hn
          | cons d ds =>
              unfold agreement at hn
              split at hn
              · next hsame =>
                  have hrest : n ≤ agreement cs ds := by omega
                  simp only [List.take_succ_cons, List.flatMap_cons, hsame, ih hrest]
              · omega

/-- A running minimum is at least `k` if all it is taken of is. -/
theorem le_foldl_min_iff {β : Type} (f : β → Nat) {k n : Nat} {xs : List β} :
    k ≤ xs.foldl (fun n x => min n (f x)) n ↔ k ≤ n ∧ ∀ x ∈ xs, k ≤ f x := by
  induction xs generalizing n with
  | nil => simp
  | cons x xs ih => rw [List.foldl_cons, ih, Nat.le_min, List.forall_mem_cons, and_assoc]

/-- All words go on, up to case, from what they have in common. -/
theorem startsWith_commonStart {words : List String} {word : String} (hword : word ∈ words) :
    Text.startsWith (fold word) (fold (commonStart words)) = true := by
  cases words with
  | nil => exact absurd hword List.not_mem_nil
  | cons first rest =>
      obtain ⟨-, hrest⟩ := (le_foldl_min_iff (fun word => agreement first.toList word.toList)
        (n := first.length)).mp (Nat.le_refl (rest.foldl _ _))
      simp only [commonStart, Text.startsWith_iff, Text.toList_fold, String.toList_ofList]
      rcases List.mem_cons.mp hword with rfl | hother
      · exact List.IsPrefix.flatMap (List.take_prefix _ _) _
      · rw [flatMap_take_of_le_agreement (hrest word hother)]
        exact List.IsPrefix.flatMap (List.take_prefix _ _) _

/-! ## Completing a word -/

variable {α : Type} {commands : CommandTable α} {aliases : AliasTable}
  {line replacement : String} {candidates : List String}

/-- A replacement is made for a word only. It is the only suggestion or what several have in
common, if that is longer than the word. -/
theorem complete_cases
    (hcomplete : complete commands aliases line = (some replacement, candidates)) :
    Text.IsWord (Text.trimLeft line) ∧
      suggest commands aliases (Text.trimLeft line) = candidates ∧
      (candidates.length = 1 ∨ replacement = commonStart candidates ∧
        (Text.trimLeft line).length < replacement.length) := by
  unfold complete at hcomplete
  dsimp only at hcomplete
  split at hcomplete
  · cases hcomplete
  · next hword =>
      have hisWord : Text.IsWord (Text.trimLeft line) := by
        simpa [Text.IsWord, not_or] using hword
      split at hcomplete
      · cases hcomplete
      · next only hsuggest =>
          cases hcomplete
          exact ⟨hisWord, hsuggest, Or.inl rfl⟩
      · obtain ⟨hreplacement, rfl⟩ := Prod.mk.inj hcomplete
        split at hreplacement
        · next hlonger =>
            obtain rfl := Option.some.inj hreplacement
            exact ⟨hisWord, rfl, Or.inr ⟨rfl, hlonger⟩⟩
        · cases hreplacement

theorem complete_of_several (hword : Text.IsWord (Text.trimLeft line))
    (hsuggest : suggest commands aliases (Text.trimLeft line) = candidates)
    (hseveral : 2 ≤ candidates.length) :
    complete commands aliases line =
      (if (Text.trimLeft line).length < (commonStart candidates).length
        then some (commonStart candidates) else none, candidates) := by
  have hcompletes :
      ¬((Text.trimLeft line).isEmpty || Text.hasBlank (Text.trimLeft line)) = true := by
    simpa [Text.IsWord] using hword
  unfold complete
  dsimp only
  rw [if_neg hcompletes, hsuggest]
  match candidates, hseveral with
  | _ :: _ :: _, _ => rfl

/-- What several suggestions have in common is not replaced again. -/
theorem complete_commonStart (hself : Text.trimLeft replacement = replacement)
    (hsuggest : suggest commands aliases replacement = candidates)
    (hseveral : 2 ≤ candidates.length) (hcommon : replacement = commonStart candidates) :
    (complete commands aliases replacement).1 = none := by
  by_cases hword : Text.IsWord replacement
  · rw [complete_of_several (by rwa [hself]) (by rwa [hself]) hseveral, hself, ← hcommon]
    exact if_neg (Nat.lt_irrefl _)
  · cases hcomplete : complete commands aliases replacement with
    | mk again candidates =>
        cases again with
        | none => rfl
        | some again => exact absurd (hself ▸ (complete_cases hcomplete).1) hword

/-- A text that goes on from a word has no blank characters before it. -/
theorem trimLeft_eq_self_of_startsWith {word text : String} (hword : Text.IsWord word)
    (hstart : Text.startsWith (fold text) (fold word) = true) : Text.trimLeft text = text := by
  rw [← String.toList_inj, Text.toList_trimLeft]
  cases htext : text.toList with
  | nil => rfl
  | cons c cs =>
      refine List.dropWhile_cons_of_neg ?_
      intro hblank
      -- A blank character is its own folded form, so the word would start with it too.
      have hself : foldChar c = [c] := by
        rcases Text.foldChar_cases c with hself | ⟨hletter, -, -⟩
        · exact hself
        · cases hblank.symm.trans hletter
      rw [Text.startsWith_iff, Text.toList_fold text, htext, List.flatMap_cons, hself] at hstart
      cases hfold : (fold word).toList with
      | nil =>
          have hempty : fold word = "" := String.toList_inj.mp hfold
          exact hword.1 ((Text.fold_eq_empty_iff word).mp hempty)
      | cons d ds =>
          rw [hfold] at hstart
          obtain rfl : d = c := (List.cons_prefix_cons.mp hstart).1
          have hinside : Text.hasBlank (fold word) = true := by
            simp [Text.hasBlank, hfold, hblank]
          rw [Text.hasBlank_fold, hword.2] at hinside
          cases hinside

/-- A replacement for the word that a line consists of keeps what was typed: up to case it goes
on from the word, and all candidates go on from it. For the replacement there are the same
candidates, and completing it changes nothing. -/
structure GoesOn (commands : CommandTable α) (aliases : AliasTable) (line replacement : String)
    (candidates : List String) : Prop where
  typed : Text.startsWith (fold replacement) (fold (Text.trimLeft line)) = true
  shared : ∀ candidate ∈ candidates,
    Text.startsWith (fold candidate) (fold replacement) = true
  same : suggest commands aliases replacement = candidates
  settled : (complete commands aliases replacement).1 = none

/-- A longer start that all suggestions have leaves them as they are. -/
theorem suggest_of_longer {start longer : String}
    (hlonger : Text.startsWith (fold longer) (fold start) = true)
    (hall : ∀ word ∈ suggest commands aliases start,
      Text.startsWith (fold word) (fold longer) = true) :
    suggest commands aliases longer = suggest commands aliases start := by
  refine suggest_congr ?_
  intro word
  constructor
  · intro hword
    obtain ⟨hstart, hspelling⟩ := mem_suggest_iff.mp hword
    rw [Text.startsWith_iff] at hstart hlonger
    exact mem_suggest_iff.mpr ⟨Text.startsWith_iff.mpr (hlonger.trans hstart), hspelling⟩
  · intro hword
    exact mem_suggest_iff.mpr ⟨hall word hword, (mem_suggest_iff.mp hword).2⟩

/-- All of several candidates go on from the replacement. -/
theorem startsWith_replacement
    (hcomplete : complete commands aliases line = (some replacement, candidates))
    (hseveral : 2 ≤ candidates.length) {candidate : String} (hcandidate : candidate ∈ candidates) :
    Text.startsWith (fold candidate) (fold replacement) = true := by
  obtain ⟨-, -, honly | ⟨hcommon, -⟩⟩ := complete_cases hcomplete
  · omega
  · rw [hcommon]
    exact startsWith_commonStart hcandidate

theorem goesOn_of_startsWith
    (hcomplete : complete commands aliases line = (some replacement, candidates))
    (hseveral : 2 ≤ candidates.length)
    (hstart : Text.startsWith (fold replacement) (fold (Text.trimLeft line)) = true) :
    GoesOn commands aliases line replacement candidates := by
  obtain ⟨hword, hsuggest, honly | ⟨hcommon, -⟩⟩ := complete_cases hcomplete
  · omega
  · have hshared : ∀ candidate ∈ candidates,
        Text.startsWith (fold candidate) (fold replacement) = true :=
      fun _ => startsWith_replacement hcomplete hseveral
    have hsame : suggest commands aliases replacement = candidates := by
      rw [← hsuggest] at hshared ⊢
      exact suggest_of_longer hstart hshared
    exact ⟨hstart, hshared, hsame,
      complete_commonStart (trimLeft_eq_self_of_startsWith hword hstart) hsame hseveral hcommon⟩

/-- **When completion keeps what was typed.**  Take any commands and aliases and any line.

* A replacement that comes with several candidates goes on from what was typed, up to case, has
  the same candidates and is not replaced again, if and only if in folded form it has at least
  as many characters as what was typed.  In any case all candidates go on from it.
* This is so for every text in which each character folds to one.
* A replacement that comes with one candidate: the candidate goes on from what was typed. -/
theorem replacement_goes_on_iff (commands : CommandTable α) (aliases : AliasTable)
    (line : String) :
    let typed := Text.trimLeft line
    (∀ replacement candidates,
      complete commands aliases line = (some replacement, candidates) →
        2 ≤ candidates.length →
          (GoesOn commands aliases line replacement candidates ↔
            (fold typed).length ≤ (fold replacement).length) ∧
          (∀ candidate ∈ candidates,
            Text.startsWith (fold candidate) (fold replacement) = true) ∧
          ((∀ c ∈ typed.toList, (foldChar c).length = 1) →
            GoesOn commands aliases line replacement candidates)) ∧
      ∀ replacement only, complete commands aliases line = (some replacement, [only]) →
        Text.startsWith (fold only) (fold typed) = true := by
  intro typed
  refine ⟨?_, ?_⟩
  · intro replacement candidates hcomplete hseveral
    obtain ⟨-, hsuggest, honly | ⟨-, hlonger⟩⟩ := complete_cases hcomplete
    · omega
    have hshared : ∀ candidate ∈ candidates,
        Text.startsWith (fold candidate) (fold replacement) = true :=
      fun _ => startsWith_replacement hcomplete hseveral
    have hgoesOn : (fold typed).length ≤ (fold replacement).length →
        GoesOn commands aliases line replacement candidates := by
      intro hlength
      -- Any candidate will do: it goes on from both.
      obtain ⟨candidate, hcandidate⟩ :=
        List.exists_mem_of_length_pos (Nat.lt_of_lt_of_le Nat.zero_lt_two hseveral)
      have htyped := (mem_suggest_iff.mp (hsuggest ▸ hcandidate)).1
      exact goesOn_of_startsWith hcomplete hseveral
        (startsWith_of_length_le htyped (hshared candidate hcandidate) hlength)
    refine ⟨⟨fun hkeeps => length_le_of_startsWith hkeeps.typed, hgoesOn⟩, hshared, ?_⟩
    intro hsingle
    refine hgoesOn ?_
    rw [Text.length_fold_of_single hsingle]
    exact hlonger.le.trans (Text.length_le_length_fold replacement)
  · intro replacement only hcomplete
    obtain ⟨-, hsuggest, -⟩ := complete_cases hcomplete
    exact (mem_suggest_iff.mp (hsuggest ▸ List.mem_singleton_self only)).1

/-- A registry with the given names as commands. -/
def named (names : List String) : Registry Unit :=
  names.foldl (fun r name => (r.register (.named name "" ())).2) ∅

/-- What is typed in capitals goes on as the first suggestion spells it. -/
theorem replacement_goes_on_iff_streets :
    let r := named ["strassenbahn", "Straße", "stop"]
    complete r.commands r.aliases " STR" = (some "Stra", ["Straße", "strassenbahn"]) ∧
      GoesOn r.commands r.aliases " STR" "Stra" ["Straße", "strassenbahn"] := by
  intro r
  have hsuggest : suggest r.commands r.aliases (Text.trimLeft " STR") =
      ["Straße", "strassenbahn"] := suggest_eq_of_perm (by decide +kernel) (by decide +kernel)
  have hcomplete : complete r.commands r.aliases " STR" =
      (some "Stra", ["Straße", "strassenbahn"]) :=
    (complete_of_several ⟨by decide, by decide⟩ hsuggest (by decide)).trans (by decide +kernel)
  obtain ⟨hseveral, -⟩ := replacement_goes_on_iff r.commands r.aliases " STR"
  obtain ⟨hkeeps, -, -⟩ := hseveral _ _ hcomplete (by decide)
  exact ⟨hcomplete, hkeeps.mpr (by decide +kernel)⟩

/-- Of four letters `s`, typed as two letters `ß`, one is lost, and there are more suggestions
for what is left. -/
theorem replacement_loses_letter :
    let r := named ["ssss", "sssß", "sssa"]
    complete r.commands r.aliases "ßß" = (some "sss", ["ssss", "sssß"]) ∧
      Text.startsWith (fold "sss") (fold "ßß") = false ∧
      suggest r.commands r.aliases "sss" = ["sssa", "ssss", "sssß"] := by
  intro r
  have hsuggest : suggest r.commands r.aliases (Text.trimLeft "ßß") = ["ssss", "sssß"] :=
    suggest_eq_of_perm (by decide +kernel) (by decide +kernel)
  refine ⟨?_, by decide +kernel, suggest_eq_of_perm (by decide +kernel) (by decide +kernel)⟩
  exact (complete_of_several ⟨by decide, by decide⟩ hsuggest (by decide)).trans (by decide +kernel)

end DevConsole.Completion
