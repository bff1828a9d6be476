import DevConsole.Proofs.Text.Trim
import DevConsole.Text.Pieces

/-!
# Words and fields of a text

A blank character parts a text into the words before it and the words after it
(`words_append_blank`).  What trimming does to words follows: nothing.  A text can be
spelled by its words: these are what comes between blanks (`isWord_of_mem_words`), and
joined by blanks they are the words of the text that results (`words_join`).  Likewise fields
without the separator in them are the fields of the text that they are joined to (`fields_join`).
-/

namespace DevConsole
namespace Text
namespace Chars

theorem consFirst_append {c : Char} {first second : List (List Char)}
    (hfirst : first ≠ []) :
    consFirst c (first ++ second) = consFirst c first ++ second := by
  cases first with
  | nil => exact absurd rfl hfirst
  | cons word rest => rfl

theorem consFirst_ne_nil (c : Char) (pieces : List (List Char)) :
    consFirst c pieces ≠ [] := by
  cases pieces <;> simp [consFirst]

/-- What holds of all pieces holds of them with a character in front of the first, if it holds of
that character alone and stays true with it in front. -/
theorem of_mem_consFirst {p : List Char → Prop} {c : Char} {pieces : List (List Char)}
    (hpieces : ∀ piece ∈ pieces, p piece) (hcons : ∀ piece, p piece → p (c :: piece))
    (hone : p [c]) {piece : List Char} (hpiece : piece ∈ consFirst c pieces) : p piece := by
  cases pieces with
  | nil =>
      obtain rfl : piece = [c] := List.mem_singleton.mp hpiece
      exact hone
  | cons first rest =>
      obtain ⟨hfirst, hrest⟩ := List.forall_mem_cons.mp hpieces
      rcases List.mem_cons.mp hpiece with rfl | hmember
      · exact hcons first hfirst
      · exact hrest piece hmember

theorem words_cons_blank {c : Char} (hblank : isBlank c = true) (cs : List Char) :
    words (c :: cs) = words cs := by
  cases cs <;> simp [words, hblank]

theorem words_cons_letter_blank {c d : Char} (hletter : isBlank c = false)
    (hblank : isBlank d = true) (cs : List Char) :
    words (c :: d :: cs) = [c] :: words (d :: cs) := by
  rw [words, if_neg (by simp [hletter])]
  simp only [hblank, if_true]

theorem words_cons_letter_letter {c d : Char} (hletter : isBlank c = false)
    (hnext : isBlank d = false) (cs : List Char) :
    words (c :: d :: cs) = consFirst c (words (d :: cs)) := by
  rw [words, if_neg (by simp [hletter])]
  simp only [hnext, Bool.false_eq_true, if_false]

/-- A text that starts with a character of a word has a word. -/
theorem words_cons_ne_nil {c : Char} (hletter : isBlank c = false) (cs : List Char) :
    words (c :: cs) ≠ [] := by
  cases cs with
  | nil => simp [words, hletter]
  | cons d cs =>
      cases hd : isBlank d with
      | true =>
          rw [words_cons_letter_blank hletter hd]
          exact List.cons_ne_nil _ _
      | false =>
          rw [words_cons_letter_letter hletter hd]
          exact consFirst_ne_nil c _

/-- A blank character parts the words before it from those after it. -/
theorem words_append_blank {b : Char} (hblank : isBlank b = true) (before after : List Char) :
    words (before ++ b :: after) = words before ++ words after := by
  induction before with
  | nil => exact words_cons_blank hblank after
  | cons c before ih =>
      cases hc : isBlank c with
      | true => rw [List.cons_append, words_cons_blank hc, words_cons_blank hc, ih]
      | false =>
          cases before with
          | nil => simp [words, hc, hblank]
          | cons d before =>
              simp only [List.cons_append] at ih ⊢
              cases hd : isBlank d with
              | true =>
                  rw [words_cons_letter_blank hc hd, words_cons_letter_blank hc hd, ih]
                  rfl
              | false =>
                  rw [words_cons_letter_letter hc hd, words_cons_letter_letter hc hd, ih]
                  exact consFirst_append (words_cons_ne_nil hd before)

theorem words_of_all_blank {cs : List Char} (hblank : ∀ c ∈ cs, isBlank c = true) :
    words cs = [] := by
  induction cs with
  | nil => rfl
  | cons c cs ih =>
      rw [words_cons_blank (hblank c (List.mem_cons_self ..))]
      exact ih fun d hd => hblank d (List.mem_cons_of_mem _ hd)

theorem words_append_all_blank {blanks : List Char}
    (hblank : ∀ c ∈ blanks, isBlank c = true) (cs : List Char) :
    words (cs ++ blanks) = words cs := by
  cases blanks with
  | nil => rw [List.append_nil]
  | cons b blanks =>
      rw [words_append_blank (hblank b (List.mem_cons_self ..)),
        words_of_all_blank fun c hc => hblank c (List.mem_cons_of_mem _ hc), List.append_nil]

theorem words_trimStart (cs : List Char) : words (trimStart isBlank cs) = words cs := by
  induction cs with
  | nil => rfl
  | cons c cs ih =>
      unfold trimStart at ih ⊢
      rw [List.dropWhile_cons]
      split
      · next hblank => rw [ih, words_cons_blank hblank]
      · rfl

theorem words_trimEnd (cs : List Char) : words (trimEnd isBlank cs) = words cs := by
  have hblank : ∀ c ∈ (cs.reverse.takeWhile isBlank).reverse, isBlank c = true := by
    intro c hc
    exact List.mem_takeWhile_imp (List.mem_reverse.mp hc)
  calc
    words (trimEnd isBlank cs) =
        words (trimEnd isBlank cs ++ (cs.reverse.takeWhile isBlank).reverse) :=
      (words_append_all_blank hblank _).symm
    _ = words cs := by rw [trimEnd_append_reverse_takeWhile]

end Chars

/-- Trimming leaves the words of a text as they are. -/
theorem words_trim (s : String) : words (trim s) = words s := by
  unfold words
  rw [toList_trim, Chars.trim, Chars.words_trimEnd, Chars.words_trimStart]

theorem Chars.all_blank_of_words {cs : List Char} (hwords : words cs = []) :
    ∀ c ∈ cs, isBlank c = true := by
  induction cs with
  | nil => simp
  | cons c cs ih =>
      cases hc : isBlank c with
      | false => exact absurd hwords (words_cons_ne_nil hc cs)
      | true =>
          rw [words_cons_blank hc] at hwords
          intro d hd
          rcases List.mem_cons.mp hd with rfl | hd
          · exact hc
          · exact ih hwords d hd

/-- A text has no words exactly if it has nothing but blank characters. -/
theorem isAllBlank_iff {s : String} : isAllBlank s = true ↔ words s = [] := by
  unfold isAllBlank words
  rw [List.all_eq_true, List.map_eq_nil_iff]
  exact ⟨Chars.words_of_all_blank, Chars.all_blank_of_words⟩

/-- Trimming leaves nothing of a text exactly if it has no words. -/
theorem trim_isEmpty_iff (s : String) : (trim s).isEmpty = true ↔ words s = [] := by
  constructor
  · intro hempty
    rw [← words_trim, String.isEmpty_iff.mp hempty]
    rfl
  · intro hwords
    have hblank : ∀ c ∈ s.toList, isBlank c = true :=
      Chars.all_blank_of_words (List.map_eq_nil_iff.mp hwords)
    have hdropped : s.toList.dropWhile isBlank = [] := List.dropWhile_eq_nil_iff.mpr hblank
    rw [String.isEmpty_iff]
    apply String.toList_inj.mp
    simp [Chars.trim, Chars.trimStart, Chars.trimEnd, hdropped]

/-! ## Spelling a text by its words -/

/-- Whether a text can be a word: it is not empty and has no blank character. -/
def IsWord (word : String) : Prop :=
  word ≠ "" ∧ hasBlank word = false

theorem Chars.of_mem_words {cs word : List Char} (hword : word ∈ words cs) :
    word ≠ [] ∧ ∀ c ∈ word, isBlank c = false := by
  induction cs generalizing word with
  | nil => cases hword
  | cons c cs ih =>
      cases hc : isBlank c with
      | true =>
          rw [words_cons_blank hc] at hword
          exact ih hword
      | false =>
          have hone : [c] ≠ [] ∧ ∀ d ∈ [c], isBlank d = false := by simpa using hc
          cases cs with
          | nil =>
              obtain rfl : word = [c] := by simpa [words, hc] using hword
              exact hone
          | cons d cs =>
              cases hd : isBlank d with
              | true =>
                  rw [words_cons_letter_blank hc hd, List.mem_cons] at hword
                  rcases hword with rfl | hrest
                  · exact hone
                  · exact ih hrest
              | false =>
                  rw [words_cons_letter_letter hc hd] at hword
                  refine of_mem_consFirst (fun _ => ih) ?_ hone hword
                  rintro letters ⟨-, hletters⟩
                  exact ⟨List.cons_ne_nil _ _, List.forall_mem_cons.mpr ⟨hc, hletters⟩⟩

theorem isWord_of_mem_words {s word : String} (hword : word ∈ words s) : IsWord word := by
  obtain ⟨cs, hcs, rfl⟩ := List.mem_map.mp hword
  obtain ⟨hnonempty, hletters⟩ := Chars.of_mem_words hcs
  refine ⟨?_, ?_⟩
  · rw [Ne, ← String.toList_inj]
    simpa using hnonempty
  · simpa [hasBlank] using hletters

theorem Chars.words_of_letters {word : List Char} (hnonempty : word ≠ [])
    (hletters : ∀ c ∈ word, isBlank c = false) : words word = [word] := by
  induction word with
  | nil => exact absurd rfl hnonempty
  | cons c cs ih =>
      obtain ⟨hc, hrest⟩ := List.forall_mem_cons.mp hletters
      cases cs with
      | nil => simp [words, hc]
      | cons d cs =>
          rw [words_cons_letter_letter hc (hrest d (List.mem_cons_self ..)),
            ih (List.cons_ne_nil _ _) hrest, consFirst]

/-- Words that are joined by blanks are the words of the text. -/
theorem words_join {parts : List String} (hparts : ∀ word ∈ parts, IsWord word) :
    words (join " " parts) = parts := by
  have hspelled : Chars.words (List.intercalate [' '] (parts.map String.toList)) =
      parts.map String.toList := by
    induction parts with
    | nil => rfl
    | cons word rest ih =>
        obtain ⟨⟨hnonempty, hletters⟩, hrest⟩ := List.forall_mem_cons.mp hparts
        have hword : Chars.words word.toList = [word.toList] := by
          refine Chars.words_of_letters ?_ (by simpa [hasBlank] using hletters)
          rwa [Ne, ← String.toList_empty, String.toList_inj]
        cases rest with
        | nil => simpa using hword
        | cons next rest =>
            rw [List.map_cons, List.map_cons, List.intercalate_cons_cons, List.append_assoc,
              List.singleton_append, Chars.words_append_blank rfl, hword]
            exact congrArg _ (ih hrest)
  rw [words, join, String.toList_intercalate]
  exact (congrArg _ hspelled).trans (by simp)

/-! ## Joining fields -/

namespace Chars

variable {sep : Char} {part : List Char}

/-- What comes before the first separator is the first field. -/
theorem fields_append_sep (hfree : sep ∉ part) (after : List Char) :
    fields sep (part ++ sep :: after) = part :: fields sep after := by
  induction part with
  | nil => simp [fields]
  | cons c part ih =>
      obtain ⟨hc, hpart⟩ := not_or.mp (mt List.mem_cons.mpr hfree)
      rw [List.cons_append, fields, if_neg (Ne.symm hc), ih hpart, consFirst]

theorem fields_of_free (hfree : sep ∉ part) : fields sep part = [part] := by
  induction part with
  | nil => rfl
  | cons c part ih =>
      obtain ⟨hc, hpart⟩ := not_or.mp (mt List.mem_cons.mpr hfree)
      rw [fields, if_neg (Ne.symm hc), ih hpart, consFirst]

/-- Every separator cuts, so none is left in a field. -/
theorem not_mem_of_mem_fields {cs : List Char} (hpart : part ∈ fields sep cs) : sep ∉ part := by
  induction cs generalizing part with
  | nil =>
      obtain rfl : part = [] := by simpa [fields] using hpart
      exact List.not_mem_nil
  | cons c cs ih =>
      rw [fields] at hpart
      split at hpart
      · rcases List.mem_cons.mp hpart with rfl | hrest
        · exact List.not_mem_nil
        · exact ih hrest
      · next hc =>
          have hcons : ∀ letters, sep ∉ letters → sep ∉ c :: letters := fun _ hletters =>
            mt List.mem_cons.mp (not_or.mpr ⟨Ne.symm hc, hletters⟩)
          exact of_mem_consFirst (fun _ => ih) hcons (hcons [] List.not_mem_nil) hpart

end Chars

/-- Fields that are joined by a separator are the fields of the text. -/
theorem fields_join {sep : Char} {parts : List String} (hparts : parts ≠ [])
    (hfree : ∀ part ∈ parts, sep ∉ part.toList) :
    fields sep (join (String.singleton sep) parts) = parts := by
  have hjoined : Chars.fields sep (List.intercalate [sep] (parts.map String.toList)) =
      parts.map String.toList := by
    induction parts with
    | nil => exact absurd rfl hparts
    | cons part rest ih =>
        obtain ⟨hpart, hrest⟩ := List.forall_mem_cons.mp hfree
        cases rest with
        | nil => simpa using Chars.fields_of_free hpart
        | cons next rest =>
            rw [List.map_cons, List.map_cons, List.intercalate_cons_cons, List.append_assoc,
              List.singleton_append, Chars.fields_append_sep hpart]
            exact congrArg _ (ih (List.cons_ne_nil _ _) hrest)
  rw [fields, join, String.toList_intercalate, String.toList_singleton]
  exact (congrArg _ hjoined).trans (by simp)

end Text
end DevConsole
