import DevConsole.Proofs.Text.Words

/-!
# Laying out words in a line

Words can be laid out in a line in many ways: with any blank characters before and after them,
and with at least one between neighbours (`Text.LaidOut`).  Every line is a layout of some words,
and of one list of words only: those that `Text.words` gives (`Text.laidOut_iff`).

A word of a line is a run of letters that is as long as it can be (`Text.IsRun`): what comes
before it ends with a blank character and what comes after it starts with one.  Conversely, every
such run is a word, and the words before and after it are those of the rest of the line
(`Text.words_eq_append_iff`).  Nothing but blank characters is lost (`Text.flatMap_words`).
-/

namespace DevConsole
namespace Text

/-- The line holds the given words in this order, with blank characters around and between
them. -/
inductive LaidOut : List String → String → Prop where
  | margin {blanks : String} (hblanks : isAllBlank blanks = true) : LaidOut [] blanks
  | word {before word gap after : String} {parts : List String}
      (hbefore : isAllBlank before = true) (hword : IsWord word)
      (hgap : isAllBlank gap = true) (hparted : parts ≠ [] → gap ≠ "")
      (hafter : LaidOut parts after) : LaidOut (word :: parts) (before ++ word ++ gap ++ after)

/-- A word between two parts of a line that no letter next to it belongs to. -/
structure IsRun (before word after : String) : Prop where
  word : IsWord word
  starts : ∀ c ∈ before.toList.getLast?, isBlank c = true
  ends : ∀ c ∈ after.toList.head?, isBlank c = true

variable {line text before word gap after : String} {parts : List String}

/-! ## Words at both sides of a blank character -/

theorem isBlank_of_mem (hblank : isAllBlank text = true) {c : Char} (hc : c ∈ text.toList) :
    isBlank c = true :=
  List.all_eq_true.mp hblank c hc

theorem words_append_of_head? (hends : ∀ c ∈ after.toList.head?, isBlank c = true)
    (text : String) : words (text ++ after) = words text ++ words after := by
  simp only [words, String.toList_append, ← List.map_append]
  congr 1
  cases hafter : after.toList with
  | nil => simp [Chars.words]
  | cons b rest =>
      rw [hafter] at hends
      rw [Chars.words_append_blank (hends b rfl), Chars.words_cons_blank (hends b rfl)]

theorem words_append_of_getLast? (hstarts : ∀ c ∈ before.toList.getLast?, isBlank c = true)
    (text : String) : words (before ++ text) = words before ++ words text := by
  simp only [words, String.toList_append, ← List.map_append]
  congr 1
  rcases List.eq_nil_or_concat before.toList with hnone | ⟨init, b, hbefore⟩
  · simp [hnone, Chars.words]
  · rw [List.concat_eq_append] at hbefore
    rw [hbefore, List.getLast?_concat] at hstarts
    rw [hbefore, List.append_assoc, List.singleton_append,
      Chars.words_append_blank (hstarts b rfl), Chars.words_append_blank (hstarts b rfl)]
    simp [Chars.words]

theorem words_append_of_blank (hblank : isAllBlank gap = true) (text : String) :
    words (gap ++ text) = words text := by
  rw [words_append_of_getLast? fun c hc => isBlank_of_mem hblank (List.mem_of_getLast? hc),
    isAllBlank_iff.mp hblank, List.nil_append]

theorem IsWord.words_eq (hword : IsWord word) : words word = [word] := by
  simpa [join] using words_join (List.forall_mem_singleton.mpr hword)

theorem IsRun.words_eq (hrun : IsRun before word after) :
    words (before ++ word ++ after) = words before ++ word :: words after := by
  rw [String.append_assoc, words_append_of_getLast? hrun.starts,
    words_append_of_head? hrun.ends, hrun.word.words_eq, List.singleton_append]

/-! ## Layouts -/

/-- A word that is parted from what follows is a run. -/
theorem isRun_of_gap (hbefore : isAllBlank before = true) (hword : IsWord word)
    (hgap : isAllBlank gap = true) (hparted : gap = "" → isAllBlank after = true) :
    IsRun before word (gap ++ after) where
  word := hword
  starts c hc := isBlank_of_mem hbefore (List.mem_of_getLast? hc)
  ends c hc := by
    cases hchars : gap.toList with
    | nil =>
        have hnone : gap = "" := String.toList_eq_nil_iff.mp hchars
        rw [hnone, String.empty_append] at hc
        exact isBlank_of_mem (hparted hnone) (List.mem_of_head? hc)
    | cons b rest =>
        rw [String.toList_append, hchars] at hc
        obtain rfl : b = c := by simpa using hc
        exact isBlank_of_mem hgap (by simp [hchars])

theorem LaidOut.isAllBlank (hlaid : LaidOut [] line) : isAllBlank line = true := by
  cases hlaid with
  | margin hblanks => exact hblanks

theorem LaidOut.isRun (hbefore : Text.isAllBlank before = true) (hword : IsWord word)
    (hgap : Text.isAllBlank gap = true) (hparted : parts ≠ [] → gap ≠ "")
    (hafter : LaidOut parts after) : IsRun before word (gap ++ after) := by
  refine isRun_of_gap hbefore hword hgap fun hnone => ?_
  obtain rfl : parts = [] := by
    by_contra hsome
    exact hparted hsome hnone
  exact hafter.isAllBlank

theorem LaidOut.words_eq (hlaid : LaidOut parts line) : words line = parts := by
  induction hlaid with
  | margin hblanks => exact isAllBlank_iff.mp hblanks
  | word hbefore hword hgap hparted hafter ih =>
      rw [String.append_assoc, (isRun hbefore hword hgap hparted hafter).words_eq,
        isAllBlank_iff.mp hbefore, words_append_of_blank hgap, ih, List.nil_append]

theorem isAllBlank_singleton_append {c : Char} (hblank : isBlank c = true)
    (htext : isAllBlank text = true) : isAllBlank (String.singleton c ++ text) = true := by
  simpa [Text.isAllBlank, hblank] using htext

theorem isWord_singleton {c : Char} (hletter : isBlank c = false) :
    IsWord (String.singleton c) := by
  refine ⟨fun hnone => ?_, by simpa [hasBlank] using hletter⟩
  simpa using congrArg String.toList hnone

theorem IsWord.singleton_append {c : Char} (hletter : isBlank c = false) (hword : IsWord word) :
    IsWord (String.singleton c ++ word) := by
  refine ⟨fun hnone => ?_, ?_⟩
  · simpa using congrArg String.toList hnone
  · simpa [hasBlank, hletter] using hword.2

/-- A layout that starts with its first word. -/
theorem LaidOut.of_word (hword : IsWord word) (hgap : Text.isAllBlank gap = true)
    (hparted : parts ≠ [] → gap ≠ "") (hafter : LaidOut parts after) :
    LaidOut (word :: parts) (word ++ gap ++ after) := by
  have hlaid : LaidOut (word :: parts) ("" ++ word ++ gap ++ after) :=
    .word rfl hword hgap hparted hafter
  rwa [String.empty_append] at hlaid

/-- With one more character in front a layout is a layout again.  A blank character goes into
the margin.  A letter starts a word of its own, unless it stands next to the first word. -/
theorem LaidOut.exists_cons (c : Char) (hlaid : LaidOut parts line) :
    ∃ more, LaidOut more (String.singleton c ++ line) := by
  cases hc : isBlank c with
  | true =>
      cases hlaid with
      | margin hblanks => exact ⟨_, .margin (isAllBlank_singleton_append hc hblanks)⟩
      | @word before word gap after parts hbefore hword hgap hparted hafter =>
          refine ⟨word :: parts, ?_⟩
          simp only [← String.append_assoc]
          exact .word (isAllBlank_singleton_append hc hbefore) hword hgap hparted hafter
  | false =>
      cases hlaid with
      | margin hblanks =>
          refine ⟨[String.singleton c], ?_⟩
          have hline := LaidOut.of_word (isWord_singleton hc) hblanks (absurd rfl)
            (.margin rfl : LaidOut [] "")
          rwa [String.append_empty] at hline
      | @word before word gap after parts hbefore hword hgap hparted hafter =>
          by_cases hnext : before = ""
          · refine ⟨(String.singleton c ++ word) :: parts, ?_⟩
            rw [hnext, String.empty_append, ← String.append_assoc, ← String.append_assoc]
            exact .of_word (hword.singleton_append hc) hgap hparted hafter
          · refine ⟨String.singleton c :: word :: parts, ?_⟩
            have hline : String.singleton c ++ (before ++ word ++ gap ++ after) =
                String.singleton c ++ before ++ (word ++ gap ++ after) := by
              simp only [String.append_assoc]
            rw [hline]
            exact .of_word (isWord_singleton hc) hbefore (fun _ => hnext)
              (.of_word hword hgap hparted hafter)

/-- Every line is a layout of words. -/
theorem exists_laidOut (line : String) : ∃ parts, LaidOut parts line := by
  suffices hchars : ∀ cs, ∃ parts, LaidOut parts (String.ofList cs) by
    simpa using hchars line.toList
  intro cs
  induction cs with
  | nil => exact ⟨[], .margin rfl⟩
  | cons c cs ih =>
      obtain ⟨parts, hlaid⟩ := ih
      have hcons : String.ofList (c :: cs) = String.singleton c ++ String.ofList cs := by
        apply String.toList_inj.mp
        simp
      rw [hcons]
      exact hlaid.exists_cons c

/-- A line is a layout of its words and of no other list of words. -/
theorem laidOut_iff : LaidOut parts line ↔ words line = parts := by
  refine ⟨LaidOut.words_eq, fun hwords => ?_⟩
  obtain ⟨found, hlaid⟩ := exists_laidOut line
  rwa [← hwords, hlaid.words_eq]

/-! ## What the words are of their line -/

/-- The letters of the words are those of the line. -/
theorem flatMap_words (line : String) :
    (words line).flatMap String.toList = line.toList.filter fun c => !isBlank c := by
  have hnothing {text : String} (hblank : Text.isAllBlank text = true) :
      text.toList.filter (fun c => !isBlank c) = [] := by
    simpa [Text.isAllBlank] using hblank
  have hletters {word : String} (hword : IsWord word) :
      word.toList.filter (fun c => !isBlank c) = word.toList := by
    simpa [hasBlank] using hword.2
  obtain ⟨parts, hlaid⟩ := exists_laidOut line
  rw [hlaid.words_eq]
  induction hlaid with
  | margin hblanks => exact (hnothing hblanks).symm
  | word hbefore hword hgap _ _ ih =>
      rw [List.flatMap_cons, ih]
      simp only [String.toList_append, List.filter_append, hnothing hbefore, hletters hword,
        hnothing hgap, List.nil_append, List.append_nil]

/-- A run stays one when more is put in front of it, with a gap in between. -/
theorem IsRun.append_left (hrun : IsRun before word after) (hgap : isAllBlank gap = true)
    (hnonempty : gap ≠ "") (text : String) : IsRun (text ++ (gap ++ before)) word after where
  word := hrun.word
  starts c hc := by
    obtain ⟨b, hgapEnd⟩ : ∃ b, gap.toList.getLast? = some b :=
      Option.isSome_iff_exists.mp
        (List.getLast?_isSome.mpr (mt String.toList_eq_nil_iff.mp hnonempty))
    rw [String.toList_append, String.toList_append, List.getLast?_append, List.getLast?_append,
      hgapEnd] at hc
    cases hlast : before.toList.getLast? with
    | none =>
        obtain rfl : b = c := by simpa [hlast] using hc
        exact isBlank_of_mem hgap (List.mem_of_getLast? hgapEnd)
    | some d =>
        obtain rfl : d = c := by simpa [hlast] using hc
        exact hrun.starts d hlast
  ends := hrun.ends

/-- A word of a line, with the words before and after it, is a run of the line, with the words
of what comes before and after it. -/
theorem words_eq_append_iff {left right : List String} :
    words line = left ++ word :: right ↔
      ∃ before after, line = before ++ word ++ after ∧ IsRun before word after ∧
        words before = left ∧ words after = right := by
  constructor
  · intro hwords
    have hlaid := laidOut_iff.mpr hwords
    clear hwords
    induction left generalizing line with
    | nil =>
        cases hlaid with
        | word hbefore hword hgap hparted hafter =>
            refine ⟨_, _, String.append_assoc, hafter.isRun hbefore hword hgap hparted,
              isAllBlank_iff.mp hbefore, ?_⟩
            rw [words_append_of_blank hgap, hafter.words_eq]
    | cons first left ih =>
        cases hlaid with
        | @word margin _ gap _ _ hmargin hfirst hgap hparted hafter =>
            -- The run is found behind the first word and its gap, which go in front of it.
            obtain ⟨before, after, rfl, hrun, hleft, hright⟩ := ih hafter
            have hnonempty : gap ≠ "" := hparted (by simp)
            have hparts : IsRun margin first (gap ++ before) :=
              isRun_of_gap hmargin hfirst hgap fun hnone => absurd hnone hnonempty
            refine ⟨margin ++ first ++ (gap ++ before), after, ?_,
              hrun.append_left hgap hnonempty _, ?_, hright⟩
            · simp only [String.append_assoc]
            · rw [hparts.words_eq, isAllBlank_iff.mp hmargin, words_append_of_blank hgap, hleft,
                List.nil_append]
  · rintro ⟨before, after, rfl, hrun, rfl, rfl⟩
    exact hrun.words_eq

end Text
end DevConsole
