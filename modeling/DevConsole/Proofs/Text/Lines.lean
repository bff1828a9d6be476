import DevConsole.Text.Pieces

/-!
# Rows of a text

Rows that are written one below the other, with one or more line breaks after each
(`Text.Chars.Rows`), are the lines of the text if they hold no breaks themselves, apart from
empty lines between them.  What makes nothing of an empty line therefore finds in the lines
what it finds in the rows (`Rows.filterMap_lines`).  A break can be any of the characters that
end a line; it makes no difference whether they are put in the form of line feeds first
(`lines_universalNewlines`).
-/

namespace DevConsole.Text

/-- What ends a line is blank. -/
theorem isBlank_of_isLineBreak {c : Char} (hbreak : isLineBreak c = true) : isBlank c = true := by
  simp only [isLineBreak, isBlank, Bool.or_eq_true, Bool.and_eq_true, decide_eq_true_eq,
    beq_iff_eq] at hbreak ⊢
  omega

namespace Chars

/-- `text` consists of the given rows with line breaks after each. The last row may end with the
text. -/
inductive Rows : List (List Char) → List Char → Prop where
  | nil : Rows [] []
  | last (row : List Char) : Rows [row] row
  | cons (row : List Char) {ends text : List Char} {rows : List (List Char)} (hended : ends ≠ [])
      (hends : ∀ c ∈ ends, isLineBreak c = true) (hrest : Rows rows text) :
      Rows (row :: rows) (row ++ (ends ++ text))

/-- Rows that are each ended by a line feed. -/
theorem rows_flatMap (rows : List (List Char)) : Rows rows (rows.flatMap (· ++ ['\n'])) := by
  induction rows with
  | nil => exact .nil
  | cons row rest ih =>
      rw [List.flatMap_cons, List.append_assoc]
      exact .cons row (List.cons_ne_nil _ _) (List.forall_mem_singleton.mpr rfl) ih

/-! ## The first line -/

theorem lines_cons_of_free {c : Char} (hfree : isLineBreak c = false) (cs : List Char) :
    lines (c :: cs) = consFirst c (lines cs) := by
  rw [lines, hfree]
  · rfl
  · rintro rest rfl -
    cases hfree

/-- A character before an ended line comes first in it. -/
theorem lines_append_of_free {row cs line : List Char} {others : List (List Char)}
    (hrow : ∀ c ∈ row, isLineBreak c = false) (hlines : lines cs = line :: others) :
    lines (row ++ cs) = (row ++ line) :: others := by
  induction row with
  | nil => exact hlines
  | cons c row ih =>
      obtain ⟨hc, hrest⟩ := List.forall_mem_cons.mp hrow
      rw [List.cons_append, lines_cons_of_free hc, ih hrest]
      rfl

theorem lines_of_free {c : Char} {row : List Char}
    (hrow : ∀ d ∈ c :: row, isLineBreak d = false) : lines (c :: row) = [c :: row] := by
  induction row generalizing c with
  | nil => rw [lines_cons_of_free (hrow c List.mem_cons_self)]; rfl
  | cons d row ih =>
      obtain ⟨hc, hrest⟩ := List.forall_mem_cons.mp hrow
      rw [lines_cons_of_free hc, ih hrest]
      rfl

/-- A break ends an empty line, unless it is a carriage return with its line feed to come. -/
theorem lines_cons_of_unpaired {b : Char} (hbreak : isLineBreak b = true) {cs : List Char}
    (hunpaired : ∀ rest, b = '\r' → cs = '\n' :: rest → False) :
    lines (b :: cs) = [] :: lines cs := by
  rw [lines, if_pos hbreak]
  exact hunpaired

theorem lines_cons_feed (cs : List Char) : lines ('\n' :: cs) = [] :: lines cs :=
  lines_cons_of_unpaired rfl fun _ hreturn => nomatch hreturn

/-- Of the lines after a break, the first is left out if it is empty and the break is a carriage
return before a line feed. -/
theorem lines_cons_of_break {b : Char} (hbreak : isLineBreak b = true) (cs : List Char) :
    ∃ others, lines (b :: cs) = [] :: others ∧
      (lines cs = others ∨ lines cs = [] :: others) := by
  by_cases hpair : ∃ rest, b = '\r' ∧ cs = '\n' :: rest
  · obtain ⟨rest, rfl, rfl⟩ := hpair
    exact ⟨lines rest, by rw [lines], Or.inr (lines_cons_feed rest)⟩
  · have hunpaired : ∀ rest, b = '\r' → cs = '\n' :: rest → False :=
      fun rest hreturn hfeed => hpair ⟨rest, hreturn, hfeed⟩
    exact ⟨lines cs, lines_cons_of_unpaired hbreak hunpaired, Or.inl rfl⟩

/-! ## Rows and lines -/

section Found

variable {β : Type} {find : List Char → Option β}

theorem filterMap_lines_breaks (hempty : find [] = none) {ends : List Char}
    (hends : ∀ c ∈ ends, isLineBreak c = true) (cs : List Char) :
    (lines (ends ++ cs)).filterMap find = (lines cs).filterMap find := by
  induction ends with
  | nil => rfl
  | cons b ends ih =>
      obtain ⟨hb, hrest⟩ := List.forall_mem_cons.mp hends
      obtain ⟨others, hlines, hafter⟩ := lines_cons_of_break hb (ends ++ cs)
      rw [← ih hrest, List.cons_append, hlines, List.filterMap_cons_none hempty]
      rcases hafter with hsame | hmore
      · rw [hsame]
      · rw [hmore, List.filterMap_cons_none hempty]

theorem filterMap_lines_of_free (hempty : find [] = none) {row : List Char}
    (hrow : ∀ c ∈ row, isLineBreak c = false) :
    (lines row).filterMap find = [row].filterMap find := by
  cases row with
  | nil => simp [lines, hempty]
  | cons c row => rw [lines_of_free hrow]

/-- What is found in the lines is what is found in the rows. -/
theorem Rows.filterMap_lines {rows : List (List Char)} {text : List Char} (hrows : Rows rows text)
    (hfree : ∀ row ∈ rows, ∀ c ∈ row, isLineBreak c = false) (hempty : find [] = none) :
    (lines text).filterMap find = rows.filterMap find := by
  induction hrows with
  | nil => rfl
  | last row => exact filterMap_lines_of_free hempty (hfree row List.mem_cons_self)
  | @cons row ends text rows hended hends _ ih =>
      obtain ⟨hrow, hrest⟩ := List.forall_mem_cons.mp hfree
      obtain ⟨b, ends, rfl⟩ := List.exists_cons_of_ne_nil hended
      obtain ⟨others, hlines, -⟩ := lines_cons_of_break (hends b List.mem_cons_self) (ends ++ text)
      have hothers : others.filterMap find = rows.filterMap find := by
        rw [← ih hrest, ← filterMap_lines_breaks hempty hends text, List.cons_append, hlines,
          List.filterMap_cons_none hempty]
      rw [List.cons_append, lines_append_of_free hrow hlines, List.append_nil, List.filterMap_cons,
        List.filterMap_cons, hothers]

end Found

/-- Line breaks of another form end the same lines. -/
theorem lines_universalNewlines (cs : List Char) : lines (universalNewlines cs) = lines cs := by
  fun_induction universalNewlines cs with
  | case1 => rfl
  | case2 cs ih => rw [lines_cons_feed, ih, lines]
  | case3 c cs hunpaired ih =>
      by_cases hreturn : c = '\r'
      · rw [if_pos hreturn, lines_cons_feed, ih]
        exact (lines_cons_of_unpaired (hreturn ▸ rfl) hunpaired).symm
      · -- The character is kept, so it is read as before.
        rw [if_neg hreturn, lines, lines, ih]
        · exact hunpaired
        · exact fun _ hsame => absurd hsame hreturn

end Chars
end DevConsole.Text
