import DevConsole.Ansi

/-!
# Stripping text

A control sequence is an escape character and an opening bracket, then parameters, then a final
letter (`IsSequence`).  The scanner finds exactly these (`afterSequence?_eq_some_iff`).

Where texts are put together, the first may leave a sequence unfinished that the second goes on
with.  It cannot if the second begins with a character that no sequence goes on with
(`breaksOff`): there both are stripped apart (`stripChars_append`).  The escape character is such
a character, so the sequences that colours put around a text vanish, whatever the text is
(`strip_colorize`).
-/

namespace DevConsole
namespace Ansi

/-- An escape character, an opening bracket, parameters and a final letter. -/
def IsSequence (cs : List Char) : Prop :=
  ∃ parameters final, (∀ c ∈ parameters, isParameter c = true) ∧ isFinal final = true ∧
    cs = escape :: '[' :: (parameters ++ [final])

/-- Whether no sequence goes on with `c` once it has begun. -/
def breaksOff (c : Char) : Bool :=
  c != '[' && !isParameter c && !isFinal c

variable {c d : Char} {cs rest s t : List Char}

/-! ## Finding a sequence -/

/-- No letter is a parameter. -/
theorem isParameter_eq_false_of_isFinal (hfinal : isFinal c = true) : isParameter c = false := by
  have hletter : 65 ≤ c.val.toNat := by
    simp only [isFinal, Bool.or_eq_true, Bool.and_eq_true, decide_eq_true_eq, Char.le_def,
      UInt32.le_iff_toNat_le] at hfinal
    rcases hfinal with ⟨hlow, -⟩ | ⟨hlow, -⟩
    · exact hlow
    · exact Nat.le_trans (by decide) hlow
  rw [Bool.eq_false_iff]
  intro hparameter
  simp only [isParameter, Bool.or_eq_true, Bool.and_eq_true, decide_eq_true_eq, beq_iff_eq,
    Char.le_def, UInt32.le_iff_toNat_le] at hparameter
  rcases hparameter with ⟨-, hhigh⟩ | rfl
  · exact absurd (Nat.le_trans hletter hhigh) (by decide)
  · exact absurd hletter (by decide)

theorem afterParameters?_eq_some_iff :
    afterParameters? cs = some rest ↔
      ∃ parameters final, (∀ c ∈ parameters, isParameter c = true) ∧ isFinal final = true ∧
        cs = parameters ++ final :: rest := by
  induction cs with
  | nil => simp [afterParameters?]
  | cons c cs ih =>
      simp only [afterParameters?]
      split
      · next hparameter =>
          rw [ih]
          constructor
          · rintro ⟨parameters, final, hall, hfinal, rfl⟩
            exact ⟨c :: parameters, final, by simpa [hparameter] using hall, hfinal, rfl⟩
          · rintro ⟨parameters, final, hall, hfinal, heq⟩
            cases parameters with
            | nil =>
                obtain ⟨rfl, -⟩ := List.cons.inj heq
                rw [isParameter_eq_false_of_isFinal hfinal] at hparameter
                cases hparameter
            | cons first others =>
                obtain ⟨-, rfl⟩ := List.cons.inj heq
                exact ⟨others, final, (List.forall_mem_cons.mp hall).2, hfinal, rfl⟩
      · next hother =>
          constructor
          · intro hrest
            split at hrest
            · next hfinal =>
                exact ⟨[], c, List.forall_mem_nil _, hfinal, by rw [Option.some.inj hrest]; rfl⟩
            · cases hrest
          · rintro ⟨parameters, final, hall, hfinal, heq⟩
            cases parameters with
            | nil =>
                obtain ⟨rfl, rfl⟩ := List.cons.inj heq
                rw [if_pos hfinal]
            | cons first others =>
                obtain ⟨rfl, -⟩ := List.cons.inj heq
                exact absurd (hall c List.mem_cons_self) hother

theorem afterSequence?_introduced (cs : List Char) :
    afterSequence? (escape :: '[' :: cs) = afterParameters? cs := by
  rw [afterSequence?, if_pos ⟨rfl, rfl⟩]

theorem afterSequence?_eq_some_iff :
    afterSequence? cs = some rest ↔ ∃ sequence, IsSequence sequence ∧ cs = sequence ++ rest := by
  constructor
  · intro hrest
    unfold afterSequence? at hrest
    split at hrest
    · next first second tail =>
        split at hrest
        · next hopens =>
            obtain ⟨rfl, rfl⟩ := hopens
            obtain ⟨parameters, final, hall, hfinal, rfl⟩ := afterParameters?_eq_some_iff.mp hrest
            exact ⟨_, ⟨parameters, final, hall, hfinal, rfl⟩, by simp⟩
        · cases hrest
    · cases hrest
  · rintro ⟨_, ⟨parameters, final, hall, hfinal, rfl⟩, rfl⟩
    rw [List.cons_append, List.cons_append, afterSequence?_introduced]
    exact afterParameters?_eq_some_iff.mpr ⟨parameters, final, hall, hfinal, by simp⟩

/-! ## Where a sequence breaks off -/

theorem breaksOff_escape : breaksOff escape = true := by decide

theorem afterParameters?_append (hbreaks : breaksOff c = true) :
    afterParameters? (s ++ c :: t) = (afterParameters? s).map (· ++ c :: t) := by
  simp only [breaksOff, Bool.and_eq_true, Bool.not_eq_true'] at hbreaks
  induction s with
  | nil => simp [afterParameters?, hbreaks]
  | cons first others ih =>
      simp only [List.cons_append, afterParameters?, ih]
      split
      · rfl
      · split <;> rfl

/-- A sequence that has begun before such a character is finished before it. -/
theorem afterSequence?_append (hbreaks : breaksOff c = true) (hbegun : s ≠ []) :
    afterSequence? (s ++ c :: t) = (afterSequence? s).map (· ++ c :: t) := by
  match s with
  | [] => exact absurd rfl hbegun
  | [first] =>
      have hbracket : c ≠ '[' := by
        rintro rfl
        simp [breaksOff] at hbreaks
      simp [afterSequence?, hbracket]
  | first :: second :: others =>
      simp only [List.cons_append, afterSequence?]
      split
      · exact afterParameters?_append hbreaks
      · rfl

/-! ## Stripping -/

@[simp] theorem stripChars_nil : stripChars [] = [] := by
  rw [stripChars]

theorem stripChars_of_some (hrest : afterSequence? cs = some rest) :
    stripChars cs = stripChars rest := by
  cases cs with
  | nil => simp [afterSequence?] at hrest
  | cons c cs =>
      rw [stripChars]
      split
      · next hsame => rw [Option.some.inj (hsame.symm.trans hrest)]
      · next hnone => cases hnone.symm.trans hrest

theorem stripChars_of_none (hnone : afterSequence? (c :: cs) = none) :
    stripChars (c :: cs) = c :: stripChars cs := by
  rw [stripChars]
  split
  · next hsome => cases hsome.symm.trans hnone
  · rfl

theorem stripChars_cons_of_ne (hother : c ≠ escape) :
    stripChars (c :: cs) = c :: stripChars cs := by
  refine stripChars_of_none ?_
  cases cs <;> simp [afterSequence?, hother]

/-- Characters in front stay if none of them is an escape character. -/
theorem stripChars_append_of_forall_ne (hothers : ∀ c ∈ s, c ≠ escape) (t : List Char) :
    stripChars (s ++ t) = s ++ stripChars t := by
  induction s with
  | nil => rfl
  | cons first others ih =>
      obtain ⟨hfirst, hrest⟩ := List.forall_mem_cons.mp hothers
      rw [List.cons_append, stripChars_cons_of_ne hfirst, ih hrest, List.cons_append]

/-- A sequence in front vanishes. -/
theorem stripChars_sequence_append (hsequence : IsSequence s) :
    stripChars (s ++ t) = stripChars t :=
  stripChars_of_some (afterSequence?_eq_some_iff.mpr ⟨s, hsequence, rfl⟩)

/-- Two texts are stripped apart if no sequence goes on with the first character of the second. -/
theorem stripChars_append (hbreaks : breaksOff c = true) (s t : List Char) :
    stripChars (s ++ c :: t) = stripChars s ++ stripChars (c :: t) := by
  fun_induction stripChars s with
  | case1 => rfl
  | case2 first others rest hrest ih =>
      have hfound := afterSequence?_append (t := t) hbreaks (List.cons_ne_nil first others)
      rw [hrest, Option.map_some] at hfound
      rw [stripChars_of_some hfound, ih]
  | case3 first others hnone ih =>
      have hfound := afterSequence?_append (t := t) hbreaks (List.cons_ne_nil first others)
      rw [hnone, Option.map_none] at hfound
      exact (stripChars_of_none hfound).trans (congrArg (first :: ·) ih)

/-- So are they if there is no such character because the second is empty. -/
theorem stripChars_append_of_head? (hbreaks : ∀ c ∈ t.head?, breaksOff c = true) (s : List Char) :
    stripChars (s ++ t) = stripChars s ++ stripChars t := by
  cases t with
  | nil => simp
  | cons c t => exact stripChars_append (hbreaks c rfl) s t

@[simp] theorem toList_strip (text : String) : (strip text).toList = stripChars text.toList := by
  rw [strip, String.toList_ofList]

/-! ## Colours -/

theorem isSequence_of_afterSequence? (hall : afterSequence? cs = some []) : IsSequence cs := by
  obtain ⟨sequence, hsequence, rfl⟩ := afterSequence?_eq_some_iff.mp hall
  rwa [List.append_nil]

theorem isSequence_of_mem_styles : ∀ style ∈ styles, IsSequence style.2.toList := by
  have hall : ∀ style ∈ styles, afterSequence? style.2.toList = some [] := by decide
  exact fun style hstyle => isSequence_of_afterSequence? (hall style hstyle)

theorem isSequence_of_lookup {name code : String} (hstyle : styles.lookup name = some code) :
    IsSequence code.toList := by
  obtain ⟨before, after, hsplit, -⟩ := List.lookup_eq_some_iff.mp hstyle
  exact isSequence_of_mem_styles (name, code) (hsplit ▸ List.mem_append_cons_self)

/-- Sequences in front vanish. -/
theorem stripChars_join_append {codes : List String}
    (hcodes : ∀ code ∈ codes, IsSequence code.toList) (t : List Char) :
    stripChars ((String.join codes).toList ++ t) = stripChars t := by
  induction codes with
  | nil => rfl
  | cons code others ih =>
      obtain ⟨hcode, hothers⟩ := List.forall_mem_cons.mp hcodes
      rw [String.join_cons, String.toList_append, List.append_assoc,
        stripChars_sequence_append hcode, ih hothers]

/-- The reset behind a text vanishes: it begins with an escape character, so nothing that the
text leaves unfinished goes on with it. -/
theorem stripChars_append_reset (s : List Char) :
    stripChars (s ++ reset.toList) = stripChars s := by
  have hreset : reset.toList = escape :: ['[', '0', 'm'] := by decide
  have hsequence : afterSequence? (escape :: ['[', '0', 'm']) = some [] := by decide
  rw [hreset, stripChars_append breaksOff_escape, stripChars_of_some hsequence, stripChars_nil,
    List.append_nil]

/-- **Colours are invisible.**  A text in colours shows what the text shows, whatever sequences,
whole or unfinished, are in it, and whatever the names of the styles. -/
theorem strip_colorize (text : String) (names : List String) :
    strip (colorize text names) = strip text := by
  have hcodes : ∀ code ∈ names.filterMap fun name => styles.lookup name,
      IsSequence code.toList := by
    intro code hcode
    obtain ⟨name, -, hstyle⟩ := List.mem_filterMap.mp hcode
    exact isSequence_of_lookup hstyle
  unfold colorize
  dsimp only
  split
  · rfl
  · rw [← String.toList_inj, toList_strip, toList_strip, String.toList_append,
      String.toList_append, List.append_assoc, stripChars_join_append hcodes,
      stripChars_append_reset]

end Ansi
end DevConsole
