import DevConsole.Logger
import DevConsole.Proofs.Ansi.Strip
import Mathlib.Logic.Basic

/-!
# What stripping leaves

Stripping goes over a text once.  A sequence that has whole sequences between its characters
(`HasNested`) is not found, since the inner ones break it off.  They are removed, and what is left
of it is a sequence.  In no other way does stripping leave a sequence (`plain_stripChars_iff`).

A text is left as it is exactly if there is no sequence in it (`stripChars_eq_self_iff`).  What
the logger writes to its file and to a stream without colours is stripped once, so it can have
sequences in it for this one reason (`stripped_plain_iff`).
-/

namespace DevConsole
namespace Ansi

/-- No control sequence stands in the characters. -/
def Plain (cs : List Char) : Prop :=
  ∀ sequence, IsSequence sequence → ¬ sequence <:+: cs

/-- The characters begin with a control sequence. -/
def Opens (cs : List Char) : Prop :=
  ∃ sequence, IsSequence sequence ∧ sequence <+: cs

/-- `text` has the characters of `cs` in order, with whole sequences in front of some of them. -/
inductive Spread : (cs text : List Char) → Prop where
  | nil : Spread [] []
  | char (c : Char) {cs text : List Char} (hrest : Spread cs text) : Spread (c :: cs) (c :: text)
  | sequence {s text : List Char} {c : Char} {cs : List Char} (hsequence : IsSequence s)
      (hrest : Spread (c :: cs) text) : Spread (c :: cs) (s ++ text)

/-- A control sequence stands in the characters with whole sequences inside it. -/
def HasNested (cs : List Char) : Prop :=
  ∃ before inner spread after, cs = before ++ escape :: (spread ++ after) ∧
    IsSequence (escape :: inner) ∧ Spread inner spread ∧ spread ≠ inner

variable {c : Char} {cs rest inner spread after : List Char}

theorem not_opens_iff : ¬ Opens cs ↔ afterSequence? cs = none := by
  rw [Option.eq_none_iff_forall_ne_some]
  constructor
  · intro hopens rest hrest
    obtain ⟨sequence, hsequence, rfl⟩ := afterSequence?_eq_some_iff.mp hrest
    exact hopens ⟨sequence, hsequence, List.prefix_append sequence rest⟩
  · rintro hnone ⟨sequence, hsequence, rest, rfl⟩
    exact hnone rest (afterSequence?_eq_some_iff.mpr ⟨sequence, hsequence, rfl⟩)

theorem plain_nil : Plain [] := by
  rintro _ ⟨parameters, final, -, -, rfl⟩ hwithin
  cases List.infix_nil.mp hwithin

theorem plain_cons_iff : Plain (c :: cs) ↔ ¬ Opens (c :: cs) ∧ Plain cs := by
  simp only [Plain, Opens, List.infix_cons_iff]
  constructor
  · intro hplain
    refine ⟨?_, fun sequence hsequence hwithin => hplain sequence hsequence (.inr hwithin)⟩
    rintro ⟨sequence, hsequence, hbegins⟩
    exact hplain sequence hsequence (.inl hbegins)
  · rintro ⟨hopens, hplain⟩ sequence hsequence (hbegins | hwithin)
    · exact hopens ⟨sequence, hsequence, hbegins⟩
    · exact hplain sequence hsequence hwithin

/-! ## Texts that stay as they are -/

theorem length_stripChars_le (cs : List Char) : (stripChars cs).length ≤ cs.length := by
  fun_induction stripChars cs with
  | case1 => exact Nat.le_refl 0
  | case2 c cs rest hrest ih =>
      exact Nat.le_of_lt (Nat.lt_of_le_of_lt ih (length_of_afterSequence? hrest))
  | case3 c cs hnone ih => exact Nat.succ_le_succ ih

theorem stripChars_eq_self_iff : stripChars cs = cs ↔ Plain cs := by
  induction cs with
  | nil => simp [plain_nil]
  | cons c cs ih =>
      rw [plain_cons_iff, not_opens_iff]
      cases hfound : afterSequence? (c :: cs) with
      | none => simp [stripChars_of_none hfound, ih]
      | some rest =>
          -- A sequence is removed, and nothing makes up for it.
          have hshorter := length_of_afterSequence? hfound
          have hleft := length_stripChars_le rest
          simp only [stripChars_of_some hfound, reduceCtorEq, false_and, iff_false]
          intro hsame
          rw [hsame] at hleft
          omega

/-! ## Nested sequences -/

theorem isSequence_cons_iff :
    IsSequence (escape :: inner) ↔
      ∃ parameters final, (∀ c ∈ parameters, isParameter c = true) ∧ isFinal final = true ∧
        inner = '[' :: (parameters ++ [final]) := by
  simp only [IsSequence, List.cons.injEq, true_and]

/-- Inside a sequence there is no escape character. -/
theorem ne_escape_of_mem (hsequence : IsSequence (escape :: inner)) (hc : c ∈ inner) :
    c ≠ escape := by
  obtain ⟨parameters, final, hall, hfinal, rfl⟩ := isSequence_cons_iff.mp hsequence
  rintro rfl
  simp only [List.mem_cons, List.mem_append, List.not_mem_nil, or_false] at hc
  rcases hc with hbracket | hparameter | rfl
  · exact absurd hbracket (by decide)
  · exact absurd (hall escape hparameter) (by decide)
  · exact absurd hfinal (by decide)

/-- Characters that stay lose the sequences among them. -/
theorem Spread.stripChars_append (hspread : Spread cs spread) (hothers : ∀ c ∈ cs, c ≠ escape)
    (after : List Char) : stripChars (spread ++ after) = cs ++ stripChars after := by
  induction hspread with
  | nil => rfl
  | char c _ ih =>
      obtain ⟨hc, hcs⟩ := List.forall_mem_cons.mp hothers
      rw [List.cons_append, stripChars_cons_of_ne hc, ih hcs, List.cons_append]
  | sequence hsequence _ ih =>
      rw [List.append_assoc, stripChars_sequence_append hsequence, ih hothers]

/-- Without a sequence among them the characters are as they are.  The first sequence has some of
them in front. -/
theorem Spread.eq_or_exists_escape (hspread : Spread cs spread) :
    spread = cs ∨ ∃ front tail, front <+: cs ∧ front ≠ cs ∧ spread = front ++ escape :: tail := by
  induction hspread with
  | nil => exact .inl rfl
  | char c _ ih =>
      rcases ih with rfl | ⟨front, tail, hfront, hother, rfl⟩
      · exact .inl rfl
      · exact .inr ⟨c :: front, tail, List.cons_prefix_cons.mpr ⟨rfl, hfront⟩,
          fun hsame => hother (List.cons.inj hsame).2, rfl⟩
  | sequence hsequence _ _ =>
      obtain ⟨parameters, final, -, -, rfl⟩ := hsequence
      exact .inr ⟨[], _, List.nil_prefix, (List.cons_ne_nil _ _).symm, rfl⟩

theorem afterParameters?_eq_none (hall : ∀ c ∈ cs, isParameter c = true) :
    afterParameters? cs = none := by
  induction cs with
  | nil => rfl
  | cons c cs ih =>
      obtain ⟨hc, hcs⟩ := List.forall_mem_cons.mp hall
      rw [afterParameters?, if_pos hc, ih hcs]

/-- The beginning of a sequence is no sequence. -/
theorem afterSequence?_eq_none {front : List Char} (hsequence : IsSequence (escape :: inner))
    (hfront : front <+: inner) (hother : front ≠ inner) :
    afterSequence? (escape :: front) = none := by
  obtain ⟨parameters, final, hall, -, rfl⟩ := isSequence_cons_iff.mp hsequence
  rcases List.prefix_cons_iff.mp hfront with rfl | ⟨front, rfl, hbegins⟩
  · rfl
  · rw [afterSequence?_introduced]
    rcases List.prefix_concat_iff.mp hbegins with rfl | hparameters
    · exact absurd rfl hother
    · exact afterParameters?_eq_none fun c hc => hall c (hparameters.subset hc)

/-- Stripping makes a sequence of one that has others inside it. -/
theorem HasNested.not_plain (hnested : HasNested cs) : ¬ Plain (stripChars cs) := by
  obtain ⟨before, inner, spread, after, rfl, hsequence, hspread, hsome⟩ := hnested
  have hnone : afterSequence? (escape :: (spread ++ after)) = none := by
    rcases hspread.eq_or_exists_escape with hsame | ⟨front, tail, hfront, hother, rfl⟩
    · exact absurd hsame hsome
    · rw [List.append_assoc, List.cons_append, ← List.cons_append,
        afterSequence?_append breaksOff_escape (List.cons_ne_nil _ _),
        afterSequence?_eq_none hsequence hfront hother, Option.map_none]
  have hothers : ∀ c ∈ inner, c ≠ escape := fun c hc => ne_escape_of_mem hsequence hc
  rw [stripChars_append breaksOff_escape, stripChars_of_none hnone,
    hspread.stripChars_append hothers]
  intro hplain
  exact hplain (escape :: inner) hsequence ⟨stripChars before, stripChars after, by simp⟩

/-- What stripping leaves first stood in the text with sequences among it. -/
theorem exists_spread {kept more : List Char} (hkept : stripChars cs = kept ++ more) :
    ∃ spread after, cs = spread ++ after ∧ Spread kept spread := by
  fun_induction stripChars cs generalizing kept with
  | case1 =>
      obtain ⟨rfl, -⟩ := List.append_eq_nil_iff.mp hkept.symm
      exact ⟨[], [], rfl, .nil⟩
  | case2 c cs rest hrest ih =>
      obtain ⟨sequence, hsequence, hsplit⟩ := afterSequence?_eq_some_iff.mp hrest
      cases kept with
      | nil => exact ⟨[], c :: cs, rfl, .nil⟩
      | cons k ks =>
          obtain ⟨spread, after, rfl, hspread⟩ := ih hkept
          exact ⟨sequence ++ spread, after, by rw [hsplit, List.append_assoc],
            .sequence hsequence hspread⟩
  | case3 c cs hnone ih =>
      cases kept with
      | nil => exact ⟨[], c :: cs, rfl, .nil⟩
      | cons k ks =>
          obtain ⟨rfl, hks⟩ := List.cons.inj hkept
          obtain ⟨spread, after, rfl, hspread⟩ := ih hks
          exact ⟨c :: spread, after, rfl, .char c hspread⟩

/-- A sequence that is there only after stripping had others inside it. -/
theorem hasNested_of_opens (hbefore : ¬ Opens (c :: cs)) (hafter : Opens (c :: stripChars cs)) :
    HasNested (c :: cs) := by
  obtain ⟨sequence, hsequence, more, hsplit⟩ := hafter
  obtain ⟨parameters, final, -, -, rfl⟩ := id hsequence
  obtain ⟨rfl, hkept⟩ := List.cons.inj hsplit
  obtain ⟨spread, after, rfl, hspread⟩ := exists_spread hkept.symm
  refine ⟨[], _, spread, after, rfl, hsequence, hspread, ?_⟩
  rintro rfl
  exact hbefore ⟨_, hsequence, List.prefix_append _ after⟩

theorem HasNested.append_left (hnested : HasNested cs) (front : List Char) :
    HasNested (front ++ cs) := by
  obtain ⟨before, inner, spread, after, rfl, hnested⟩ := hnested
  exact ⟨front ++ before, inner, spread, after, (List.append_assoc _ _ _).symm, hnested⟩

theorem hasNested_of_not_plain (hsome : ¬ Plain (stripChars cs)) : HasNested cs := by
  fun_induction stripChars cs with
  | case1 => exact absurd plain_nil hsome
  | case2 c cs rest hrest ih =>
      obtain ⟨sequence, -, hsplit⟩ := afterSequence?_eq_some_iff.mp hrest
      rw [hsplit]
      exact (ih hsome).append_left sequence
  | case3 c cs hnone ih =>
      rw [plain_cons_iff, not_and_or, not_not] at hsome
      rcases hsome with hopens | hlater
      · exact hasNested_of_opens (not_opens_iff.mpr hnone) hopens
      · exact (ih hlater).append_left [c]

theorem plain_stripChars_iff : Plain (stripChars cs) ↔ ¬ HasNested cs :=
  ⟨fun hplain hnested => hnested.not_plain hplain,
    fun hnever => by_contra fun hsome => hnever (hasNested_of_not_plain hsome)⟩

/-! ## Texts -/

/-- No control sequence stands in the text. -/
def IsPlain (text : String) : Prop :=
  Plain text.toList

theorem isPlain_strip_iff (text : String) : IsPlain (strip text) ↔ ¬ HasNested text.toList := by
  rw [IsPlain, toList_strip, plain_stripChars_iff]

/-- **What stripping leaves.**  A stripped text is free of control sequences exactly if no
sequence stands in the text with others inside it, and exactly if stripping it again changes
nothing.  So it is with what a logger writes to a stream without colours, and with what it writes
to its file. -/
theorem stripped_plain_iff (text : String) :
    (IsPlain (strip text) ↔ ¬ HasNested text.toList) ∧
      (IsPlain (strip text) ↔ strip (strip text) = strip text) ∧
      (∀ (logger : Logger) (level : Int) (message : String),
        IsPlain (Logger.streamText { logger with coloured := false } level message) ↔
          ¬ HasNested (Logger.record level message).toList) ∧
      ∀ (time source : String) (level : Int) (message : String),
        IsPlain (Logger.fileText time source level message) ↔
          ¬ HasNested s!"{time} [{Level.name level}] {source}: {message}".toList := by
  refine ⟨isPlain_strip_iff text, ?_, fun _ _ _ => isPlain_strip_iff _,
    fun _ _ _ _ => isPlain_strip_iff _⟩
  rw [← String.toList_inj, toList_strip (strip text), IsPlain]
  exact stripChars_eq_self_iff.symm

/-- The sequence that is removed stands inside another one, which is then written to a stream
without colours. -/
theorem strip_leaves_sequence :
    strip "\x1b[\x1b[0m31mred" = "\x1b[31mred" ∧
      ¬ IsPlain (strip "\x1b[\x1b[0m31mred") ∧
      Logger.streamText .fresh Level.info "\x1b[\x1b[0m31mred" = "[INFO] \x1b[31mred" := by
  have hstripped : strip "\x1b[\x1b[0m31mred" = "\x1b[31mred" := by decide +kernel
  refine ⟨hstripped, ?_, by decide +kernel⟩
  rw [hstripped]
  intro hplain
  exact hplain "\x1b[31m".toList (isSequence_of_afterSequence? (by decide))
    ⟨[], "red".toList, by decide⟩

end Ansi
end DevConsole
