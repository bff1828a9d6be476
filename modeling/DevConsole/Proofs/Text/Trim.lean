import DevConsole.Text.Blank
import Mathlib.Data.List.TakeWhile

/-!
# What trimming leaves

A text is what trimming leaves of a line if the line has nothing but blank characters around
it and it neither starts nor ends with one (`Text.Stripped`).  There is one such text for each
line, and `Text.trim` finds it (`Text.stripped_iff`).
-/

namespace DevConsole
namespace Text
namespace Chars

variable {p : Char → Bool} {cs blanks : List Char}

/-- What `trimEnd` takes off is in the class, and comes after what it leaves. -/
theorem trimEnd_append_reverse_takeWhile (p : Char → Bool) (cs : List Char) :
    trimEnd p cs ++ (cs.reverse.takeWhile p).reverse = cs := by
  unfold trimEnd
  rw [← List.reverse_append, List.takeWhile_append_dropWhile, List.reverse_reverse]

theorem trimEnd_prefix (p : Char → Bool) (cs : List Char) : trimEnd p cs <+: cs :=
  ⟨_, trimEnd_append_reverse_takeWhile p cs⟩

theorem trimStart_append (hblanks : ∀ c ∈ blanks, p c = true) (cs : List Char) :
    trimStart p (blanks ++ cs) = trimStart p cs :=
  List.dropWhile_append_of_pos hblanks

theorem trimEnd_append (hblanks : ∀ c ∈ blanks, p c = true) (cs : List Char) :
    trimEnd p (cs ++ blanks) = trimEnd p cs := by
  unfold trimEnd
  rw [List.reverse_append, List.dropWhile_append_of_pos]
  exact fun c hc => hblanks c (List.mem_reverse.mp hc)

theorem trimStart_eq_self (hfirst : ∀ c ∈ cs.head?, p c = false) : trimStart p cs = cs := by
  cases cs with
  | nil => rfl
  | cons c cs => exact List.dropWhile_cons_of_neg (by simp [hfirst c rfl])

theorem trimEnd_eq_self (hlast : ∀ c ∈ cs.getLast?, p c = false) : trimEnd p cs = cs := by
  have hreverse : trimStart p cs.reverse = cs.reverse :=
    trimStart_eq_self fun c hc => hlast c (by simpa using hc)
  unfold trimStart at hreverse
  rw [trimEnd, hreverse, List.reverse_reverse]

/-- What comes first stays, if it is not in the class. -/
theorem trimEnd_cons_of_neg {c : Char} (hc : p c = false) (cs : List Char) :
    trimEnd p (c :: cs) = c :: trimEnd p cs := by
  unfold trimEnd
  rw [List.reverse_cons, List.dropWhile_append]
  split
  · next hnone => simp [hc, List.isEmpty_iff.mp hnone]
  · simp

theorem head?_trimStart (p : Char → Bool) (cs : List Char) :
    ∀ c ∈ (trimStart p cs).head?, p c = false := by
  intro c hc
  have hfirst := List.head?_dropWhile_not p cs
  rw [trimStart] at hc
  rw [Option.mem_def.mp hc] at hfirst
  exact hfirst

theorem getLast?_trimEnd (p : Char → Bool) (cs : List Char) :
    ∀ c ∈ (trimEnd p cs).getLast?, p c = false := by
  intro c hc
  rw [trimEnd, List.getLast?_reverse] at hc
  exact head?_trimStart p cs.reverse c hc

/-- What comes first stays first, unless everything goes. -/
theorem head?_trimEnd (hfirst : ∀ c ∈ cs.head?, p c = false) :
    ∀ c ∈ (trimEnd p cs).head?, p c = false := by
  intro c hc
  refine hfirst c ?_
  rw [← trimEnd_append_reverse_takeWhile p cs, List.head?_append, Option.mem_def.mp hc]
  rfl

end Chars

/-- `text` is `line` without the blank characters at its ends. -/
structure Stripped (line text : String) : Prop where
  around : ∃ before after, line.toList = before ++ text.toList ++ after ∧
    (∀ c ∈ before, isBlank c = true) ∧ ∀ c ∈ after, isBlank c = true
  first : ∀ c ∈ text.toList.head?, isBlank c = false
  last : ∀ c ∈ text.toList.getLast?, isBlank c = false

theorem stripped_trim (line : String) : Stripped line (trim line) where
  around := by
    refine ⟨line.toList.takeWhile isBlank,
      ((Chars.trimStart isBlank line.toList).reverse.takeWhile isBlank).reverse, ?_, ?_, ?_⟩
    · rw [toList_trim, Chars.trim, List.append_assoc, Chars.trimEnd_append_reverse_takeWhile,
        Chars.trimStart, List.takeWhile_append_dropWhile]
    · exact fun c hc => List.mem_takeWhile_imp hc
    · exact fun c hc => List.mem_takeWhile_imp (List.mem_reverse.mp hc)
  first := by
    rw [toList_trim]
    exact Chars.head?_trimEnd (Chars.head?_trimStart isBlank line.toList)
  last := by
    rw [toList_trim]
    exact Chars.getLast?_trimEnd isBlank _

theorem Stripped.trim_eq {line text : String} (hstripped : Stripped line text) :
    trim line = text := by
  obtain ⟨⟨before, after, hline, hbefore, hafter⟩, hfirst, hlast⟩ := hstripped
  rw [← String.toList_inj, toList_trim, Chars.trim, hline, List.append_assoc,
    Chars.trimStart_append hbefore]
  cases htext : text.toList with
  | nil =>
      -- Then there are blank characters only.
      have hnothing : Chars.trimStart isBlank after = [] := by
        simpa [Chars.trimStart] using hafter
      rw [List.nil_append, hnothing]
      rfl
  | cons c cs =>
      rw [htext] at hfirst hlast
      have hstart : Chars.trimStart isBlank (c :: cs ++ after) = c :: cs ++ after :=
        Chars.trimStart_eq_self fun d hd => hfirst d hd
      rw [hstart, Chars.trimEnd_append hafter, Chars.trimEnd_eq_self hlast]

/-- Trimming leaves the one text that has nothing blank at its ends. -/
theorem stripped_iff {line text : String} : Stripped line text ↔ trim line = text :=
  ⟨Stripped.trim_eq, fun htrim => htrim ▸ stripped_trim line⟩

/-- Nothing is left to trim. -/
theorem Stripped.self {line text : String} (hstripped : Stripped line text) :
    Stripped text text :=
  ⟨⟨[], [], by simp, by simp, by simp⟩, hstripped.first, hstripped.last⟩

end Text
end DevConsole
