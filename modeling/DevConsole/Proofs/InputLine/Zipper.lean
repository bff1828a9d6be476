import DevConsole.InputLine

/-!
# The input line is a bounded zipper

The reference (`Zipper`) keeps the text before the cursor and the text after it.  Each edit
works at the end of the one or at the start of the other, and moving the cursor shifts
characters across.

A zipper stands for the line whose text is both of its texts and whose cursor is behind the
first (`Zipper.line`).  The operations of the line are those of the zipper, with the same
answers (`Zipper.apply_line`), and they stay within the cap (`Zipper.Fits.apply`).  Hence every
run of a line is a run of the zipper (`refines_zipper`).
-/

namespace DevConsole

namespace InputLine

/-- An operation on an input line. -/
inductive Op where
  | insert (text : String)
  | backspace
  | delete
  | move (left : Bool)
  | home
  | goToEnd
  | setText (text : String)
  | clear
  | take

/-- What an operation answers: nothing, whether it has changed the line, a text, or why it is
refused. -/
inductive Answer where
  | nothing
  | changed (changed : Bool)
  | text (text : String)
  | refused (fault : Fault)
  deriving DecidableEq

/-- The answer of one operation, and the line after it. -/
def apply (line : InputLine) : Op → Answer × InputLine
  | .insert text =>
    match line.insertText text with
    | .ok (changed, next) => (.changed changed, next)
    | .error fault => (.refused fault, line)
  | .backspace => (.changed line.backspace.1, line.backspace.2)
  | .delete => (.changed line.delete.1, line.delete.2)
  | .move left => (.nothing, line.move left)
  | .home => (.nothing, line.home)
  | .goToEnd => (.nothing, line.goToEnd)
  | .setText text => (.nothing, line.setText text)
  | .clear => (.nothing, line.clear)
  | .take => (.text line.take.1, line.take.2)

/-- The line after a run. -/
def edited (line : InputLine) (ops : List Op) : InputLine :=
  ops.foldl (fun line op => (line.apply op).2) line

/-- The answers of a run. -/
def answers : InputLine → List Op → List Answer
  | _, [] => []
  | line, op :: rest => (line.apply op).1 :: answers (line.apply op).2 rest

/-- A text of one character is that character. -/
theorem exists_toList_eq {text : String} (hone : text.length = 1) :
    ∃ c, text.toList = [c] := by
  rw [← String.length_toList, List.length_eq_one_iff] at hone
  exact hone

theorem toList_ne_singleton {text : String} (hother : text.length ≠ 1) (c : Char) :
    text.toList ≠ [c] := by
  intro hc
  rw [← String.length_toList, hc] at hother
  exact hother rfl

theorem insertText_of_length {text : String} (hother : text.length ≠ 1) (line : InputLine) :
    line.insertText text = .error (.notOneCharacter text) := by
  unfold insertText
  split
  · next c hc => exact absurd hc (toList_ne_singleton hother c)
  · rfl

end InputLine

open InputLine (Op Answer)

/-- The texts before and after a cursor. -/
@[ext]
structure Zipper where
  left : List Char
  right : List Char

namespace Zipper

/-- The zipper without text. -/
def empty : Zipper := ⟨[], []⟩

/-- The answer of one operation, and the zipper after it, if the text has room for `cap`
characters. -/
def apply (cap : Nat) (z : Zipper) : Op → Answer × Zipper
  | .insert text =>
    match text.toList with
    | [c] =>
      if z.left.length + z.right.length < cap then
        (.changed true, { z with left := z.left ++ [c] })
      else (.changed false, z)
    | _ => (.refused (.notOneCharacter text), z)
  | .backspace =>
    if z.left = [] then (.changed false, z)
    else (.changed true, { z with left := z.left.dropLast })
  | .delete =>
    if z.right = [] then (.changed false, z)
    else (.changed true, { z with right := z.right.tail })
  | .move true => (.nothing, ⟨z.left.dropLast, z.left.getLast?.toList ++ z.right⟩)
  | .move false => (.nothing, ⟨z.left ++ z.right.head?.toList, z.right.tail⟩)
  | .home => (.nothing, ⟨[], z.left ++ z.right⟩)
  | .goToEnd => (.nothing, ⟨z.left ++ z.right, []⟩)
  | .setText text => (.nothing, ⟨text.toList.take cap, []⟩)
  | .clear => (.nothing, empty)
  | .take => (.text (String.ofList (z.left ++ z.right)), empty)

/-- The zipper after a run. -/
def edited (cap : Nat) (z : Zipper) (ops : List Op) : Zipper :=
  ops.foldl (fun z op => (z.apply cap op).2) z

/-- The answers of a run. -/
def answers (cap : Nat) : Zipper → List Op → List Answer
  | _, [] => []
  | z, op :: rest => (z.apply cap op).1 :: answers cap (z.apply cap op).2 rest

/-- The characters of both texts. -/
def chars (z : Zipper) : List Char :=
  z.left ++ z.right

/-- Both texts together are within the cap. -/
def Fits (cap : Nat) (z : Zipper) : Prop :=
  z.chars.length ≤ cap

/-- The line that a zipper stands for. -/
def line (cap : Nat) (prompt : String) (z : Zipper) : InputLine where
  cap := cap
  prompt := prompt
  chars := z.chars
  cursor := z.left.length

variable {cap : Nat} {prompt : String} {z : Zipper}

/-! ## One operation -/

theorem length_chars (z : Zipper) : z.chars.length = z.left.length + z.right.length :=
  List.length_append

theorem insert_line (z : Zipper) (c : Char) :
    (z.line cap prompt).insert c =
      if z.left.length + z.right.length < cap then
        (true, Zipper.line cap prompt { z with left := z.left ++ [c] })
      else (false, z.line cap prompt) := by
  by_cases hroom : z.left.length + z.right.length < cap
  · have hfull : ¬ cap ≤ z.left.length + z.right.length := by omega
    simp [InputLine.insert, line, chars, hroom, hfull]
  · have hfull : cap ≤ z.left.length + z.right.length := by omega
    simp [InputLine.insert, line, chars, hroom, hfull]

theorem backspace_line (z : Zipper) :
    (z.line cap prompt).backspace =
      if z.left = [] then (false, z.line cap prompt)
      else (true, Zipper.line cap prompt { z with left := z.left.dropLast }) := by
  obtain ⟨left, right⟩ := z
  rcases List.eq_nil_or_concat left with rfl | ⟨before, c, rfl⟩
  · simp [InputLine.backspace, line]
  · simp [InputLine.backspace, line, chars]

theorem delete_line (z : Zipper) :
    (z.line cap prompt).delete =
      if z.right = [] then (false, z.line cap prompt)
      else (true, Zipper.line cap prompt { z with right := z.right.tail }) := by
  obtain ⟨left, right⟩ := z
  cases right with
  | nil => simp [InputLine.delete, line, chars]
  | cons c rest =>
      have hmore : ¬ left.length + (rest.length + 1) ≤ left.length := by omega
      simp [InputLine.delete, line, chars, hmore, List.drop_append]

/-- Moving the cursor leaves the text as it is. -/
theorem chars_move (cap : Nat) (z : Zipper) (left : Bool) :
    (z.apply cap (.move left)).2.chars = z.chars := by
  obtain ⟨before, after⟩ := z
  cases left with
  | true =>
      rcases List.eq_nil_or_concat before with rfl | ⟨before, c, rfl⟩
      · rfl
      · simp [apply, chars]
  | false =>
      cases after with
      | nil => simp [apply, chars]
      | cons c rest => simp [apply, chars]

theorem move_line (z : Zipper) (left : Bool) :
    (z.line cap prompt).move left = (z.apply cap (.move left)).2.line cap prompt := by
  have hcursor : ((z.line cap prompt).move left).cursor =
      (z.apply cap (.move left)).2.left.length := by
    obtain ⟨before, after⟩ := z
    cases left with
    | true => simp [InputLine.move, line, apply]
    | false => cases after <;> simp [InputLine.move, line, apply, chars]
  -- The text is the same, so it is a matter of the cursor.
  have hmoved : (z.apply cap (.move left)).2.line cap prompt =
      ⟨cap, prompt, z.chars, (z.apply cap (.move left)).2.left.length⟩ := by
    rw [line, chars_move]
  rw [hmoved, ← hcursor]
  rfl

theorem apply_insert_of_length {text : String} (hother : text.length ≠ 1) (cap : Nat)
    (z : Zipper) : z.apply cap (.insert text) = (.refused (.notOneCharacter text), z) := by
  simp only [apply]
  split
  · next c hc => exact absurd hc (InputLine.toList_ne_singleton hother c)
  · rfl

/-- An operation on the line is the operation on the zipper. -/
theorem apply_line (z : Zipper) (op : Op) :
    (z.line cap prompt).apply op =
      ((z.apply cap op).1, (z.apply cap op).2.line cap prompt) := by
  cases op with
  | insert text =>
      by_cases hone : text.length = 1
      · obtain ⟨c, hc⟩ := InputLine.exists_toList_eq hone
        simp only [InputLine.apply, InputLine.insertText, apply, hc, insert_line]
        split <;> rfl
      · simp only [InputLine.apply, InputLine.insertText_of_length hone,
          apply_insert_of_length hone]
  | backspace =>
      simp only [InputLine.apply, backspace_line, apply]
      split <;> rfl
  | delete =>
      simp only [InputLine.apply, delete_line, apply]
      split <;> rfl
  | move left =>
      simp only [InputLine.apply, move_line]
      cases left <;> rfl
  | home | clear | take => rfl
  | goToEnd => simp [InputLine.apply, InputLine.goToEnd, apply, line, chars]
  | setText text => simp [InputLine.apply, InputLine.setText, apply, line, chars]

theorem line_inj {other : Zipper} :
    z.line cap prompt = other.line cap prompt ↔ z = other := by
  refine ⟨?_, fun hsame => hsame ▸ rfl⟩
  intro hsame
  obtain ⟨-, -, hchars, hcursor⟩ := InputLine.mk.inj hsame
  obtain ⟨hleft, hright⟩ := List.append_inj hchars hcursor
  exact Zipper.ext hleft hright

/-- No operation leaves more text than there is room for. -/
theorem Fits.apply (hfits : z.Fits cap) (op : Op) : (z.apply cap op).2.Fits cap := by
  unfold Fits at hfits ⊢
  cases op with
  | move left => rwa [chars_move]
  | home => exact hfits
  | goToEnd => simpa [Zipper.apply, chars] using hfits
  | clear | take => exact Nat.zero_le cap
  | setText text =>
      simp only [Zipper.apply, chars, List.append_nil, List.length_take]
      omega
  | insert text =>
      by_cases hone : text.length = 1
      · obtain ⟨c, hc⟩ := InputLine.exists_toList_eq hone
        simp only [Zipper.apply, hc]
        split
        · simp only [length_chars, List.length_append, List.length_singleton]
          omega
        · exact hfits
      · rwa [apply_insert_of_length hone]
  | backspace =>
      simp only [Zipper.apply]
      split
      · exact hfits
      · simp only [length_chars, List.length_dropLast] at hfits ⊢
        omega
  | delete =>
      simp only [Zipper.apply]
      split
      · exact hfits
      · simp only [length_chars, List.length_tail] at hfits ⊢
        omega

/-- An edit answers `false` exactly when it leaves both texts as they are. -/
theorem apply_changed_iff {op : Op} {changed : Bool}
    (hanswer : (z.apply cap op).1 = .changed changed) :
    changed = false ↔ (z.apply cap op).2 = z := by
  obtain ⟨left, right⟩ := z
  cases op with
  | insert text =>
      by_cases hone : text.length = 1
      · obtain ⟨c, hc⟩ := InputLine.exists_toList_eq hone
        simp only [apply, hc] at hanswer ⊢
        split at hanswer <;> next hroom =>
          obtain rfl := Answer.changed.inj hanswer
          simp [hroom]
      · rw [apply_insert_of_length hone] at hanswer
        cases hanswer
  | backspace =>
      rcases List.eq_nil_or_concat left with rfl | ⟨before, c, rfl⟩
      · obtain rfl : false = changed := Answer.changed.inj hanswer
        simp [apply]
      · obtain rfl : true = changed := by simpa [apply] using hanswer
        simp [apply]
  | delete =>
      cases right with
      | nil =>
          obtain rfl : false = changed := Answer.changed.inj hanswer
          simp [apply]
      | cons c rest =>
          obtain rfl : true = changed := by simpa [apply] using hanswer
          simp [apply]
  | move toLeft => cases toLeft <;> cases hanswer
  | home | goToEnd | setText | clear | take => cases hanswer

/-- Backspace takes back what was put in. -/
theorem backspace_insert {text : String}
    (hanswer : (z.apply cap (.insert text)).1 = .changed true) :
    (z.apply cap (.insert text)).2.apply cap .backspace = (.changed true, z) := by
  by_cases hone : text.length = 1
  · obtain ⟨c, hc⟩ := InputLine.exists_toList_eq hone
    simp only [apply, hc] at hanswer ⊢
    split at hanswer
    · next hroom => simp [hroom]
    · cases hanswer
  · rw [apply_insert_of_length hone] at hanswer
    cases hanswer

/-! ## Runs -/

theorem edited_line (ops : List Op) :
    ∀ z : Zipper, (z.line cap prompt).edited ops = (z.edited cap ops).line cap prompt := by
  induction ops with
  | nil => exact fun _ => rfl
  | cons op rest ih =>
      intro z
      rw [InputLine.edited, List.foldl_cons, apply_line]
      exact ih _

theorem answers_line (ops : List Op) :
    ∀ z : Zipper, (z.line cap prompt).answers ops = z.answers cap ops := by
  induction ops with
  | nil => exact fun _ => rfl
  | cons op rest ih =>
      intro z
      rw [InputLine.answers, answers, apply_line, ih]

theorem Fits.edited (ops : List Op) :
    ∀ {z : Zipper}, z.Fits cap → (z.edited cap ops).Fits cap := by
  induction ops with
  | nil => exact fun hfits => hfits
  | cons op rest ih => exact fun hfits => ih (hfits.apply op)

/-! ## Observations -/

/-- What a line shows, in terms of the texts on both sides of its cursor, and that it is
within its cap. -/
structure Shows (cap : Nat) (line : InputLine) (z : Zipper) : Prop where
  text_eq : line.text = String.ofList z.left ++ String.ofList z.right
  cursor_eq : line.cursor = z.left.length
  cap_eq : line.cap = cap
  cursor_le : line.cursor ≤ line.length
  length_le : line.length ≤ cap

theorem shows_line (hfits : z.Fits cap) : Shows cap (z.line cap prompt) z where
  text_eq := String.ofList_append
  cursor_eq := rfl
  cap_eq := rfl
  cursor_le := by simp [line, InputLine.length, chars]
  length_le := hfits

end Zipper

namespace InputLine

open Zipper (Shows)

/-- **The input line is a bounded zipper.**  A line with any positive cap can be made, and
after every run it shows the texts of the zipper after the same run; the answers of the run are
those of the zipper.  An edit answers `false` exactly when it changes nothing.  A text that is
not one character is refused, and nothing is changed then.  Backspace undoes an insertion. -/
theorem refines_zipper (cap : Nat) (prompt : String) (hpos : 1 ≤ cap) :
    ∃ start, empty? cap prompt = .ok start ∧ ∀ ops,
      let line := start.edited ops
      Shows cap line (Zipper.empty.edited cap ops) ∧
      start.answers ops = Zipper.empty.answers cap ops ∧
      (∀ op changed, (line.apply op).1 = .changed changed →
        (changed = false ↔ (line.apply op).2 = line)) ∧
      (∀ text, text.length ≠ 1 →
        line.apply (.insert text) = (.refused (.notOneCharacter text), line)) ∧
      ∀ text, (line.apply (.insert text)).1 = .changed true →
        (line.apply (.insert text)).2.apply .backspace = (.changed true, line) := by
  refine ⟨Zipper.empty.line cap prompt, ?_, ?_⟩
  · have hlarge : ¬ (cap : Int) < 1 := by omega
    rw [empty?, if_neg hlarge]
    rfl
  · intro ops
    dsimp only
    have hfits : (Zipper.empty.edited cap ops).Fits cap := Zipper.Fits.edited ops (Nat.zero_le cap)
    rw [Zipper.edited_line, Zipper.answers_line]
    generalize Zipper.empty.edited cap ops = z at hfits
    refine ⟨Zipper.shows_line hfits, rfl, ?_, ?_, ?_⟩
    · intro op changed hanswer
      rw [Zipper.apply_line] at hanswer ⊢
      exact (Zipper.apply_changed_iff hanswer).trans Zipper.line_inj.symm
    · intro text hother
      rw [Zipper.apply_line, Zipper.apply_insert_of_length hother]
    · intro text hanswer
      rw [Zipper.apply_line] at hanswer ⊢
      rw [Zipper.apply_line, Zipper.backspace_insert hanswer]

/-- Edits in the middle of a full line. -/
theorem refines_zipper_full_line :
    ∃ start, empty? 3 "> " = .ok start ∧
      start.answers [.insert "a", .insert "ñ", .insert "", .insert "b", .move true, .insert "c",
        .delete, .delete, .backspace, .insert "ß", .take] =
        [.changed true, .changed true, .refused (.notOneCharacter ""), .changed true, .nothing,
          .changed false, .changed true, .changed false, .changed true, .changed true,
          .text "aß"] := by
  obtain ⟨start, hmade, hruns⟩ := refines_zipper 3 "> " (by decide)
  obtain ⟨-, hanswers, -⟩ := hruns [.insert "a", .insert "ñ", .insert "", .insert "b", .move true,
    .insert "c", .delete, .delete, .backspace, .insert "ß", .take]
  refine ⟨start, hmade, hanswers.trans ?_⟩
  decide +kernel

end InputLine
end DevConsole
