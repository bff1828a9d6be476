import DevConsole.Text.CaseData

/-!
# Case folding and case mapping

Folding and the upper-case mapping go character by character: a text maps to the concatenation of
the forms of its characters, so the form of `s ++ t` is the form of `s` followed by that of `t`.
The lower-case mapping does the same but for the capital sigma, whose form depends on its place.
-/

namespace DevConsole.Text

/-- The code point that `n` moves to in this run, if the run holds it. -/
def CaseRun.image? (run : CaseRun) (n : Nat) : Option Nat :=
  if run.first ≤ n ∧ n ≤ run.last ∧ (n - run.first) % run.step = 0 then
    some (n + run.shift).toNat
  else none

/-- The form of one character. -/
def CaseMap.char (mapping : CaseMap) (c : Char) : List Char :=
  match mapping.runs.findSome? (·.image? c.toNat) with
  | some n => [Char.ofNat n]
  | none =>
    match mapping.longer.lookup c.toNat with
    | some form => form.map Char.ofNat
    | none => [c]

/-- The folded form of one character.  Two characters are the same up to case when their folded
forms are equal. -/
def foldChar (c : Char) : List Char :=
  if c.toNat < 128 then [if 65 ≤ c.toNat ∧ c.toNat ≤ 90 then Char.ofNat (c.toNat + 32) else c]
  else foldMap.char c

/-- The folded form of a text: two texts are the same up to case when their folded forms are
equal. -/
def fold (s : String) : String :=
  String.ofList (s.toList.flatMap foldChar)

/-- The upper-case form of a text. -/
def upper (s : String) : String :=
  String.ofList (s.toList.flatMap upperMap.char)

/-- Whether a character lies in one of some runs of code points. -/
def isIn (runs : List (Nat × Nat)) (c : Char) : Bool :=
  runs.any fun (first, last) => first ≤ c.toNat && c.toNat ≤ last

/-- Whether the first of some characters that cannot stand inside a word has a case. -/
def meetsCased (cs : List Char) : Bool :=
  ((cs.dropWhile (isIn ignorableRuns)).head?.map (isIn casedRuns)).getD false

/-- The lower-case forms of characters that come after those in `before`, the nearest of which is
the first.  A capital sigma becomes the final small sigma if it ends a word. -/
def lowerFrom : (before : List Char) → List Char → List Char
  | _, [] => []
  | before, 'Σ' :: cs =>
    (if meetsCased before && !meetsCased cs then 'ς' else 'σ') :: lowerFrom ('Σ' :: before) cs
  | before, c :: cs => lowerMap.char c ++ lowerFrom (c :: before) cs

/-- The lower-case form of a text. -/
def lower (s : String) : String :=
  String.ofList (lowerFrom [] s.toList)

/-- A sigma is final at the end of a word only. -/
example : lower "ΟΔΟΣ ΣΑΣ' Σ" = "οδος σας' σ" := by decide +kernel

@[simp] theorem toList_fold (s : String) : (fold s).toList = s.toList.flatMap foldChar := by
  simp [fold]

theorem fold_append (s t : String) : fold (s ++ t) = fold s ++ fold t := by
  apply String.toList_inj.mp
  simp

end DevConsole.Text
