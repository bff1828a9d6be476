import DevConsole.Text.Blank

/-!
# Cutting a text into pieces

Three ways to cut: at blank characters into words (no piece is empty), at a separator into fields
(every separator cuts, so there is always at least one field), and at line boundaries into lines
(a boundary ends a line, so a final one starts no further line).
-/

namespace DevConsole.Text

/-- Whether `c` ends a line. -/
def isLineBreak (c : Char) : Bool :=
  let n := c.toNat
  (10 ≤ n && n ≤ 13) || (28 ≤ n && n ≤ 30) || n == 0x85 || n == 0x2028 || n == 0x2029

namespace Chars

/-- Puts `c` in front of the first piece. -/
def consFirst (c : Char) : List (List Char) → List (List Char)
  | [] => [[c]]
  | piece :: rest => (c :: piece) :: rest

/-- The maximal runs of characters that are not blank. -/
def words : List Char → List (List Char)
  | [] => []
  | c :: cs =>
    if isBlank c then words cs
    else
      match cs with
      | [] => [[c]]
      | d :: _ => if isBlank d then [c] :: words cs else consFirst c (words cs)

/-- The fields between the occurrences of `sep`. -/
def fields (sep : Char) : List Char → List (List Char)
  | [] => [[]]
  | c :: cs => if c = sep then [] :: fields sep cs else consFirst c (fields sep cs)

/-- The lines, without what ends them. A carriage return and a line feed end one line together. -/
def lines : List Char → List (List Char)
  | [] => []
  | '\r' :: '\n' :: cs => [] :: lines cs
  | c :: cs => if isLineBreak c then [] :: lines cs else consFirst c (lines cs)

/-- Every carriage return, with or without a line feed after it, becomes a line feed. -/
def universalNewlines : List Char → List Char
  | [] => []
  | '\r' :: '\n' :: cs => '\n' :: universalNewlines cs
  | c :: cs => (if c = '\r' then '\n' else c) :: universalNewlines cs

end Chars

/-- The maximal runs of characters of `s` that are not blank. -/
def words (s : String) : List String :=
  (Chars.words s.toList).map String.ofList

/-- The fields of `s` between the occurrences of `sep`. -/
def fields (sep : Char) (s : String) : List String :=
  (Chars.fields sep s.toList).map String.ofList

/-- The lines of `s`, without what ends them. -/
def lines (s : String) : List String :=
  (Chars.lines s.toList).map String.ofList

/-- The items of `parts` with `sep` between neighbours. -/
def join (sep : String) (parts : List String) : String :=
  sep.intercalate parts

end DevConsole.Text
