/-!
# Blank characters

Which characters separate words, and trimming them off the ends of a text.  The class is that of
Unicode white space together with the four information separators U+001C to U+001F; it does not
hold the zero-width space U+200B or the byte order mark U+FEFF.
-/

namespace DevConsole.Text

/-- Whether `c` separates words. -/
def isBlank (c : Char) : Bool :=
  let n := c.toNat
  (9 ≤ n && n ≤ 13) || (28 ≤ n && n ≤ 32) || n == 0x85 || n == 0xA0 || n == 0x1680 ||
    (0x2000 ≤ n && n ≤ 0x200A) || n == 0x2028 || n == 0x2029 || n == 0x202F || n == 0x205F ||
    n == 0x3000

namespace Chars

/-- `cs` without the characters of the class `p` at its start. -/
def trimStart (p : Char → Bool) (cs : List Char) : List Char :=
  cs.dropWhile p

/-- `cs` without the characters of the class `p` at its end. -/
def trimEnd (p : Char → Bool) (cs : List Char) : List Char :=
  (cs.reverse.dropWhile p).reverse

/-- `cs` without blank characters at either end. -/
def trim (cs : List Char) : List Char :=
  trimEnd isBlank (trimStart isBlank cs)

end Chars

/-- `s` without blank characters at its start. -/
def trimLeft (s : String) : String :=
  String.ofList (Chars.trimStart isBlank s.toList)

/-- `s` without blank characters at either end. -/
def trim (s : String) : String :=
  String.ofList (Chars.trim s.toList)

/-- Whether every character of `s` is blank. -/
def isAllBlank (s : String) : Bool :=
  s.toList.all isBlank

/-- Whether some character of `s` is blank. -/
def hasBlank (s : String) : Bool :=
  s.toList.any isBlank

/-- Whether `s` starts with `start`. -/
def startsWith (s start : String) : Bool :=
  start.toList.isPrefixOf s.toList

@[simp] theorem toList_trim (s : String) : (trim s).toList = Chars.trim s.toList := by
  simp [trim]

@[simp] theorem toList_trimLeft (s : String) :
    (trimLeft s).toList = s.toList.dropWhile isBlank := by
  simp [trimLeft, Chars.trimStart]

theorem startsWith_iff {s start : String} :
    startsWith s start = true ↔ start.toList <+: s.toList := by
  simp [startsWith]

end DevConsole.Text
