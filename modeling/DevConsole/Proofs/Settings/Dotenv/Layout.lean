import DevConsole.Proofs.Settings.Dotenv.Reading
import DevConsole.Proofs.Text.Trim

/-!
# Values in a `.env` file

A `.env` file is laid out in rows (`Row`): assignments, comments and blank rows.  A value is
written in quotes or as it is, with blanks where the file may have them.  From rows whose
values neither start nor end with a blank as they are written, the names and the values are
read back up to the quotes around a value (`assigned_of_rows`).

Main statements: values in quotes are read back as they are (`quoted_values_kept`), and values
without quotes around them are unless they are nothing but a quote (`bare_value_kept_iff`).
-/

namespace DevConsole.Settings.Dotenv

open Text (isBlank isLineBreak)

/-! ## Rows -/

/-- Blank characters on a line. -/
structure Gap where
  chars : List Char
  blank : ∀ c ∈ chars, isBlank c = true
  unbroken : ∀ c ∈ chars, isLineBreak c = false

/-- A gap of characters that are checked one by one. -/
def Gap.of (chars : List Char)
    (hchecked : (chars.all fun c => isBlank c && !isLineBreak c) = true) : Gap where
  chars := chars
  blank := fun c hc => (Bool.and_eq_true_iff.mp (List.all_eq_true.mp hchecked c hc)).1
  unbroken := fun c hc => by
    simpa using (Bool.and_eq_true_iff.mp (List.all_eq_true.mp hchecked c hc)).2

/-- The blanks around the parts of an assignment. -/
structure Gaps where
  beforeName : Gap
  afterName : Gap
  beforeValue : Gap
  afterValue : Gap

/-- A name of ASCII letters, digits and underscores that does not start with a digit. -/
structure Identifier where
  first : Char
  rest : List Char
  first_letter : first.isAlpha = true ∨ first = '_'
  rest_letters : ∀ c ∈ rest, c.isAlphanum = true ∨ c = '_'

/-- The characters of a name. -/
def Identifier.chars (name : Identifier) : List Char :=
  name.first :: name.rest

/-- A text without line breaks. -/
structure Piece where
  text : String
  unbroken : ∀ c ∈ text.toList, isLineBreak c = false

/-- A piece of characters that are checked one by one. -/
def Piece.of (text : String) (hchecked : (text.toList.all fun c => !isLineBreak c) = true) :
    Piece where
  text := text
  unbroken := fun c hc => by simpa using List.all_eq_true.mp hchecked c hc

/-- The two kinds of quotes. -/
inductive Quote where
  | single
  | double

/-- The character of a quote. -/
def Quote.char : Quote → Char
  | single => '\''
  | double => '"'

/-- A text in quotes. -/
def Quote.enclose (quote : Quote) (cs : List Char) : List Char :=
  quote.char :: (cs ++ [quote.char])

/-- A row of a file. The value of an assignment stands in quotes or by itself. -/
inductive Row where
  | blank (gap : Gap)
  | comment (gap : Gap) (note : Piece)
  | entry (gaps : Gaps) (name : Identifier) (quote? : Option Quote) (value : Piece)

/-- A value as it is written. -/
def written (quote? : Option Quote) (value : Piece) : List Char :=
  match quote? with
  | some quote => quote.enclose value.text.toList
  | none => value.text.toList

/-- An assignment with blanks around its parts. -/
def Gaps.line (gaps : Gaps) (name : Identifier) (shown : List Char) : List Char :=
  gaps.beforeName.chars ++ (name.chars ++ (gaps.afterName.chars ++
    '=' :: (gaps.beforeValue.chars ++ shown ++ gaps.afterValue.chars)))

namespace Row

/-- The characters of a row. -/
def line : Row → List Char
  | blank gap => gap.chars
  | comment gap note => gap.chars ++ '#' :: note.text.toList
  | entry gaps name quote? value => gaps.line name (written quote? value)

/-- The name and the value that a row is meant to assign. -/
def pair? : Row → Option (String × String)
  | entry _ name _ value => some (String.ofList name.chars, value.text)
  | _ => none

/-- The name that a row assigns to, and the value as it is written without the quotes around it. -/
def read? : Row → Option (String × String)
  | entry _ name quote? value =>
    some (String.ofList name.chars, String.ofList (unquote (written quote? value)))
  | _ => none

/-- As it is written, the value of a row has no blanks at its ends. -/
def IsTight : Row → Prop
  | entry _ _ quote? value =>
    (∀ c ∈ (written quote? value).head?, isBlank c = false) ∧
      ∀ c ∈ (written quote? value).getLast?, isBlank c = false
  | _ => True

/-- If the row is an assignment, its value stands in quotes. -/
def IsQuoted : Row → Prop
  | entry _ _ quote? _ => quote?.isSome = true
  | _ => True

/-- If the row is an assignment, its value stands by itself: it has no blanks at its ends and is
not itself a text in quotes. -/
def IsBare : Row → Prop
  | entry _ _ quote? value =>
    quote? = none ∧ Text.trim value.text = value.text ∧
      ∀ quote : Quote, ∀ cs, value.text.toList ≠ quote.enclose cs
  | _ => True

end Row

/-! ## Assignments -/

/-- Letters and digits lie between `0` and `z`. -/
theorem toNat_of_isAlphanum {c : Char} (hletter : c.isAlphanum = true) :
    48 ≤ c.toNat ∧ c.toNat ≤ 122 := by
  change (decide ('A'.val ≤ c.val ∧ c.val ≤ 'Z'.val) ||
    (decide ('a'.val ≤ c.val) && decide (c.val ≤ 'z'.val)) ||
    (decide ('0'.val ≤ c.val) && decide (c.val ≤ '9'.val))) = true at hletter
  simp only [Bool.or_eq_true, Bool.and_eq_true, decide_eq_true_eq,
    UInt32.le_iff_toNat_le] at hletter
  change ((65 ≤ c.toNat ∧ c.toNat ≤ 90) ∨ 97 ≤ c.toNat ∧ c.toNat ≤ 122) ∨
    48 ≤ c.toNat ∧ c.toNat ≤ 57 at hletter
  omega

theorem isNameChar_of_isBlank {c : Char} (hblank : isBlank c = true) : isNameChar c = false := by
  have hranges : ∀ range ∈ Text.blankRanges, range.2 < 48 ∨ 122 < range.1 := by decide
  obtain ⟨range, hrange, hfirst, hlast⟩ := (Text.isBlank_iff c).mp hblank
  have hoff := hranges range hrange
  rw [← Bool.not_eq_true]
  intro hname
  have hcode : 48 ≤ c.toNat ∧ c.toNat ≤ 122 := by
    rcases Bool.or_eq_true_iff.mp hname with hletter | hline
    · exact toNat_of_isAlphanum hletter
    · rw [beq_iff_eq.mp hline]
      decide
  omega

theorem Identifier.isNameChar (name : Identifier) :
    ∀ c ∈ name.chars, Dotenv.isNameChar c = true := by
  refine List.forall_mem_cons.mpr ⟨?_, ?_⟩
  · rcases name.first_letter with hletter | hline
    · have halphanum : name.first.isAlphanum = true := Bool.or_eq_true_iff.mpr (Or.inl hletter)
      simp [Dotenv.isNameChar, halphanum]
    · simp [Dotenv.isNameChar, hline]
  · intro c hc
    simpa [Dotenv.isNameChar] using name.rest_letters c hc

/-- An assignment is read up to the blanks before its value. -/
theorem assignment?_of_parts (name : Identifier) {gap : List Char}
    (hgap : ∀ c ∈ gap, isBlank c = true) (rest : List Char) :
    assignment? (name.chars ++ (gap ++ '=' :: rest)) =
      some (name.chars, unquote (rest.dropWhile isBlank)) := by
  have hstart : isNameStart name.first = true := by
    simpa [isNameStart] using name.first_letter
  have hafter : (gap ++ '=' :: rest).takeWhile isNameChar = [] ∧
      (gap ++ '=' :: rest).dropWhile isNameChar = gap ++ '=' :: rest := by
    -- The name ends at the first blank or at the sign.
    cases gap with
    | nil => exact ⟨rfl, rfl⟩
    | cons b gap =>
        have hb := isNameChar_of_isBlank (hgap b List.mem_cons_self)
        simp [hb]
  have hgone : (gap ++ '=' :: rest).dropWhile isBlank = '=' :: rest := by
    rw [List.dropWhile_append_of_pos hgap]
    rfl
  have hname := name.isNameChar
  unfold Identifier.chars at hname ⊢
  rw [List.cons_append, assignment?.eq_def]
  dsimp only
  rw [if_pos hstart, ← List.cons_append, List.takeWhile_append_of_pos hname,
    List.dropWhile_append_of_pos hname, hafter.1, hafter.2, hgone, List.append_nil]
  rfl

/-! ## Lines of rows -/

theorem lineAssignment?_of_blank {gap : List Char} (hblank : ∀ c ∈ gap, isBlank c = true) :
    lineAssignment? (String.ofList gap) = none := by
  have htrim : Text.trim (String.ofList gap) = "" :=
    Text.Stripped.trim_eq ⟨⟨gap, [], by simp, hblank, by simp⟩, by simp, by simp⟩
  rw [lineAssignment?, htrim]
  rfl

theorem lineAssignment?_of_comment {gap : List Char} (hblank : ∀ c ∈ gap, isBlank c = true)
    (note : List Char) : lineAssignment? (String.ofList (gap ++ '#' :: note)) = none := by
  have htrim : Text.Chars.trim (gap ++ '#' :: note) =
      '#' :: Text.Chars.trimEnd isBlank note := by
    rw [Text.Chars.trim, Text.Chars.trimStart_append hblank]
    exact Text.Chars.trimEnd_cons_of_neg rfl note
  rw [lineAssignment?, Text.toList_trim, String.toList_ofList, htrim]
  rfl

/-- An assignment is read back up to the quotes around its value, if what is written for the value
has no blanks at its ends. -/
theorem lineAssignment?_of_line (gaps : Gaps) (name : Identifier) {shown : List Char}
    (hfirst : ∀ c ∈ shown.head?, isBlank c = false)
    (hlast : ∀ c ∈ shown.getLast?, isBlank c = false) :
    lineAssignment? (String.ofList (gaps.line name shown)) =
      some (String.ofList name.chars, String.ofList (unquote shown)) := by
  -- Without a value, the blanks before it are blanks at the end of the line.
  obtain ⟨kept, blanks, hsplit, hblanks, hend, hvalue⟩ : ∃ kept blanks,
      gaps.beforeValue.chars ++ shown ++ gaps.afterValue.chars = kept ++ blanks ∧
      (∀ c ∈ blanks, isBlank c = true) ∧
      (∀ c ∈ ('=' :: kept).getLast?, isBlank c = false) ∧ kept.dropWhile isBlank = shown := by
    by_cases hnone : shown = []
    · refine ⟨[], gaps.beforeValue.chars ++ gaps.afterValue.chars, by simp [hnone], ?_,
        by simp [isBlank], hnone.symm⟩
      intro c hc
      exact (List.mem_append.mp hc).elim (gaps.beforeValue.blank c) (gaps.afterValue.blank c)
    · refine ⟨gaps.beforeValue.chars ++ shown, gaps.afterValue.chars, rfl,
        gaps.afterValue.blank, ?_, ?_⟩
      · intro c hc
        refine hlast c ?_
        rw [← List.cons_append, List.getLast?_append_of_ne_nil _ hnone] at hc
        exact hc
      · rw [List.dropWhile_append_of_pos gaps.beforeValue.blank]
        exact Text.Chars.trimStart_eq_self hfirst
  have htrim : Text.trim (String.ofList (gaps.line name shown)) =
      String.ofList (name.chars ++ (gaps.afterName.chars ++ '=' :: kept)) := by
    refine Text.Stripped.trim_eq ⟨⟨gaps.beforeName.chars, blanks, ?_, gaps.beforeName.blank,
      hblanks⟩, ?_, ?_⟩
    · simp [Gaps.line, hsplit]
    · intro c hc
      rw [String.toList_ofList] at hc
      obtain rfl : name.first = c := Option.some.inj hc
      have hletter := name.isNameChar name.first List.mem_cons_self
      rw [← Bool.not_eq_true]
      intro hblank
      rw [isNameChar_of_isBlank hblank] at hletter
      cases hletter
    · intro c hc
      refine hend c ?_
      rw [String.toList_ofList, ← List.append_assoc,
        List.getLast?_append_of_ne_nil _ (List.cons_ne_nil _ _)] at hc
      exact hc
  rw [lineAssignment?, htrim, String.toList_ofList, assignment?_of_parts name gaps.afterName.blank,
    hvalue]
  rfl

/-! ## Files in rows -/

theorem Identifier.unbroken (name : Identifier) : ∀ c ∈ name.chars, isLineBreak c = false := by
  intro c hc
  rw [← Bool.not_eq_true]
  intro hbreak
  have hname := name.isNameChar c hc
  rw [isNameChar_of_isBlank (Text.isBlank_of_isLineBreak hbreak)] at hname
  cases hname

theorem written_unbroken (quote? : Option Quote) (value : Piece) :
    ∀ c ∈ written quote? value, isLineBreak c = false := by
  intro c hc
  cases quote? with
  | none => exact value.unbroken c hc
  | some quote =>
      have hquote : isLineBreak quote.char = false := by cases quote <;> rfl
      simp only [written, Quote.enclose, List.mem_cons, List.mem_append, List.not_mem_nil,
        or_false] at hc
      rcases hc with rfl | hvalue | rfl
      · exact hquote
      · exact value.unbroken c hvalue
      · exact hquote

/-- A row has no line break in it. -/
theorem Row.unbroken (row : Row) : ∀ c ∈ row.line, isLineBreak c = false := by
  intro c hc
  cases row with
  | blank gap => exact gap.unbroken c hc
  | comment gap note =>
      rcases List.mem_append.mp hc with hgap | hnote
      · exact gap.unbroken c hgap
      · rcases List.mem_cons.mp hnote with rfl | hnote
        · rfl
        · exact note.unbroken c hnote
  | entry gaps name quote? value =>
      simp only [line, Gaps.line, List.mem_append, List.mem_cons] at hc
      rcases hc with hgap | hname | hgap | rfl | (hgap | hvalue) | hgap
      · exact gaps.beforeName.unbroken c hgap
      · exact name.unbroken c hname
      · exact gaps.afterName.unbroken c hgap
      · rfl
      · exact gaps.beforeValue.unbroken c hgap
      · exact written_unbroken quote? value c hvalue
      · exact gaps.afterValue.unbroken c hgap

theorem Row.lineAssignment?_line {row : Row} (htight : row.IsTight) :
    lineAssignment? (String.ofList row.line) = row.read? := by
  cases row with
  | blank gap => exact lineAssignment?_of_blank gap.blank
  | comment gap note => exact lineAssignment?_of_comment gap.blank note.text.toList
  | entry gaps name quote? value => exact lineAssignment?_of_line gaps name htight.1 htight.2

/-- A text in rows assigns what its rows do. -/
theorem assigned_of_rows {rows : List Row} {text : String}
    (hrows : Text.Chars.Rows (rows.map Row.line) text.toList)
    (htight : ∀ row ∈ rows, row.IsTight) : assigned text = rows.filterMap Row.read? := by
  have hfree : ∀ line ∈ rows.map Row.line, ∀ c ∈ line, isLineBreak c = false := by
    intro line hline
    obtain ⟨row, -, rfl⟩ := List.mem_map.mp hline
    exact row.unbroken
  have hempty : (lineAssignment? ∘ String.ofList) [] = none :=
    lineAssignment?_of_blank fun _ hc => absurd hc List.not_mem_nil
  unfold assigned Text.lines
  rw [List.filterMap_map, hrows.filterMap_lines hfree hempty, List.filterMap_map]
  refine List.filterMap_congr ?_
  intro row hrow
  rw [Function.comp_apply, Function.comp_apply, Row.lineAssignment?_line (htight row hrow)]

/-- Rows as a file, each with a line feed at its end. -/
def fileText (rows : List Row) : String :=
  String.ofList ((rows.map Row.line).flatMap (· ++ ['\n']))

theorem rows_fileText (rows : List Row) :
    Text.Chars.Rows (rows.map Row.line) (fileText rows).toList := by
  rw [fileText, String.toList_ofList]
  exact Text.Chars.rows_flatMap _

/-! ## Values in quotes -/

@[simp] theorem head?_enclose (quote : Quote) (cs : List Char) :
    (quote.enclose cs).head? = some quote.char := rfl

@[simp] theorem getLast?_enclose (quote : Quote) (cs : List Char) :
    (quote.enclose cs).getLast? = some quote.char := by
  rw [Quote.enclose, ← List.cons_append, List.getLast?_concat]

theorem Quote.exists_char_iff {c : Char} :
    (c = '\'' ∨ c = '"') ↔ ∃ quote : Quote, quote.char = c := by
  constructor
  · rintro (rfl | rfl)
    · exact ⟨.single, rfl⟩
    · exact ⟨.double, rfl⟩
  · rintro ⟨quote, rfl⟩
    cases quote
    · exact Or.inl rfl
    · exact Or.inr rfl

theorem unquote_enclose (quote : Quote) (cs : List Char) : unquote (quote.enclose cs) = cs := by
  have hquote := Quote.exists_char_iff.mpr ⟨quote, rfl⟩
  rw [unquote, head?_enclose, getLast?_enclose]
  simp [hquote, Quote.enclose]

theorem Row.IsQuoted.isTight {row : Row} (hquoted : row.IsQuoted) : row.IsTight := by
  cases row with
  | entry gaps name quote? value =>
      obtain ⟨quote, rfl⟩ := Option.isSome_iff_exists.mp hquoted
      have hletter : isBlank quote.char = false := by cases quote <;> rfl
      simp [IsTight, written, hletter]
  | _ => trivial

theorem Row.IsQuoted.read?_eq {row : Row} (hquoted : row.IsQuoted) : row.read? = row.pair? := by
  cases row with
  | entry gaps name quote? value =>
      obtain ⟨quote, rfl⟩ := Option.isSome_iff_exists.mp hquoted
      simp [read?, pair?, written, unquote_enclose]
  | _ => rfl

/-! ## Values without quotes around them -/

/-- A text that is not in quotes is kept, unless it is a quote alone. -/
theorem unquote_eq_self_iff {cs : List Char} (hbare : ∀ quote : Quote, ∀ inner,
    cs ≠ quote.enclose inner) : unquote cs = cs ↔ ∀ quote : Quote, cs ≠ [quote.char] := by
  cases cs with
  | nil => simp [unquote]
  | cons first rest =>
      rcases List.eq_nil_or_concat' rest with rfl | ⟨inner, last, rfl⟩
      · -- The first character is the last one, and everything goes if it is a quote.
        have hread : unquote [first] = [first] ↔ ¬(first = '\'' ∨ first = '"') := by
          simp [unquote]
        rw [hread, Quote.exists_char_iff, not_exists]
        simp [eq_comm]
      · have hapart : ¬(first = last ∧ (first = '\'' ∨ first = '"')) := by
          rintro ⟨rfl, hquote⟩
          obtain ⟨quote, rfl⟩ := Quote.exists_char_iff.mp hquote
          exact hbare quote inner rfl
        have hlast : (first :: (inner ++ [last])).getLast? = some last := by
          rw [← List.cons_append, List.getLast?_concat]
        have hread : unquote (first :: (inner ++ [last])) = first :: (inner ++ [last]) := by
          rw [unquote, List.head?_cons, hlast]
          exact if_neg hapart
        simp [hread]

theorem not_enclosed_of_ends {cs : List Char} (hends : cs.head? ≠ cs.getLast?) :
    ∀ quote : Quote, ∀ inner, cs ≠ quote.enclose inner := by
  rintro quote inner rfl
  exact hends ((head?_enclose quote inner).trans (getLast?_enclose quote inner).symm)

theorem not_enclosed_of_short {cs : List Char} (hshort : cs.length ≤ 1) :
    ∀ quote : Quote, ∀ inner, cs ≠ quote.enclose inner := by
  rintro quote inner rfl
  simp [Quote.enclose] at hshort

/-- The text that a value without quotes around it is read as. -/
def plainReading (value : String) : String :=
  String.ofList (unquote value.toList)

theorem plainReading_eq_self_iff {value : String}
    (hbare : ∀ quote : Quote, ∀ inner, value.toList ≠ quote.enclose inner) :
    plainReading value = value ↔ ∀ quote : Quote, value ≠ String.singleton quote.char := by
  have hself : plainReading value = value ↔ unquote value.toList = value.toList := by
    rw [plainReading, ← String.toList_inj, String.toList_ofList]
  rw [hself, unquote_eq_self_iff hbare]
  refine forall_congr' fun quote => not_congr ?_
  rw [← String.toList_inj, String.toList_singleton]

theorem Row.IsBare.not_enclosed {row : Row} (hbare : row.IsBare) {name value : String}
    (hpair : row.pair? = some (name, value)) :
    ∀ quote : Quote, ∀ inner, value.toList ≠ quote.enclose inner := by
  cases row with
  | entry gaps identifier quote? piece =>
      obtain ⟨-, rfl⟩ := Prod.mk.inj (Option.some.inj hpair)
      exact hbare.2.2
  | _ => cases hpair

theorem Row.IsBare.isTight {row : Row} (hbare : row.IsBare) : row.IsTight := by
  cases row with
  | entry gaps name quote? value =>
      obtain ⟨rfl, htrim, -⟩ := hbare
      have hstripped := Text.stripped_iff.mpr htrim
      exact ⟨hstripped.first, hstripped.last⟩
  | _ => trivial

theorem Row.IsBare.read?_eq {row : Row} (hbare : row.IsBare) :
    row.read? = row.pair?.map fun pair => (pair.1, plainReading pair.2) := by
  cases row with
  | entry gaps name quote? value =>
      obtain ⟨rfl, -, -⟩ := hbare
      rfl
  | _ => rfl

/-! ## Two layouts of an assignment -/

/-- Blanks of several kinds around an assignment. -/
def wideGaps : Gaps where
  beforeName := .of [' ', '\t'] rfl
  afterName := .of [' '] rfl
  beforeValue := .of ['\t', ' '] rfl
  afterValue := .of [' ', ' '] rfl

/-- No blanks around an assignment. -/
def noGaps : Gaps where
  beforeName := .of [] rfl
  afterName := .of [] rfl
  beforeValue := .of [] rfl
  afterValue := .of [] rfl

/-- The name of the prompt. -/
def promptName : Identifier where
  first := 'I'
  rest := "NPUT_PREFIX".toList
  first_letter := Or.inl rfl
  rest_letters := fun c hc => by
    have hchecked : ("NPUT_PREFIX".toList.all fun c => c.isAlphanum || c == '_') = true := by
      decide +kernel
    simpa using List.all_eq_true.mp hchecked c hc

/-! ## Files -/

section File

variable {files : Files} {path text : String} {rows : List Row}

/-- **Values in quotes.**  Take a file in rows: assignments of values in single or double quotes to
names, with blanks around names, signs and values, and between them comments and blank rows.

Reading the file gives the dictionary in which each name has the value that was assigned to it
last, as it stands between its quotes. In particular the prompt, if the file is the only source
for it and spells its name in one way, comes to the settings with the blanks at its ends. -/
theorem quoted_values_kept (hfile : files.Holds path text)
    (hrows : Text.Chars.Rows (rows.map Row.line) text.toList)
    (hquoted : ∀ row ∈ rows, row.IsQuoted) :
    let pairs := rows.filterMap Row.pair?
    readDotenv files path = .ok (.ofList pairs) ∧
      (∀ name, (Dictionary.ofList pairs).get? name = Dictionary.lastValue? pairs name) ∧
      ∀ name prompt, Names name "INPUT_PREFIX" →
        Dictionary.lastValue? pairs name = some prompt →
        (∀ pair ∈ pairs, Names pair.1 "INPUT_PREFIX" → pair.1 = name) →
        ∀ directory environment sources, path = pathIn directory ".env" →
          Sources.read files directory environment = .ok sources →
          (∀ layer ∈ sources.layers.tail, ¬ layer.Defines "INPUT_PREFIX") →
          sources.merged.get? "INPUT_PREFIX" = some (.text prompt) ∧
          ∀ settings, load files directory environment = .ok settings →
            settings.inputPrompt = prompt := by
  intro pairs
  have hassigned : assigned text = pairs := by
    rw [assigned_of_rows hrows fun row hrow => (hquoted row hrow).isTight]
    exact List.filterMap_congr fun row hrow => (hquoted row hrow).read?_eq
  refine ⟨?_, Dictionary.get?_ofList pairs, ?_⟩
  · rw [readDotenv_of_holds hfile, hassigned]
  · rintro name prompt hname hlast honly directory environment sources rfl hread hhigher
    have hvalue : sources.merged.get? "INPUT_PREFIX" = some (.text prompt) := by
      rw [← hassigned] at hlast honly
      rw [merged_of_dotenv hread hfile hhigher, value?_of_one_name hname honly, hlast]
      rfl
    refine ⟨hvalue, ?_⟩
    intro settings hload
    rw [(Sources.of_read hread).2, ofEntries_eq_ok_iff] at hload
    have hprompt := hload.inputPrompt
    have hread : valueOf sources.merged "INPUT_PREFIX" = .text prompt := by
      rw [valueOf, hvalue]
      rfl
    rw [hread, textOrEmpty_text] at hprompt
    exact (Except.ok.inj hprompt).symm

/-- Two assignments of the prompt, the second of a text with quotes, signs and blanks in it. -/
def promptRows : List Row := [
  .entry noGaps promptName (some .single) (.of "> " rfl),
  .comment wideGaps.beforeName (.of "INPUT_PREFIX=" rfl),
  .blank wideGaps.afterValue,
  .entry wideGaps promptName (some .double) (.of " #=\"' " rfl)]

theorem quoted_values_kept_prompt :
    readDotenv (onlyDotenv (fileText promptRows)) (pathIn "/base" ".env") =
        .ok ⟨[("INPUT_PREFIX", " #=\"' ")]⟩ ∧
      ∃ settings, load (onlyDotenv (fileText promptRows)) "/base" ∅ = .ok settings ∧
        settings.inputPrompt = " #=\"' " := by
  have hascii : isAscii (fileText promptRows) = true := by decide +kernel
  have hquoted : ∀ row ∈ promptRows, row.IsQuoted := by
    simp [promptRows, Row.IsQuoted]
  have hpairs : promptRows.filterMap Row.pair? =
      [("INPUT_PREFIX", "> "), ("INPUT_PREFIX", " #=\"' ")] := by decide +kernel
  have hread := read_onlyDotenv hascii
  obtain ⟨hparsed, -, hprompts⟩ :=
    quoted_values_kept (holds_onlyDotenv hascii) (rows_fileText promptRows) hquoted
  rw [hpairs] at hparsed hprompts
  have hentries : Dictionary.ofList (assigned (fileText promptRows)) =
      ⟨[("INPUT_PREFIX", " #=\"' ")]⟩ :=
    Except.ok.inj ((readDotenv_of_holds (holds_onlyDotenv hascii)).symm.trans hparsed)
  have hkey : normalKey "INPUT_PREFIX" = "INPUT_PREFIX" := by decide +kernel
  have hmerged : (Sources.ofDotenv (.ofList (assigned (fileText promptRows)))).merged =
      defaults.insert "INPUT_PREFIX" (.text " #=\"' ") := by
    rw [hentries, ← hkey]
    rfl
  have haccepted : Reads (onlyDotenv (fileText promptRows))
      (defaults.insert "INPUT_PREFIX" (.text " #=\"' "))
      { default with scriptPath := Files.absolute ["base"], inputPrompt := " #=\"' " } := by
    constructor
    case scriptPath => exact path_dot (onlyDotenv (fileText promptRows))
    all_goals rfl
  have hload := ofEntries_eq_ok_iff.mpr haccepted
  rw [← hmerged, ← (Sources.of_read hread).2] at hload
  obtain ⟨-, hsettings⟩ := hprompts "INPUT_PREFIX" " #=\"' " (normalKey_eq_iff.mp hkey) rfl
    (by simp) "/base" ∅ _ rfl hread (Sources.not_defines_ofDotenv _ _)
  exact ⟨hparsed, _, hload, hsettings _ hload⟩

/-- **Values without quotes.**  Take a file in rows: assignments of values that stand by themselves,
without blanks at their ends and without quotes around them, and comments and blank rows.

Reading the file gives a name the value that was assigned to it last, as it is written, exactly if
this value is not a quote alone. -/
theorem bare_value_kept_iff (hfile : files.Holds path text)
    (hrows : Text.Chars.Rows (rows.map Row.line) text.toList)
    (hbare : ∀ row ∈ rows, row.IsBare) :
    let pairs := rows.filterMap Row.pair?
    ∃ entries, readDotenv files path = .ok entries ∧
      ∀ name, entries.get? name = Dictionary.lastValue? pairs name ↔
        ∀ quote : Quote, Dictionary.lastValue? pairs name ≠ some (String.singleton quote.char) := by
  intro pairs
  have hassigned : assigned text = pairs.map fun pair => (pair.1, plainReading pair.2) := by
    rw [assigned_of_rows hrows fun row hrow => (hbare row hrow).isTight, List.map_filterMap]
    exact List.filterMap_congr fun row hrow => (hbare row hrow).read?_eq
  refine ⟨_, readDotenv_of_holds hfile, ?_⟩
  intro name
  have hvalue : Dictionary.lastValue? (assigned text) name =
      (Dictionary.lastValue? pairs name).map plainReading := by
    rw [hassigned]
    exact Dictionary.lastValue?_mapValues plainReading ⟨pairs⟩ name
  rw [Dictionary.get?_ofList, hvalue]
  cases hlast : Dictionary.lastValue? pairs name with
  | none => simp
  | some value =>
      obtain ⟨row, hrow, hpair⟩ := List.mem_filterMap.mp (Dictionary.mem_of_lastValue? hlast)
      have hself := plainReading_eq_self_iff ((hbare row hrow).not_enclosed hpair)
      simp only [Option.map_some, Option.some.injEq, hself, ne_eq]

/-- A value between two kinds of quotes, after a value that is a quote alone. -/
def unmatchedRows : List Row := [
  .entry noGaps promptName none (.of "\"" rfl),
  .entry wideGaps promptName none (.of "'= #\"" rfl)]

theorem bare_value_kept_iff_unmatched :
    ∃ entries,
      readDotenv (onlyDotenv (fileText unmatchedRows)) (pathIn "/base" ".env") = .ok entries ∧
      entries.get? "INPUT_PREFIX" = some "'= #\"" := by
  have hascii : isAscii (fileText unmatchedRows) = true := by decide +kernel
  have hbare : ∀ row ∈ unmatchedRows, row.IsBare := by
    refine List.forall_mem_cons.mpr ⟨⟨rfl, by decide +kernel, ?_⟩,
      List.forall_mem_singleton.mpr ⟨rfl, by decide +kernel, ?_⟩⟩
    · exact not_enclosed_of_short (by decide +kernel)
    · exact not_enclosed_of_ends (by decide +kernel)
  obtain ⟨entries, hread, hvalue⟩ :=
    bare_value_kept_iff (holds_onlyDotenv hascii) (rows_fileText unmatchedRows) hbare
  have hlast : Dictionary.lastValue? (unmatchedRows.filterMap Row.pair?) "INPUT_PREFIX" =
      some "'= #\"" := by decide +kernel
  refine ⟨entries, hread, ?_⟩
  rw [← hlast, hvalue, hlast]
  intro quote
  cases quote <;> decide +kernel

/-- The prompt as a quote alone. -/
def loneQuoteRows : List Row := [.entry noGaps promptName none (.of "'" rfl)]

theorem lone_quote_lost :
    (∀ row ∈ loneQuoteRows, row.IsBare) ∧
      loneQuoteRows.filterMap Row.pair? = [("INPUT_PREFIX", "'")] ∧
      fileText loneQuoteRows = "INPUT_PREFIX='\n" ∧
      readDotenv (onlyDotenv (fileText loneQuoteRows)) (pathIn "/base" ".env") =
        .ok ⟨[("INPUT_PREFIX", "")]⟩ := by
  have hascii : isAscii (fileText loneQuoteRows) = true := by decide +kernel
  refine ⟨List.forall_mem_singleton.mpr ⟨rfl, by decide +kernel,
    not_enclosed_of_short (by decide +kernel)⟩, by decide +kernel, by decide +kernel, ?_⟩
  have hassigned : assigned (fileText loneQuoteRows) = [("INPUT_PREFIX", "")] := by decide +kernel
  rw [readDotenv_of_holds (holds_onlyDotenv hascii), hassigned]
  rfl

end File

end DevConsole.Settings.Dotenv
