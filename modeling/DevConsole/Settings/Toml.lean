import DevConsole.Decimal.Nearest
import DevConsole.Dictionary
import DevConsole.Settings.Lexical
import DevConsole.Value

/-!
# Reading TOML

A reader for TOML 1.0 documents.  A document is a sequence of statements, each of which is applied
to the tables read so far before the next is read: a header opens a table, and a pair puts a value
under a key of the open table.  Which keys may still be extended is kept as two lists: tables that
were declared, and values that may not be changed at all.
-/

namespace DevConsole.Settings.Toml

open Lexical

/-- A dotted key. -/
abbrev Key := List String

/-! ## Characters -/

/-- Whether `c` is space within a line. -/
def isSpace (c : Char) : Bool :=
  c == ' ' || c == '\t'

/-- Whether `c` is space or a line end. -/
def isSpaceOrEnd (c : Char) : Bool :=
  isSpace c || c == '\n'

/-- Whether `c` may be in a key without quotes. -/
def isBareKey (c : Char) : Bool :=
  c.isAlphanum || c == '-' || c == '_'

/-- Whether `c` may not stand in a text as it is. -/
def isControl (c : Char) : Bool :=
  (c.toNat < 32 && c != '\t') || c.toNat == 127

/-- The text after a comment, if it starts with one that holds no control character. -/
def skipComment (cs : List Char) : Except Lexical.Fault (List Char) :=
  match cs with
  | '#' :: rest =>
    if (rest.takeWhile (· != '\n')).any isControl then .error .malformed
    else .ok (rest.dropWhile (· != '\n'))
  | _ => .ok cs

/-- The text after space, line ends and comments. -/
def skipLines : (fuel : Nat) → List Char → Except Lexical.Fault (List Char)
  | 0, cs => .ok cs
  | fuel + 1, cs => do
    let rest ← skipComment (cs.dropWhile isSpaceOrEnd)
    if rest.length = cs.length then return cs else skipLines fuel rest

/-! ## Strings -/

/-- The character with the code point that `count` hexadecimal digits give. -/
def codePoint (count : Nat) (cs : List Char) : Except Lexical.Fault (Char × List Char) :=
  match hex? count 0 cs with
  | none => .error .malformed
  | some (n, rest) =>
    if n < 0xD800 ∨ (0xE000 ≤ n ∧ n < 0x110000) then .ok (Char.ofNat n, rest)
    else .error .malformed

/-- The characters that single-letter escapes stand for. -/
def escapes : List (Char × Char) := [
  ('b', '\x08'), ('t', '\t'), ('n', '\n'), ('f', '\x0c'), ('r', '\r'), ('"', '"'), ('\\', '\\')]

/-- The characters that an escape stands for. In a text of several lines, a backslash at the end of
a line hides the line end and the space after it. -/
def escape (multiline : Bool) (cs : List Char) : Except Lexical.Fault (List Char × List Char) :=
  match cs with
  | 'u' :: rest => do
    let (c, rest) ← codePoint 4 rest
    return ([c], rest)
  | 'U' :: rest => do
    let (c, rest) ← codePoint 8 rest
    return ([c], rest)
  | c :: rest =>
    if multiline && isSpaceOrEnd c then
      match cs.dropWhile isSpace with
      | [] => .ok ([], [])
      | '\n' :: rest => .ok ([], rest.dropWhile isSpaceOrEnd)
      | _ => .error .malformed
    else
      match escapes.lookup c with
      | some meant => .ok ([meant], rest)
      | none => .error .malformed
  | [] => .error .malformed

/-- The characters of a string with escapes up to its closing quotes. -/
def basicBody (multiline : Bool) : (fuel : Nat) → List Char →
    Except Lexical.Fault (List Char × List Char)
  | 0, _ => .error .malformed
  | _ + 1, [] => .error .malformed
  | fuel + 1, '"' :: cs =>
    if !multiline then .ok ([], cs)
    else
      match cs with
      | '"' :: '"' :: rest => .ok ([], rest)
      | cs => do
        let (body, rest) ← basicBody multiline fuel cs
        return ('"' :: body, rest)
  | fuel + 1, '\\' :: cs => do
    let (found, cs) ← escape multiline cs
    let (body, rest) ← basicBody multiline fuel cs
    return (found ++ body, rest)
  | fuel + 1, c :: cs =>
    if isControl c && !(multiline && c == '\n') then .error .malformed
    else do
      let (body, rest) ← basicBody multiline fuel cs
      return (c :: body, rest)

/-- The characters of a string without escapes up to its closing quotes. -/
def literalBody (multiline : Bool) : List Char → Except Lexical.Fault (List Char × List Char)
  | [] => .error .malformed
  | '\'' :: cs =>
    if !multiline then .ok ([], cs)
    else
      match cs with
      | '\'' :: '\'' :: rest => .ok ([], rest)
      | cs => do
        let (body, rest) ← literalBody multiline cs
        return ('\'' :: body, rest)
  | c :: cs =>
    if isControl c && !(multiline && c == '\n') then .error .malformed
    else do
      let (body, rest) ← literalBody multiline cs
      return (c :: body, rest)

/-- Up to two more quotes that belong to a text of several lines. -/
def extraQuotes (quote : Char) (body rest : List Char) : List Char × List Char :=
  let extra := (rest.take 2).takeWhile (· == quote)
  (body ++ extra, rest.drop extra.length)

/-- The rest of a text without a line end at its start. -/
def dropLineEnd : List Char → List Char
  | '\n' :: cs => cs
  | cs => cs

/-- The string at the front of a text, if there is one. -/
def string? (cs : List Char) : Option (Except Lexical.Fault (String × List Char)) :=
  let fuel := cs.length + 1
  let one (found : Except Lexical.Fault (List Char × List Char)) :=
    found.map fun (body, rest) => (String.ofList body, rest)
  let several (quote : Char) (found : Except Lexical.Fault (List Char × List Char)) :=
    found.map fun (body, rest) =>
      let (body, rest) := extraQuotes quote body rest
      (String.ofList body, rest)
  match cs with
  | '"' :: '"' :: '"' :: rest => some (several '"' (basicBody true fuel (dropLineEnd rest)))
  | '"' :: rest => some (one (basicBody false fuel rest))
  | '\'' :: '\'' :: '\'' :: rest => some (several '\'' (literalBody true (dropLineEnd rest)))
  | '\'' :: rest => some (one (literalBody false rest))
  | _ => none

/-! ## Keys -/

/-- One part of a key: a bare word or a string on one line. -/
def keyPart (cs : List Char) : Except Lexical.Fault (String × List Char) :=
  let one (found : Except Lexical.Fault (List Char × List Char)) :=
    found.map fun (body, rest) => (String.ofList body, rest)
  match cs with
  | '"' :: rest => one (basicBody false (cs.length + 1) rest)
  | '\'' :: rest => one (literalBody false rest)
  | cs =>
    let word := cs.takeWhile isBareKey
    if word.isEmpty then .error .malformed
    else .ok (String.ofList word, cs.dropWhile isBareKey)

/-- A dotted key with the space around its parts. -/
def key : (fuel : Nat) → List Char → Except Lexical.Fault (Key × List Char)
  | 0, _ => .error .malformed
  | fuel + 1, cs => do
    let (part, rest) ← keyPart cs
    match rest.dropWhile isSpace with
    | '.' :: rest => do
      let (parts, rest) ← key fuel (rest.dropWhile isSpace)
      return (part :: parts, rest)
    | rest => return ([part], rest)

/-! ## Dates and times -/

/-- The number that exactly `count` digits give. -/
def digits? (count : Nat) (cs : List Char) : Option (Nat × List Char) :=
  let found := cs.take count
  if found.length = count ∧ found.all isDigit then some (digitsValue found, cs.drop count)
  else none

/-- The rest of a text after a given character. -/
def expect? (c : Char) : List Char → Option (List Char)
  | d :: cs => if c = d then some cs else none
  | [] => none

/-- Two digits that give a number between `lo` and `hi`. -/
def pair? (lo hi : Nat) (cs : List Char) : Option (Nat × List Char) :=
  match digits? 2 cs with
  | some (n, rest) => if lo ≤ n ∧ n ≤ hi then some (n, rest) else none
  | none => none

/-- A fraction of a second in microseconds; further digits are dropped. -/
def microseconds (cs : List Char) : Nat × List Char :=
  match cs with
  | '.' :: rest =>
    let found := rest.takeWhile isDigit
    if found.isEmpty then (0, cs)
    else
      let kept := found.take 6
      (digitsValue kept * Nat.pow 10 (6 - kept.length), rest.dropWhile isDigit)
  | _ => (0, cs)

/-- A time of day. -/
def clock? (cs : List Char) : Option (Clock × List Char) := do
  let (hour, cs) ← pair? 0 23 cs
  let cs ← expect? ':' cs
  let (minute, cs) ← pair? 0 59 cs
  let cs ← expect? ':' cs
  let (second, cs) ← pair? 0 59 cs
  let (micro, cs) := microseconds cs
  return (⟨hour, minute, second, micro⟩, cs)

/-- A date by its digits; the day need not exist. -/
def date? (cs : List Char) : Option (Date × List Char) := do
  let (year, cs) ← digits? 4 cs
  let cs ← expect? '-' cs
  let (month, cs) ← pair? 1 12 cs
  let cs ← expect? '-' cs
  let (day, cs) ← pair? 1 31 cs
  return (⟨year, month, day⟩, cs)

/-- The number of days of a month. -/
def daysIn (year month : Nat) : Nat :=
  let leap := (year % 4 = 0 ∧ year % 100 ≠ 0) ∨ year % 400 = 0
  if month = 2 then (if leap then 29 else 28)
  else if month = 4 ∨ month = 6 ∨ month = 9 ∨ month = 11 then 30
  else 31

/-- Whether a date is in the calendar. -/
def isInCalendar (d : Date) : Bool :=
  1 ≤ d.year && d.day ≤ daysIn d.year d.month

/-- An offset from universal time in minutes. -/
def offset? (cs : List Char) : Option (Int × List Char) :=
  let signed (sign : Int) (cs : List Char) : Option (Int × List Char) := do
    let (hour, cs) ← pair? 0 23 cs
    let cs ← expect? ':' cs
    let (minute, cs) ← pair? 0 59 cs
    return (sign * (60 * hour + minute : Nat), cs)
  match cs with
  | 'Z' :: rest | 'z' :: rest => some (0, rest)
  | '+' :: rest => signed 1 rest
  | '-' :: rest => signed (-1) rest
  | _ => none

/-- The time of day that follows a date, if one does. -/
def clockAfterDate? : List Char → Option (Clock × List Char)
  | c :: cs => if c = 'T' ∨ c = 't' ∨ c = ' ' then clock? cs else none
  | [] => none

/-- The date or time at the front of a text, if there is one. -/
def moment? (cs : List Char) : Option (Except Lexical.Fault (Moment × List Char)) :=
  match date? cs with
  | some (date, rest) =>
    if !isInCalendar date then some (.error .malformed)
    else
      match clockAfterDate? rest with
      | none => some (.ok (.date date, rest))
      | some (clock, rest) =>
        match offset? rest with
        | some (offset, rest) => some (.ok (.zoned date clock offset, rest))
        | none => some (.ok (.stamp date clock, rest))
  | none => (clock? cs).map fun (clock, rest) => .ok (.clock clock, rest)

/-! ## Numbers -/

/-- The digits of a run in which single underscores may stand between digits, and the rest. -/
def digitRun (isDigit : Char → Bool) : List Char → List Char × List Char
  | [] => ([], [])
  | '_' :: c :: cs =>
    if isDigit c then
      let (run, rest) := digitRun isDigit cs
      (c :: run, rest)
    else ([], '_' :: c :: cs)
  | c :: cs =>
    if isDigit c then
      let (run, rest) := digitRun isDigit cs
      (c :: run, rest)
    else ([], c :: cs)

/-- A run of digits that starts with one. -/
def run? (isDigit : Char → Bool) (cs : List Char) : Option (List Char × List Char) :=
  if cs.head?.any isDigit then some (digitRun isDigit cs) else none

/-- A whole number in base sixteen, two or eight. -/
def based? (cs : List Char) : Option (Int × List Char) :=
  let read (base : Nat) (isDigit : Char → Bool) (cs : List Char) : Option (Int × List Char) :=
    (run? isDigit cs).map fun (run, rest) =>
      let n := run.foldl (fun n c => base * n + (hexValue? c).getD 0) 0
      (n, rest)
  match cs with
  | '0' :: 'x' :: rest => read 16 (fun c => (hexValue? c).isSome) rest
  | '0' :: 'b' :: rest => read 2 (fun c => c == '0' || c == '1') rest
  | '0' :: 'o' :: rest => read 8 (fun c => '0' ≤ c && c ≤ '7') rest
  | _ => none

/-- The sign at the front of a text, and the rest. -/
def sign : List Char → Bool × List Char
  | '+' :: cs => (false, cs)
  | '-' :: cs => (true, cs)
  | cs => (false, cs)

/-- The digits behind a point, if there are any. -/
def fraction? (cs : List Char) : Option (List Char × List Char) :=
  match cs with
  | '.' :: rest => run? isDigit rest
  | _ => none

/-- The exponent of a number, if there is one. -/
def exponent? (cs : List Char) : Option (Int × List Char) :=
  match cs with
  | e :: rest =>
    if e = 'e' ∨ e = 'E' then
      let (negative, rest) := sign rest
      (run? isDigit rest).map fun (run, rest) =>
        let n : Int := digitsValue run
        (if negative then -n else n, rest)
    else none
  | [] => none

/-- The decimal number at the front of a text, if there is one. -/
def decimal? (cs : List Char) : Option (Except Lexical.Fault (Value × List Char)) :=
  let (negative, cs) := sign cs
  let whole? := match cs with
    | '0' :: rest => some (['0'], rest)
    | cs => run? isDigit cs
  match whole? with
  | none => none
  | some (whole, cs) =>
    let fraction := fraction? cs
    let cs := (fraction.map (·.2)).getD cs
    let exponent := exponent? cs
    let cs := (exponent.map (·.2)).getD cs
    if fraction.isNone && exponent.isNone then
      some ((wholeNumber negative whole).map fun n => (.int n, cs))
    else
      let places := (fraction.map (·.1)).getD []
      let x := Decimal.nearest (digitsValue (whole ++ places))
        ((exponent.map (·.1)).getD 0 - places.length)
      some (.ok (.float (if negative then -x else x), cs))

/-- The values that are words. -/
def words : List (String × Value) := [
  ("inf", .float (1 / 0)), ("nan", .float (0 / 0)), ("-inf", .float (-1 / 0)),
  ("+inf", .float (1 / 0)), ("-nan", .float (0 / 0)), ("+nan", .float (0 / 0))]

/-- The value that is a word of `table` at the front of a text. -/
def word? (table : List (String × Value)) (cs : List Char) : Option (Value × List Char) :=
  table.findSome? fun (word, v) => (after? word cs).map fun rest => (v, rest)

/-- The date, number or word at the front of a text. -/
def atom (cs : List Char) : Except Lexical.Fault (Value × List Char) :=
  match moment? cs with
  | some found => found.map fun (m, rest) => (.moment m, rest)
  | none =>
    match based? cs with
    | some (n, rest) => .ok (.int n, rest)
    | none =>
      match decimal? cs with
      | some found => found
      | none =>
        match word? words cs with
        | some found => .ok found
        | none => .error .malformed

/-! ## Tables -/

/-- Changes the table that a key leads to, and makes the tables on the way that are missing. The
last table of an array of tables stands for the array, if `arrays` allows it. -/
def modifyAt (arrays : Bool)
    (f : List (String × Value) → Except Lexical.Fault (List (String × Value))) :
    Key → List (String × Value) → Except Lexical.Fault (List (String × Value))
  | [], table => f table
  | part :: rest, table =>
    match table.lookup part with
    | none => do
      let inner ← modifyAt arrays f rest []
      return Dictionary.insertEntry part (.dict inner) table
    | some (.dict inner) => do
      let inner ← modifyAt arrays f rest inner
      return Dictionary.insertEntry part (.dict inner) table
    | some (.list found) =>
      match arrays, found.getLast? with
      | true, some (.dict inner) => do
        let inner ← modifyAt arrays f rest inner
        return Dictionary.insertEntry part (.list (found.dropLast ++ [.dict inner])) table
      | _, _ => .error .malformed
    | some _ => .error .malformed

/-- Puts a value under a name that is free. -/
def putNew (name : String) (v : Value) (table : List (String × Value)) :
    Except Lexical.Fault (List (String × Value)) :=
  match table.lookup name with
  | some _ => .error .malformed
  | none => .ok (table ++ [(name, v)])

/-- Appends an empty table to the array of tables under a name. -/
def appendTable (name : String) (table : List (String × Value)) :
    Except Lexical.Fault (List (String × Value)) :=
  match table.lookup name with
  | none => .ok (table ++ [(name, .list [.dict []])])
  | some (.list found) => .ok (Dictionary.insertEntry name (.list (found ++ [.dict []])) table)
  | some _ => .error .malformed

/-- Whether a value has parts of its own. -/
def isContainer : Value → Bool
  | .dict _ | .list _ => true
  | _ => false

/-- Whether `key` is or lies below one of `keys`. -/
def isWithin (keys : List Key) (key : Key) : Bool :=
  keys.any (·.isPrefixOf key)

/-- Puts the value of a pair into an inline table, where the containers in `frozen` are closed. -/
def putInline (frozen : List Key) (key : Key) (v : Value) (table : List (String × Value)) :
    Except Lexical.Fault (List (String × Value)) :=
  if isWithin frozen key then .error .malformed
  else modifyAt false (putNew (key.getLastD "") v) key.dropLast table

/-! ## Values -/

mutual

/-- The value at the front of a text. -/
def value : (fuel : Nat) → List Char → Except Lexical.Fault (Value × List Char)
  | 0, _ => .error .malformed
  | fuel + 1, cs =>
    match string? cs with
    | some found => found.map fun (s, rest) => (.text s, rest)
    | none =>
      match word? [("true", .bool true), ("false", .bool false)] cs with
      | some found => .ok found
      | none =>
        match cs with
        | '[' :: rest => do
          let (found, rest) ← items fuel rest
          return (.list found, rest)
        | '\x7b' :: rest =>
          match rest.dropWhile isSpace with
          | '\x7d' :: rest => .ok (.dict [], rest)
          | rest => do
            let (found, rest) ← pairs fuel [] [] rest
            return (.dict found, rest)
        | cs => atom cs

/-- The items of an array up to its closing bracket. A comma may stand after the last. -/
def items : (fuel : Nat) → List Char → Except Lexical.Fault (List Value × List Char)
  | 0, _ => .error .malformed
  | fuel + 1, cs => do
    match ← skipLines fuel cs with
    | ']' :: rest => return ([], rest)
    | cs =>
      let (v, rest) ← value fuel cs
      match ← skipLines fuel rest with
      | ']' :: rest => return ([v], rest)
      | ',' :: rest =>
        let (vs, rest) ← items fuel rest
        return (v :: vs, rest)
      | _ => throw .malformed

/-- The pairs of an inline table up to its closing brace, after those in `table`. -/
def pairs : (fuel : Nat) → (frozen : List Key) → (table : List (String × Value)) →
    List Char → Except Lexical.Fault (List (String × Value) × List Char)
  | 0, _, _, _ => .error .malformed
  | fuel + 1, frozen, table, cs => do
    let (k, rest) ← key fuel cs
    let '=' :: rest := rest | throw .malformed
    let (v, rest) ← value fuel (rest.dropWhile isSpace)
    let table ← putInline frozen k v table
    match rest.dropWhile isSpace with
    | '\x7d' :: rest => return (table, rest)
    | ',' :: rest =>
      let frozen := if isContainer v then k :: frozen else frozen
      pairs fuel frozen table (rest.dropWhile isSpace)
    | _ => throw .malformed

end

/-! ## Documents -/

/-- The tables read so far, the open table, the tables that were declared, those that will count
as declared from the next header on, and the values that may not be changed. -/
structure Document where
  root : List (String × Value)
  header : Key
  declared : List Key
  pending : List Key
  frozen : List Key

namespace Document

/-- Nothing read. -/
def empty : Document := ⟨[], [], [], [], []⟩

/-- A header counts the tables that dotted keys made as declared. -/
def settle (doc : Document) : Document :=
  { doc with declared := doc.pending ++ doc.declared, pending := [] }

/-- Opens a table by its header. -/
def openTable (doc : Document) (key : Key) : Except Lexical.Fault Document := do
  let doc := doc.settle
  if doc.declared.contains key || isWithin doc.frozen key then throw .malformed
  let root ← modifyAt true .ok key doc.root
  return { doc with root := root, header := key, declared := key :: doc.declared }

/-- Opens a new table at the end of an array of tables. Keys below the array are free again. -/
def openItem (doc : Document) (key : Key) : Except Lexical.Fault Document := do
  let doc := doc.settle
  if isWithin doc.frozen key then throw .malformed
  let root ← modifyAt true (appendTable (key.getLastD "")) key.dropLast doc.root
  let outside (other : Key) : Bool := !key.isPrefixOf other
  return { doc with
    root := root
    header := key
    declared := key :: doc.declared.filter outside
    frozen := doc.frozen.filter outside }

/-- Puts a value under a key of the open table. -/
def assign (doc : Document) (key : Key) (v : Value) : Except Lexical.Fault Document := do
  let full := doc.header ++ key
  let between := (List.range' 1 (key.length - 1)).map fun n => doc.header ++ key.take n
  if between.any doc.declared.contains then throw .malformed
  if isWithin doc.frozen full.dropLast then throw .malformed
  let root ← modifyAt true (putNew (full.getLastD "") v) full.dropLast doc.root
  return { doc with
    root := root
    pending := between ++ doc.pending
    frozen := if isContainer v then full :: doc.frozen else doc.frozen }

/-- Reads and applies the statement at the front of a text. -/
def statement (doc : Document) (cs : List Char) : Except Lexical.Fault (Document × List Char) := do
  let fuel := cs.length + 1
  match cs with
  | '[' :: '[' :: rest =>
    let (k, rest) ← key fuel (rest.dropWhile isSpace)
    let doc ← doc.openItem k
    let ']' :: ']' :: rest := rest | throw .malformed
    return (doc, rest)
  | '[' :: rest =>
    let (k, rest) ← key fuel (rest.dropWhile isSpace)
    let doc ← doc.openTable k
    let ']' :: rest := rest | throw .malformed
    return (doc, rest)
  | cs =>
    let (k, rest) ← key fuel cs
    let '=' :: rest := rest | throw .malformed
    let (v, rest) ← value (2 * fuel) (rest.dropWhile isSpace)
    let doc ← doc.assign k v
    return (doc, rest)

/-- Reads the statements of a text, at most one on a line. -/
def read : (fuel : Nat) → Document → List Char → Except Lexical.Fault Document
  | 0, _, _ => .error .malformed
  | fuel + 1, doc, cs => do
    match cs.dropWhile isSpace with
    | [] => return doc
    | '\n' :: rest => read fuel doc rest
    | start =>
      let (doc, rest) ← if start.head? == some '#' then pure (doc, start) else doc.statement start
      match ← skipComment (rest.dropWhile isSpace) with
      | [] => return doc
      | '\n' :: rest => read fuel doc rest
      | _ => throw .malformed

end Document

/-- A text with line feeds for carriage returns that a line feed follows. -/
def unixLines : List Char → List Char
  | [] => []
  | '\r' :: '\n' :: cs => '\n' :: unixLines cs
  | c :: cs => c :: unixLines cs

/-- The entries of the document that a text is. -/
def parse (s : String) : Except Lexical.Fault (List (String × Value)) :=
  let cs := unixLines s.toList
  (Document.empty.read (cs.length + 1) cs).map (·.root)

end DevConsole.Settings.Toml
