import DevConsole.Decimal.Shortest
import DevConsole.Moment
import DevConsole.Text.Numeral
import DevConsole.Text.Quoted

/-!
# Values

The values that settings hold, callbacks return and table cells show.  A value has two written
forms: its text, which is what a user reads, and its literal, which messages show and in which
texts stand in quotes.  A whole number of too many digits has neither, so a value that holds one
cannot be written.
-/

namespace DevConsole

/-- A dynamic value. The entries of a dictionary keep their order. -/
inductive Value where
  | null
  | bool (b : Bool)
  | int (n : Int)
  | float (x : Float)
  | text (s : String)
  | bytes (b : List UInt8)
  | list (items : List Value)
  | tuple (items : List Value)
  | dict (entries : List (String × Value))
  | moment (m : Moment)
  deriving Inhabited

namespace Value

mutual

/-- The literal of a value. -/
def literal : Value → String
  | null => "None"
  | bool b => if b then "True" else "False"
  | int n => toString n
  | float x => Decimal.text x
  | text s => Text.quoted s
  | bytes b => Text.quotedBytes b
  | list items => "[" ++ ", ".intercalate (literals items) ++ "]"
  | tuple items =>
    match literals items with
    | [item] => "(" ++ item ++ ",)"
    | parts => "(" ++ ", ".intercalate parts ++ ")"
  | dict entries => "\x7b" ++ ", ".intercalate (entryLiterals entries) ++ "\x7d"
  | moment m => m.literal

/-- The literals of several values. -/
def literals : List Value → List String
  | [] => []
  | v :: vs => literal v :: literals vs

/-- The literals of the entries of a dictionary. -/
def entryLiterals : List (String × Value) → List String
  | [] => []
  | (key, v) :: rest => (Text.quoted key ++ ": " ++ literal v) :: entryLiterals rest

end

/-- The text of a value: that of a text is the text itself. -/
def toText : Value → String
  | text s => s
  | moment m => m.iso " "
  | v => v.literal

mutual

/-- Whether a value can be written: no whole number in it has more digits than a numeral may. -/
def isWritable : Value → Bool
  | int n => n.natAbs < 10 ^ Text.maxDigits
  | list items => areWritable items
  | tuple items => areWritable items
  | dict entries => entriesAreWritable entries
  | _ => true

/-- Whether several values can be written. -/
def areWritable : List Value → Bool
  | [] => true
  | v :: vs => isWritable v && areWritable vs

/-- Whether the entries of a dictionary can be written. -/
def entriesAreWritable : List (String × Value) → Bool
  | [] => true
  | (_, v) :: rest => isWritable v && entriesAreWritable rest

end

/-- What is said of a whole number that has too many digits to be written. -/
def limitText : String :=
  s!"Exceeds the limit ({Text.maxDigits} digits) for integer string conversion; " ++
    "use sys.set_int_max_str_digits() to increase the limit"

/-- Whether a value counts as true in a condition: it is neither null, nor zero, nor empty. -/
def isTrue : Value → Bool
  | null => false
  | bool b => b
  | int n => n != 0
  | float x => !(x == 0)
  | text s => !s.isEmpty
  | bytes b => !b.isEmpty
  | list items => !items.isEmpty
  | tuple items => !items.isEmpty
  | dict entries => !entries.isEmpty
  | moment _ => true

/-- The items of a value that is a sequence: those of a text are its characters, those of a
dictionary its keys. -/
def items? : Value → Option (List Value)
  | text s => some (s.toList.map fun c => text (String.singleton c))
  | bytes b => some (b.map fun n => int n.toNat)
  | list items => some items
  | tuple items => some items
  | dict entries => some (entries.map fun entry => text entry.1)
  | _ => none

/-- The word for the kind of a value. -/
def kind : Value → String
  | null => "NoneType"
  | bool _ => "bool"
  | int _ => "int"
  | float _ => "float"
  | text _ => "str"
  | bytes _ => "bytes"
  | list _ => "list"
  | tuple _ => "tuple"
  | dict _ => "dict"
  | moment (.date _) => "datetime.date"
  | moment (.clock _) => "datetime.time"
  | moment _ => "datetime.datetime"

end Value

end DevConsole
