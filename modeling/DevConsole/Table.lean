import DevConsole.Ansi
import DevConsole.Failure

/-!
# Tables

Rows of cells laid out in columns between bars.  A column is as wide as its widest cell, where
control sequences have no width.  Rows may have different lengths: a row shows a bar for each of
its own cells only.
-/

namespace DevConsole.Table

/-- The blanks on either side of a cell unless a table asks for more. -/
def defaultPadding : Int := 1

/-- The widths of the columns with those of one more row taken in. -/
def widen : (widths : List Nat) → (row : List String) → List Nat
  | widths, [] => widths
  | [], cell :: row => Ansi.visibleLength cell :: widen [] row
  | w :: widths, cell :: row => max w (Ansi.visibleLength cell) :: widen widths row

/-- The width of each column: the largest visible length of a cell in it. -/
def columnWidths (rows : List (List String)) : List Nat :=
  rows.foldl widen []

/-- `count` blanks. -/
def blanks (count : Nat) : String :=
  String.ofList (List.replicate count ' ')

/-- A cell of a column of width `width`, with `pad` blanks on either side. -/
def renderCell (pad width : Nat) (cell : String) : String :=
  blanks pad ++ cell ++ blanks (width - Ansi.visibleLength cell) ++ blanks pad

/-- A row between bars. -/
def renderRow (pad : Nat) (widths : List Nat) (row : List String) : String :=
  "|" ++ "|".intercalate (List.zipWith (renderCell pad) widths row) ++ "|"

/-- The lines of a table: the headers and a rule under them, if there are headers, then the rows.
A table without columns has no lines. -/
def format (rows : List (List String)) (headers : Option (List String)) (padding : Int) :
    List String :=
  let widths := columnWidths (headers.toList ++ rows)
  let pad := padding.toNat
  if widths.isEmpty then []
  else
    let heading :=
      match headers with
      | none => []
      | some titles =>
        let rule := widths.map fun w => String.ofList (List.replicate w '-')
        [renderRow pad widths titles, renderRow pad widths rule]
    heading ++ rows.map (renderRow pad widths)

/-- The failure to go through a value that is no sequence. -/
def notIterable (v : Value) : Failure :=
  .raised "TypeError" [.text s!"'{v.kind}' object is not iterable"]

/-- The texts of the items of a value. -/
def cells (row : Value) : Except Failure (List String) :=
  match row.items? with
  | some items => items.mapM Value.write
  | none => .error (notIterable row)

/-- The lines of a table whose rows and headers are values; a cell shows the text of its value. -/
def formatValues (rows : Value) (headers : Option Value) (padding : Int) :
    Except Failure (List String) := do
  let some rowValues := rows.items? | throw (notIterable rows)
  let rows ← rowValues.mapM cells
  let headers ← headers.mapM cells
  return format rows headers padding

end DevConsole.Table
