import DevConsole.Proofs.Ansi.Strip
import DevConsole.Table
import Mathlib.Algebra.GroupWithZero.Nat
import Mathlib.Data.List.Forall2
import Mathlib.Data.List.MinMax

/-!
# Aligned columns

A line of a table is a bar and then, for each of its cells, a block of cell, blanks and bar.  What
follows the text of a cell is a blank or a bar, and with neither does a control sequence go on
(`Ansi.breaksOff`).  So the line is stripped cell by cell (`stripChars_renderRow`), and of each
block the width of the column is visible, whatever sequences, whole or unfinished, are in the
cells.

The bar in front of a column therefore stands at an offset that depends on the widths of the
columns before it only (`barOffset`), in all lines of the table (`format_aligned`).
-/

namespace DevConsole
namespace Table

open Ansi (strip stripChars visibleLength)

variable {rows : List (List String)} {row : List String} {widths : List Nat} {pad : Nat}

/-! ## Widths -/

/-- The largest visible length of a cell in column `i`. -/
def widest (rows : List (List String)) (i : Nat) : Nat :=
  (rows.map fun row => row[i]?.elim 0 visibleLength).foldr max 0

theorem getElem?_widen (widths : List Nat) (row : List String) (i : Nat) :
    (widen widths row)[i]?.getD 0 = max (widths[i]?.getD 0) (row[i]?.elim 0 visibleLength) := by
  fun_induction widen widths row generalizing i with
  | case1 widths => simp
  | case2 cell row ih =>
      cases i with
      | zero => simp
      | succ i => simpa using ih i
  | case3 w widths cell row ih =>
      cases i with
      | zero => simp
      | succ i => simpa using ih i

theorem length_widen (widths : List Nat) (row : List String) :
    (widen widths row).length = max widths.length row.length := by
  fun_induction widen widths row with
  | case1 widths => simp
  | case2 cell row ih => simpa using ih
  | case3 w widths cell row ih => simp [ih, Nat.succ_max_succ]

theorem getElem?_foldl_widen (rows : List (List String)) (i : Nat) :
    ∀ widths : List Nat,
      (rows.foldl widen widths)[i]?.getD 0 = max (widths[i]?.getD 0) (widest rows i) := by
  induction rows with
  | nil => simp [widest]
  | cons row rest ih =>
      intro widths
      rw [List.foldl_cons, ih, getElem?_widen, Nat.max_assoc]
      rfl

theorem getElem?_columnWidths (rows : List (List String)) (i : Nat) :
    (columnWidths rows)[i]?.getD 0 = widest rows i := by
  rw [columnWidths, getElem?_foldl_widen]
  simp

theorem length_foldl_widen (rows : List (List String)) :
    ∀ widths : List Nat, widths.length ≤ (rows.foldl widen widths).length ∧
      ∀ row ∈ rows, row.length ≤ (rows.foldl widen widths).length := by
  induction rows with
  | nil => simp
  | cons first rest ih =>
      intro widths
      obtain ⟨hwidths, hrest⟩ := ih (widen widths first)
      rw [length_widen] at hwidths
      rw [List.foldl_cons, List.forall_mem_cons]
      exact ⟨by omega, by omega, hrest⟩

theorem visibleLength_le_widest {i : Nat} {cell : String} (hrow : row ∈ rows)
    (hcell : row[i]? = some cell) : visibleLength cell ≤ widest rows i := by
  have hmember : visibleLength cell ∈ rows.map fun row => row[i]?.elim 0 visibleLength :=
    List.mem_map.mpr ⟨row, hrow, by rw [hcell, Option.elim_some]⟩
  exact List.le_max_of_le' 0 hmember (Nat.le_refl _)

/-- There is a column for each cell, and the cell fits into it. -/
structure Fits (widths : List Nat) (row : List String) : Prop where
  length_le : row.length ≤ widths.length
  visibleLength_le : ∀ (i : Nat) (cell : String), row[i]? = some cell →
    visibleLength cell ≤ widths[i]?.getD 0

theorem fits_columnWidths (hrow : row ∈ rows) : Fits (columnWidths rows) row where
  length_le := (length_foldl_widen rows []).2 row hrow
  visibleLength_le := by
    intro i cell hcell
    rw [getElem?_columnWidths]
    exact visibleLength_le_widest hrow hcell

/-- The cells of the rule under the headers. -/
def ruleCells (widths : List Nat) : List String :=
  widths.map fun w => String.ofList (List.replicate w '-')

theorem visibleLength_dashes (w : Nat) :
    visibleLength (String.ofList (List.replicate w '-')) = w := by
  have hdashes : ∀ c ∈ List.replicate w '-', c ≠ Ansi.escape := by
    intro c hc
    rw [List.eq_of_mem_replicate hc]
    decide
  have hkept := Ansi.stripChars_append_of_forall_ne hdashes []
  rw [List.append_nil, Ansi.stripChars_nil, List.append_nil] at hkept
  rw [visibleLength, ← String.length_toList, Ansi.toList_strip, String.toList_ofList, hkept,
    List.length_replicate]

theorem fits_ruleCells (widths : List Nat) : Fits widths (ruleCells widths) where
  length_le := by rw [ruleCells, List.length_map]
  visibleLength_le := by
    intro i cell hcell
    rw [ruleCells, List.getElem?_map, Option.map_eq_some_iff] at hcell
    obtain ⟨w, hw, rfl⟩ := hcell
    rw [visibleLength_dashes, hw, Option.getD_some]

/-! ## The visible line -/

/-- What stands behind the text of a cell: `count` blanks and the bar. -/
def gap (count : Nat) : List Char :=
  List.replicate count ' ' ++ ['|']

theorem ne_escape_of_mem_gap {count : Nat} : ∀ c ∈ gap count, c ≠ Ansi.escape := by
  intro c hc
  simp only [gap, List.mem_append, List.mem_replicate, List.mem_singleton] at hc
  rcases hc with ⟨-, rfl⟩ | rfl <;> decide

/-- With a blank or a bar no control sequence goes on, so a cell is stripped by itself. -/
theorem stripChars_append_gap (s : List Char) (count : Nat) (rest : List Char) :
    stripChars (s ++ (gap count ++ rest)) = stripChars s ++ (gap count ++ stripChars rest) := by
  have hbreaks : ∀ c ∈ (gap count ++ rest).head?, Ansi.breaksOff c = true := by
    intro c hc
    cases count with
    | zero =>
        obtain rfl : '|' = c := Option.some.inj hc
        decide
    | succ count =>
        obtain rfl : ' ' = c := Option.some.inj hc
        decide
  rw [Ansi.stripChars_append_of_head? hbreaks,
    Ansi.stripChars_append_of_forall_ne ne_escape_of_mem_gap]

/-- What is visible of a cell: the cell between blanks, as wide as its column, and the bar behind
it. -/
def block (pad width : Nat) (cell : String) : List Char :=
  List.replicate pad ' ' ++ ((strip cell).toList ++ gap (width - visibleLength cell + pad))

theorem stripChars_renderCell_append (pad width : Nat) (cell : String) (rest : List Char) :
    stripChars ((renderCell pad width cell).toList ++ '|' :: rest) =
      block pad width cell ++ stripChars rest := by
  have hsplit : (renderCell pad width cell).toList ++ '|' :: rest =
      List.replicate pad ' ' ++
        (cell.toList ++ (gap (width - visibleLength cell + pad) ++ rest)) := by
    simp [renderCell, blanks, gap, ← List.replicate_append_replicate]
  have hblanks : ∀ c ∈ List.replicate pad ' ', c ≠ Ansi.escape :=
    fun c hc => ne_escape_of_mem_gap c (List.mem_append_left ['|'] hc)
  rw [hsplit, Ansi.stripChars_append_of_forall_ne hblanks, stripChars_append_gap]
  simp [block]

/-- A cell takes up the width of its column and the blanks on both sides, and then there is the
bar. -/
theorem exists_block_eq (pad : Nat) {width : Nat} {cell : String}
    (hfits : visibleLength cell ≤ width) :
    ∃ front : List Char, block pad width cell = front ++ ['|'] ∧ front.length = width + 2 * pad := by
  have hlength : (strip cell).toList.length = visibleLength cell := String.length_toList
  refine ⟨List.replicate pad ' ' ++ ((strip cell).toList ++
    List.replicate (width - visibleLength cell + pad) ' '), by simp [block, gap], ?_⟩
  simp only [List.length_append, List.length_replicate, hlength]
  omega

theorem toList_intercalate_bar {parts : List String} (hparts : parts ≠ []) :
    ("|".intercalate parts ++ "|").toList = parts.flatMap fun part => part.toList ++ ['|'] := by
  induction parts with
  | nil => exact absurd rfl hparts
  | cons part rest ih =>
      cases rest with
      | nil => simp
      | cons next rest =>
          rw [String.intercalate_cons_cons, String.append_assoc, String.toList_append,
            ih (List.cons_ne_nil _ _), String.toList_append, List.flatMap_cons]
          rfl

/-- What is visible of the cells of a row, each with the bar behind it. -/
def blocks (pad : Nat) (widths : List Nat) (row : List String) : List (List Char) :=
  List.zipWith (block pad) widths row

theorem stripChars_cells (pad : Nat) (widths : List Nat) :
    ∀ row : List String,
      stripChars ((List.zipWith (renderCell pad) widths row).flatMap fun part =>
        part.toList ++ ['|']) = (blocks pad widths row).flatten := by
  induction widths with
  | nil => exact fun _ => Ansi.stripChars_nil
  | cons width widths ih =>
      intro row
      cases row with
      | nil => exact Ansi.stripChars_nil
      | cons cell row =>
          rw [List.zipWith_cons_cons, List.flatMap_cons, List.append_assoc, List.singleton_append,
            stripChars_renderCell_append, ih]
          rfl

/-- A line is stripped cell by cell. -/
theorem stripChars_renderRow (pad : Nat) (hsome : row ≠ []) (hfits : Fits widths row) :
    stripChars (renderRow pad widths row).toList = '|' :: (blocks pad widths row).flatten := by
  have hcells : List.zipWith (renderCell pad) widths row ≠ [] := by
    obtain ⟨cell, row, rfl⟩ := List.exists_cons_of_ne_nil hsome
    obtain ⟨width, widths, rfl⟩ := List.exists_cons_of_length_pos
      (Nat.lt_of_lt_of_le (Nat.zero_lt_succ _) hfits.length_le)
    exact List.cons_ne_nil _ _
  rw [renderRow, String.append_assoc, String.toList_append, toList_intercalate_bar hcells]
  exact (Ansi.stripChars_cons_of_ne (by decide)).trans
    (congrArg ('|' :: ·) (stripChars_cells pad widths row))

/-! ## Bars -/

/-- The offset of the bar in front of column `i`, if the columns are as wide as `width` says. -/
def barOffset (pad : Nat) (width : Nat → Nat) (i : Nat) : Nat :=
  ((List.range i).map fun j => width j + 2 * pad + 1).sum

theorem barOffset_succ (pad : Nat) (width : Nat → Nat) (i : Nat) :
    barOffset pad width (i + 1) = barOffset pad width i + (width i + 2 * pad + 1) := by
  simp [barOffset, List.range_succ]

/-- The blocks of the cells from `i` on. -/
theorem blocks_drop {i : Nat} {cell : String} (hfits : Fits widths row)
    (hcell : row[i]? = some cell) :
    (blocks pad widths row).drop i =
      block pad (widths[i]?.getD 0) cell :: (blocks pad widths row).drop (i + 1) := by
  have hrow : i < row.length := (List.getElem?_eq_some_iff.mp hcell).1
  have hwidths : i < widths.length := Nat.lt_of_lt_of_le hrow hfits.length_le
  have hlength : i < (blocks pad widths row).length := by
    rw [blocks, List.length_zipWith]
    omega
  rw [List.drop_eq_getElem_cons hlength]
  simp only [blocks, List.getElem_zipWith, List.getElem?_eq_getElem hwidths, Option.getD_some,
    (List.getElem?_eq_some_iff.mp hcell).2]

/-- From its bar on, the visible line has the blocks of the cells behind the bar. -/
theorem drop_barOffset (pad : Nat) (hfits : Fits widths row) :
    ∀ i ≤ row.length,
      ('|' :: (blocks pad widths row).flatten).drop
        (barOffset pad (fun j => widths[j]?.getD 0) i) =
          '|' :: ((blocks pad widths row).drop i).flatten := by
  intro i
  induction i with
  | zero => exact fun _ => rfl
  | succ i ih =>
      intro hi
      have hcell : row[i]? = some row[i] := List.getElem?_eq_getElem hi
      obtain ⟨front, hblock, hlength⟩ :=
        exists_block_eq pad (hfits.visibleLength_le i row[i] hcell)
      have hbehind : front.length + 1 = (widths[i]?.getD 0) + 2 * pad + 1 := by rw [hlength]
      rw [barOffset_succ, ← List.drop_drop, ih (Nat.le_of_lt hi), blocks_drop hfits hcell,
        List.flatten_cons, hblock, ← hbehind, List.drop_succ_cons, List.append_assoc,
        List.drop_left, List.singleton_append]

/-- A line shows a row of cells in columns of the given widths: there is a bar in front of every
cell and behind the last one, nothing behind that bar, and each cell has its whole visible text
behind its bar and the blanks that go with it. -/
structure Aligned (pad : Nat) (width : Nat → Nat) (row : List String) (line : String) : Prop where
  length_eq : visibleLength line =
    1 + ((List.range row.length).map fun i => width i + 2 * pad + 1).sum
  bar : ∀ i ≤ row.length, (strip line).toList[barOffset pad width i]? = some '|'
  cell : ∀ (i : Nat) (cell : String), row[i]? = some cell →
    List.replicate pad ' ' ++ (strip cell).toList <+:
      (strip line).toList.drop (barOffset pad width i + 1)

theorem aligned_renderRow (pad : Nat) (hsome : row ≠ []) (hfits : Fits widths row) :
    Aligned pad (fun i => widths[i]?.getD 0) row (renderRow pad widths row) := by
  have hvisible := stripChars_renderRow pad hsome hfits
  have hdrop := drop_barOffset pad hfits
  rw [← hvisible, ← Ansi.toList_strip] at hdrop
  constructor
  · -- From the last bar on there is nothing but this bar.
    have hlast := congrArg List.length (hdrop row.length (Nat.le_refl _))
    have hnone : (blocks pad widths row).drop row.length = [] := by
      rw [List.drop_eq_nil_iff, blocks, List.length_zipWith]
      omega
    rw [hnone, List.length_drop, String.length_toList] at hlast
    simp only [List.flatten_nil, List.length_cons, List.length_nil] at hlast
    show (strip (renderRow pad widths row)).length = 1 + barOffset pad _ row.length
    omega
  · intro i hi
    have hhead := congrArg List.head? (hdrop i hi)
    rwa [List.head?_drop] at hhead
  · intro i cell hcell
    have hi : i < row.length := (List.getElem?_eq_some_iff.mp hcell).1
    rw [← List.drop_drop, hdrop i (Nat.le_of_lt hi), blocks_drop hfits hcell, List.flatten_cons,
      block, List.drop_one, List.tail_cons, List.append_assoc, List.append_assoc, ← List.append_assoc]
    exact List.prefix_append _ _

/-! ## Tables -/

/-- The rows of cells that the lines of a table are built from.  Under the headers there is a rule
as wide as the columns. A table without cells has no lines. -/
def lineRows (rows : List (List String)) (headers : Option (List String)) :
    List (List String) :=
  let widths := columnWidths (headers.toList ++ rows)
  if widths.isEmpty then []
  else (headers.elim [] fun titles => [titles, ruleCells widths]) ++ rows

theorem format_eq (rows : List (List String)) (headers : Option (List String)) (padding : Nat) :
    format rows headers padding = (lineRows rows headers).map
      (renderRow padding (columnWidths (headers.toList ++ rows))) := by
  unfold format lineRows
  dsimp only
  split
  · rfl
  · cases headers <;> simp [ruleCells]

theorem fits_of_mem_lineRows {headers : Option (List String)}
    (hrow : row ∈ lineRows rows headers) :
    Fits (columnWidths (headers.toList ++ rows)) row := by
  unfold lineRows at hrow
  dsimp only at hrow
  split at hrow
  · cases hrow
  · rcases List.mem_append.mp hrow with hheading | hbody
    · cases headers with
      | none => cases hheading
      | some titles =>
          simp only [Option.elim_some, List.mem_cons, List.not_mem_nil, or_false] at hheading
          rcases hheading with rfl | rfl
          · exact fits_columnWidths (by simp)
          · exact fits_ruleCells _
    · exact fits_columnWidths (List.mem_append_right _ hbody)

/-- The row as a value. -/
def rowValue (row : List String) : Value :=
  .list (row.map .text)

theorem cells_rowValue (row : List String) : cells (rowValue row) = .ok row := by
  have hwritten : (row.map Value.text).mapM Value.write = .ok row := by
    induction row with
    | nil => rfl
    | cons cell rest ih =>
        rw [List.map_cons, List.mapM_cons, ih]
        rfl
  exact hwritten

theorem mapM_cells (rows : List (List String)) : (rows.map rowValue).mapM cells = .ok rows := by
  induction rows with
  | nil => rfl
  | cons row rest ih =>
      rw [List.map_cons, List.mapM_cons, cells_rowValue, ih]
      rfl

theorem formatValues_rowValues (rows : List (List String)) (headers : Option (List String))
    (padding : Int) :
    formatValues (.list (rows.map rowValue)) (headers.map rowValue) padding =
      .ok (format rows headers padding) := by
  have hrows : (Value.list (rows.map rowValue)).items? = some (rows.map rowValue) := rfl
  unfold formatValues
  simp only [hrows, mapM_cells]
  cases headers with
  | none => rfl
  | some titles =>
      simp only [Option.map_some, Option.mapM_some, cells_rowValue]
      rfl

/-- **Columns are aligned.**  A table of any rows of texts, with or without headers, has lines,
and each line that is built from at least one cell shows its cells in columns.  Each column is as
wide as its widest cell, so all lines agree on where its bar is. -/
theorem format_aligned (rows : List (List String)) (headers : Option (List String))
    (padding : Nat) :
    ∃ lines, formatValues (.list (rows.map rowValue)) (headers.map rowValue) padding = .ok lines ∧
      List.Forall₂
        (fun row line => row ≠ [] → Aligned padding (widest (headers.toList ++ rows)) row line)
        (lineRows rows headers) lines := by
  refine ⟨_, formatValues_rowValues rows headers padding, ?_⟩
  have hwidths : widest (headers.toList ++ rows) =
      fun i => (columnWidths (headers.toList ++ rows))[i]?.getD 0 :=
    funext fun i => (getElem?_columnWidths _ i).symm
  rw [format_eq, List.forall₂_map_right_iff, List.forall₂_same, hwidths]
  intro row hrow hsome
  exact aligned_renderRow padding hsome (fits_of_mem_lineRows hrow)

/-- A ragged table.  A cell has a colour, and another one ends in an unfinished sequence. -/
def raggedRows : List (List String) :=
  [["\x1b[1mecho\x1b[0m", "say\x1b[3"], [], ["quit"]]

theorem format_aligned_ragged :
    let width := widest (["command"] :: raggedRows)
    formatValues (.list (raggedRows.map rowValue)) (some (rowValue ["command"])) 0 =
        .ok ["|command|", "|-------|------|", "|\x1b[1mecho\x1b[0m   |say\x1b[3|", "||",
          "|quit   |"] ∧
      Aligned 0 width ["\x1b[1mecho\x1b[0m", "say\x1b[3"]
        "|\x1b[1mecho\x1b[0m   |say\x1b[3|" ∧
      Aligned 0 width ["quit"] "|quit   |" ∧ barOffset 0 width 1 = 8 := by
  intro width
  obtain ⟨lines, hmade, haligned⟩ := format_aligned raggedRows (some ["command"]) 0
  have hlines : format raggedRows (some ["command"]) 0 = ["|command|", "|-------|------|",
      "|\x1b[1mecho\x1b[0m   |say\x1b[3|", "||", "|quit   |"] := by decide +kernel
  have hrows : lineRows raggedRows (some ["command"]) = [["command"], ["-------", "------"],
      ["\x1b[1mecho\x1b[0m", "say\x1b[3"], [], ["quit"]] := by decide +kernel
  have hformat := formatValues_rowValues raggedRows (some ["command"]) 0
  obtain rfl := Except.ok.inj (hmade.symm.trans hformat)
  rw [hrows, hlines] at haligned
  simp only [List.forall₂_cons] at haligned
  obtain ⟨-, -, hcells, -, hquit, -⟩ := haligned
  rw [hlines] at hformat
  exact ⟨hformat, hcells (by decide), hquit (by decide), by decide +kernel⟩

end Table
end DevConsole
