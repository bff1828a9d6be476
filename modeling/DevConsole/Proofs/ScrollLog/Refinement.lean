import DevConsole.ScrollLog

/-!
# A bounded log refines an unbounded one

The reference (`UnboundedLog`) keeps every line written since it was last cleared.  Its
cursor follows the newest line or is parked at an index among all of these lines, and a
write takes a parked cursor along to the oldest line that a log of the given capacity
still has.

A log of that capacity has dropped the lines before `oldest`, so its indices are those
of the reference less `oldest`.  This and the mode of the cursor make up the invariant
`Simulates`.  Each operation preserves it, hence every run does (`simulates_after`), and
what a log lets one observe is read off it (`Simulates.agrees`).
-/

namespace DevConsole

namespace ScrollLog

/-- An operation on a log. -/
inductive Op where
  | write (line : String)
  | clear
  | scroll (up : Bool)
  | scrollToNewest

/-- The log after one operation. -/
def apply (log : ScrollLog) : Op → ScrollLog
  | .write line => log.write line
  | .clear => log.clear
  | .scroll up => (log.scroll up).2
  | .scrollToNewest => log.scrollToNewest

/-- The log after a run. -/
def after (log : ScrollLog) (ops : List Op) : ScrollLog :=
  ops.foldl apply log

/-- A log that nothing has been written to. -/
def fresh (capacity : Nat) : ScrollLog :=
  { capacity := capacity, lines := [], position := -1, following := true }

/-- The indices of the lines that a window shows. -/
def windowIndices (log : ScrollLog) (rows : Int) : List Nat :=
  if log.lines.isEmpty || rows ≤ 0 then []
  else
    let stop := log.position + 1
    let start := max 0 (stop - rows)
    List.range' start.toNat (stop.toNat - start.toNat)

theorem empty?_eq_ok_iff {capacity : Nat} {log : ScrollLog} :
    empty? capacity = .ok log ↔
      1 ≤ capacity ∧ capacity ≤ maxCapacity ∧ log = fresh capacity := by
  unfold empty?
  by_cases hsmall : (capacity : Int) < 1
  · rw [if_pos hsmall]
    exact ⟨nofun, fun hlog => absurd hlog.1 (by omega)⟩
  by_cases hlarge : maxCapacity < capacity
  · rw [if_neg hsmall, if_pos hlarge]
    exact ⟨nofun, fun hlog => absurd hlog.2.1 (by omega)⟩
  · rw [if_neg hsmall, if_neg hlarge]
    exact ⟨fun hlog => ⟨by omega, by omega, (Except.ok.inj hlog).symm⟩,
      fun hlog => hlog.2.2 ▸ rfl⟩

theorem empty?_eq_fresh {capacity : Nat} (hpos : 0 < capacity)
    (hsmall : (capacity : Int) ≤ maxCapacity) : empty? capacity = .ok (fresh capacity) :=
  empty?_eq_ok_iff.mpr ⟨hpos, hsmall, rfl⟩

end ScrollLog

/-- The cursor of an unbounded log. -/
inductive AbsoluteCursor where
  | following
  | parked (index : Nat)

/-- Whether a cursor follows the newest line. -/
def AbsoluteCursor.follows : AbsoluteCursor → Bool
  | following => true
  | parked _ => false

/-- All lines written since the last clear, and the cursor. -/
structure UnboundedLog where
  written : List String
  cursor : AbsoluteCursor

namespace UnboundedLog

/-- The reference that nothing has been written to. -/
def empty : UnboundedLog := ⟨[], .following⟩

/-- The index of the oldest line that survives. -/
def oldest (capacity : Nat) (ref : UnboundedLog) : Nat :=
  ref.written.length - capacity

/-- The lines that survive. -/
def surviving (capacity : Nat) (ref : UnboundedLog) : List String :=
  ref.written.drop (ref.oldest capacity)

/-- The index of the line under the cursor, if there are lines. -/
def index? (ref : UnboundedLog) : Option Nat :=
  match ref.cursor with
  | .following => if 0 < ref.written.length then some (ref.written.length - 1) else none
  | .parked index => some index

/-- The surviving lines up to the one under the cursor. -/
def upToCursor (capacity : Nat) (ref : UnboundedLog) : List String :=
  match ref.index? with
  | some index => (ref.written.take (index + 1)).drop (ref.oldest capacity)
  | none => []

/-- Appends a line.  A parked cursor moves on to the oldest line that survives, if its
own does not. -/
def write (capacity : Nat) (ref : UnboundedLog) (line : String) : UnboundedLog :=
  { written := ref.written ++ [line]
    cursor :=
      match ref.cursor with
      | .following => .following
      | .parked index => .parked (max index (ref.written.length + 1 - capacity)) }

/-- Puts the cursor on the line with the given index; on the newest line it follows. -/
def moveTo (ref : UnboundedLog) (index : Nat) : UnboundedLog :=
  { ref with
    cursor := if index + 1 = ref.written.length then .following else .parked index }

/-- Moves the cursor to the next older surviving line (`up`) or to the next newer line, if
there is one. -/
def scroll (capacity : Nat) (ref : UnboundedLog) (up : Bool) : UnboundedLog :=
  match ref.index? with
  | none => ref
  | some index =>
    if up then
      if ref.oldest capacity < index then ref.moveTo (index - 1) else ref
    else if index + 1 < ref.written.length then ref.moveTo (index + 1)
    else ref

/-- The reference after one operation. -/
def apply (capacity : Nat) (ref : UnboundedLog) : ScrollLog.Op → UnboundedLog
  | .write line => ref.write capacity line
  | .clear => empty
  | .scroll up => ref.scroll capacity up
  | .scrollToNewest => { ref with cursor := .following }

/-- The reference after a run. -/
def after (capacity : Nat) (ref : UnboundedLog) (ops : List ScrollLog.Op) : UnboundedLog :=
  ops.foldl (apply capacity) ref

/-- A parked cursor is on a surviving line that is not the newest. -/
def Tidy (capacity : Nat) (ref : UnboundedLog) : Prop :=
  ∀ index, ref.cursor = .parked index →
    ref.oldest capacity ≤ index ∧ index + 1 < ref.written.length

variable {capacity : Nat} {ref : UnboundedLog}

theorem length_surviving (capacity : Nat) (ref : UnboundedLog) :
    (ref.surviving capacity).length = min ref.written.length capacity := by
  simp only [surviving, oldest, List.length_drop]
  omega

/-- The line under the cursor survives, and the cursor follows when it is the newest. -/
theorem Tidy.index_between (htidy : ref.Tidy capacity) (hpos : 0 < capacity) {index : Nat}
    (hindex : ref.index? = some index) :
    ref.oldest capacity ≤ index ∧ index < ref.written.length ∧
      (ref.cursor.follows = true ↔ index + 1 = ref.written.length) := by
  unfold index? at hindex
  cases hcursor : ref.cursor with
  | following =>
      rw [hcursor] at hindex
      dsimp only at hindex
      split at hindex
      · obtain rfl := Option.some.inj hindex
        simp only [oldest, AbsoluteCursor.follows, true_iff]
        omega
      · cases hindex
  | parked parked =>
      rw [hcursor] at hindex
      obtain rfl : parked = index := Option.some.inj hindex
      obtain ⟨hlow, hhigh⟩ := htidy parked hcursor
      simp only [AbsoluteCursor.follows, Bool.false_eq_true, false_iff]
      omega

/-- Without a line there is only the following cursor. -/
theorem Tidy.of_index?_eq_none (htidy : ref.Tidy capacity) (hindex : ref.index? = none) :
    ref = empty := by
  obtain ⟨written, cursor⟩ := ref
  cases cursor with
  | following =>
      by_cases hlines : 0 < written.length
      · simp [index?, hlines] at hindex
      · obtain rfl : written = [] := List.length_eq_zero_iff.mp (by omega)
        rfl
  | parked parked => cases hindex

theorem index?_moveTo (target : Nat) : (ref.moveTo target).index? = some target := by
  unfold moveTo index?
  split
  · next hfollows =>
      split at hfollows
      · next hnewest =>
          have hlines : 0 < ref.written.length := by omega
          simp only [hlines, if_true, Option.some.injEq]
          omega
      · cases hfollows
  · next parked hparked =>
      split at hparked
      · cases hparked
      · cases hparked
        rfl

/-- Moving the cursor to where it is changes nothing. -/
theorem Tidy.moveTo_self (htidy : ref.Tidy capacity) (hpos : 0 < capacity) {index : Nat}
    (hindex : ref.index? = some index) : ref.moveTo index = ref := by
  obtain ⟨-, -, hfollows⟩ := htidy.index_between hpos hindex
  obtain ⟨written, cursor⟩ := ref
  unfold moveTo
  cases cursor with
  | following => simp [hfollows.mp rfl]
  | parked parked =>
      obtain rfl : parked = index := Option.some.inj hindex
      have hother : ¬ parked + 1 = written.length := fun hnewest => by
        cases hfollows.mpr hnewest
      simp [hother]

/-- The index of the line that a scroll leads to. -/
def target (capacity : Nat) (ref : UnboundedLog) (index : Nat) (up : Bool) : Nat :=
  if up then max (ref.oldest capacity) (index - 1)
  else min (ref.written.length - 1) (index + 1)

theorem Tidy.scroll_eq_moveTo (htidy : ref.Tidy capacity) (hpos : 0 < capacity) {index : Nat}
    (hindex : ref.index? = some index) (up : Bool) :
    ref.scroll capacity up = ref.moveTo (ref.target capacity index up) := by
  obtain ⟨hlow, hhigh, -⟩ := htidy.index_between hpos hindex
  have hsame := htidy.moveTo_self hpos hindex
  simp only [scroll, hindex]
  cases up with
  | true =>
      by_cases holder : ref.oldest capacity < index
      · simp only [target, holder, if_true]
        rw [show max (ref.oldest capacity) (index - 1) = index - 1 by omega]
      · simp only [target, holder, if_true, if_false]
        rw [show max (ref.oldest capacity) (index - 1) = index by omega, hsame]
  | false =>
      by_cases hnewer : index + 1 < ref.written.length
      · simp only [target, hnewer, if_true, Bool.false_eq_true, if_false]
        rw [show min (ref.written.length - 1) (index + 1) = index + 1 by omega]
      · simp only [target, hnewer, Bool.false_eq_true, if_false]
        rw [show min (ref.written.length - 1) (index + 1) = index by omega, hsame]

theorem target_between {index : Nat}
    (hlow : ref.oldest capacity ≤ index) (hhigh : index < ref.written.length) (up : Bool) :
    ref.oldest capacity ≤ ref.target capacity index up ∧
      ref.target capacity index up < ref.written.length := by
  unfold target
  unfold oldest at hlow ⊢
  split <;> omega

end UnboundedLog

namespace ScrollLog

/-- **The simulation invariant.**  The log has the surviving lines, its cursor stands on
the line of the reference's cursor, counted from the oldest surviving line, and both
cursors are in the same mode.  With no lines the index is `-1` and the cursor follows. -/
structure Simulates (capacity : Nat) (log : ScrollLog) (ref : UnboundedLog) : Prop where
  capacity_eq : log.capacity = capacity
  lines_eq : log.lines = ref.surviving capacity
  position_eq : log.position =
    match ref.cursor with
    | .following => ((ref.surviving capacity).length : Int) - 1
    | .parked index => (index : Int) - ref.oldest capacity
  following_eq : log.following = ref.cursor.follows
  tidy : ref.Tidy capacity

namespace Simulates

variable {capacity : Nat} {log : ScrollLog} {ref : UnboundedLog}

theorem length_eq (hsim : Simulates capacity log ref) :
    log.lines.length = min ref.written.length capacity := by
  rw [hsim.lines_eq, UnboundedLog.length_surviving]

theorem position_of_index (hsim : Simulates capacity log ref) (hpos : 0 < capacity)
    {index : Nat} (hindex : ref.index? = some index) :
    log.position = (index : Int) - ref.oldest capacity := by
  obtain ⟨hlow, hhigh, hfollows⟩ := hsim.tidy.index_between hpos hindex
  rw [hsim.position_eq]
  cases hcursor : ref.cursor with
  | following =>
      have hnewest : index + 1 = ref.written.length := hfollows.mp (by rw [hcursor]; rfl)
      simp only [UnboundedLog.length_surviving]
      unfold UnboundedLog.oldest at hlow ⊢
      omega
  | parked parked =>
      unfold UnboundedLog.index? at hindex
      rw [hcursor] at hindex
      obtain rfl : parked = index := Option.some.inj hindex
      rfl

theorem following_iff (hsim : Simulates capacity log ref) (hpos : 0 < capacity)
    {index : Nat} (hindex : ref.index? = some index) :
    log.following = true ↔ index + 1 = ref.written.length := by
  rw [hsim.following_eq]
  exact (hsim.tidy.index_between hpos hindex).2.2

theorem fresh_empty (capacity : Nat) :
    Simulates capacity (fresh capacity) UnboundedLog.empty where
  capacity_eq := rfl
  lines_eq := by simp [fresh, UnboundedLog.surviving, UnboundedLog.empty]
  position_eq := by simp [fresh, UnboundedLog.surviving, UnboundedLog.empty]
  following_eq := rfl
  tidy := fun _ hcursor => by cases hcursor

/-! ### Writing -/

/-- One more line is dropped exactly when the log is full. -/
theorem surviving_write (hpos : 0 < capacity) (ref : UnboundedLog) (line : String) :
    (ref.write capacity line).surviving capacity =
      (if capacity ≤ ref.written.length then (ref.surviving capacity).drop 1
        else ref.surviving capacity) ++ [line] := by
  simp only [UnboundedLog.surviving, UnboundedLog.oldest, UnboundedLog.write,
    List.length_append, List.length_cons, List.length_nil]
  by_cases hfull : capacity ≤ ref.written.length
  · -- One more line is dropped, which is an old one since the capacity is positive.
    simp only [hfull, if_true, List.drop_drop]
    rw [List.drop_append_of_le_length (by omega)]
    congr 2
    omega
  · -- There is room for the line, and nothing has been dropped so far.
    simp only [hfull, if_false]
    rw [show ref.written.length + (0 + 1) - capacity = 0 by omega,
      show ref.written.length - capacity = 0 by omega, List.drop_zero, List.drop_zero]

theorem isFull_iff (hsim : Simulates capacity log ref) :
    log.lines.length = log.capacity ↔ capacity ≤ ref.written.length := by
  rw [hsim.length_eq, hsim.capacity_eq]
  omega

theorem lines_write (hsim : Simulates capacity log ref) (hpos : 0 < capacity)
    (line : String) :
    (log.write line).lines = (ref.write capacity line).surviving capacity := by
  rw [surviving_write hpos, ← hsim.lines_eq]
  by_cases hfull : log.lines.length = log.capacity
  · simp [ScrollLog.write, hfull, hsim.isFull_iff.mp hfull]
  · simp [ScrollLog.write, hfull, mt hsim.isFull_iff.mpr hfull]

/-- A parked index goes down by one for the line that is dropped, and not below `0`. -/
theorem position_write_parked (hsim : Simulates capacity log ref) {parked : Nat}
    (hcursor : ref.cursor = .parked parked) (line : String) :
    (log.write line).position =
      (max parked (ref.written.length + 1 - capacity) : Nat) -
        ((ref.written.length + 1 - capacity : Nat) : Int) := by
  have hmode := hsim.following_eq
  have hposition := hsim.position_eq
  rw [hcursor] at hmode hposition
  obtain ⟨hlow, -⟩ := hsim.tidy parked hcursor
  have hparked : log.following = false := hmode
  simp only [ScrollLog.write, hparked, Bool.false_eq_true, if_false, hposition]
  unfold UnboundedLog.oldest at hlow ⊢
  by_cases hfull : log.lines.length = log.capacity
  · have hlength := hsim.isFull_iff.mp hfull
    simp only [hfull, if_true]
    omega
  · have hlength := mt hsim.isFull_iff.mpr hfull
    simp only [hfull, if_false]
    omega

theorem write (hsim : Simulates capacity log ref) (hpos : 0 < capacity) (line : String) :
    Simulates capacity (log.write line) (ref.write capacity line) := by
  have hlines := hsim.lines_write hpos line
  have hmode := hsim.following_eq
  cases hcursor : ref.cursor with
  | following =>
      rw [hcursor] at hmode
      have hfollows : log.following = true := hmode
      have hkept : (ref.write capacity line).cursor = .following := by
        simp only [UnboundedLog.write, hcursor]
      refine ⟨hsim.capacity_eq, hlines, ?_, ?_, ?_⟩
      · rw [hkept, ← hlines]
        simp only [ScrollLog.write, hfollows, if_true]
      · rw [hkept]
        exact hfollows
      · intro index hparked
        rw [hkept] at hparked
        cases hparked
  | parked parked =>
      rw [hcursor] at hmode
      have hkept : (ref.write capacity line).cursor =
          .parked (max parked (ref.written.length + 1 - capacity)) := by
        simp only [UnboundedLog.write, hcursor]
      have holdest : (ref.write capacity line).oldest capacity =
          ref.written.length + 1 - capacity := by
        simp [UnboundedLog.oldest, UnboundedLog.write]
      obtain ⟨hlow, hhigh⟩ := hsim.tidy parked hcursor
      refine ⟨hsim.capacity_eq, hlines, ?_, ?_, ?_⟩
      · rw [hkept, holdest]
        exact hsim.position_write_parked hcursor line
      · rw [hkept]
        exact hmode
      · intro index hparked
        rw [hkept] at hparked
        cases hparked
        -- A parked line survives and has a newer one, so the capacity is at least two.
        rw [holdest]
        unfold UnboundedLog.oldest at hlow
        simp only [UnboundedLog.write, List.length_append, List.length_cons, List.length_nil]
        omega

/-! ### Moving the cursor -/

/-- Putting the cursor on a surviving line. -/
theorem moveTo (hsim : Simulates capacity log ref) {index : Nat}
    (hlow : ref.oldest capacity ≤ index) (hhigh : index < ref.written.length) :
    Simulates capacity
      { log with
        position := (index : Int) - ref.oldest capacity
        following := decide (index + 1 = ref.written.length) }
      (ref.moveTo index) := by
  have hlength := UnboundedLog.length_surviving capacity ref
  by_cases hnewest : index + 1 = ref.written.length
  · have hkept : ref.moveTo index = { ref with cursor := .following } := by
      simp only [UnboundedLog.moveTo, hnewest, if_true]
    rw [hkept]
    refine ⟨hsim.capacity_eq, hsim.lines_eq, ?_, ?_, ?_⟩
    · show (index : Int) - ref.oldest capacity = ((ref.surviving capacity).length : Int) - 1
      rw [hlength]
      unfold UnboundedLog.oldest at hlow ⊢
      omega
    · simp [hnewest, AbsoluteCursor.follows]
    · intro parked hparked
      cases hparked
  · have hkept : ref.moveTo index = { ref with cursor := .parked index } := by
      simp only [UnboundedLog.moveTo, hnewest, if_false]
    rw [hkept]
    refine ⟨hsim.capacity_eq, hsim.lines_eq, rfl, ?_, ?_⟩
    · simp [hnewest, AbsoluteCursor.follows]
    · intro parked hparked
      cases hparked
      show ref.oldest capacity ≤ index ∧ index + 1 < ref.written.length
      omega

theorem isEmpty_iff (hsim : Simulates capacity log ref) (hpos : 0 < capacity) :
    log.lines.isEmpty = true ↔ ref.written.length = 0 := by
  rw [List.isEmpty_iff, ← List.length_eq_zero_iff, hsim.length_eq]
  omega

theorem newestIndex_eq (hsim : Simulates capacity log ref) :
    log.newestIndex = (ref.written.length : Int) - 1 - ref.oldest capacity := by
  rw [newestIndex, hsim.length_eq]
  unfold UnboundedLog.oldest
  omega

/-- A scroll goes to the line that the reference goes to. -/
theorem scroll_eq (hsim : Simulates capacity log ref) (hpos : 0 < capacity) {index : Nat}
    (hindex : ref.index? = some index) (up : Bool) :
    log.scroll up = (decide (ref.target capacity index up ≠ index),
      { log with
        position := (ref.target capacity index up : Int) - ref.oldest capacity
        following := decide (ref.target capacity index up + 1 = ref.written.length) }) := by
  obtain ⟨hlow, hhigh, -⟩ := hsim.tidy.index_between hpos hindex
  have hlines : log.lines.isEmpty = false := by
    rw [Bool.eq_false_iff, Ne, hsim.isEmpty_iff hpos]
    omega
  have hposition := hsim.position_of_index hpos hindex
  have hnewest := hsim.newestIndex_eq
  -- Both clamp between the oldest and the newest line; the indices differ by `oldest`.
  have htarget : max 0 (min log.newestIndex
      (if up then log.position - 1 else log.position + 1)) =
        (ref.target capacity index up : Int) - ref.oldest capacity := by
    rw [hposition, hnewest]
    unfold UnboundedLog.target
    cases up <;> simp only [Bool.false_eq_true, if_true, if_false] <;> omega
  simp only [ScrollLog.scroll, hlines, Bool.false_eq_true, if_false, htarget]
  refine Prod.ext ?_ ?_
  · rw [Bool.eq_iff_iff, bne_iff_ne, decide_eq_true_iff, hposition]
    omega
  · have hmode : ((ref.target capacity index up : Int) - ref.oldest capacity ==
        log.newestIndex) = decide (ref.target capacity index up + 1 = ref.written.length) := by
      rw [Bool.eq_iff_iff, beq_iff_eq, decide_eq_true_iff, hnewest]
      omega
    rw [hmode]

theorem scroll (hsim : Simulates capacity log ref) (hpos : 0 < capacity) (up : Bool) :
    Simulates capacity (log.scroll up).2 (ref.scroll capacity up) := by
  cases hindex : ref.index? with
  | none =>
      -- An empty log does not scroll, and neither does the reference.
      obtain rfl := hsim.tidy.of_index?_eq_none hindex
      have hlines : log.lines.isEmpty = true := (hsim.isEmpty_iff hpos).mpr rfl
      simp only [ScrollLog.scroll, hlines, if_true]
      exact hsim
  | some index =>
      obtain ⟨hlow, hhigh, -⟩ := hsim.tidy.index_between hpos hindex
      obtain ⟨holder, hnewer⟩ := UnboundedLog.target_between hlow hhigh up
      rw [hsim.scroll_eq hpos hindex, hsim.tidy.scroll_eq_moveTo hpos hindex]
      exact hsim.moveTo holder hnewer

theorem scrollToNewest (hsim : Simulates capacity log ref) :
    Simulates capacity log.scrollToNewest { ref with cursor := .following } where
  capacity_eq := hsim.capacity_eq
  lines_eq := hsim.lines_eq
  position_eq := by
    show (log.lines.length : Int) - 1 = ((ref.surviving capacity).length : Int) - 1
    rw [hsim.lines_eq]
  following_eq := rfl
  tidy := fun _ hcursor => by cases hcursor

/-! ### Runs -/

theorem apply (hsim : Simulates capacity log ref) (hpos : 0 < capacity) (op : Op) :
    Simulates capacity (log.apply op) (ref.apply capacity op) := by
  cases op with
  | write line => exact hsim.write hpos line
  | clear =>
      have hcleared : log.clear = ScrollLog.fresh capacity := by
        rw [ScrollLog.clear, hsim.capacity_eq, ScrollLog.fresh]
      show Simulates capacity log.clear UnboundedLog.empty
      rw [hcleared]
      exact fresh_empty capacity
  | scroll up => exact hsim.scroll hpos up
  | scrollToNewest => exact hsim.scrollToNewest

theorem after (hsim : Simulates capacity log ref) (hpos : 0 < capacity) (ops : List Op) :
    Simulates capacity (log.after ops) (ref.after capacity ops) := by
  induction ops generalizing log ref with
  | nil => exact hsim
  | cons op rest ih => exact ih (hsim.apply hpos op)

end Simulates

/-! ### Observations -/

/-- What a log shows, in terms of the reference: its lines, the line under its cursor,
whether that is the newest, what a scroll answers, and its windows. -/
structure Agrees (capacity : Nat) (log : ScrollLog) (ref : UnboundedLog) : Prop where
  lines_eq : log.lines = ref.written.drop (ref.written.length - capacity)
  length_eq : log.length = min ref.written.length capacity
  cursor?_eq : log.cursor? =
    ref.index?.map fun index => (index : Int) - ref.oldest capacity
  current?_eq : log.current? = ref.index?.bind fun index => ref.written[index]?
  following_iff : log.following = true ↔
    log.lines = [] ∨ log.cursor? = some log.newestIndex
  scroll_moves_iff : ∀ up, (log.scroll up).1 = true ↔
    (ref.scroll capacity up).index? ≠ ref.index?
  scroll_lines : ∀ up, (log.scroll up).2.lines = log.lines
  window_eq : ∀ rows, log.window rows = (ref.upToCursor capacity).drop
    ((ref.upToCursor capacity).length - rows.toNat)
  window_in_range : ∀ rows, (log.window rows).map some =
    (log.windowIndices rows).map fun index => log.lines[index]?

theorem scroll_lines (log : ScrollLog) (up : Bool) : (log.scroll up).2.lines = log.lines := by
  unfold ScrollLog.scroll
  split <;> rfl

/-- A segment of a list is read off index by index. -/
theorem map_some_segment {lines : List String} {start stop : Nat}
    (hstop : stop ≤ lines.length) :
    ((lines.take stop).drop start).map some =
      (List.range' start (stop - start)).map fun index => lines[index]? := by
  refine List.ext_getElem ?_ ?_
  · simp only [List.length_map, List.length_drop, List.length_take, List.length_range']
    omega
  · intro i hleft hright
    simp only [List.length_map, List.length_drop, List.length_take] at hleft
    have hinside : start + i < lines.length := by omega
    simp [List.getElem?_eq_getElem hinside]

namespace Simulates

variable {capacity : Nat} {log : ScrollLog} {ref : UnboundedLog}

/-- While there is no line. -/
theorem agrees_of_none (hsim : Simulates capacity log ref) (hindex : ref.index? = none) :
    Agrees capacity log ref := by
  obtain rfl := hsim.tidy.of_index?_eq_none hindex
  have hlines : log.lines = [] := by
    simpa [UnboundedLog.surviving, UnboundedLog.empty] using hsim.lines_eq
  have hfollows : log.following = true := hsim.following_eq
  constructor
  · exact hsim.lines_eq
  · exact hsim.length_eq
  · simp [cursor?, hlines, hindex]
  · simp [current?, hlines, hindex]
  · simp [hlines, hfollows]
  · intro up
    simp [ScrollLog.scroll, hlines, UnboundedLog.scroll, hindex]
  · exact scroll_lines log
  · intro rows
    simp [window, hlines, UnboundedLog.upToCursor, hindex]
  · intro rows
    simp [window, windowIndices, hlines]

section Line

variable {index : Nat}

theorem lines_ne_nil (hsim : Simulates capacity log ref) (hpos : 0 < capacity)
    (hindex : ref.index? = some index) : log.lines.isEmpty = false := by
  obtain ⟨-, hhigh, -⟩ := hsim.tidy.index_between hpos hindex
  rw [Bool.eq_false_iff, Ne, hsim.isEmpty_iff hpos]
  omega

theorem getElem?_lines (hsim : Simulates capacity log ref)
    (hlow : ref.oldest capacity ≤ index) :
    log.lines[index - ref.oldest capacity]? = ref.written[index]? := by
  rw [hsim.lines_eq, UnboundedLog.surviving, List.getElem?_drop]
  congr 1
  omega

theorem current?_of_index (hsim : Simulates capacity log ref) (hpos : 0 < capacity)
    (hindex : ref.index? = some index) : log.current? = ref.written[index]? := by
  obtain ⟨hlow, -, -⟩ := hsim.tidy.index_between hpos hindex
  have hposition := hsim.position_of_index hpos hindex
  have hnonneg : ¬ log.position < 0 := by omega
  have hplace : log.position.toNat = index - ref.oldest capacity := by omega
  simp only [current?, hsim.lines_ne_nil hpos hindex, Bool.false_eq_true, if_false, get?,
    hnonneg, hplace]
  exact hsim.getElem?_lines hlow

theorem lines_take (hsim : Simulates capacity log ref) (hindex : ref.index? = some index) :
    log.lines.take (index + 1 - ref.oldest capacity) = ref.upToCursor capacity := by
  simp only [UnboundedLog.upToCursor, hindex, hsim.lines_eq, UnboundedLog.surviving,
    List.drop_take]

/-- The bounds of a window, counted from the oldest surviving line. -/
theorem window_bounds (hsim : Simulates capacity log ref) (hpos : 0 < capacity)
    (hindex : ref.index? = some index) {rows : Int} (hrows : 0 < rows) :
    (log.position + 1).toNat = index + 1 - ref.oldest capacity ∧
      (max 0 (log.position + 1 - rows)).toNat =
        index + 1 - ref.oldest capacity - rows.toNat := by
  obtain ⟨hlow, -, -⟩ := hsim.tidy.index_between hpos hindex
  have hposition := hsim.position_of_index hpos hindex
  omega

theorem window_of_index (hsim : Simulates capacity log ref) (hpos : 0 < capacity)
    (hindex : ref.index? = some index) (rows : Int) :
    log.window rows = (log.lines.take (index + 1 - ref.oldest capacity)).drop
      (index + 1 - ref.oldest capacity - rows.toNat) := by
  simp only [window, hsim.lines_ne_nil hpos hindex, Bool.false_or, decide_eq_true_eq]
  by_cases hrows : rows ≤ 0
  · -- No row is asked for, and dropping everything leaves nothing.
    simp only [hrows, if_true]
    symm
    rw [List.drop_eq_nil_iff, List.length_take]
    omega
  · obtain ⟨hstop, hstart⟩ := hsim.window_bounds hpos hindex (Int.not_le.mp hrows)
    simp only [hrows, if_false, hstop, hstart]

theorem windowIndices_of_index (hsim : Simulates capacity log ref) (hpos : 0 < capacity)
    (hindex : ref.index? = some index) (rows : Int) :
    log.windowIndices rows = List.range' (index + 1 - ref.oldest capacity - rows.toNat)
      (index + 1 - ref.oldest capacity -
        (index + 1 - ref.oldest capacity - rows.toNat)) := by
  simp only [windowIndices, hsim.lines_ne_nil hpos hindex, Bool.false_or, decide_eq_true_eq]
  by_cases hrows : rows ≤ 0
  · simp only [hrows, if_true]
    rw [show rows.toNat = 0 by omega, Nat.sub_zero, Nat.sub_self, List.range'_zero]
  · obtain ⟨hstop, hstart⟩ := hsim.window_bounds hpos hindex (Int.not_le.mp hrows)
    simp only [hrows, if_false, hstop, hstart]

/-- While the reference's cursor is on a line. -/
theorem agrees_of_some (hsim : Simulates capacity log ref) (hpos : 0 < capacity)
    (hindex : ref.index? = some index) : Agrees capacity log ref := by
  obtain ⟨hlow, hhigh, -⟩ := hsim.tidy.index_between hpos hindex
  have hposition := hsim.position_of_index hpos hindex
  have hsome := hsim.lines_ne_nil hpos hindex
  have hcursor : log.cursor? = some ((index : Int) - ref.oldest capacity) := by
    simp only [cursor?, hsome, Bool.false_eq_true, if_false, hposition]
  have hinside : index + 1 - ref.oldest capacity ≤ log.lines.length := by
    rw [hsim.length_eq]
    unfold UnboundedLog.oldest at hlow ⊢
    omega
  constructor
  · exact hsim.lines_eq
  · exact hsim.length_eq
  · rw [hcursor, hindex]
    rfl
  · rw [hsim.current?_of_index hpos hindex, hindex]
    rfl
  · have hother : log.lines ≠ [] := by
      rw [Ne, ← List.isEmpty_iff, hsome]
      exact Bool.false_ne_true
    rw [hcursor, hsim.following_iff hpos hindex, hsim.newestIndex_eq]
    simp only [hother, false_or, Option.some.injEq]
    omega
  · intro up
    rw [hsim.scroll_eq hpos hindex, hsim.tidy.scroll_eq_moveTo hpos hindex,
      UnboundedLog.index?_moveTo, hindex]
    simp
  · exact scroll_lines log
  · intro rows
    rw [hsim.window_of_index hpos hindex, ← hsim.lines_take hindex, List.length_take,
      Nat.min_eq_left hinside]
  · intro rows
    rw [hsim.window_of_index hpos hindex, hsim.windowIndices_of_index hpos hindex]
    exact map_some_segment hinside

end Line

theorem agrees (hsim : Simulates capacity log ref) (hpos : 0 < capacity) :
    Agrees capacity log ref := by
  cases hindex : ref.index? with
  | none => exact hsim.agrees_of_none hindex
  | some index => exact hsim.agrees_of_some hpos hindex

end Simulates

/-- **Refinement.**  A log of any positive capacity agrees after every run with the
unbounded reference after the same run.  Up to the largest capacity such a log can be
made. -/
theorem refines_unbounded (capacity : Nat) (hpos : 0 < capacity) :
    ((capacity : Int) ≤ maxCapacity → empty? capacity = .ok (fresh capacity)) ∧
      ∀ ops, Agrees capacity ((fresh capacity).after ops)
        (UnboundedLog.empty.after capacity ops) :=
  ⟨empty?_eq_fresh hpos,
    fun ops => ((Simulates.fresh_empty capacity).after hpos ops).agrees hpos⟩

theorem refines_unbounded_parked_line_dropped :
    ∃ log, empty? 3 = .ok log ∧
      (log.after [.write "a", .write "b", .write "c", .scroll true, .write "d",
        .write "e"]).lines = ["c", "d", "e"] ∧
      (log.after [.write "a", .write "b", .write "c", .scroll true, .write "d",
        .write "e"]).current? = some "c" := by
  obtain ⟨hmade, hagrees⟩ := refines_unbounded 3 (by decide)
  have hrun := hagrees [.write "a", .write "b", .write "c", .scroll true, .write "d",
    .write "e"]
  exact ⟨fresh 3, hmade (by decide), hrun.lines_eq, hrun.current?_eq⟩

end ScrollLog
end DevConsole
