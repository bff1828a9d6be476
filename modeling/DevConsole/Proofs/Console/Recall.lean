import DevConsole.Proofs.Console.History

/-!
# Recall while lines are entered

Stepping through the history recalls its entries one after the other, and between two
steps a tick may enter a queued line and so write to the history.  Entries are told apart
by the number of lines written before them.  What a step recalls depends on the entry
recalled last (`Recall.Leads`): the next older or newer one, but a cursor on the newest
entry has moved on with every line written, and a cursor whose entry was dropped stands
on the oldest one that is left.
-/

namespace DevConsole

open ScrollLog (Simulates)

/-- An entry recalled by a step through the history: the direction of the step, the lines
written to the history until then, the index of the entry in them, and the input line. -/
structure Recall where
  up : Bool
  written : List String
  index : Nat
  input : InputLine

namespace Recall

variable {capacity : Nat}

/-- The index of the oldest entry that is left. -/
def oldest (capacity : Nat) (found : Recall) : Nat :=
  found.written.length - capacity

/-- The entry was the newest one. -/
def IsNewest (found : Recall) : Prop :=
  found.index + 1 = found.written.length

instance (found : Recall) : Decidable found.IsNewest :=
  inferInstanceAs (Decidable (_ = _))

/-- The entry is one that is left, and as much of it as fits is the text of the input line. -/
def Shown (capacity : Nat) (found : Recall) : Prop :=
  found.oldest capacity ≤ found.index ∧
    ∃ entry, found.written[found.index]? = some entry ∧
      found.input.text = String.ofList (entry.toList.take found.input.cap)

/-- The entry recalled later is older after a step up and newer after a step down, and no
entry that is left lies between the two. -/
def Adjoins (capacity : Nat) (earlier later : Recall) : Prop :=
  if later.up then
    later.index < earlier.index ∧
      ∀ index < earlier.index, later.index < index → index < later.oldest capacity
  else
    earlier.index < later.index ∧
      ∀ index < later.index, earlier.index < index → index < later.oldest capacity

instance (earlier later : Recall) : Decidable (earlier.Adjoins capacity later) :=
  inferInstanceAs (Decidable (if later.up then _ else _))

/-- The cursor has left the entry recalled earlier before the later step: it has followed
lines written after the newest entry, or the entry was dropped. -/
def Departs (capacity : Nat) (earlier later : Recall) : Prop :=
  if later.up then earlier.IsNewest ∧ earlier.written.length < later.written.length
  else earlier.index < later.oldest capacity

/-- What one recall has to do with the next: they adjoin, unless the cursor has left the
entry by itself.  A step up then starts from the newest entry, a step down from the
oldest that is left. -/
structure Leads (capacity : Nat) (earlier later : Recall) : Prop where
  adjoins_iff : earlier.Adjoins capacity later ↔ ¬ earlier.Departs capacity later
  of_departs : earlier.Departs capacity later →
    if later.up then later.index + 2 = later.written.length
    else later.index = later.oldest capacity + 1

theorem Leads.of_up {earlier later : Recall} (hup : later.up = true)
    (hindex : if earlier.IsNewest ∧ earlier.written.length < later.written.length then
      later.index + 2 = later.written.length else later.index + 1 = earlier.index) :
    earlier.Leads capacity later := by
  by_cases hdeparts : earlier.IsNewest ∧ earlier.written.length < later.written.length
  · rw [if_pos hdeparts] at hindex
    obtain ⟨hnewest, hlonger⟩ := hdeparts
    unfold IsNewest at hnewest
    refine ⟨iff_of_false ?_ ?_, ?_⟩
    · simp only [Adjoins, hup, if_true]
      omega
    · simp only [Departs, hup, if_true]
      exact fun hstays => hstays ⟨hnewest, hlonger⟩
    · simp only [hup, if_true]
      exact fun _ => hindex
  · rw [if_neg hdeparts] at hindex
    refine ⟨iff_of_true ?_ ?_, ?_⟩
    · simp only [Adjoins, hup, if_true]
      exact ⟨by omega, fun index _ _ => by omega⟩
    · simpa only [Departs, hup, if_true] using hdeparts
    · simp only [Departs, hup, if_true]
      exact fun hleft => absurd hleft hdeparts

theorem Leads.of_down {earlier later : Recall} (hdown : later.up = false)
    (hindex : later.index = max earlier.index (later.oldest capacity) + 1) :
    earlier.Leads capacity later := by
  by_cases hdeparts : earlier.index < later.oldest capacity
  · refine ⟨iff_of_false ?_ ?_, ?_⟩
    · simp only [Adjoins, hdown, Bool.false_eq_true, if_false]
      -- The oldest entry that is left lies between.
      rintro ⟨-, hnone⟩
      exact absurd (hnone (later.oldest capacity) (by omega) hdeparts) (lt_irrefl _)
    · simp only [Departs, hdown, Bool.false_eq_true, if_false]
      exact fun hstays => hstays hdeparts
    · simp only [hdown, Bool.false_eq_true, if_false]
      intro _
      omega
  · refine ⟨iff_of_true ?_ ?_, ?_⟩
    · simp only [Adjoins, hdown, Bool.false_eq_true, if_false]
      exact ⟨by omega, fun index _ _ => by omega⟩
    · simpa only [Departs, hdown, Bool.false_eq_true, if_false] using hdeparts
    · simp only [Departs, hdown, Bool.false_eq_true, if_false]
      exact fun hleft => absurd hleft hdeparts

/-- Where the cursor of the history stands after an entry was recalled and lines were
written: it follows from the newest entry, and else stays until its entry is dropped. -/
structure Stands (capacity : Nat) (found : Recall) (ref : UnboundedLog) : Prop where
  length_le : found.written.length ≤ ref.written.length
  cursor_eq : ref.cursor =
    if found.IsNewest then .following else .parked (max found.index (ref.oldest capacity))

variable {found : Recall} {ref : UnboundedLog}

theorem Stands.write (hstands : found.Stands capacity ref) (line : String) :
    found.Stands capacity (ref.write capacity line) where
  length_le := by
    have hbefore := hstands.length_le
    simp only [UnboundedLog.write, List.length_append, List.length_singleton]
    omega
  cursor_eq := by
    have hcursor := hstands.cursor_eq
    by_cases hnewest : found.IsNewest
    · rw [if_pos hnewest] at hcursor ⊢
      simp only [UnboundedLog.write, hcursor]
    · rw [if_neg hnewest] at hcursor ⊢
      simp only [UnboundedLog.write, UnboundedLog.oldest, hcursor, List.length_append,
        List.length_singleton]
      congr 1
      omega

theorem Stands.writes (lines : List String) (hpos : 0 < capacity) :
    ∀ {log : ScrollLog} {ref : UnboundedLog}, Simulates capacity log ref →
      found.Stands capacity ref →
      ∃ next, Simulates capacity (lines.foldl ScrollLog.write log) next ∧
        found.Stands capacity next ∧ next.written = ref.written ++ lines := by
  induction lines with
  | nil =>
      intro log ref hsim hstands
      exact ⟨ref, hsim, hstands, (List.append_nil _).symm⟩
  | cons line rest ih =>
      intro log ref hsim hstands
      obtain ⟨next, hnext, hstays, hwritten⟩ := ih (hsim.write hpos line) (hstands.write line)
      refine ⟨next, hnext, hstays, hwritten.trans ?_⟩
      rw [UnboundedLog.write, List.append_assoc, List.singleton_append]

/-- The cursor stands on the recalled entry right after the step. -/
theorem Stands.moveTo {index : Nat} (hlow : ref.oldest capacity ≤ index) (up : Bool)
    (input : InputLine) :
    Stands capacity ⟨up, ref.written, index, input⟩ (ref.moveTo index) where
  length_le := le_rfl
  cursor_eq := by
    have hsurvives : max index ((ref.moveTo index).oldest capacity) = index := max_eq_left hlow
    rw [hsurvives]
    rfl

/-- Where a step that moves the cursor goes, from the entry recalled last. -/
theorem Stands.leads (hstands : found.Stands capacity ref) (htidy : ref.Tidy capacity)
    (hpos : 0 < capacity) {index : Nat} (hindex : ref.index? = some index) {up : Bool}
    (hmoves : ref.target capacity index up ≠ index)
    (hstays : up = false → index + 1 ≠ ref.written.length) (input : InputLine) :
    found.Leads capacity ⟨up, ref.written, ref.target capacity index up, input⟩ := by
  obtain ⟨hlow, hhigh, hfollows⟩ := htidy.index_between hpos hindex
  have hlonger := hstands.length_le
  have hcursor := hstands.cursor_eq
  by_cases hnewest : found.IsNewest
  · rw [if_pos hnewest] at hcursor
    have hlast : index + 1 = ref.written.length := hfollows.mp (by rw [hcursor]; rfl)
    cases up with
    | false => exact absurd hlast (hstays rfl)
    | true =>
        refine .of_up rfl ?_
        have hrecalled : found.index + 1 = found.written.length := hnewest
        simp only [UnboundedLog.target, if_true] at hmoves
        simp only [UnboundedLog.target, if_true, hnewest, true_and]
        split <;> omega
  · rw [if_neg hnewest] at hcursor
    -- The cursor is on the entry, or on the oldest one if the entry is not left.
    have hparked : index = max found.index (ref.oldest capacity) := by
      simpa [UnboundedLog.index?, hcursor] using hindex.symm
    cases up with
    | false =>
        have hnotlast := hstays rfl
        refine .of_down rfl ?_
        show ref.target capacity index false = max found.index (ref.oldest capacity) + 1
        rw [← hparked]
        simp only [UnboundedLog.target, Bool.false_eq_true, if_false]
        omega
    | true =>
        refine .of_up rfl ?_
        simp only [UnboundedLog.target, if_true] at hmoves
        simp only [UnboundedLog.target, if_true, hnewest, false_and, if_false]
        omega

theorem Stands.index?_isSome (hstands : found.Stands capacity ref) :
    ∃ index, ref.index? = some index := by
  have hlonger := hstands.length_le
  have hcursor := hstands.cursor_eq
  by_cases hnewest : found.IsNewest
  · rw [if_pos hnewest] at hcursor
    unfold IsNewest at hnewest
    have hsome : 0 < ref.written.length := by omega
    exact ⟨_, by rw [UnboundedLog.index?, hcursor]; exact if_pos hsome⟩
  · rw [if_neg hnewest] at hcursor
    exact ⟨_, by rw [UnboundedLog.index?, hcursor]⟩

end Recall

namespace Console

variable {E : Embedding} {host : Host E} {c : Console E}
  {appending : E.Callback → List String → Console E → List String} {capacity : Nat}
  {last : Recall} {ref : UnboundedLog}

/-! ## Steps through the history -/

/-- What a step recalls, if the lines were written to the history before. -/
def Step.recall? (c : Console E) (written : List String) : Step E → Option Recall
  | .scrollHistory up =>
    let next := (c.scrollHistory up).2
    if (c.scrollHistory up).1 && next.recalling then
      some ⟨up, written, written.length - next.history.length + next.history.position.toNat,
        next.input⟩
    else none
  | _ => none

/-- What is recalled by a step that puts the line under the cursor into the input line. -/
theorem recall?_of_recallLine (hpos : 0 < capacity) {up : Bool} {reached : Console E}
    (hstep : c.scrollHistory up = (true, reached.recallLine))
    (hrecalling : reached.recalling = true) (hsim : Simulates capacity reached.history ref)
    {index : Nat} (hindex : ref.index? = some index) :
    (Step.scrollHistory up).recall? c ref.written =
        some ⟨up, ref.written, index, reached.recallLine.input⟩ ∧
      Recall.Shown capacity ⟨up, ref.written, index, reached.recallLine.input⟩ := by
  obtain ⟨hlow, hhigh, -⟩ := hsim.tidy.index_between hpos hindex
  constructor
  · have hcounted : ref.written.length - reached.history.lines.length +
        reached.history.position.toNat = index := by
      rw [hsim.position_of_index hpos hindex, hsim.length_eq]
      unfold UnboundedLog.oldest at hlow ⊢
      omega
    have hstays : reached.recallLine.recalling = true := hrecalling
    simp only [Step.recall?, hstep, hstays, Bool.and_self, if_true, Option.some.injEq]
    rw [Recall.mk.injEq]
    exact ⟨rfl, rfl, hcounted, rfl⟩
  · refine ⟨hlow, ref.written[index], List.getElem?_eq_getElem hhigh, ?_⟩
    have hcurrent : reached.history.current? = some ref.written[index] := by
      rw [hsim.current?_of_index hpos hindex, List.getElem?_eq_getElem hhigh]
    simp only [recallLine, hcurrent, Option.getD_some]
    rfl

/-- The console is in recall, and the history as the recall `last` has left it. -/
structure Recalling (capacity : Nat) (c : Console E) (last : Recall) (ref : UnboundedLog) :
    Prop where
  recalling : c.recalling = true
  simulates : Simulates capacity c.history ref
  stands : last.Stands capacity ref

/-- A step in recall that does not end it. -/
theorem scrollHistory_of_recalling {up : Bool} (hlines : c.history.lines.isEmpty = false)
    (hrecalling : c.recalling = true) (hstays : (c.scrollHistory up).2.recalling = true) :
    (up = false → c.history.following = false) ∧
      c.scrollHistory up = if (c.history.scroll up).1 then
        (true, { c with history := (c.history.scroll up).2 }.recallLine)
      else (false, { c with history := (c.history.scroll up).2 }) := by
  unfold scrollHistory at hstays ⊢
  simp only [hlines, hrecalling, Bool.false_eq_true, if_false, Bool.not_true] at hstays ⊢
  split at hstays
  · cases hstays
  · next hgoes =>
      refine ⟨?_, if_neg hgoes⟩
      rintro rfl
      simpa using hgoes

theorem Recalling.scrollHistory (hstate : Recalling capacity c last ref) (hpos : 0 < capacity)
    {up : Bool} (hstays : (c.scrollHistory up).2.recalling = true) :
    ((Step.scrollHistory up).recall? c ref.written = none ∧
      Recalling capacity (c.scrollHistory up).2 last ref) ∨
    ∃ found next, (Step.scrollHistory up).recall? c ref.written = some found ∧
      last.Leads capacity found ∧ found.Shown capacity ∧
      Recalling capacity (c.scrollHistory up).2 found next ∧ next.written = ref.written := by
  obtain ⟨hrecalling, hsim, hstands⟩ := hstate
  obtain ⟨index, hindex⟩ := hstands.index?_isSome
  obtain ⟨hlow, hhigh, -⟩ := hsim.tidy.index_between hpos hindex
  obtain ⟨hgoes, hpress⟩ :=
    scrollHistory_of_recalling (hsim.lines_ne_nil hpos hindex) hrecalling hstays
  have hscrolled := hsim.scroll hpos up
  have hmoved : (c.history.scroll up).1 = decide (ref.target capacity index up ≠ index) := by
    rw [hsim.scroll_eq hpos hindex]
  rw [hsim.tidy.scroll_eq_moveTo hpos hindex] at hscrolled
  by_cases hmoves : ref.target capacity index up ≠ index
  · right
    rw [hmoved, decide_eq_true hmoves, if_pos rfl] at hpress
    have hnotlast : up = false → index + 1 ≠ ref.written.length := by
      intro hdown hlast
      have hfollows := (hsim.following_iff hpos hindex).mpr hlast
      rw [hgoes hdown] at hfollows
      cases hfollows
    obtain ⟨holder, -⟩ := UnboundedLog.target_between hlow hhigh up
    obtain ⟨hrecalled, hshown⟩ := recall?_of_recallLine hpos hpress hrecalling hscrolled
      (UnboundedLog.index?_moveTo _)
    refine ⟨_, ref.moveTo (ref.target capacity index up), hrecalled,
      hstands.leads hsim.tidy hpos hindex hmoves hnotlast _, hshown, ?_, rfl⟩
    rw [hpress]
    exact ⟨hrecalling, hscrolled, .moveTo holder up _⟩
  · left
    rw [hmoved, decide_eq_false hmoves, if_neg Bool.false_ne_true] at hpress
    refine ⟨by simp only [Step.recall?, hpress, Bool.false_and]; rfl, ?_⟩
    rw [not_not.mp hmoves, hsim.tidy.moveTo_self hpos hindex] at hscrolled
    rw [hpress]
    exact ⟨hrecalling, hscrolled, hstands⟩

/-- The step that begins recall. -/
theorem recalling_of_first (hcapacity : c.history.capacity = capacity)
    (hfits : c.history.lines.length ≤ capacity) (hidle : c.recalling = false)
    (hstays : (c.scrollHistory true).2.recalling = true) :
    ∃ found ref, (Step.scrollHistory true).recall? c c.history.lines = some found ∧
      found.IsNewest ∧ found.Shown capacity ∧
      Recalling capacity (c.scrollHistory true).2 found ref ∧
      ref.written = c.history.lines := by
  let reached : Console E := { c with history := c.history.scrollToNewest, recalling := true }
  obtain ⟨hlines, hstep⟩ : c.history.lines ≠ [] ∧
      c.scrollHistory true = (true, reached.recallLine) := by
    unfold scrollHistory at hstays ⊢
    simp only [hidle, Bool.not_false, if_true] at hstays ⊢
    split at hstays
    · rw [hidle] at hstays
      cases hstays
    · next hlines => exact ⟨by simpa using hlines, if_neg hlines⟩
  have hlength : 0 < c.history.lines.length := List.length_pos_iff.mpr hlines
  let ref : UnboundedLog := ⟨c.history.lines, .following⟩
  have hall : ref.surviving capacity = c.history.lines := by
    show c.history.lines.drop (c.history.lines.length - capacity) = c.history.lines
    rw [Nat.sub_eq_zero_of_le hfits, List.drop_zero]
  have hsim : Simulates capacity reached.history ref :=
    ⟨hcapacity, hall.symm, by rw [hall]; rfl, rfl, fun _ hcursor => by cases hcursor⟩
  have hindex : ref.index? = some (c.history.lines.length - 1) := if_pos hlength
  obtain ⟨hrecalled, hshown⟩ :=
    recall?_of_recallLine (by omega) hstep rfl hsim hindex
  have hnewest : Recall.IsNewest
      ⟨true, ref.written, c.history.lines.length - 1, reached.recallLine.input⟩ :=
    Nat.sub_add_cancel hlength
  refine ⟨_, ref, hrecalled, hnewest, hshown, ?_, rfl⟩
  rw [hstep]
  exact ⟨rfl, hsim, le_rfl, (if_pos hnewest).symm⟩

/-! ## Ticks -/

/-- What the command of an invocation does to the history, if it is a callback, is to append
the entries that `appending` gives. -/
def Invocation.AppendsOnly (host : Host E)
    (appending : E.Callback → List String → Console E → List String)
    (invocation : Invocation E) : Prop :=
  ∀ handle, invocation.command.action = .callback handle →
    (invocation.outcome host).2.history =
      (invocation.entered appending).foldl ScrollLog.write invocation.console.history

/-- The entries that a step appends to the history: that of the line of its entry, and those
of a callback that it runs. -/
def Step.appended (host : Host E)
    (appending : E.Callback → List String → Console E → List String) (c : Console E)
    (step : Step E) : List String :=
  entriesOf (step.entry?.bind fun entry => entry.line? host c).toList ++
    (step.invocation? host c).elim [] (Invocation.entered appending)

/-- A tick in recall that does not end it. -/
theorem tick_history (hstays : (c.tick host).2.recalling = true)
    (happends : ∀ invocation, Step.tick.invocation? host c = some invocation →
      invocation.AppendsOnly host appending) :
    (c.tick host).2.history =
      (Step.tick.appended host appending c).foldl ScrollLog.write c.history := by
  obtain ⟨output, journal, hnext⟩ := Entry.tick.run_changes host c
  have hsite := Entry.tick.site_history host c
  rw [Entry.run] at hnext
  rw [hnext] at hstays ⊢
  have happended : Step.tick.appended host appending c =
      entriesOf (Entry.tick.line? host c).toList ++
        (Entry.tick.invocation? host c).elim [] (Invocation.entered appending) := rfl
  rw [happended, List.foldl_append, ← hsite]
  unfold Entry.afterCommand at hstays ⊢
  cases hcalls : Entry.tick.invocation? host c with
  | none => rfl
  | some invocation =>
      simp only [hcalls] at hstays
      rw [← Entry.console_eq_site hcalls]
      simp only [Option.elim_some]
      cases haction : invocation.command.action with
      | callback handle => exact happends invocation hcalls handle haction
      | builtin command =>
          obtain ⟨hhistory, hrecalling⟩ := Invocation.history_of_builtin host haction
          have hother : command ≠ .clearhist := by
            rintro rfl
            cases hrecalling.symm.trans hstays
          rw [if_neg hother] at hhistory
          simp only [Invocation.entered, haction]
          exact hhistory

/-! ## Sessions -/

/-- A step of a recall session: one through the history or a tick, after which recall goes
on. -/
def Step.Continues (host : Host E)
    (appending : E.Callback → List String → Console E → List String) (c : Console E)
    (step : Step E) : Prop :=
  (step = .tick ∨ ∃ up, step = .scrollHistory up) ∧ (step.apply host c).recalling = true ∧
    ∀ invocation, step.invocation? host c = some invocation →
      invocation.AppendsOnly host appending

/-- The recalls of a run, if the lines `written` were written to the history before. -/
def recalls (host : Host E) (appending : E.Callback → List String → Console E → List String) :
    List String → Console E → List (Step E) → List Recall
  | _, _, [] => []
  | written, c, step :: rest =>
    (step.recall? c written).toList ++
      recalls host appending (written ++ step.appended host appending c)
        (step.apply host c) rest

/-- From a console in recall each recall leads to the next, the first of them from the one
that was made last. -/
theorem recalls_lead (hpos : 0 < capacity) (steps : List (Step E)) :
    ∀ {c : Console E} {last : Recall} {ref : UnboundedLog}, Recalling capacity c last ref →
      Along host (Step.Continues host appending) c steps →
      (last :: recalls host appending ref.written c steps).IsChain (Recall.Leads capacity) ∧
        ∀ found ∈ recalls host appending ref.written c steps, found.Shown capacity := by
  induction steps with
  | nil => exact fun _ _ => ⟨.singleton _, by simp [recalls]⟩
  | cons step rest ih =>
      intro c last ref hstate halong
      obtain ⟨⟨hkind, hstays, happends⟩, hrest⟩ := halong
      rcases hkind with rfl | ⟨up, rfl⟩
      · -- A tick recalls nothing, and the cursor stands as it would after the written lines.
        have hhistory := tick_history hstays happends
        obtain ⟨next, hsim, hstands, hwritten⟩ := hstate.stands.writes
          (Step.tick.appended host appending c) hpos hstate.simulates
        rw [← hhistory] at hsim
        have hnext := ih ⟨hstays, hsim, hstands⟩ hrest
        rw [hwritten] at hnext
        exact hnext
      · have hsame : ref.written ++
            (Step.scrollHistory up).appended host appending c = ref.written :=
          List.append_nil _
        rw [recalls, hsame]
        rcases hstate.scrollHistory hpos hstays with
          ⟨hnone, hnext⟩ | ⟨found, next, hsome, hleads, hshown, hnext, hwritten⟩
        · rw [hnone]
          exact ih hnext hrest
        · obtain ⟨hchain, hall⟩ := ih hnext hrest
          rw [hwritten] at hchain hall
          rw [hsome]
          exact ⟨.cons_cons hleads hchain, List.forall_mem_cons.mpr ⟨hshown, hall⟩⟩

/-! ## Reachable consoles -/

theorem Entry.site_history_after (host : Host E) (c : Console E) (entry : Entry) :
    ∃ ops, (entry.site host c).history = c.history.after ops := by
  rw [site_history, ← ScrollLog.after_writes]
  cases entry with
  | submit => exact ⟨.scrollToNewest :: _, rfl⟩
  | call | enter | tick => exact ⟨_, rfl⟩

/-- If callbacks work on the history by its operations only, everything does. -/
theorem Step.apply_history_after
    (hcallbacks : ∀ handle args c, ∃ ops,
      (host.call handle args c).2.history = c.history.after ops)
    (c : Console E) (step : Step E) :
    ∃ ops, (step.apply host c).history = c.history.after ops := by
  cases hentry : step.entry? with
  | none => exact ⟨_, apply_history host c hentry⟩
  | some entry =>
      obtain ⟨output, journal, hnext⟩ := entry.run_changes host c
      obtain ⟨opened, hsite⟩ := entry.site_history_after host c
      rw [apply_of_entry host c hentry, hnext, Entry.afterCommand]
      cases hcalls : entry.invocation? host c with
      | none => exact ⟨opened, hsite⟩
      | some invocation =>
          rw [← Entry.console_eq_site hcalls] at hsite
          obtain ⟨ops, houtcome⟩ : ∃ ops, (invocation.outcome host).2.history =
              invocation.console.history.after ops := by
            cases haction : invocation.command.action with
            | callback handle =>
                simp only [Invocation.outcome, outcome, invoke, haction]
                exact hcallbacks handle _ _
            | builtin command =>
                rw [(Invocation.history_of_builtin host haction).1]
                split
                · exact ⟨[.clear], rfl⟩
                · exact ⟨[], rfl⟩
          refine ⟨opened ++ ops, houtcome.trans ?_⟩
          rw [hsite, ScrollLog.after_append]

theorem after_history_after
    (hcallbacks : ∀ handle args c, ∃ ops,
      (host.call handle args c).2.history = c.history.after ops) (steps : List (Step E)) :
    ∀ c : Console E, ∃ ops, (c.after host steps).history = c.history.after ops := by
  induction steps with
  | nil => exact fun c => ⟨[], rfl⟩
  | cons step rest ih =>
      intro c
      obtain ⟨first, hfirst⟩ := step.apply_history_after hcallbacks c
      obtain ⟨others, hothers⟩ := ih (step.apply host c)
      refine ⟨first ++ others, hothers.trans ?_⟩
      rw [hfirst, ScrollLog.after_append]

/-- **Recall while scripts run.**  Take a console that was created with some settings and on
which anything was called since, callbacks that work on the history by its operations
included.  Let it be out of recall, and let a session follow: a step up and then steps
through the history and ticks that enter queued lines, after each of which recall goes on.
Whatever is recalled is an entry that is left, and shown in the input line.  The first is
the newest entry, and each leads to the next. -/
theorem session_recalls (host : Host E)
    (appending : E.Callback → List String → Console E → List String) {settings : Settings}
    {source : LineSource} {world : E.World} {start : Console E}
    (hstart : create settings source world = .ok start)
    (hcallbacks : ∀ handle args c, ∃ ops,
      (host.call handle args c).2.history = c.history.after ops)
    {before : List (Step E)} (hidle : (start.after host before).recalling = false)
    {session : List (Step E)}
    (hsession : Along host (Step.Continues host appending) (start.after host before)
      (.scrollHistory true :: session)) :
    let c := start.after host before
    ∃ first rest,
      recalls host appending c.history.lines c (.scrollHistory true :: session) =
        first :: rest ∧ first.IsNewest ∧
      (∀ found ∈ first :: rest, found.Shown settings.maxHistoryLines) ∧
      (first :: rest).IsChain (Recall.Leads settings.maxHistoryLines) := by
  intro c
  obtain ⟨hpos, hempty⟩ := keeps_of_create hstart
  obtain ⟨ops, hhistory⟩ := after_history_after hcallbacks before start
  have hkeeps := hempty.after hpos ops
  rw [← hhistory] at hkeeps
  have hfits : c.history.lines.length ≤ settings.maxHistoryLines := by
    rw [hkeeps.lines_eq, List.length_drop]
    omega
  obtain ⟨⟨-, hstays, -⟩, hrest⟩ := hsession
  obtain ⟨first, ref, hfirst, hnewest, hshown, hstate, hwritten⟩ :=
    recalling_of_first hkeeps.capacity_eq hfits hidle hstays
  obtain ⟨hchain, hall⟩ := recalls_lead hpos session hstate hrest
  rw [hwritten] at hchain hall
  have hsame : c.history.lines ++
      (Step.scrollHistory true).appended host appending c = c.history.lines :=
    List.append_nil _
  refine ⟨first, _, ?_, hnewest, List.forall_mem_cons.mpr ⟨hshown, hall⟩, hchain⟩
  rw [recalls, hsame, hfirst]
  rfl

/-- A console whose history holds three lines. -/
def oblivious : Console .bare :=
  { fresh () with
    settings := { Settings.default with maxHistoryLines := 3 }
    history := ScrollLog.fresh 3 }

/-- The console after some lines, and with one more queued. -/
def remembering (lines : List String) (queued : String) : Console .bare :=
  oblivious.after .bare (lines.map .enter ++ [.append queued])

/-- The recalls of a session that begins then. -/
def recallsWith (lines : List String) (queued : String) (session : List (Step .bare)) :
    List Recall :=
  recalls .bare (fun _ _ _ => []) (remembering lines queued).history.lines
    (remembering lines queued) session

/-- Without callbacks it is enough that recall goes on. -/
def goesOn : Console .bare → List (Step .bare) → Bool
  | _, [] => true
  | c, step :: rest =>
    (match step with
      | .tick | .scrollHistory _ => true
      | _ => false) && (step.apply .bare c).recalling && goesOn (step.apply .bare c) rest

theorem continues_of_goesOn (steps : List (Step .bare)) :
    ∀ c, goesOn c steps = true →
      Along .bare (Step.Continues .bare fun _ _ _ => []) c steps := by
  induction steps with
  | nil => exact fun _ _ => trivial
  | cons step rest ih =>
      intro c hgoes
      simp only [goesOn, Bool.and_eq_true] at hgoes
      obtain ⟨⟨hkind, hstays⟩, hrest⟩ := hgoes
      refine ⟨⟨?_, hstays, fun _ _ handle => nomatch handle⟩, ih _ hrest⟩
      cases step with
      | tick => exact Or.inl rfl
      | scrollHistory up => exact Or.inr ⟨up, rfl⟩
      | _ => cases hkind

/-- A line is written while the newest entry is recalled. -/
def followingSession : List (Step .bare) := [.scrollHistory true, .tick, .scrollHistory true]

/-- A line is written while the oldest entry is recalled, which it drops. -/
def droppingSession : List (Step .bare) := [
  .scrollHistory true, .scrollHistory true, .scrollHistory true, .tick, .scrollHistory false]

/-- The recalls of these sessions do not all adjoin. -/
theorem recalls_not_adjoining :
    create { Settings.default with maxHistoryLines := 3 } (.ofScripts []) () = .ok oblivious ∧
    (Along .bare (Step.Continues .bare fun _ _ _ => []) (remembering ["a", "b"] "c")
        followingSession ∧
      ¬ (recallsWith ["a", "b"] "c" followingSession).IsChain (Recall.Adjoins 3)) ∧
    (Along .bare (Step.Continues .bare fun _ _ _ => []) (remembering ["a", "b", "c"] "d")
        droppingSession ∧
      ¬ (recallsWith ["a", "b", "c"] "d" droppingSession).IsChain (Recall.Adjoins 3)) := by
  refine ⟨rfl, ⟨continues_of_goesOn _ _ ?_, ?_⟩, continues_of_goesOn _ _ ?_, ?_⟩
  all_goals decide +kernel

theorem session_recalls_past_dropped :
    (recallsWith ["a", "b", "c"] "d" droppingSession).map Recall.index = [2, 1, 0, 2] ∧
      (∀ found ∈ recallsWith ["a", "b", "c"] "d" droppingSession, found.Shown 3) ∧
      (recallsWith ["a", "b", "c"] "d" droppingSession).IsChain (Recall.Leads 3) := by
  have hstart : create { Settings.default with maxHistoryLines := 3 } (.ofScripts []) () =
      .ok oblivious := rfl
  have hidle : (remembering ["a", "b", "c"] "d").recalling = false := by decide +kernel
  have hgoes : goesOn (remembering ["a", "b", "c"] "d") droppingSession = true := by
    decide +kernel
  obtain ⟨first, rest, hrecalls, -, hshown, hchain⟩ := session_recalls .bare (fun _ _ _ => [])
    hstart (fun handle => nomatch handle) hidle (continues_of_goesOn _ _ hgoes)
  have hsame : recallsWith ["a", "b", "c"] "d" droppingSession = first :: rest := hrecalls
  rw [hsame]
  refine ⟨?_, hshown, hchain⟩
  rw [← hsame]
  decide +kernel

end Console
end DevConsole
