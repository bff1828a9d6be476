import DevConsole.Proofs.Console.History

/-!
# The walk through the history

What a console does to its history and to recall is written down once
(`Console.HistoryReaches`), and everything that is called on a console does no more, whatever
lines are run (`Console.after_historyReaches`).  So outside recall the cursor of the history
follows its newest entry, and in recall there is an entry (`Console.Coherent`).

Where a walk has got to is a number: how many entries it is past the newest one, if it has
begun (`Console.walked`).  A console spreads it over the recall flag and over position and
mode of the cursor (`Console.Stands`); a press changes them as it changes the number
(`Console.Stands.press`), so whole walks agree (`Console.Stands.walk`).
-/

namespace DevConsole

/-! ## Scrolling, counted from the newest line -/

namespace ScrollLog

variable {log : ScrollLog} {age : Nat}

theorem isEmpty_of_age (hage : age < log.lines.length) : log.lines.isEmpty = false :=
  List.isEmpty_eq_false_iff.mpr (List.ne_nil_of_length_pos (Nat.zero_lt_of_lt hage))

/-- Scrolling moves the cursor on the line of a given age to the next age, between that of
the newest line and that of the oldest. -/
theorem scroll_of_age (hage : age < log.lines.length)
    (hposition : log.position = (log.lines.length : Int) - 1 - age) (up : Bool) :
    let next := if up then min (age + 1) (log.lines.length - 1) else age - 1
    log.scroll up = (decide (next ≠ age),
      { log with
        position := (log.lines.length : Int) - 1 - next
        following := decide (next = 0) }) := by
  intro next
  have hlines := isEmpty_of_age hage
  have htarget : max 0 (min log.newestIndex
      (if up then log.position - 1 else log.position + 1)) =
        (log.lines.length : Int) - 1 - next := by
    rw [hposition, newestIndex]
    cases up <;> simp only [next, Bool.false_eq_true, if_true, if_false] <;> omega
  have hmoved : ((log.lines.length : Int) - 1 - next != log.position) = decide (next ≠ age) := by
    rw [Bool.eq_iff_iff, bne_iff_ne, decide_eq_true_iff, hposition]
    omega
  have hnewest : ((log.lines.length : Int) - 1 - next == log.newestIndex) =
      decide (next = 0) := by
    rw [Bool.eq_iff_iff, beq_iff_eq, decide_eq_true_iff, newestIndex]
    omega
  simp only [scroll, hlines, Bool.false_eq_true, if_false, htarget, hmoved, hnewest]

theorem current?_of_age (hage : age < log.lines.length)
    (hposition : log.position = (log.lines.length : Int) - 1 - age) :
    log.current? = log.lines[log.lines.length - 1 - age]? := by
  have hlines := isEmpty_of_age hage
  have hindex : log.position.toNat = log.lines.length - 1 - age := by omega
  have hfront : ¬ log.position < 0 := by omega
  simp only [current?, get?, hlines, hfront, Bool.false_eq_true, if_false, hindex]

/-- Scrolling leaves a cursor that follows on the newest line. -/
theorem newest_of_scroll (hnewest : log.following = true → log.position = log.newestIndex)
    (up : Bool) (hfollows : (log.scroll up).2.following = true) :
    (log.scroll up).2.position = (log.scroll up).2.newestIndex := by
  unfold scroll at hfollows ⊢
  split at hfollows
  · next hempty =>
      rw [if_pos hempty]
      exact hnewest hfollows
  · next hsome =>
      rw [if_neg hsome]
      exact beq_iff_eq.mp hfollows

end ScrollLog

namespace Console

variable {E : Embedding} {host : Host E} {start c next : Console E}

/-! ## What happens to history and recall -/

/-- History and recall are as before, and as many characters fit into the input line. -/
structure SameRecall (c next : Console E) : Prop where
  history : next.history = c.history
  recalling : next.recalling = c.recalling
  cap : next.input.cap = c.input.cap

/-- The console `next` comes from `c` by what the operations of a console do to history and
recall. -/
inductive HistoryReaches (c : Console E) : Console E → Prop where
  | refl : HistoryReaches c c
  | same {mid next : Console E} (before : HistoryReaches c mid) (hsame : SameRecall mid next) :
      HistoryReaches c next
  | write {mid : Console E} (before : HistoryReaches c mid) (line : String) :
      HistoryReaches c (mid.writeHistory line)
  | clear {mid : Console E} (before : HistoryReaches c mid) :
      HistoryReaches c mid.clearHistory
  | press {mid : Console E} (before : HistoryReaches c mid) (up : Bool) :
      HistoryReaches c (mid.scrollHistory up).2
  | handIn {mid : Console E} (before : HistoryReaches c mid) : HistoryReaches c mid.handedIn

namespace HistoryReaches

theorem of_same (hsame : SameRecall c next) : c.HistoryReaches next :=
  .same .refl hsame

theorem trans {mid : Console E} (hfirst : c.HistoryReaches mid)
    (hsecond : mid.HistoryReaches next) : c.HistoryReaches next := by
  induction hsecond with
  | refl => exact hfirst
  | same _ hsame ih => exact ih.same hsame
  | write _ line ih => exact ih.write line
  | clear _ ih => exact ih.clear
  | press _ up ih => exact ih.press up
  | handIn _ ih => exact ih.handIn

/-- No operation changes how many characters fit into the input line. -/
theorem cap_eq (hreaches : c.HistoryReaches next) : next.input.cap = c.input.cap := by
  induction hreaches with
  | refl => rfl
  | same _ hsame ih => exact hsame.cap.trans ih
  | write _ line ih => exact ih
  | clear _ ih => exact ih
  | @press mid _ up ih =>
      obtain ⟨input, history, recalling, hnext, hcap⟩ := scrollHistory_changes mid up
      rw [hnext]
      exact hcap.trans ih
  | @handIn mid _ ih =>
      unfold handedIn
      dsimp only
      split <;> exact ih

end HistoryReaches

theorem recorded_historyReaches (c : Console E) (line : String) :
    c.HistoryReaches (c.recorded line) := by
  unfold recorded
  split
  · exact .refl
  · exact .write .refl _

theorem tickCheck_sameRecall (host : Host E) (c : Console E) :
    SameRecall c (c.tickCheck host).2 := by
  obtain ⟨journal, hchecked⟩ := poll_changes host { c with ticks := c.ticks + 1 }
  rw [tickCheck, hchecked]
  exact ⟨rfl, rfl, rfl⟩

theorem reportCheck_sameRecall (result : Poll) (c : Console E) :
    SameRecall c (reportCheck result c) := by
  obtain ⟨output, hreported⟩ := reportCheck_changes result c
  rw [hreported]
  exact ⟨rfl, rfl, rfl⟩

theorem Entry.site_historyReaches (host : Host E) (c : Console E) (entry : Entry) :
    c.HistoryReaches (entry.site host c) := by
  cases entry with
  | call line => exact .refl
  | enter line => exact recorded_historyReaches c line
  | submit => exact (HistoryReaches.refl.handIn).trans (recorded_historyReaches _ _)
  | tick =>
      have hchecked := tickCheck_sameRecall host c
      simp only [site]
      cases hready : c.handover? host with
      | some queued =>
          obtain ⟨line, ready⟩ := queued
          obtain ⟨-, rest, -, hqueued⟩ := handover_eq_some_iff.mp hready
          have htaken : SameRecall c ready := by
            rw [hqueued]
            exact ⟨hchecked.history, hchecked.recalling, hchecked.cap⟩
          exact (HistoryReaches.of_same htaken).trans (recorded_historyReaches ready line)
      | none => exact (HistoryReaches.of_same hchecked).same (reportCheck_sameRecall _ _)

/-- A built-in command ends recall and drops the history, or leaves both alone. -/
theorem builtin_historyReaches (command : Builtin) (args : List String) (c : Console E) :
    c.HistoryReaches (command.run args c).2 := by
  obtain ⟨registry, output, queue, scheduler, journal, enabled, quitRequested, -, hnext⟩ :=
    Builtin.run_changes command args c
  rw [hnext]
  by_cases hclears : command = .clearhist
  · simp only [hclears, if_true]
    exact (HistoryReaches.refl.clear).same ⟨rfl, rfl, rfl⟩
  · simp only [hclears, if_false]
    exact .of_same ⟨rfl, rfl, rfl⟩

/-- Callbacks do to history and recall what the operations of a console do. -/
def OperatesOnly (host : Host E) : Prop :=
  ∀ handle args c, HistoryReaches c (host.call handle args c).2

theorem Invocation.outcome_historyReaches (hcallbacks : OperatesOnly host)
    (invocation : Invocation E) :
    invocation.console.HistoryReaches (invocation.outcome host).2 := by
  have hreported : invocation.console.HistoryReaches (invocation.console.report
      (.dispatched invocation.command.name invocation.args)) := .of_same ⟨rfl, rfl, rfl⟩
  simp only [outcome, Console.outcome, invoke]
  cases invocation.command.action with
  | builtin command => exact hreported.trans (builtin_historyReaches command _ _)
  | callback handle => exact hreported.trans (hcallbacks handle _ _)

theorem Entry.run_historyReaches (hcallbacks : OperatesOnly host) (c : Console E)
    (entry : Entry) : c.HistoryReaches (entry.run host c).2 := by
  obtain ⟨output, journal, hnext⟩ := entry.run_changes host c
  have hsite := entry.site_historyReaches host c
  have hcommand : c.HistoryReaches (entry.afterCommand host c) := by
    unfold afterCommand
    cases hcalls : entry.invocation? host c with
    | none => exact hsite
    | some invocation =>
        rw [← console_eq_site hcalls] at hsite
        exact hsite.trans (invocation.outcome_historyReaches hcallbacks)
  rw [hnext]
  exact hcommand.same ⟨rfl, rfl, rfl⟩

theorem Step.apply_historyReaches (hcallbacks : OperatesOnly host) (c : Console E)
    (step : Step E) : c.HistoryReaches (step.apply host c) := by
  cases hentry : step.entry? with
  | some entry =>
      rw [apply_of_entry host c hentry]
      exact entry.run_historyReaches hcallbacks c
  | none =>
      have hframe := step.frame host c hentry
      cases hconcerns : step.concernsHistory with
      | false =>
          exact .of_same ⟨hframe.history hconcerns, hframe.recalling hconcerns, hframe.cap⟩
      | true =>
          cases step with
          | writeHistory line => exact .write .refl line
          | clearHistory => exact .clear .refl
          | scrollHistory up => exact .press .refl up
          | reset =>
              obtain ⟨journal, haborted⟩ := abortScript_changes c
              have hdropped : SameRecall c c.abortScript.2.clearOutput := by
                rw [haborted]
                exact ⟨rfl, rfl, rfl⟩
              exact ((HistoryReaches.of_same hdropped).clear).same ⟨rfl, rfl, rfl⟩
          | _ => cases hconcerns

/-- A run does to history and recall what the operations of a console do. -/
theorem after_historyReaches (hcallbacks : OperatesOnly host) (steps : List (Step E)) :
    ∀ c : Console E, c.HistoryReaches (c.after host steps) := by
  induction steps with
  | nil => exact fun c => .refl
  | cons step rest ih => exact fun c => (step.apply_historyReaches hcallbacks c).trans (ih _)

/-! ## Recall and the cursor -/

/-- A cursor that follows is on the newest entry; outside recall it follows, and in recall
there is an entry. -/
structure Coherent (c : Console E) : Prop where
  newest : c.history.following = true → c.history.position = c.history.newestIndex
  idle : c.recalling = false → c.history.following = true
  entry : c.recalling = true → c.history.lines ≠ []

theorem Coherent.same (hcoherent : c.Coherent) (hsame : SameRecall c next) : next.Coherent where
  newest := by
    rw [hsame.history]
    exact hcoherent.newest
  idle := by
    rw [hsame.history, hsame.recalling]
    exact hcoherent.idle
  entry := by
    rw [hsame.history, hsame.recalling]
    exact hcoherent.entry

theorem Coherent.write (hcoherent : c.Coherent) (line : String) :
    (c.writeHistory line).Coherent where
  newest := by
    intro hfollows
    have hbefore : c.history.following = true := hfollows
    simp only [writeHistory, ScrollLog.write, ScrollLog.newestIndex, hbefore, if_true]
  idle := hcoherent.idle
  entry := fun _ => List.append_ne_nil_of_right_ne_nil _ (List.cons_ne_nil _ _)

theorem coherent_clearHistory (c : Console E) : c.clearHistory.Coherent :=
  ⟨fun _ => rfl, fun _ => rfl, nofun⟩

theorem Coherent.press (hcoherent : c.Coherent) (up : Bool) :
    (c.scrollHistory up).2.Coherent := by
  unfold scrollHistory
  split
  · exact hcoherent
  · next hsome =>
      have hlines : c.history.lines ≠ [] := by simpa using hsome
      split
      · -- Only a press up begins recall.
        split
        · exact ⟨fun _ => rfl, nofun, fun _ => hlines⟩
        · exact hcoherent
      · next hrecalling =>
          split
          · -- A press down ends recall where the cursor follows.
            next hends =>
              rw [Bool.and_eq_true] at hends
              exact ⟨hcoherent.newest, fun _ => hends.2, nofun⟩
          · have hscrolled : Coherent { c with history := (c.history.scroll up).2 } := by
              refine ⟨ScrollLog.newest_of_scroll hcoherent.newest up, ?_, ?_⟩
              · exact fun hidle => absurd (congrArg (!·) hidle) hrecalling
              · rw [ScrollLog.scroll_lines]
                exact fun _ => hlines
            dsimp only
            split
            · exact hscrolled.same ⟨rfl, rfl, rfl⟩
            · exact hscrolled

theorem coherent_handedIn (c : Console E) : c.handedIn.Coherent := by
  unfold handedIn
  dsimp only
  split <;> exact ⟨fun _ => rfl, fun _ => rfl, nofun⟩

theorem Coherent.reaches (hcoherent : c.Coherent) (hreaches : c.HistoryReaches next) :
    next.Coherent := by
  induction hreaches with
  | refl => exact hcoherent
  | same _ hsame ih => exact ih.same hsame
  | write _ line ih => exact ih.write line
  | clear => exact coherent_clearHistory _
  | press _ up ih => exact ih.press up
  | handIn => exact coherent_handedIn _

/-! ## The walk -/

/-- Where a press leads in a history of `count` entries: from one entry to the next older one
(`up`) or the next newer one, as long as there is one.  A walk begins and ends at the newest
entry, which is entry 0. -/
def walk (count : Nat) : Option Nat → Bool → Option Nat
  | none, true => some 0
  | none, false => none
  | some age, true => some (min (age + 1) (count - 1))
  | some 0, false => none
  | some (age + 1), false => some age

/-- The input line after a press that has led from `here` to `there`. -/
def inputAt (lines : List String) (input : InputLine) (here there : Option Nat) : InputLine :=
  if there = here then input
  else
    match there with
    | none => input.clear
    | some age => input.setText (lines[lines.length - 1 - age]?.getD "")

theorem inputAt_self (lines : List String) (input : InputLine) (here : Option Nat) :
    inputAt lines input here here = input := if_pos rfl

theorem inputAt_none {here : Option Nat} (hmoves : none ≠ here) (lines : List String)
    (input : InputLine) : inputAt lines input here none = input.clear := if_neg hmoves

theorem inputAt_some {here : Option Nat} {age : Nat} (hmoves : some age ≠ here)
    (lines : List String) (input : InputLine) :
    inputAt lines input here (some age) =
      input.setText (lines[lines.length - 1 - age]?.getD "") := if_neg hmoves

/-- A console stands where a walk through its history has got to. -/
inductive StandsAt (lines : List String) (c : Console E) : Option Nat → Prop where
  | idle (hlines : c.history.lines = lines) (hrecalling : c.recalling = false) :
      StandsAt lines c none
  | entry {age : Nat} (hlines : c.history.lines = lines) (hrecalling : c.recalling = true)
      (hage : age < lines.length)
      (hposition : c.history.position = (lines.length : Int) - 1 - age)
      (hfollowing : c.history.following = decide (age = 0)) : StandsAt lines c (some age)

namespace StandsAt

variable {lines : List String} {here : Option Nat}

theorem lines_eq (hstands : StandsAt lines c here) : c.history.lines = lines := by
  cases hstands with
  | idle hlines => exact hlines
  | entry hlines => exact hlines

theorem lt_length (hstands : StandsAt lines c here) {age : Nat} (hage : here = some age) :
    age < lines.length := by
  subst hage
  cases hstands with
  | entry _ _ hinside => exact hinside

/-- The first press up begins the walk, a press down does nothing before it has begun. -/
theorem press_idle (hlines : c.history.lines = lines) (hsome : lines ≠ [])
    (hidle : c.recalling = false) (up : Bool) :
    (c.scrollHistory up).1 = decide (walk lines.length none up ≠ none) ∧
      (c.scrollHistory up).2.input = inputAt lines c.input none (walk lines.length none up) ∧
      StandsAt lines (c.scrollHistory up).2 (walk lines.length none up) := by
  have hlength : 0 < lines.length := List.length_pos_iff.mpr hsome
  subst hlines
  unfold scrollHistory
  simp only [hidle, List.isEmpty_iff, hsome, if_false, Bool.not_false, if_true]
  cases up with
  | false => exact ⟨rfl, rfl, .idle rfl hidle⟩
  | true =>
      have hposition : c.history.scrollToNewest.position =
          (c.history.lines.length : Int) - 1 - (0 : Nat) := by
        simp [ScrollLog.scrollToNewest, ScrollLog.newestIndex]
      have hnewest : c.history.scrollToNewest.current? =
          c.history.lines[c.history.lines.length - 1 - 0]? :=
        ScrollLog.current?_of_age hlength hposition
      refine ⟨rfl, ?_, .entry rfl rfl hlength hposition rfl⟩
      simp only [if_true, recallLine, hnewest]
      rfl

/-- A press down at the newest entry ends the walk; any other press moves on, if it can. -/
theorem press_entry {age : Nat} (hstands : StandsAt lines c (some age)) (up : Bool) :
    (c.scrollHistory up).1 = decide (walk lines.length (some age) up ≠ some age) ∧
      (c.scrollHistory up).2.input =
        inputAt lines c.input (some age) (walk lines.length (some age) up) ∧
      StandsAt lines (c.scrollHistory up).2 (walk lines.length (some age) up) := by
  obtain ⟨⟩ | ⟨hlines, hrecalling, hage, hposition, hfollowing⟩ := hstands
  subst hlines
  have hsome := ScrollLog.isEmpty_of_age hage
  unfold scrollHistory
  simp only [hsome, hrecalling, hfollowing, Bool.false_eq_true, if_false, Bool.not_true]
  by_cases hends : up = false ∧ age = 0
  · obtain ⟨rfl, rfl⟩ := hends
    exact ⟨rfl, rfl, .idle rfl rfl⟩
  · have hgoes : (!up && decide (age = 0)) = false := by
      cases up <;> simp_all
    obtain ⟨next, hnext, hwalk⟩ : ∃ next,
        (if up then min (age + 1) (c.history.lines.length - 1) else age - 1) = next ∧
          walk c.history.lines.length (some age) up = some next := by
      cases up with
      | true => exact ⟨_, rfl, rfl⟩
      | false =>
          cases age with
          | zero => exact absurd ⟨rfl, rfl⟩ hends
          | succ age => exact ⟨_, rfl, rfl⟩
    have hinside : next < c.history.lines.length := by
      rw [← hnext]
      split <;> omega
    rw [hwalk, ScrollLog.scroll_of_age hage hposition up, hnext, hgoes]
    simp only [Bool.false_eq_true, if_false, decide_eq_true_eq, ne_eq, Option.some.injEq]
    by_cases hmoves : next = age
    · simp only [hmoves, not_true, if_false, decide_false, inputAt, if_true]
      refine ⟨trivial, trivial, ?_⟩
      rw [← hmoves]
      exact .entry rfl rfl hinside rfl rfl
    · simp only [hmoves, not_false_eq_true, if_true, decide_true, inputAt, Option.some.injEq,
        if_false]
      have hcurrent : ScrollLog.current? { c.history with
          position := (c.history.lines.length : Int) - 1 - next
          following := decide (next = 0) } =
            c.history.lines[c.history.lines.length - 1 - next]? :=
        ScrollLog.current?_of_age hinside rfl
      refine ⟨trivial, ?_, .entry rfl rfl hinside rfl rfl⟩
      simp only [recallLine, hcurrent]

theorem press (hstands : StandsAt lines c here) (hsome : lines ≠ []) (up : Bool) :
    (c.scrollHistory up).1 = decide (walk lines.length here up ≠ here) ∧
      (c.scrollHistory up).2.input = inputAt lines c.input here (walk lines.length here up) ∧
      StandsAt lines (c.scrollHistory up).2 (walk lines.length here up) := by
  cases here with
  | none =>
      obtain ⟨hlines, hidle⟩ := hstands
      exact press_idle hlines hsome hidle up
  | some age => exact hstands.press_entry up

/-- Presses lead a console through the walk. -/
theorem presses (host : Host E) (hsome : lines ≠ []) (ups : List Bool) :
    ∀ {c : Console E} {here : Option Nat}, StandsAt lines c here →
      StandsAt lines (c.after host (ups.map .scrollHistory))
        (ups.foldl (walk lines.length) here) := by
  induction ups with
  | nil => exact fun hstands => hstands
  | cons up rest ih => exact fun hstands => ih (hstands.press hsome up).2.2

end StandsAt

/-- A console that nothing has been done to is out of recall. -/
theorem coherent_unused (settings : Settings) (source : LineSource) (world : E.World) :
    (unused settings source world).Coherent :=
  ⟨fun _ => rfl, fun _ => rfl, nofun⟩

/-- **Recall is a walk between bounds.**  Take a console that was created with some settings and
on which anything was called since, or one that a callback has got to in between, and
callbacks that work on history and recall by the operations of a console.

* Outside recall the cursor of the history follows and is on the newest entry, unless there
  is no entry.  In recall there is one.
* Without entries a press answers `false` and changes nothing.
* Outside recall and with entries, presses one after the other are a walk that has not begun
  yet.  A press answers whether the walk moves.  If it moves to an entry, as much of the entry
  as the settings allow is in the input line, with the cursor behind it; if it moves back out
  of the history, the input line is empty; if it does not move, the input line is as it was.
  The entries stay. -/
theorem recall_walks (host : Host E) {settings : Settings} {source : LineSource}
    {world : E.World} (hstart : create settings source world = .ok start)
    (hcallbacks : OperatesOnly host) {steps : List (Step E)}
    (hwithin : (start.after host steps).HistoryReaches c) :
    (c.recalling = false → c.history.following = true ∧
        (c.history.lines = [] ∨ c.history.cursor? = some c.history.newestIndex)) ∧
      (c.recalling = true → c.history.lines ≠ []) ∧
      (c.history.lines = [] → ∀ up, c.scrollHistory up = (false, c)) ∧
      (c.recalling = false → c.history.lines ≠ [] → ∀ (ups : List Bool) (up : Bool),
        let count := c.history.lines.length
        let here := ups.foldl (walk count) none
        let there := walk count here up
        let reached := c.after host (ups.map .scrollHistory)
        let next := (reached.scrollHistory up).2
        (reached.scrollHistory up).1 = decide (there ≠ here) ∧
          (there = here → next.input = reached.input) ∧
          (there ≠ here → there = none → next.input.text = "" ∧ next.input.cursor = 0) ∧
          (∀ age, there ≠ here → there = some age → age < count ∧
            ∃ entry, c.history.lines[count - 1 - age]? = some entry ∧
              next.input.text = String.ofList (entry.toList.take settings.maxInputLength) ∧
              next.input.cursor = next.input.length) ∧
          next.history.lines = c.history.lines) := by
  obtain ⟨-, -, rfl⟩ := create_eq_ok_iff.mp hstart
  have hreaches := (after_historyReaches hcallbacks steps _).trans hwithin
  have hcoherent := (coherent_unused settings source world).reaches hreaches
  refine ⟨?_, hcoherent.entry, ?_, ?_⟩
  · intro hidle
    have hfollows := hcoherent.idle hidle
    refine ⟨hfollows, ?_⟩
    rw [← hcoherent.newest hfollows, ScrollLog.cursor?]
    cases c.history.lines <;> simp
  · intro hnone up
    simp [scrollHistory, hnone]
  · intro hidle hsome ups up count here there reached next
    have hstands : StandsAt c.history.lines reached here :=
      (StandsAt.idle rfl hidle).presses host hsome ups
    obtain ⟨hanswer, hinput, hthere⟩ := hstands.press hsome up
    have hcap : reached.input.cap = settings.maxInputLength :=
      (hreaches.trans (after_historyReaches hcallbacks _ c)).cap_eq
    refine ⟨hanswer, ?_, ?_, ?_, hthere.lines_eq⟩
    · intro hstays
      exact hinput.trans ((congrArg _ hstays).trans (inputAt_self _ _ _))
    · intro hmoves hout
      have hcleared : next.input = reached.input.clear :=
        hinput.trans ((congrArg _ hout).trans (inputAt_none (hout ▸ hmoves) _ _))
      rw [hcleared]
      exact ⟨rfl, rfl⟩
    · intro age hmoves hentry
      have hage : age < count := hthere.lt_length hentry
      have hindex : count - 1 - age < c.history.lines.length := by omega
      have hset : next.input = reached.input.setText
          (c.history.lines[count - 1 - age]?.getD "") :=
        hinput.trans ((congrArg _ hentry).trans (inputAt_some (hentry ▸ hmoves) _ _))
      refine ⟨hage, _, List.getElem?_eq_getElem hindex, ?_⟩
      rw [hset, List.getElem?_eq_getElem hindex, Option.getD_some, ← hcap]
      exact ⟨rfl, rfl⟩

/-- A program whose one callback drops the history. -/
def wipingHost : Host ⟨Unit, Empty, Unit⟩ where
  call := fun _ _ c => (.ok (.value .null), c.clearHistory)
  ask := fun handle => nomatch handle

/-- A console with room for few characters in its input line. -/
def brief : Console ⟨Unit, Empty, Unit⟩ :=
  unused { Settings.default with maxInputLength := 3 } (.ofScripts []) ()

/-- The history is dropped in recall, and then two lines are entered. -/
def wipedSteps : List (Step ⟨Unit, Empty, Unit⟩) := [
  .register
    { name := "wipe", help := "", usage := "", category := Command.generalCategory,
      aliases := [], origin := "", action := .callback () },
  .enter "old",
  .scrollHistory true,
  .enter "wipe",
  .enter "alpha",
  .setText "beta",
  .insert "t",
  .submit]

/-- The second press goes past the newest entry and shows what fits of the other one. -/
theorem recall_walks_after_wiping :
    let c := brief.after wipingHost wipedSteps
    let reached := c.after wipingHost [.scrollHistory true]
    c.history.lines = ["alpha", "bet"] ∧ c.history.following = true ∧
      (reached.scrollHistory true).1 = true ∧
      (reached.scrollHistory true).2.input.text = "alp" ∧
      (reached.scrollHistory true).2.history.lines = ["alpha", "bet"] := by
  intro c reached
  have hlines : c.history.lines = ["alpha", "bet"] := by decide +kernel
  have hidle : c.recalling = false := by decide +kernel
  have hstart : create { Settings.default with maxInputLength := 3 } (.ofScripts []) () =
      .ok brief := rfl
  have hcallbacks : OperatesOnly wipingHost := fun _ _ c => .clear .refl
  have hwithin : (brief.after wipingHost wipedSteps).HistoryReaches c := .refl
  obtain ⟨houtside, -, -, hwalk⟩ := recall_walks wipingHost hstart hcallbacks hwithin
  clear_value c
  have hsome : c.history.lines ≠ [] := by simp [hlines]
  obtain ⟨hanswer, -, -, hentry, hkept⟩ := hwalk hidle hsome [true] true
  -- The walk is at entry 0 of two.
  have hthere : walk c.history.lines.length (some 0) true = some 1 := by rw [hlines]; rfl
  have hmoves : walk c.history.lines.length (some 0) true ≠ some 0 := by simp [hthere]
  obtain ⟨-, entry, hfound, htext, -⟩ := hentry 1 hmoves hthere
  refine ⟨hlines, (houtside hidle).1, hanswer.trans (decide_eq_true hmoves), ?_,
    hkept.trans hlines⟩
  obtain rfl : "alpha" = entry := by simpa [hlines] using hfound
  exact htext.trans (by decide +kernel)

end Console
end DevConsole
