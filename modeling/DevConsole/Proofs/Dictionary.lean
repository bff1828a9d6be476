import DevConsole.Dictionary
import Mathlib.Data.List.Induction
import Mathlib.Data.List.Nodup

/-!
# Dictionaries from lists of entries

Of the entries that are made for a key the last counts (`Dictionary.get?_insertMany`), also
after they went through a dictionary of their own (`Dictionary.lastValue?_ofList`).  The keys
stand in the order of their first entries (`Dictionary.keys_ofList`), so the entry that comes
last is not always the one that was made last (`Dictionary.getLast?_entries_ofList`).  The
entries under some of the keys are those that these keys alone would make, in the same order
(`Dictionary.filter_ofList`).  To change all values by a function, the entries may be changed
before or after a dictionary is made of them (`Dictionary.mapValues_ofList`).
-/

namespace DevConsole

namespace Dictionary

variable {α β : Type}

/-- The value that the last of the entries for a key has. -/
def lastValue? (entries : List (String × α)) (key : String) : Option α :=
  (entries.filter fun entry => entry.1 == key).getLast?.map (·.2)

theorem mem_of_lastValue? {entries : List (String × α)} {key : String} {value : α}
    (hlast : lastValue? entries key = some value) : (key, value) ∈ entries := by
  obtain ⟨entry, hentry, rfl⟩ := Option.map_eq_some_iff.mp hlast
  obtain ⟨hmember, hkey⟩ := List.mem_filter.mp (List.mem_of_getLast? hentry)
  rw [beq_iff_eq] at hkey
  exact hkey ▸ hmember

theorem get?_insertMany (d : Dictionary α) (entries : List (String × α)) (key : String) :
    (d.insertMany entries).get? key = (lastValue? entries key).or (d.get? key) := by
  induction entries generalizing d with
  | nil => rfl
  | cons entry rest ih =>
      have hstep : d.insertMany (entry :: rest) = (d.insert entry.1 entry.2).insertMany rest := rfl
      rw [hstep, ih, get?_insert]
      -- A value of the rest hides the first one.
      by_cases hkey : entry.1 = key
      · subst hkey
        cases hrest : rest.filter (fun other => other.1 == entry.1) with
        | nil => simp [lastValue?, hrest]
        | cons other others => simp [lastValue?, hrest, List.getLast?_cons]
      · have hother : (key == entry.1) = false := by simpa using Ne.symm hkey
        simp [lastValue?, hkey, hother]

theorem get?_ofList (entries : List (String × α)) (key : String) :
    (ofList entries).get? key = lastValue? entries key := by
  have hnone : (∅ : Dictionary α).get? key = none := rfl
  rw [ofList, get?_insertMany, hnone, Option.or_none]

theorem filter_insertEntry (p : String → Bool) (key : String) (value : α)
    (entries : List (String × α)) :
    (insertEntry key value entries).filter (fun entry => p entry.1) =
      if p key then insertEntry key value (entries.filter fun entry => p entry.1)
      else entries.filter fun entry => p entry.1 := by
  induction entries with
  | nil => cases hp : p key <;> simp [insertEntry, hp]
  | cons entry rest ih =>
      by_cases hkey : key = entry.1
      · subst hkey
        cases hp : p entry.1 <;> simp [insertEntry, hp]
      · cases hp : p key <;> cases hfirst : p entry.1 <;>
          simp [insertEntry, hkey, hp, hfirst, ih]

theorem filter_insertMany (p : String → Bool) (d : Dictionary α) (entries : List (String × α)) :
    (d.insertMany entries).entries.filter (fun entry => p entry.1) =
      ((⟨d.entries.filter fun entry => p entry.1⟩ : Dictionary α).insertMany
        (entries.filter fun entry => p entry.1)).entries := by
  induction entries generalizing d with
  | nil => rfl
  | cons entry rest ih =>
      have hstep : d.insertMany (entry :: rest) = (d.insert entry.1 entry.2).insertMany rest := rfl
      rw [hstep, ih]
      unfold insert
      rw [filter_insertEntry, List.filter_cons]
      cases p entry.1 <;> rfl

/-- The entries under some of the keys come from the entries for these keys alone. -/
theorem filter_ofList (p : String → Bool) (entries : List (String × α)) :
    (ofList entries).entries.filter (fun entry => p entry.1) =
      (ofList (entries.filter fun entry => p entry.1)).entries :=
  filter_insertMany p ∅ entries

theorem ofList_concat (entries : List (String × α)) (entry : String × α) :
    ofList (entries ++ [entry]) = (ofList entries).insert entry.1 entry.2 := by
  simp [ofList, insertMany, List.foldl_append]

theorem entries_ofList_of_same {key : String} {entries : List (String × α)}
    (hsame : ∀ entry ∈ entries, entry.1 = key) :
    (ofList entries).entries = entries.getLast?.toList := by
  induction entries using List.reverseRecOn with
  | nil => rfl
  | append_singleton before entry ih =>
      have hbefore : ∀ other ∈ before, other.1 = entry.1 := by
        intro other hother
        rw [hsame other (List.mem_append_left _ hother), hsame entry (by simp)]
      rw [ofList_concat, List.getLast?_concat]
      unfold insert
      rw [ih fun other hother => hsame other (List.mem_append_left _ hother)]
      cases hlast : before.getLast? with
      | none => rfl
      | some last =>
          have hkey := hbefore last (List.mem_of_getLast? hlast)
          simp [insertEntry, hkey]

/-- A key that is there already keeps its place, and a new one comes last. -/
theorem keys_insert (d : Dictionary α) (key : String) (value : α) :
    (d.insert key value).keys = if key ∈ d.keys then d.keys else d.keys ++ [key] := by
  obtain ⟨entries⟩ := d
  unfold keys insert
  dsimp only
  induction entries with
  | nil => rfl
  | cons entry rest ih =>
      by_cases hkey : key = entry.1
      · subst hkey
        simp [insertEntry]
      · have hother : (key == entry.1) = false := by simpa using hkey
        rw [insertEntry, hother, if_neg Bool.false_ne_true, List.map_cons, List.map_cons, ih]
        by_cases hrest : key ∈ rest.map (·.1)
        · rw [if_pos hrest, if_pos (List.mem_cons_of_mem _ hrest)]
        · rw [if_neg hrest, if_neg (List.not_mem_cons_of_ne_of_not_mem hkey hrest)]
          rfl

theorem nodup_keys_insert {d : Dictionary α} (hnodup : d.keys.Nodup) (key : String) (value : α) :
    (d.insert key value).keys.Nodup := by
  rw [keys_insert]
  split
  · exact hnodup
  · next hnew => exact List.nodup_append_comm.mp (List.nodup_cons.mpr ⟨hnew, hnodup⟩)

theorem eraseDups_concat (xs : List String) (x : String) :
    (xs ++ [x]).eraseDups = if x ∈ xs then xs.eraseDups else xs.eraseDups ++ [x] := by
  rw [List.eraseDups_append]
  by_cases hold : x ∈ xs
  · simp [List.removeAll, hold]
  · simp [List.removeAll, hold, List.eraseDups_cons]

/-- The keys stand in the order of their first entries. -/
theorem keys_ofList (entries : List (String × α)) :
    (ofList entries).keys = (entries.map (·.1)).eraseDups := by
  induction entries using List.reverseRecOn with
  | nil => rfl
  | append_singleton before entry ih =>
      rw [ofList_concat, keys_insert, ih, List.map_append, List.map_singleton, eraseDups_concat]
      simp only [List.mem_eraseDups]

theorem mem_insertEntry {key : String} {value : α} {entries : List (String × α)}
    {entry : String × α} (hentry : entry ∈ insertEntry key value entries) :
    entry = (key, value) ∨ entry ∈ entries := by
  induction entries with
  | nil => exact .inl (List.mem_singleton.mp hentry)
  | cons first rest ih =>
      unfold insertEntry at hentry
      split at hentry
      · exact (List.mem_cons.mp hentry).imp_right (List.mem_cons_of_mem _)
      · rcases List.mem_cons.mp hentry with rfl | hrest
        · exact .inr List.mem_cons_self
        · exact (ih hrest).imp_right (List.mem_cons_of_mem _)

theorem mem_of_mem_ofList {entries : List (String × α)} {entry : String × α}
    (hentry : entry ∈ (ofList entries).entries) : entry ∈ entries := by
  induction entries using List.reverseRecOn with
  | nil => exact hentry
  | append_singleton before last ih =>
      rw [ofList_concat] at hentry
      rcases mem_insertEntry hentry with rfl | hbefore
      · simp
      · exact List.mem_append_left _ (ih hbefore)

theorem ofList_eq_nil_iff {entries : List (String × α)} :
    (ofList entries).entries = [] ↔ entries = [] := by
  cases entries using List.reverseRecOn with
  | nil => exact ⟨fun _ => rfl, fun _ => rfl⟩
  | append_singleton before last =>
      rw [ofList_concat]
      cases hbefore : (ofList before).entries with
      | nil => simp [insert, insertEntry, hbefore]
      | cons first rest =>
          simp only [insert, hbefore, insertEntry]
          split <;> simp

/-- Of the entries for a key the last one stays. -/
theorem filter_entries_ofList (entries : List (String × α)) (key : String) :
    (ofList entries).entries.filter (fun entry => entry.1 == key) =
      (entries.filter fun entry => entry.1 == key).getLast?.toList := by
  rw [filter_ofList (· == key)]
  exact entries_ofList_of_same fun entry hentry => beq_iff_eq.mp (List.mem_filter.mp hentry).2

theorem lastValue?_ofList (entries : List (String × α)) (key : String) :
    lastValue? (ofList entries).entries key = lastValue? entries key := by
  unfold lastValue?
  rw [filter_entries_ofList]
  cases (entries.filter fun entry => entry.1 == key).getLast? <;> rfl

theorem lastValue?_of_mem_ofList {entries : List (String × α)} {entry : String × α}
    (hentry : entry ∈ (ofList entries).entries) :
    lastValue? entries entry.1 = some entry.2 := by
  have hkept : entry ∈ (ofList entries).entries.filter fun other => other.1 == entry.1 :=
    List.mem_filter.mpr ⟨hentry, beq_self_eq_true _⟩
  rw [filter_entries_ofList, Option.mem_toList] at hkept
  rw [lastValue?, hkept]
  rfl

/-- The value that comes last is the last one of the key whose first entry comes last. -/
theorem getLast?_entries_ofList (entries : List (String × α)) :
    (ofList entries).entries.getLast?.map (·.2) =
      (entries.map (·.1)).eraseDups.getLast?.bind (lastValue? entries) := by
  rw [← keys_ofList, keys, List.getLast?_map]
  cases hlast : (ofList entries).entries.getLast? with
  | none => rfl
  | some entry => exact (lastValue?_of_mem_ofList (List.mem_of_getLast? hlast)).symm

theorem get?_filter (p : String → Bool) (entries : List (String × α)) (key : String) :
    (⟨entries.filter fun entry => p entry.1⟩ : Dictionary α).get? key =
      if p key then (⟨entries⟩ : Dictionary α).get? key else none := by
  unfold get?
  dsimp only
  induction entries with
  | nil => simp
  | cons entry rest ih =>
      obtain ⟨first, held⟩ := entry
      by_cases hkey : key = first
      · subst hkey
        cases hp : p key <;> simp [hp, ih]
      · have hother : (key == first) = false := by simpa using hkey
        cases hp : p first <;> simp [hp, ih, List.lookup_cons, hother]

/-- The same keys in the same order, each with the value that `f` makes of its own. -/
def mapValues (f : α → β) (d : Dictionary α) : Dictionary β :=
  ⟨d.entries.map fun entry => (entry.1, f entry.2)⟩

theorem mapValues_insert (f : α → β) (d : Dictionary α) (key : String) (value : α) :
    (d.insert key value).mapValues f = (d.mapValues f).insert key (f value) := by
  obtain ⟨entries⟩ := d
  unfold mapValues insert
  dsimp only
  congr 1
  induction entries with
  | nil => rfl
  | cons entry rest ih =>
      simp only [insertEntry, List.map_cons]
      split
      · rfl
      · rw [List.map_cons, ih]

theorem mapValues_insertMany (f : α → β) (d : Dictionary α) (entries : List (String × α)) :
    (d.insertMany entries).mapValues f =
      (d.mapValues f).insertMany (entries.map fun entry => (entry.1, f entry.2)) := by
  induction entries generalizing d with
  | nil => rfl
  | cons entry rest ih =>
      have hstep : d.insertMany (entry :: rest) = (d.insert entry.1 entry.2).insertMany rest := rfl
      rw [hstep, ih, mapValues_insert]
      rfl

theorem mapValues_ofList (f : α → β) (entries : List (String × α)) :
    (ofList entries).mapValues f = ofList (entries.map fun entry => (entry.1, f entry.2)) :=
  mapValues_insertMany f ∅ entries

theorem lastValue?_mapValues (f : α → β) (d : Dictionary α) (key : String) :
    lastValue? (d.mapValues f).entries key = (lastValue? d.entries key).map f := by
  unfold lastValue? mapValues
  rw [List.filter_map, List.getLast?_map, Option.map_map, Option.map_map]
  rfl

end Dictionary

end DevConsole
