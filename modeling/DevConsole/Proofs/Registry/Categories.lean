import DevConsole.Proofs.Registry.NameSpace

/-!
# Commands by their categories

The commands of a table go into the groups of their categories one after the other.  Each group
holds the commands of its category (`CommandTable.get?_grouped`), and the groups stand in the
order of their first commands (`CommandTable.keys_grouped`).  So if a group is looked for by a
property of its category, the one that is found is that of the first command whose category has
the property (`CommandTable.find?_categories`).
-/

namespace DevConsole

/-- The first of the elements with a property does not depend on repetitions. -/
theorem find?_eraseDups (p : String → Bool) (xs : List String) :
    xs.eraseDups.find? p = xs.find? p := by
  induction xs using List.reverseRecOn with
  | nil => rfl
  | append_singleton before x ih =>
      rw [Dictionary.eraseDups_concat, List.find?_append]
      split
      · next hold =>
          rw [ih]
          cases hfound : before.find? p with
          | none =>
              have hx : p x = false := Bool.eq_false_iff.mpr (List.find?_eq_none.mp hfound x hold)
              simp [hx]
          | some first => rfl
      · rw [List.find?_append, ih]

namespace CommandTable

variable {α : Type}

/-- The groups of commands by their categories. -/
def grouped (commands : List (Command α)) : Dictionary (List (Command α)) :=
  commands.foldl
    (fun groups c => groups.insert c.category ((groups.get? c.category).getD [] ++ [c])) ∅

theorem categories_eq (table : CommandTable α) : table.categories = grouped table.toList := rfl

theorem grouped_concat (commands : List (Command α)) (c : Command α) :
    grouped (commands ++ [c]) = (grouped commands).insert c.category
      (((grouped commands).get? c.category).getD [] ++ [c]) := by
  unfold grouped
  rw [List.foldl_append]
  rfl

/-- A group holds the commands of its category, in order. -/
theorem get?_grouped (commands : List (Command α)) (category : String) :
    ((grouped commands).get? category).getD [] =
      commands.filter fun c => c.category == category := by
  induction commands using List.reverseRecOn with
  | nil => rfl
  | append_singleton before c ih =>
      rw [grouped_concat, Dictionary.get?_insert, List.filter_append]
      by_cases hcategory : category = c.category
      · subst hcategory
        simp [ih]
      · have hother : (category == c.category) = false := by simpa using hcategory
        simp [hother, ih, Ne.symm hcategory]

/-- The groups stand in the order of their first commands. -/
theorem keys_grouped (commands : List (Command α)) :
    (grouped commands).keys = (commands.map (·.category)).eraseDups := by
  induction commands using List.reverseRecOn with
  | nil => rfl
  | append_singleton before c ih =>
      rw [grouped_concat, Dictionary.keys_insert, ih, List.map_append, List.map_singleton,
        Dictionary.eraseDups_concat]
      simp only [List.mem_eraseDups]

theorem nodup_keys_grouped (commands : List (Command α)) : (grouped commands).keys.Nodup := by
  induction commands using List.reverseRecOn with
  | nil => exact List.nodup_nil
  | append_singleton before c ih =>
      rw [grouped_concat]
      exact Dictionary.nodup_keys_insert ih _ _

theorem entries_grouped (commands : List (Command α)) :
    (grouped commands).entries = (commands.map (·.category)).eraseDups.map fun category =>
      (category, commands.filter fun c => c.category == category) := by
  rw [← keys_grouped, Dictionary.keys, List.map_map]
  have hself : ∀ entry ∈ (grouped commands).entries,
      (entry.1, commands.filter fun c => c.category == entry.1) = entry := by
    intro entry hentry
    have hfound := (Dictionary.get?_eq_some_iff (nodup_keys_grouped commands)).mpr hentry
    rw [← get?_grouped, hfound]
    rfl
  exact ((List.map_congr_left hself).trans (List.map_id _)).symm

/-- The first group whose category has a property is that of the first command whose category has
it. -/
theorem find?_categories (table : CommandTable α) (p : String → Bool) :
    table.categories.entries.find? (fun group => p group.1) =
      (table.toList.find? fun c => p c.category).map fun c =>
        (c.category, table.toList.filter fun other => other.category == c.category) := by
  rw [categories_eq, entries_grouped, List.find?_map]
  simp only [Function.comp_def]
  rw [find?_eraseDups, List.find?_map, Option.map_map]
  rfl

end CommandTable
end DevConsole
