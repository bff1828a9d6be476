import DevConsole.Proofs.Settings.Validation
import DevConsole.Proofs.Text.Upper
import DevConsole.Settings.Sources

/-!
# Which source a setting comes from

The sources of settings are layers over the defaults (`Sources.layers`): the texts of `.env`
and `console.ini`, the tables of `console.json` and `console.toml`, and those variables of the
environment that are settings.  A value in a layer has a name; that of a leaf in a table of
tables consists of the names that lead to it (`tablePaths`, `foldl_below_top`).  A name stands
for a key if in upper case it is the key, with or without `CONSOLE_` (`Names`).

Main statement (`merged_by_precedence`): a key has the value that the highest layer gives it
in which a name stands for the key, or else its default.  Entries with other names do not
count, and what is no setting is kept as extra.
-/

namespace DevConsole.Settings

/-! ## Names of settings -/

/-- A name stands for a key: in upper case it is the key, with or without `CONSOLE_` in front.
A key that itself starts with `CONSOLE_` needs it twice. -/
def Names (name key : String) : Prop :=
  Text.upper name = keyStart ++ key ∨
    Text.upper name = key ∧ ¬ keyStart.toList <+: key.toList

instance (name key : String) : Decidable (Names name key) :=
  inferInstanceAs (Decidable (_ ∨ _ ∧ ¬ _))

theorem normalKey_eq_iff {name key : String} : normalKey name = key ↔ Names name key := by
  unfold normalKey Names
  generalize Text.upper name = form
  dsimp only
  -- Whether the start is taken off depends on the form of the name, not on the key.
  by_cases hstart : keyStart.toList <+: form.toList
  · obtain ⟨rest, hrest⟩ := hstart
    have hform : form = keyStart ++ String.ofList rest := by
      apply String.toList_inj.mp
      simp [hrest]
    have hdrop : (keyStart.toList ++ rest).drop keyStart.length = rest := by
      rw [← String.length_toList, List.drop_left]
    have hnot : ¬(form = key ∧ ¬keyStart.toList <+: key.toList) := by
      rintro ⟨rfl, hkey⟩
      exact hkey ⟨rest, hrest⟩
    rw [or_iff_left hnot, ← hrest, if_pos (by simp), hdrop, hform, String.append_right_inj]
  · have hnot : ¬form = keyStart ++ key := by
      rintro rfl
      exact hstart (by simp)
    rw [or_iff_right hnot, if_neg (by simpa using hstart), String.ofList_toList]
    constructor
    · rintro rfl
      exact ⟨rfl, hstart⟩
    · exact And.left

theorem normalKey_upper (name : String) : normalKey (Text.upper name) = normalKey name := by
  unfold normalKey
  rw [Text.upper_upper]

/-- The names of environment variables that are settings: they start with `CONSOLE_` and
consist of the letters `A` to `Z`, digits and underscores. -/
def IsVariable (name : String) : Prop :=
  keyStart.toList <+: name.toList ∧
    ∀ c ∈ name.toList, 'A' ≤ c ∧ c ≤ 'Z' ∨ '0' ≤ c ∧ c ≤ '9' ∨ c = '_'

theorem isSettingVariable_iff (name : String) :
    isSettingVariable name = true ↔ IsVariable name := by
  have hupper : ∀ c : Char, c.isUpper = true ↔ 'A' ≤ c ∧ c ≤ 'Z' := fun _ => decide_eq_true_iff
  simp [isSettingVariable, IsVariable, Text.startsWith_iff, hupper, Char.isDigit,
    Char.le_def, or_assoc]

instance (name : String) : Decidable (IsVariable name) :=
  decidable_of_iff _ (isSettingVariable_iff name)

/-! ## Leaves of tables -/

mutual

/-- The leaves below a value, each with the names that lead to it. -/
def leafPaths : Value → List (List String × Value)
  | .dict entries => tablePaths entries
  | v => [([], v)]

/-- The leaves of a table, each with the names that lead to it. -/
def tablePaths : List (String × Value) → List (List String × Value)
  | [] => []
  | (name, v) :: rest =>
    (leafPaths v).map (fun leaf => (name :: leaf.1, leaf.2)) ++ tablePaths rest

end

/-- The key of a name below a key. -/
def below (key name : String) : String :=
  if key.isEmpty then name else s!"{key}_{name}"

mutual

theorem leaves_eq (key : String) :
    ∀ v, leaves key v = (leafPaths v).map fun leaf => (Text.upper (leaf.1.foldl below key), leaf.2)
  | .dict entries => by
    rw [leaves, leafPaths, leavesOfAll_eq]
  | .null | .bool _ | .int _ | .float _ | .text _ | .bytes _ | .list _ | .tuple _ | .moment _ => by
    simp [leaves, leafPaths]

theorem leavesOfAll_eq (key : String) :
    ∀ entries, leavesOfAll key entries =
      (tablePaths entries).map fun leaf => (Text.upper (leaf.1.foldl below key), leaf.2)
  | [] => by simp [leavesOfAll, tablePaths]
  | (name, v) :: rest => by
    rw [leavesOfAll, tablePaths, leaves_eq, leavesOfAll_eq, List.map_append, List.map_map]
    rfl

end

/-- Below a key that is not empty the names are joined by underscores. -/
theorem foldl_below {key : String} (hkey : key ≠ "") (path : List String) :
    path.foldl below key = "_".intercalate (key :: path) := by
  induction path generalizing key with
  | nil => simp
  | cons name rest ih =>
      have hbelow : below key name = key ++ "_" ++ name := by
        unfold below
        rw [if_neg (by simpa using hkey)]
        rfl
      have hnext : key ++ "_" ++ name ≠ "" := by simp
      rw [List.foldl_cons, hbelow, ih hnext]
      cases rest with
      | nil => simp [String.intercalate_cons_cons]
      | cons other others => simp [String.intercalate_cons_cons, String.append_assoc]

theorem foldl_below_top {path : List String} (hnamed : "" ∉ path) :
    path.foldl below "" = "_".intercalate path := by
  cases path with
  | nil => rfl
  | cons name rest =>
      rw [List.mem_cons, not_or] at hnamed
      exact foldl_below (Ne.symm hnamed.1) rest

/-! ## Layers -/

/-- A source of settings over others: texts by their keys, or a table of tables. -/
inductive Layer where
  | texts (entries : List (String × String))
  | table (entries : List (String × Value))

namespace Layer

/-- The values that a layer holds, each under its own name. The name of a leaf in a table of
tables consists of the names that lead to it, with underscores between them. -/
def named : Layer → List (String × Value)
  | texts entries => textEntries entries
  | table entries => (tablePaths entries).map fun leaf => ("_".intercalate leaf.1, leaf.2)

/-- The values in a layer whose names stand for a key. -/
def naming (layer : Layer) (key : String) : List (String × Value) :=
  layer.named.filter fun entry => Names entry.1 key

/-- The value that a layer gives a key. Of several texts the last counts. In a table the names
are told apart in upper case, so there are at most two that stand for the key, one of them with
`CONSOLE_` in front: the one that comes in later counts, with the value that it has last. -/
def value? (layer : Layer) (key : String) : Option Value :=
  match layer with
  | texts _ => (layer.naming key).getLast?.map (·.2)
  | table _ =>
    (Dictionary.ofList ((layer.naming key).map fun entry =>
      (Text.upper entry.1, entry.2))).entries.getLast?.map (·.2)

/-- No leaf of a table is below an empty name. -/
def NamesNonempty : Layer → Prop
  | texts _ => True
  | table entries => ∀ leaf ∈ tablePaths entries, "" ∉ leaf.1

/-- The entries of a layer as they are merged. -/
def entries : Layer → List (String × Value)
  | texts entries => textEntries entries
  | table entries => (flatten entries).entries

theorem mem_naming {layer : Layer} {key : String} {entry : String × Value} :
    entry ∈ layer.naming key ↔ entry ∈ layer.named ∧ Names entry.1 key := by
  simp [naming]

theorem filter_normalKey (entries : List (String × Value)) (key : String) :
    entries.filter (fun entry => normalKey entry.1 == key) =
      entries.filter fun entry => Names entry.1 key := by
  refine List.filter_congr ?_
  intro entry _
  rw [Bool.eq_iff_iff, beq_iff_eq, decide_eq_true_iff, normalKey_eq_iff]

/-- The leaves of a table of tables under joined keys in upper case. -/
theorem leavesOfAll_top {entries : List (String × Value)}
    (hnamed : NamesNonempty (.table entries)) :
    leavesOfAll "" entries =
      (named (.table entries)).map fun entry => (Text.upper entry.1, entry.2) := by
  rw [leavesOfAll_eq, named, List.map_map]
  refine List.map_congr_left ?_
  intro leaf hleaf
  rw [foldl_below_top (hnamed leaf hleaf)]
  rfl

theorem filter_entries {layer : Layer} (hnamed : layer.NamesNonempty) (key : String) :
    (layer.entries.filter fun entry => normalKey entry.1 == key).getLast?.map (·.2) =
      layer.value? key := by
  cases layer with
  | texts entries =>
      rw [filter_normalKey]
      rfl
  | table entries =>
      -- The names of a table are put in upper case twice: when it is flattened, and when its
      -- keys are made normal.
      have hcount : ((named (.table entries)).map fun entry =>
          (Text.upper entry.1, entry.2)).filter (fun entry => normalKey entry.1 == key) =
          (naming (.table entries) key).map fun entry => (Text.upper entry.1, entry.2) := by
        rw [List.filter_map, naming, ← filter_normalKey]
        simp only [Function.comp_def, normalKey_upper]
      unfold Layer.entries flatten
      dsimp only
      rw [Dictionary.filter_ofList (normalKey · == key), leavesOfAll_top hnamed, hcount]
      rfl

/-- The value that the normal form of a layer holds under a key. -/
theorem lastValue?_normalize {layer : Layer} (hnamed : layer.NamesNonempty) (key : String) :
    Dictionary.lastValue? (normalize layer.entries).entries key = layer.value? key := by
  have hmapped : (layer.entries.map fun entry => (normalKey entry.1, entry.2)).filter
      (fun entry => entry.1 == key) =
      (layer.entries.filter fun entry => normalKey entry.1 == key).map fun entry =>
        (normalKey entry.1, entry.2) :=
    List.filter_map
  have hnormal : normalize layer.entries =
      .ofList (layer.entries.map fun entry => (normalKey entry.1, entry.2)) := rfl
  rw [hnormal, Dictionary.lastValue?_ofList, Dictionary.lastValue?, hmapped, List.getLast?_map,
    Option.map_map, ← filter_entries hnamed]
  rfl

theorem value?_eq_none_iff {layer : Layer} {key : String} :
    layer.value? key = none ↔ layer.naming key = [] := by
  cases layer with
  | texts => simp [value?]
  | table => simp [value?, Dictionary.ofList_eq_nil_iff]

theorem isSome_value?_iff (layer : Layer) (key : String) :
    (layer.value? key).isSome ↔ ∃ entry ∈ layer.named, Names entry.1 key := by
  rw [Option.isSome_iff_ne_none, ne_eq, value?_eq_none_iff]
  simp only [List.eq_nil_iff_forall_not_mem, not_forall, not_not, mem_naming]

theorem mem_named_of_value? {layer : Layer} {key : String} {v : Value}
    (hvalue : layer.value? key = some v) :
    ∃ entry ∈ layer.named, Names entry.1 key ∧ entry.2 = v := by
  have hnaming : ∃ entry ∈ layer.naming key, entry.2 = v := by
    cases layer with
    | texts =>
        obtain ⟨entry, hlast, rfl⟩ := Option.map_eq_some_iff.mp hvalue
        exact ⟨entry, List.mem_of_getLast? hlast, rfl⟩
    | table =>
        obtain ⟨entry, hlast, rfl⟩ := Option.map_eq_some_iff.mp hvalue
        obtain ⟨source, hsource, rfl⟩ :=
          List.mem_map.mp (Dictionary.mem_of_mem_ofList (List.mem_of_getLast? hlast))
        exact ⟨source, hsource, rfl⟩
  obtain ⟨entry, hentry, hv⟩ := hnaming
  obtain ⟨hmember, hnames⟩ := mem_naming.mp hentry
  exact ⟨entry, hmember, hnames, hv⟩

end Layer

/-- The layers over the defaults, each over those before it. Of the environment only the
variables that are settings count. -/
def Sources.layers (sources : Sources) : List Layer := [
  .texts sources.dotenv.entries,
  .texts sources.ini.entries,
  .table sources.json,
  .table sources.toml,
  .texts (sources.environment.entries.filter fun entry => IsVariable entry.1)]

theorem Sources.merged_eq (sources : Sources) :
    sources.merged = merge defaults (sources.layers.map Layer.entries) := by
  have hvariables : sources.environment.entries.filter (isSettingVariable ·.1) =
      sources.environment.entries.filter fun entry => IsVariable entry.1 := by
    refine List.filter_congr ?_
    intro entry _
    rw [Bool.eq_iff_iff, decide_eq_true_iff, isSettingVariable_iff]
  rw [merged, hvariables]
  rfl

theorem get?_merge (base : Dictionary Value) {layers : List Layer}
    (hnamed : ∀ layer ∈ layers, layer.NamesNonempty) (key : String) :
    (merge base (layers.map Layer.entries)).get? key =
      (layers.reverse.findSome? (·.value? key)).or (base.get? key) := by
  induction layers generalizing base with
  | nil => rfl
  | cons layer rest ih =>
      obtain ⟨hlayer, hrest⟩ := List.forall_mem_cons.mp hnamed
      have hstep : merge base ((layer :: rest).map Layer.entries) =
          merge (base.insertMany (normalize layer.entries).entries)
            (rest.map Layer.entries) := rfl
      rw [hstep, ih _ hrest, Dictionary.get?_insertMany, Layer.lastValue?_normalize hlayer,
        List.reverse_cons, List.findSome?_append, Option.or_assoc, List.findSome?_singleton]

/-- **Precedence of settings.**  Take sources in which no name in a table is empty, and a key.

The key has the value that the highest layer gives it, or its default if none gives it one.  A
layer gives a value exactly if a name in it stands for the key, and then that of an entry with
such a name.  Sources with the same entries whose names stand for the key give it the same
value, whatever else they hold.  If the merged entries are accepted, a key that is no setting
has this value in the extra entries, and a key that is one is not there. -/
theorem merged_by_precedence {sources : Sources}
    (hnamed : ∀ layer ∈ sources.layers, layer.NamesNonempty) (key : String) :
    sources.merged.get? key =
        (sources.layers.reverse.findSome? (·.value? key)).or (defaults.get? key) ∧
      (∀ layer ∈ sources.layers,
        ((layer.value? key).isSome ↔ ∃ entry ∈ layer.named, Names entry.1 key) ∧
        ∀ v, layer.value? key = some v →
          ∃ entry ∈ layer.named, Names entry.1 key ∧ entry.2 = v) ∧
      (∀ others : Sources, (∀ layer ∈ others.layers, layer.NamesNonempty) →
        others.layers.map (·.naming key) = sources.layers.map (·.naming key) →
        others.merged.get? key = sources.merged.get? key) ∧
      ∀ files settings, ofEntries files sources.merged = .ok settings →
        settings.extra.get? key =
          if defaults.contains key then none else sources.merged.get? key := by
  have hmerged : ∀ given : Sources, (∀ layer ∈ given.layers, layer.NamesNonempty) →
      given.merged.get? key =
        (given.layers.reverse.findSome? (·.value? key)).or (defaults.get? key) := by
    intro given hgiven
    rw [given.merged_eq, get?_merge defaults hgiven]
  refine ⟨hmerged sources hnamed, ?_, ?_, ?_⟩
  · intro layer _
    exact ⟨layer.isSome_value?_iff key, fun v => layer.mem_named_of_value?⟩
  · intro others hothers hsame
    have hvalues : others.layers.map (·.value? key) = sources.layers.map (·.value? key) := by
      simp only [Sources.layers, List.map_cons, List.map_nil, List.cons.injEq, and_true] at hsame ⊢
      simp only [Layer.value?, hsame, and_self]
    -- Which value is found depends on the values of the layers alone.
    have hfound : ∀ layers : List Layer, layers.reverse.findSome? (·.value? key) =
        (layers.map (·.value? key)).reverse.findSome? id := by
      intro layers
      rw [← List.map_reverse, List.findSome?_map]
      rfl
    rw [hmerged sources hnamed, hmerged others hothers, hfound, hfound, hvalues]
  · intro files settings hsettings
    rw [(ofEntries_eq_ok_iff.mp hsettings).extra,
      Dictionary.get?_filter (fun name => !defaults.contains name)]
    cases defaults.contains key <;> rfl

/-- Sources in which many spellings of one key meet. -/
def crossed : Sources where
  dotenv := ⟨[("tick_rate", "1"), ("Greeting", "hello")]⟩
  ini := ⟨[("TICK_RATE", "2")]⟩
  json := [("console", .dict [("tick", .dict [("rate", .int 3)])])]
  toml := [("tick", .dict [("rate", .int 4)]), ("console", .dict [("TICK_RATE", .int 5)]),
    ("Tick_Rate", .int 6)]
  environment := ⟨[("CONSOLE_tick_RATE", "8"), ("TICK_RATE", "9")]⟩

/-- Sources with a single entry, which is no setting. -/
def greeting : Sources where
  dotenv := ⟨[("Greeting", "hello")]⟩
  ini := ∅
  json := []
  toml := []
  environment := ∅

/-- The names of both variables in the environment are wrong, so the table below it counts, and
in it the name that came in last, which is not the name whose value was set last. -/
theorem merged_by_precedence_crossed :
    (∀ layer ∈ crossed.layers, layer.NamesNonempty) ∧
      crossed.merged.get? "TICK_RATE" = some (.int 5) ∧
      crossed.merged.get? "GREETING" = some (.text "hello") ∧
      crossed.merged.get? "ECHO_INPUT" = some (.bool true) ∧
      ∃ settings, ofEntries ⟨[], [], ∅⟩ greeting.merged = .ok settings ∧
        settings.extra.get? "GREETING" = some (.text "hello") := by
  have hjson : ∀ leaf ∈ tablePaths crossed.json, "" ∉ leaf.1 := by decide
  have htoml : ∀ leaf ∈ tablePaths crossed.toml, "" ∉ leaf.1 := by decide
  have hcrossed : ∀ layer ∈ crossed.layers, layer.NamesNonempty := by
    simp only [Sources.layers, List.forall_mem_cons]
    exact ⟨trivial, trivial, hjson, htoml, trivial, nofun⟩
  have hgreeting : ∀ layer ∈ greeting.layers, layer.NamesNonempty := by
    simp only [Sources.layers, List.forall_mem_cons]
    exact ⟨trivial, trivial, nofun, nofun, trivial, nofun⟩
  have hmerged : greeting.merged = defaults.insert "GREETING" (.text "hello") := by
    have hkey : normalKey "Greeting" = "GREETING" := by decide +kernel
    rw [← hkey]
    rfl
  have hunknown : defaults.contains "GREETING" = false := by decide
  have haccepted := ofEntries_eq_ok_iff.mpr
    ((reads_defaults ⟨[], [], ∅⟩).insert_extra hunknown (.text "hello"))
  rw [← hmerged] at haccepted
  obtain ⟨hvalue, -, -, hextra⟩ := merged_by_precedence hgreeting "GREETING"
  refine ⟨hcrossed, ?_, ?_, ?_, _, haccepted, ?_⟩
  · exact (merged_by_precedence hcrossed "TICK_RATE").1.trans rfl
  · exact (merged_by_precedence hcrossed "GREETING").1.trans rfl
  · exact (merged_by_precedence hcrossed "ECHO_INPUT").1.trans rfl
  · exact (hextra _ _ haccepted).trans (hvalue.trans rfl)

end DevConsole.Settings
