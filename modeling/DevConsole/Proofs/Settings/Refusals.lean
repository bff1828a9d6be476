import DevConsole.Proofs.Told
import DevConsole.Settings.Sources

/-!
# Refusals of settings say why

Settings are refused by the first part of their sources that is refused.  What is refused for a
value that cannot be written is refused in words that do not show it, and what fails about a file
fails with words for the file and the reason.  So every refusal has a text (`explained_load`): each
reader explains what it refuses (`Explained`), and so do readers one after the other.
-/

namespace DevConsole

/-! ## Failures about files -/

namespace Files

variable {files : Files} {shown path : String} {failure : Failure}

/-- The numbers of failures about files have few digits. -/
theorem told_failure {number : Int} (hwritable : (Value.int number).isWritable = true)
    (reason path : String) : (Files.failure number reason path).Told := by
  have hwords : ∀ words, (Value.text words).isWritable = true := fun _ => rfl
  have hshown : Value.areWritable [.int number, .text reason, .text path] = true := by
    simp only [Value.areWritable, hwritable, hwords, Bool.and_self]
  have htext : (Files.failure number reason path).text =
      Failure.systemText [.int number, .text reason, .text path] := by
    simp only [Files.failure, Failure.ofSystem]
    rfl
  unfold Failure.Told
  rw [htext, Failure.systemText]
  exact Value.exists_showing_iff.mpr hshown

theorem told_of_walk {rest : List String} : ∀ {here : List String},
    files.walk shown here rest = .error failure → failure.Told := by
  induction rest with
  | nil =>
      intro here herror
      unfold walk at herror
      split at herror <;> cases herror
      exact told_failure (by decide +kernel) _ _
  | cons name rest ih =>
      intro here herror
      unfold walk at herror
      split at herror
      · cases herror
        exact told_failure (by decide +kernel) _ _
      · cases herror
        exact told_failure (by decide +kernel) _ _
      · split at herror
        · cases herror
          exact told_failure (by decide +kernel) _ _
        · exact ih herror

theorem told_of_open? (herror : files.open? path = .error failure) : failure.Told := by
  unfold open? at herror
  split at herror
  · cases herror
    exact ⟨_, rfl⟩
  · split at herror
    · cases herror
      exact told_failure (by decide +kernel) _ _
    · exact told_of_walk herror

theorem told_of_read (herror : files.read path = .error failure) : failure.Told := by
  unfold read at herror
  split at herror
  · cases herror
  · cases herror
    exact told_failure (by decide +kernel) _ _
  · next fault hopened =>
      cases herror
      exact told_of_open? hopened

theorem told_of_readText (herror : files.readText path = .error failure) : failure.Told := by
  unfold readText at herror
  cases hread : files.read path with
  | error fault =>
      rw [hread] at herror
      cases herror
      exact told_of_read hread
  | ok bytes =>
      simp only [hread, bind, Except.bind] at herror
      split at herror <;> cases herror
      exact ⟨_, rfl⟩

theorem told_of_append {bytes : List UInt8} (herror : files.append path bytes = .error failure) :
    failure.Told := by
  unfold append at herror
  dsimp only at herror
  split at herror
  · cases herror
  · next fault hread =>
      split at herror <;> cases herror
      exact told_of_read hread

end Files

namespace Settings

/-! ## Readers -/

/-- The refusal has a text. -/
def Fault.Told (fault : Fault) : Prop :=
  ∃ text, fault.message = .ok text

/-- A reader accepts, or refuses with what has a text. -/
inductive Explained {α : Type} : Except Fault α → Prop where
  | accepted (a : α) : Explained (.ok a)
  | refused {fault : Fault} (told : fault.Told) : Explained (.error fault)

theorem Explained.bind {α β : Type} {x : Except Fault α} (hx : Explained x)
    {f : α → Except Fault β} (hf : ∀ a, Explained (f a)) : Explained (x >>= f) := by
  cases hx with
  | accepted a => exact hf a
  | refused told => exact .refused told

theorem Explained.map {α β : Type} {x : Except Fault α} (hx : Explained x) (f : α → β) :
    Explained (x.map f) := by
  cases hx with
  | accepted a => exact .accepted (f a)
  | refused told => exact .refused told

theorem Explained.mapM {α β : Type} {f : α → Except Fault β} (hf : ∀ a, Explained (f a))
    (items : List α) : Explained (items.mapM f) := by
  induction items with
  | nil => exact .accepted []
  | cons item rest ih =>
      rw [List.mapM_cons]
      exact (hf item).bind fun first => ih.bind fun others => .accepted (first :: others)

/-! ## Single settings -/

theorem explained_textOf (v : Value) : Explained (textOf v) := by
  unfold textOf
  split
  · exact .accepted _
  · exact .refused ⟨_, rfl⟩

theorem explained_integer (v : Value) : Explained (integer v) := by
  unfold integer
  split
  · exact .accepted _
  · refine (explained_textOf v).bind fun text => ?_
    split
    · exact .accepted _
    · exact .refused ⟨_, rfl⟩

theorem explained_positive (key : String) (v : Value) : Explained (positive key v) := by
  refine (explained_integer v).bind fun n => ?_
  by_cases hsmall : n < 1
  · rw [if_pos hsmall]
    by_cases hwritable : (Value.int n).isWritable = true
    · rw [if_pos hwritable]
      exact .refused ⟨_, rfl⟩
    · rw [if_neg hwritable]
      exact .refused ⟨_, rfl⟩
  · rw [if_neg hsmall]
    exact .accepted _

theorem explained_boolean (v : Value) : Explained (boolean v) := by
  unfold boolean
  split
  · exact .accepted _
  · refine (explained_textOf v).bind fun text => ?_
    dsimp only
    split
    · exact .accepted true
    · split
      · exact .accepted false
      · exact .refused ⟨_, rfl⟩

theorem explained_optionalText (v : Value) : Explained (optionalText v) := by
  unfold optionalText
  split
  · exact .accepted _
  · exact (explained_textOf v).bind fun text => .accepted _

theorem explained_level (v : Value) : Explained (level v) := by
  refine (explained_optionalText v).bind fun text => ?_
  cases text with
  | none => exact .accepted none
  | some text =>
      dsimp only
      split
      · exact .accepted _
      · exact .refused ⟨_, rfl⟩

theorem explained_path (files : Files) (text : String) : Explained (path files text) := by
  unfold path
  dsimp only
  split
  · exact .refused ⟨_, rfl⟩
  · exact .accepted _

theorem explained_optionalPath (files : Files) (v : Value) : Explained (optionalPath files v) := by
  refine (explained_optionalText v).bind fun text => ?_
  cases text with
  | none => exact .accepted none
  | some text => exact (explained_path files text).bind fun located => .accepted (some located)

theorem explained_commentMarks (v : Value) : Explained (commentMarks v) := by
  have hitems (items : List Value) : Explained (items.mapM textOf) := .mapM explained_textOf items
  unfold commentMarks
  dsimp only
  split
  · exact (hitems _).bind fun items => .accepted _
  · exact (hitems _).bind fun items => .accepted _
  · exact ((explained_textOf v).map (Text.fields ',')).bind fun items => .accepted _

theorem explained_textOrEmpty (v : Value) : Explained (textOrEmpty v) := by
  unfold textOrEmpty
  split
  · exact explained_textOf v
  · exact .accepted ""

theorem explained_ofEntries (files : Files) (entries : Dictionary Value) :
    Explained (ofEntries files entries) := by
  unfold ofEntries
  -- One step for each reading, in the order of `ofEntries`.
  refine (explained_commentMarks _).bind fun starts => ?_
  refine (explained_optionalText _).bind fun package => ?_
  cases package with
  | none => exact .refused ⟨_, rfl⟩
  | some package =>
      refine (explained_positive _ _).bind fun input => ?_
      refine (explained_positive _ _).bind fun history => ?_
      refine (explained_positive _ _).bind fun output => ?_
      refine (explained_textOrEmpty _).bind fun prompt => ?_
      refine (explained_textOf _).bind fun scriptText => ?_
      refine (explained_path files scriptText).bind fun script => ?_
      refine (explained_level _).bind fun level => ?_
      refine (explained_optionalPath files _).bind fun logFile => ?_
      refine (explained_boolean _).bind fun echo => ?_
      refine (explained_boolean _).bind fun suggest => ?_
      refine (explained_positive _ _).bind fun rate => ?_
      exact (explained_optionalText _).bind fun autoexec => .accepted _

/-! ## Sources -/

theorem explained_ifPresent {α : Type} {found : Except Failure α}
    (htold : ∀ failure, found = .error failure → failure.Told) : Explained (ifPresent found) := by
  unfold ifPresent
  split
  · exact .accepted _
  · next failure =>
      split
      · exact .accepted none
      · exact .refused (htold failure rfl)

theorem explained_unlessMalformed {α : Type} (found : Except Lexical.Fault α) :
    Explained (unlessMalformed found) := by
  unfold unlessMalformed
  split
  · exact .accepted _
  · exact .accepted none
  · exact .refused ⟨_, rfl⟩

theorem explained_readDotenv (files : Files) (path : String) :
    Explained (readDotenv files path) := by
  refine (explained_ifPresent fun _ => Files.told_of_readText).bind fun text => ?_
  cases text <;> exact .accepted _

theorem explained_readIni (files : Files) (path : String) : Explained (readIni files path) := by
  refine (explained_ifPresent fun _ => Files.told_of_read).bind fun bytes => ?_
  cases bytes with
  | none => exact .accepted _
  | some bytes =>
      dsimp only
      cases Text.Utf8.decode bytes with
      | ok text =>
          dsimp only
          split
          · exact .accepted _
          · exact .refused ⟨_, rfl⟩
      | error fault =>
          by_cases hbroken : fault.reason ≠ .truncated
          · simp only [if_pos hbroken]
            exact .refused ⟨_, rfl⟩
          · simp only [if_neg hbroken]
            split
            · exact .refused ⟨_, rfl⟩
            · exact .refused ⟨_, rfl⟩

theorem explained_readJson (files : Files) (path : String) : Explained (readJson files path) := by
  refine (explained_ifPresent fun _ => Files.told_of_readText).bind fun text => ?_
  cases text with
  | none => exact .accepted []
  | some text =>
      refine (explained_unlessMalformed _).bind fun found => ?_
      split <;> exact .accepted _

theorem explained_readToml (files : Files) (path : String) : Explained (readToml files path) := by
  refine (explained_ifPresent fun _ => Files.told_of_read).bind fun bytes => ?_
  cases bytes with
  | none => exact .accepted []
  | some bytes =>
      dsimp only
      split
      · exact .refused ⟨_, rfl⟩
      · exact (explained_unlessMalformed _).bind fun found => .accepted _

/-- **Refused settings say why**, whatever is in the files that they come from. -/
theorem explained_load (files : Files) (directory : String) (environment : Dictionary String) :
    Explained (load files directory environment) := by
  have hsources : Explained (Sources.read files directory environment) := by
    unfold Sources.read
    refine (explained_readDotenv files _).bind fun dotenv => ?_
    refine (explained_readIni files _).bind fun ini => ?_
    refine (explained_readJson files _).bind fun json => ?_
    exact (explained_readToml files _).bind fun toml => .accepted _
  exact hsources.bind fun sources => explained_ofEntries files sources.merged

end Settings
end DevConsole
