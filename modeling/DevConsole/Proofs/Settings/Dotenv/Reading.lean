import DevConsole.Proofs.Settings.Precedence
import DevConsole.Proofs.Text.Lines

/-!
# From the `.env` file to the settings

A `.env` file is read line by line, and its entries come from the lines that assign something
(`Dotenv.assigned`).  It is the lowest of the sources: a key that no source above it defines
has the value that the file gives it (`merged_of_dotenv`).
-/

namespace DevConsole

/-- Under a path there is a file with the given text. -/
def Files.Holds (files : Files) (path text : String) : Prop :=
  ∃ bytes, files.read path = .ok bytes ∧ Text.Utf8.decode bytes = .ok text

namespace Settings

/-! ## Entries of a `.env` file -/

namespace Dotenv

/-- What a line assigns, if it is an assignment. -/
def lineAssignment? (line : String) : Option (String × String) :=
  (assignment? (Text.trim line).toList).map fun (name, value) =>
    (String.ofList name, String.ofList value)

/-- What the lines of a text assign, in order. -/
def assigned (text : String) : List (String × String) :=
  (Text.lines text).filterMap lineAssignment?

theorem parse_eq (text : String) : parse text = .ofList (assigned text) := rfl

/-- Line breaks of any form end lines. -/
theorem assigned_universalNewlines (text : String) :
    assigned (String.ofList (Text.Chars.universalNewlines text.toList)) = assigned text := by
  unfold assigned Text.lines
  rw [String.toList_ofList, Text.Chars.lines_universalNewlines]

end Dotenv

theorem readDotenv_of_holds {files : Files} {path text : String} (hfile : files.Holds path text) :
    readDotenv files path = .ok (.ofList (Dotenv.assigned text)) := by
  obtain ⟨bytes, hread, hdecode⟩ := hfile
  have htext : files.readText path =
      .ok (String.ofList (Text.Chars.universalNewlines text.toList)) := by
    rw [Files.readText, hread]
    simp only [bind, Except.bind, hdecode]
  rw [readDotenv, htext]
  change Except.ok (Dotenv.parse _) = _
  rw [Dotenv.parse_eq, Dotenv.assigned_universalNewlines]

/-! ## The lowest source -/

/-- The path of a file in a directory. -/
def pathIn (directory name : String) : String :=
  if directory.endsWith "/" then directory ++ name else s!"{directory}/{name}"

/-- An entry of a layer has a name that stands for the key. -/
def Layer.Defines (layer : Layer) (key : String) : Prop :=
  ∃ entry ∈ layer.entries, Names entry.1 key

namespace Dotenv

/-- What the lines of a text assign to names that stand for a key, in order. -/
def assignedTo (key text : String) : List (String × String) :=
  (assigned text).filter fun entry => Names entry.1 key

/-- The value that a text gives a key: that of the entry that comes last in the dictionary of
what is assigned to its names. -/
def value? (key text : String) : Option String :=
  (Dictionary.ofList (assignedTo key text)).entries.getLast?.map (·.2)

/-- Where one name only stands for the key, the value assigned last counts. -/
theorem value?_of_one_name {key name text : String} (hname : Names name key)
    (honly : ∀ entry ∈ assigned text, Names entry.1 key → entry.1 = name) :
    value? key text = Dictionary.lastValue? (assigned text) name := by
  have hsame : ∀ entry ∈ assignedTo key text, entry.1 = name := by
    intro entry hentry
    obtain ⟨hmember, hkey⟩ := List.mem_filter.mp hentry
    exact honly entry hmember (of_decide_eq_true hkey)
  have hkept : assignedTo key text = (assigned text).filter fun entry => entry.1 == name := by
    refine List.filter_congr ?_
    intro entry hentry
    rw [Bool.eq_iff_iff, decide_eq_true_iff, beq_iff_eq]
    refine ⟨honly entry hentry, ?_⟩
    rintro rfl
    exact hname
  rw [value?, Dictionary.entries_ofList_of_same hsame, Dictionary.lastValue?, ← hkept]
  cases (assignedTo key text).getLast? <;> rfl

end Dotenv

theorem lastValue?_of_not_defines {layer : Layer} {key : String} (hnone : ¬ layer.Defines key) :
    Dictionary.lastValue? (normalize layer.entries).entries key = none := by
  unfold normalize
  rw [Dictionary.lastValue?_ofList, Dictionary.lastValue?, List.filter_map]
  have hnothing : layer.entries.filter ((fun entry : String × Value => entry.1 == key) ∘
      fun entry => (normalKey entry.1, entry.2)) = [] := by
    rw [List.filter_eq_nil_iff]
    intro entry hentry hkey
    exact hnone ⟨entry, hentry, normalKey_eq_iff.mp (eq_of_beq hkey)⟩
  rw [hnothing]
  rfl

/-- Layers that do not define a key leave it as it is. -/
theorem get?_merge_of_not_defines {key : String} {layers : List Layer}
    (hnone : ∀ layer ∈ layers, ¬ layer.Defines key) (base : Dictionary Value) :
    (merge base (layers.map Layer.entries)).get? key = base.get? key := by
  induction layers generalizing base with
  | nil => rfl
  | cons layer rest ih =>
      obtain ⟨hlayer, hrest⟩ := List.forall_mem_cons.mp hnone
      have hstep : merge base ((layer :: rest).map Layer.entries) =
          merge (base.insertMany (normalize layer.entries).entries)
            (rest.map Layer.entries) := rfl
      rw [hstep, ih hrest, Dictionary.get?_insertMany, lastValue?_of_not_defines hlayer]
      rfl

/-- What a load reads, and that it goes on with the merged entries. -/
theorem Sources.of_read {files : Files} {directory : String} {environment : Dictionary String}
    {sources : Sources} (hread : Sources.read files directory environment = .ok sources) :
    readDotenv files (pathIn directory ".env") = .ok sources.dotenv ∧
      load files directory environment = ofEntries files sources.merged := by
  constructor
  · unfold Sources.read at hread
    obtain ⟨dotenv, hdotenv, hrest⟩ := bind_eq_ok_iff.mp hread
    simp only [bind_eq_ok_iff] at hrest
    obtain ⟨_, _, _, _, _, _, hsources⟩ := hrest
    cases hsources
    exact hdotenv
  · rw [load, hread]
    rfl

/-- If none of the other files is there, the `.env` file and the environment are all there is. -/
theorem Sources.read_of_missing {files : Files} {directory : String} {entries : Dictionary String}
    (hdotenv : readDotenv files (pathIn directory ".env") = .ok entries)
    (hmissing : ∀ name ∈ ["console.ini", "console.json", "console.toml"], ∃ failure,
      files.read (pathIn directory name) = .error failure ∧ failure.kind = "FileNotFoundError")
    (environment : Dictionary String) :
    Sources.read files directory environment = .ok {
      dotenv := entries, ini := ∅, json := [], toml := [], environment := environment } := by
  simp only [List.forall_mem_cons] at hmissing
  obtain ⟨⟨ini, hini, hiniKind⟩, ⟨json, hjson, hjsonKind⟩, ⟨toml, htoml, htomlKind⟩, -⟩ := hmissing
  have hreadIni : readIni files (pathIn directory "console.ini") = .ok ∅ := by
    rw [readIni, hini, ifPresent, if_pos hiniKind]
    rfl
  have hreadJson : readJson files (pathIn directory "console.json") = .ok [] := by
    have htext : files.readText (pathIn directory "console.json") = .error json := by
      rw [Files.readText, hjson]
      rfl
    rw [readJson, htext, ifPresent, if_pos hjsonKind]
    rfl
  have hreadToml : readToml files (pathIn directory "console.toml") = .ok [] := by
    rw [readToml, htoml, ifPresent, if_pos htomlKind]
    rfl
  unfold Sources.read
  change (do
    let dotenv ← readDotenv files (pathIn directory ".env")
    let ini ← readIni files (pathIn directory "console.ini")
    let json ← readJson files (pathIn directory "console.json")
    let toml ← readToml files (pathIn directory "console.toml")
    return { dotenv, ini, json, toml, environment : Sources }) = _
  rw [hdotenv, hreadIni, hreadJson, hreadToml]
  rfl

/-- A key that is defined in no layer above the `.env` file has the value that the file gives it. -/
theorem merged_of_dotenv {files : Files} {directory text key : String}
    {environment : Dictionary String} {sources : Sources}
    (hread : Sources.read files directory environment = .ok sources)
    (hfile : files.Holds (pathIn directory ".env") text)
    (hhigher : ∀ layer ∈ sources.layers.tail, ¬ layer.Defines key) :
    sources.merged.get? key = ((Dotenv.value? key text).map .text).or (defaults.get? key) := by
  have hdotenv : sources.dotenv = .ofList (Dotenv.assigned text) :=
    Except.ok.inj ((Sources.of_read hread).1.symm.trans (readDotenv_of_holds hfile))
  have hlowest : sources.merged =
      merge (merge defaults [(Layer.texts sources.dotenv.entries).entries])
        (sources.layers.tail.map Layer.entries) := by
    rw [sources.merged_eq]
    rfl
  have hvalue : Dictionary.lastValue?
      (normalize (Layer.texts sources.dotenv.entries).entries).entries key =
      (Dotenv.value? key text).map .text := by
    have hnamed : (Layer.texts sources.dotenv.entries).NamesNonempty := trivial
    rw [Layer.lastValue?_normalize hnamed, hdotenv]
    unfold Layer.value? Layer.naming Layer.named textEntries Dotenv.value? Dotenv.assignedTo
    dsimp only
    rw [List.filter_map, List.getLast?_map, Option.map_map, Option.map_map,
      ← Dictionary.filter_ofList fun name => decide (Names name key)]
    rfl
  rw [hlowest, get?_merge_of_not_defines hhigher, ← hvalue]
  exact Dictionary.get?_insertMany defaults _ key

theorem textOrEmpty_text (s : String) : textOrEmpty (.text s) = .ok s := by
  unfold textOrEmpty
  by_cases hempty : s = ""
  · subst hempty
    rfl
  · have htrue : (Value.text s).isTrue = true := by simpa [Value.isTrue] using hempty
    rw [if_pos htrue]
    rfl

/-! ## A directory with nothing but a `.env` file -/

/-- Whether all characters of a text are in ASCII. -/
def isAscii (text : String) : Bool :=
  text.toList.all fun c => c.toNat < 128

/-- The bytes of a text of ASCII characters. -/
def asciiBytes (text : String) : List UInt8 :=
  text.toList.map fun c => c.toNat.toUInt8

theorem first_ascii {c : Char} (hascii : c.toNat < 128) (rest : List UInt8) :
    Text.Utf8.first c.toNat.toUInt8 rest = (.ok c, 1) := by
  have hbyte : c.toNat.toUInt8.toNat = c.toNat := by
    rw [Nat.toUInt8, UInt8.toNat_ofNat']
    omega
  have hsmall : c.toNat.toUInt8 < 0x80 := by
    rw [UInt8.lt_iff_toNat_lt, hbyte]
    exact hascii
  rw [Text.Utf8.first, if_pos hsmall, hbyte, Char.ofNat_toNat]

theorem scan_ascii {cs : List Char} (hascii : ∀ c ∈ cs, c.toNat < 128) (position : Nat) :
    Text.Utf8.scan position 0 (cs.map fun c => c.toNat.toUInt8) = cs.map .ok := by
  induction cs generalizing position with
  | nil => rfl
  | cons c cs ih =>
      obtain ⟨hc, hrest⟩ := List.forall_mem_cons.mp hascii
      rw [List.map_cons, Text.Utf8.scan, first_ascii hc]
      exact congrArg _ (ih hrest (position + 1))

theorem decode_asciiBytes {text : String} (hascii : isAscii text = true) :
    Text.Utf8.decode (asciiBytes text) = .ok text := by
  have hsmall : ∀ c ∈ text.toList, c.toNat < 128 := by simpa [isAscii] using hascii
  have hall : ∀ cs : List Char,
      (cs.map Except.ok).mapM id = (.ok cs : Except Text.Utf8.Fault (List Char)) := by
    intro cs
    induction cs with
    | nil => rfl
    | cons c cs ih =>
        rw [List.map_cons, List.mapM_cons, ih]
        rfl
  rw [Text.Utf8.decode, asciiBytes, scan_ascii hsmall, hall]
  exact congrArg Except.ok (String.ofList_toList)

/-- The directory `/base` with a `.env` file of ASCII characters. -/
def onlyDotenv (text : String) : Files where
  nodes := [(["base", ".env"], .file (asciiBytes text))]
  current := ["base"]
  environment := ∅

theorem holds_onlyDotenv {text : String} (hascii : isAscii text = true) :
    (onlyDotenv text).Holds (pathIn "/base" ".env") text := by
  have hpath : pathIn "/base" ".env" = "/base/.env" := by decide +kernel
  exact ⟨asciiBytes text, hpath ▸ rfl, decode_asciiBytes hascii⟩

/-- Sources of which only the `.env` file has entries. -/
def Sources.ofDotenv (entries : Dictionary String) : Sources where
  dotenv := entries
  ini := ∅
  json := []
  toml := []
  environment := ∅

theorem Sources.not_defines_ofDotenv (entries : Dictionary String) (key : String) :
    ∀ layer ∈ (ofDotenv entries).layers.tail, ¬ layer.Defines key := by
  have hempty : ∀ layer ∈ (ofDotenv entries).layers.tail, layer.entries = [] := by
    simp only [layers, List.tail_cons, List.forall_mem_cons]
    exact ⟨rfl, rfl, rfl, rfl, fun _ hnone => absurd hnone List.not_mem_nil⟩
  rintro layer hlayer ⟨entry, hentry, -⟩
  rw [hempty layer hlayer] at hentry
  exact List.not_mem_nil hentry

theorem read_onlyDotenv {text : String} (hascii : isAscii text = true) :
    Sources.read (onlyDotenv text) "/base" ∅ =
      .ok (.ofDotenv (.ofList (Dotenv.assigned text))) := by
  refine Sources.read_of_missing (readDotenv_of_holds (holds_onlyDotenv hascii)) ?_ ∅
  have hpaths : pathIn "/base" "console.ini" = "/base/console.ini" ∧
      pathIn "/base" "console.json" = "/base/console.json" ∧
      pathIn "/base" "console.toml" = "/base/console.toml" := by decide +kernel
  simp only [List.forall_mem_cons, hpaths]
  exact ⟨⟨_, rfl, rfl⟩, ⟨_, rfl, rfl⟩, ⟨_, rfl, rfl⟩, fun _ hnone => absurd hnone List.not_mem_nil⟩

end Settings
end DevConsole
