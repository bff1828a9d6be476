import DevConsole.Dictionary
import DevConsole.Failure
import DevConsole.Text.Pieces

/-!
# Files and paths

The files that a program can see, its current directory and its environment variables.  A path
given by a user may start with `~` and hold variables; both are replaced once.  Paths are resolved
by their text alone: there are no links.
-/

namespace DevConsole

/-- What stands under a path. -/
inductive FileNode where
  | file (bytes : List UInt8)
  | directory

/-- A directory tree by absolute paths, given as lists of names, the current directory, and the
environment variables. A path above a known one is a directory. -/
structure Files where
  nodes : List (List String × FileNode)
  current : List String
  environment : Dictionary String

namespace Files

/-- The value of an environment variable. -/
def value? (files : Files) (name : String) : Option String :=
  files.environment.get? name

/-- What stands under an absolute path. -/
def node? (files : Files) (path : List String) : Option FileNode :=
  match files.nodes.lookup path with
  | some node => some node
  | none =>
    if path.isPrefixOf files.current || files.nodes.any (fun entry => path.isPrefixOf entry.1)
    then some .directory
    else none

/-- The names in the text of a path, without empty ones and single dots. -/
def names (path : String) : List String :=
  (Text.fields '/' path).filter fun name => name != "" && name != "."

/-- Whether a path starts at the root. -/
def isAbsolute (path : String) : Bool :=
  Text.startsWith path "/"

/-- The text of an absolute path. -/
def absolute (path : List String) : String :=
  "/" ++ "/".intercalate path

/-- The text of a path in normal form: single slashes, no single dots, no slash at the end. -/
def normalText (path : String) : String :=
  let body := "/".intercalate (names path)
  if isAbsolute path then
    (if Text.startsWith path "//" && !Text.startsWith path "///" then "//" else "/") ++ body
  else if body = "" then "." else body

/-- A path followed from `here` by its names, where two dots lead to the parent. -/
def follow (here : List String) (path : List String) : List String :=
  path.foldl (fun reached name => if name = ".." then reached.dropLast else reached ++ [name]) here

/-- The absolute form of a path, seen from the current directory. -/
def resolve (files : Files) (path : String) : List String :=
  follow (if isAbsolute path then [] else files.current) (names path)

/-- A name in a directory with what follows it: `~` stands for the home directory at the start of a
path. -/
def expandHome (files : Files) (path : String) : String :=
  match path.toList with
  | '~' :: rest =>
    if rest.isEmpty || rest.head? == some '/' then
      match files.value? "HOME" with
      | none => path
      | some home =>
        let expanded := Text.Chars.trimEnd (· == '/') home.toList ++ rest
        if expanded.isEmpty then "/" else String.ofList expanded
    else path
  | _ => path

/-- Whether `c` may be in the name of a variable that stands without braces. -/
def isNameChar (c : Char) : Bool :=
  c.isAlphanum || c == '_'

/-- The name of the variable that follows a dollar sign, and the rest. -/
def variableName? : List Char → Option (List Char × List Char)
  | '\x7b' :: cs =>
    match cs.dropWhile (· != '\x7d') with
    | _ :: rest => some (cs.takeWhile (· != '\x7d'), rest)
    | [] => none
  | cs =>
    let name := cs.takeWhile isNameChar
    if name.isEmpty then none else some (name, cs.dropWhile isNameChar)

theorem length_dropWhile_le {α : Type} (p : α → Bool) (xs : List α) :
    (xs.dropWhile p).length ≤ xs.length :=
  (List.dropWhile_sublist p).length_le

theorem length_of_variableName? {cs name rest : List Char}
    (h : variableName? cs = some (name, rest)) : rest.length ≤ cs.length := by
  unfold variableName? at h
  split at h
  · rename_i cs
    have hle := length_dropWhile_le (· != '\x7d') cs
    split at h
    · rename_i hdrop
      simp only [Option.some.injEq, Prod.mk.injEq] at h
      rw [hdrop] at hle
      simp only [List.length_cons] at hle ⊢
      rw [← h.2]
      omega
    · simp at h
  · simp only [Option.ite_none_left_eq_some, Option.some.injEq, Prod.mk.injEq] at h
    rw [← h.2.2]
    exact length_dropWhile_le isNameChar _

/-- The text with each `$name` or `${name}` whose variable is set replaced by its value. -/
def expandChars (value? : String → Option String) : List Char → List Char
  | [] => []
  | '$' :: cs =>
    match _hname : variableName? cs with
    | none => '$' :: expandChars value? cs
    | some (name, rest) =>
      match value? (String.ofList name) with
      | some value => value.toList ++ expandChars value? rest
      | none => '$' :: cs.take (cs.length - rest.length) ++ expandChars value? rest
  | c :: cs => c :: expandChars value? cs
termination_by cs => cs.length
decreasing_by
  all_goals simp only [List.length_cons]
  all_goals try have := length_of_variableName? _hname
  all_goals omega

/-- The path with its variables and then its home directory replaced. -/
def expand (files : Files) (path : String) : String :=
  String.ofList (expandChars files.value? (files.expandHome path).toList)

/-- A failure of the system about a file. -/
def failure (number : Int) (reason path : String) : Failure :=
  .ofSystem [.int number, .text reason, .text path]

/-- What a path leads to, name by name from the directory `here`; `shown` is the path in
failures. -/
def walk (files : Files) (shown : String) : List String → List String → Except Failure FileNode
  | here, [] =>
    match files.node? here with
    | some node => .ok node
    | none => .error (failure 2 "No such file or directory" shown)
  | here, name :: rest =>
    match files.node? here with
    | none => .error (failure 2 "No such file or directory" shown)
    | some (.file _) => .error (failure 20 "Not a directory" shown)
    | some .directory =>
      if 255 < name.utf8ByteSize then .error (failure 36 "File name too long" shown)
      else files.walk shown (if name = ".." then here.dropLast else here ++ [name]) rest

/-- What an open of a path finds, or why it fails. -/
def open? (files : Files) (path : String) : Except Failure FileNode :=
  if path.toList.contains '\x00' then
    .error (.raised "ValueError" [.text "embedded null byte"])
  else if 4096 ≤ path.utf8ByteSize then .error (failure 36 "File name too long" path)
  else files.walk path (if isAbsolute path then [] else files.current) (names path)

/-- The bytes of the file under a path in normal form. -/
def read (files : Files) (path : String) : Except Failure (List UInt8) :=
  match files.open? path with
  | .ok (.file bytes) => .ok bytes
  | .ok .directory => .error (failure 21 "Is a directory" path)
  | .error fault => .error fault

/-- The text of the file under a path, with line feeds for line ends. -/
def readText (files : Files) (path : String) : Except Failure String := do
  match Text.Utf8.decode (← files.read path) with
  | .ok s => .ok (String.ofList (Text.Chars.universalNewlines s.toList))
  | .error fault => .error (.undecodable fault)

/-- The tree with bytes added at the end of the file under a path. The file need not exist, but its
directory must. -/
def append (files : Files) (path : String) (bytes : List UInt8) : Except Failure Files :=
  let located := files.resolve path
  let put (content : List UInt8) : Files :=
    { files with
      nodes := (located, .file content) :: files.nodes.filter (fun entry => entry.1 != located) }
  match files.read path with
  | .ok content => .ok (put (content ++ bytes))
  | .error fault =>
    match fault.kind, files.node? located.dropLast with
    | "FileNotFoundError", some .directory => .ok (put bytes)
    | _, _ => .error fault

end Files

end DevConsole
