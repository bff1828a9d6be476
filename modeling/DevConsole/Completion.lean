import DevConsole.Registry

/-!
# Completion of command names

Names that start with what was typed, up to case, and how far they agree.  Only the first word of
a line is completed.
-/

namespace DevConsole.Completion

open Text (fold foldChar)

/-- The first of each group of words that are the same up to case; the folded words in `seen` came
before. -/
def distinct : (seen words : List String) → List String
  | _, [] => []
  | seen, word :: rest =>
    if seen.contains (fold word) then distinct seen rest
    else word :: distinct (fold word :: seen) rest

/-- The words in the order of their folded forms. -/
def sortByFold (words : List String) : List String :=
  words.mergeSort fun a b => decide (fold a ≤ fold b)

/-- The names of commands and aliases that start with `start` up to case, in the order of their
folded forms. A command comes before an alias of the same name. -/
def suggest {α : Type} (commands : CommandTable α) (aliases : AliasTable) (start : String) :
    List String :=
  let words := commands.names ++ aliases.names
  sortByFold (distinct [] (words.filter fun word => Text.startsWith (fold word) (fold start)))

/-- How many characters two words have in common at the start, up to case. -/
def agreement : List Char → List Char → Nat
  | c :: cs, d :: ds => if foldChar c = foldChar d then agreement cs ds + 1 else 0
  | _, _ => 0

/-- What all words have in common at the start up to case, as the first word spells it. -/
def commonStart : List String → String
  | [] => ""
  | first :: rest =>
    let size := rest.foldl (fun n word => min n (agreement first.toList word.toList)) first.length
    String.ofList (first.toList.take size)

/-- The candidates for the word that `line` consists of, and the line to replace it by: the
only candidate and a blank, or what the candidates have in common if that is longer than the
word. -/
def complete {α : Type} (commands : CommandTable α) (aliases : AliasTable) (line : String) :
    Option String × List String :=
  let word := Text.trimLeft line
  if word.isEmpty || Text.hasBlank word then (none, [])
  else
    match suggest commands aliases word with
    | [] => (none, [])
    | [only] => (some (only ++ " "), [only])
    | candidates =>
      let start := commonStart candidates
      (if word.length < start.length then some start else none, candidates)

end DevConsole.Completion
