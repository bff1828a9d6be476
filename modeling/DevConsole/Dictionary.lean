/-!
# Dictionaries in order of insertion

A dictionary from texts to values that keeps its entries in the order in which their keys first
came.  A key that comes again keeps its place and takes the new value.
-/

namespace DevConsole

/-- Entries in order of insertion. -/
structure Dictionary (α : Type) where
  entries : List (String × α)

namespace Dictionary

variable {α β : Type}

instance : EmptyCollection (Dictionary α) := ⟨⟨[]⟩⟩

instance : Inhabited (Dictionary α) := ⟨∅⟩

/-- The keys, in order. -/
def keys (d : Dictionary α) : List String :=
  d.entries.map (·.1)

/-- The values, in the order of their keys. -/
def values (d : Dictionary α) : List α :=
  d.entries.map (·.2)

/-- The value of `key`. -/
def get? (d : Dictionary α) (key : String) : Option α :=
  d.entries.lookup key

/-- Whether `key` has a value. -/
def contains (d : Dictionary α) (key : String) : Bool :=
  (d.get? key).isSome

/-- How many entries there are. -/
def size (d : Dictionary α) : Nat :=
  d.entries.length

/-- The entries with `key` bound to `value`. -/
def insertEntry (key : String) (value : α) : List (String × α) → List (String × α)
  | [] => [(key, value)]
  | entry :: rest =>
    if key == entry.1 then (key, value) :: rest else entry :: insertEntry key value rest

/-- Binds `key` to `value`, in its old place if it has one and at the end otherwise. -/
def insert (d : Dictionary α) (key : String) (value : α) : Dictionary α :=
  ⟨insertEntry key value d.entries⟩

/-- Binds all the given entries, one after the other. -/
def insertMany (d : Dictionary α) (entries : List (String × α)) : Dictionary α :=
  entries.foldl (fun d entry => d.insert entry.1 entry.2) d

/-- The dictionary of a list of entries. -/
def ofList (entries : List (String × α)) : Dictionary α :=
  (∅ : Dictionary α).insertMany entries

/-- The entries in the order of their keys. -/
def sort (d : Dictionary α) : Dictionary α :=
  ⟨d.entries.mergeSort fun a b => decide (a.1 ≤ b.1)⟩

theorem lookup_insertEntry (key other : String) (value : α) (entries : List (String × α)) :
    (insertEntry key value entries).lookup other =
      if other == key then some value else entries.lookup other := by
  induction entries with
  | nil => simp [insertEntry, List.lookup_cons]; split <;> simp_all
  | cons entry rest ih => grind [insertEntry]

theorem get?_insert (d : Dictionary α) (key other : String) (value : α) :
    (d.insert key value).get? other = if other == key then some value else d.get? other :=
  lookup_insertEntry key other value d.entries

end Dictionary

end DevConsole
