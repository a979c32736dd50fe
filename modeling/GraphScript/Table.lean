/-!
# Insertion-ordered tables

A table maps names to values and remembers the order in which the names were first inserted.
Inserting under a name that is already there replaces the value and keeps the place.

Names are often written without their namespace.  `Table.resolve?` finds the key that such a name
stands for: the name itself when it is a key, and else the first key that ends in `::` and the name.
-/

namespace GraphScript

/-- A finite map from names to values, in insertion order. -/
structure Table (α : Type) where
  /-- The entries in the order in which their names were first inserted. -/
  entries : List (String × α)

namespace Table

variable {α β : Type}

/-- The table without entries. -/
def empty : Table α := ⟨[]⟩

instance : EmptyCollection (Table α) := ⟨empty⟩

instance : Inhabited (Table α) := ⟨empty⟩

/-- The names in insertion order. -/
def keys (table : Table α) : List String := table.entries.map Prod.fst

/-- The values in insertion order. -/
def values (table : Table α) : List α := table.entries.map Prod.snd

def get? (table : Table α) (name : String) : Option α := table.entries.lookup name

def contains (table : Table α) (name : String) : Bool :=
  table.entries.any fun entry => entry.1 == name

/-- Replaces the value of a name where it stands, or appends a new entry. -/
def insertEntry (name : String) (value : α) : List (String × α) → List (String × α)
  | [] => [(name, value)]
  | entry :: rest =>
    if entry.1 = name then (name, value) :: rest else entry :: insertEntry name value rest

def insert (table : Table α) (name : String) (value : α) : Table α :=
  ⟨insertEntry name value table.entries⟩

def erase (table : Table α) (name : String) : Table α :=
  ⟨table.entries.filter fun entry => entry.1 != name⟩

/-- Inserts entries one after the other. -/
def insertAll (table : Table α) (entries : List (String × α)) : Table α :=
  entries.foldl (fun grown entry => grown.insert entry.1 entry.2) table

/-- The table that holds the given entries; of two entries with one name the later value counts. -/
def ofList (entries : List (String × α)) : Table α := empty.insertAll entries

def size (table : Table α) : Nat := table.entries.length

def map (f : α → β) (table : Table α) : Table β :=
  ⟨table.entries.map fun entry => (entry.1, f entry.2)⟩

/-- Whether a key names an entry inside some namespace by its last part. -/
def endsInName (name key : String) : Bool := (':' :: ':' :: name.toList).isSuffixOf key.toList

def resolve? (table : Table α) (name : String) : Option String :=
  if table.contains name then some name
  else table.keys.find? (endsInName name)

/-- The value under the name, or else under the first key that ends in `::` and the name. -/
def lookup? (table : Table α) (name : String) : Option α :=
  if table.contains name then table.get? name
  else (table.keys.find? (endsInName name)).bind table.get?

@[simp] theorem entries_empty : (empty : Table α).entries = [] := rfl

theorem lookup_insertEntry (name other : String) (value : α) (entries : List (String × α)) :
    (insertEntry name value entries).lookup other =
      if other = name then some value else entries.lookup other := by
  induction entries with
  | nil =>
    by_cases h : other = name
    · simp [insertEntry, h]
    · simp [insertEntry, List.lookup_cons, h, beq_eq_false_iff_ne.mpr h]
  | cons entry rest ih =>
    obtain ⟨key, found⟩ := entry
    by_cases hkey : key = name
    · by_cases h : other = name
      · simp [insertEntry, hkey, h]
      · simp [insertEntry, List.lookup_cons, hkey, h, beq_eq_false_iff_ne.mpr h]
    · by_cases h : other = key
      · simp [insertEntry, hkey, h]
      · simp [insertEntry, List.lookup_cons, hkey, beq_eq_false_iff_ne.mpr h, ih]

/-- A stored value is found under its name, and every other name finds what it found before. -/
@[simp] theorem get?_insert (table : Table α) (name other : String) (value : α) :
    (table.insert name value).get? other = if other = name then some value else table.get? other :=
  lookup_insertEntry name other value table.entries

theorem lookup_filter_ne (name other : String) (entries : List (String × α)) :
    (entries.filter fun entry => entry.1 != name).lookup other =
      if other = name then none else entries.lookup other := by
  induction entries with
  | nil => simp
  | cons entry rest ih =>
    obtain ⟨key, found⟩ := entry
    by_cases hkey : key = name
    · have dropped : ((key, found).1 != name) = false := by simp [hkey]
      rw [List.filter_cons_of_neg (by simp [dropped]), ih]
      by_cases h : other = name
      · rw [if_pos h, if_pos h]
      · have different : (other == key) = false := beq_eq_false_iff_ne.mpr (hkey ▸ h)
        rw [if_neg h, if_neg h, List.lookup_cons, different]
    · rw [List.filter_cons_of_pos (by simpa using hkey), List.lookup_cons, ih, List.lookup_cons]
      by_cases h : other = name
      · have different : (other == key) = false := beq_eq_false_iff_ne.mpr fun same =>
          hkey (same ▸ h)
        simp only [different, if_pos h]
      · simp only [if_neg h]

/-- A removed name finds nothing, and every other name finds what it found before. -/
@[simp] theorem get?_erase (table : Table α) (name other : String) :
    (table.erase name).get? other = if other = name then none else table.get? other :=
  lookup_filter_ne name other table.entries

theorem mem_insertEntry {entry : String × α} {name : String} {new : α} :
    ∀ {entries : List (String × α)}, entry ∈ insertEntry name new entries →
      entry = (name, new) ∨ entry ∈ entries
  | [], member => .inl (List.mem_singleton.mp member)
  | first :: rest, member => by
    rw [insertEntry] at member
    split at member
    · rcases List.mem_cons.mp member with same | old
      · exact .inl same
      · exact .inr (List.mem_cons_of_mem _ old)
    · rcases List.mem_cons.mp member with same | later
      · exact .inr (same ▸ List.mem_cons_self ..)
      · exact (mem_insertEntry later).imp_right (List.mem_cons_of_mem _)

theorem forall_insert {table : Table α} {name : String} {new : α} {holds : String × α → Prop}
    (old : ∀ entry ∈ table.entries, holds entry) (isNew : holds (name, new)) :
    ∀ entry ∈ (table.insert name new).entries, holds entry :=
  fun entry member => (mem_insertEntry member).elim (fun same => same ▸ isNew) (old entry)

theorem mem_of_get? {table : Table α} {name : String} {found : α}
    (same : table.get? name = some found) : (name, found) ∈ table.entries := by
  obtain ⟨front, back, split, -⟩ := List.lookup_eq_some_iff.mp same
  simp [split]

theorem isSome_get? (table : Table α) (name : String) : (table.get? name).isSome ↔
    name ∈ table.keys := by
  rw [Option.isSome_iff_ne_none, get?, Ne, List.lookup_eq_none_iff, keys, List.mem_map]
  grind

theorem contains_eq (table : Table α) (name : String) : table.contains name =
    table.keys.contains name := by
  rw [Bool.eq_iff_iff]
  simp [contains, keys]

theorem keys_insertEntry (name : String) (value : α) (entries : List (String × α)) :
    (insertEntry name value entries).map Prod.fst =
      if name ∈ entries.map Prod.fst then entries.map Prod.fst
      else entries.map Prod.fst ++ [name] := by
  induction entries with
  | nil => simp [insertEntry]
  | cons entry rest ih =>
    by_cases hkey : entry.1 = name
    · simp [insertEntry, hkey]
    · have hne : name ≠ entry.1 := fun h => hkey h.symm
      by_cases hmem : name ∈ rest.map Prod.fst
      · simp_all [insertEntry]
      · simp_all [insertEntry]

/-- Inserting keeps the order of the names and appends a new name at the end. -/
theorem keys_insert (table : Table α) (name : String) (value : α) :
    (table.insert name value).keys =
      if name ∈ table.keys then table.keys else table.keys ++ [name] :=
  keys_insertEntry name value table.entries

end Table

end GraphScript
