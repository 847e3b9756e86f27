/-!
Maps that keep the order in which their keys were first put in.

`get?` is the view: the lemmas say what each operation does to it, and
`keys_insert` what becomes of the order. Putting in a key that is there already
changes its value and leaves it where it stands.
-/

namespace DevfilePush

/-- A map whose keys have an order of their own. -/
structure OrderedMap (κ α : Type) where
  entries : List (κ × α)
  nodup_keys : (entries.map (·.1)).Nodup
  deriving DecidableEq

namespace OrderedMap

variable {κ α : Type}

/-- The map without keys. -/
def empty : OrderedMap κ α :=
  ⟨[], .nil⟩

instance : Inhabited (OrderedMap κ α) := ⟨empty⟩

/-- The keys, in order. -/
def keys (map : OrderedMap κ α) : List κ :=
  map.entries.map (·.1)

/-- The values, in the order of their keys. -/
def values (map : OrderedMap κ α) : List α :=
  map.entries.map (·.2)

def size (map : OrderedMap κ α) : Nat :=
  map.entries.length

def isEmpty (map : OrderedMap κ α) : Bool :=
  map.entries.isEmpty

variable [DecidableEq κ]

/-- The value under `key` in a list of entries. -/
def lookup (key : κ) : List (κ × α) → Option α
  | [] => none
  | (k, value) :: rest => if k = key then some value else lookup key rest

/-- `entries` with `value` under `key`, at the end if the key is new. -/
def put (key : κ) (value : α) : List (κ × α) → List (κ × α)
  | [] => [(key, value)]
  | (k, old) :: rest => if k = key then (key, value) :: rest else (k, old) :: put key value rest

theorem lookup_put_self (key : κ) (value : α) (entries : List (κ × α)) :
    lookup key (put key value entries) = some value := by
  induction entries with
  | nil => simp [put, lookup]
  | cons entry rest ih =>
    obtain ⟨k, old⟩ := entry
    by_cases same : k = key <;> simp [put, lookup, same, ih]

theorem lookup_put_of_ne {key other : κ} (ne : other ≠ key) (value : α)
    (entries : List (κ × α)) : lookup other (put key value entries) = lookup other entries := by
  induction entries with
  | nil => simp [put, lookup, Ne.symm ne]
  | cons entry rest ih =>
    obtain ⟨k, old⟩ := entry
    by_cases same : k = key
    · subst same
      simp [put, lookup, Ne.symm ne]
    · simp [put, lookup, same, ih]

/-- A key that is new goes to the end, and one that is there stays where it stands. -/
theorem map_fst_put (key : κ) (value : α) (entries : List (κ × α)) :
    (put key value entries).map (·.1) =
      if key ∈ entries.map (·.1) then entries.map (·.1) else entries.map (·.1) ++ [key] := by
  induction entries with
  | nil => simp [put]
  | cons entry rest ih =>
    obtain ⟨k, old⟩ := entry
    by_cases same : k = key
    · simp [put, same]
    · have back : ¬ key = k := fun h => same h.symm
      simp only [put, same, if_false, List.map_cons, ih, List.mem_cons, back, false_or]
      split <;> simp

/-- Keys stay distinct when one is put in. -/
theorem nodup_put (key : κ) (value : α) {entries : List (κ × α)}
    (nodup : (entries.map (·.1)).Nodup) : ((put key value entries).map (·.1)).Nodup := by
  rw [map_fst_put]
  split
  · exact nodup
  · rename_i fresh
    exact List.nodup_append.mpr
      ⟨nodup, by simp, by intro a mem b last same; simp at last; exact fresh (last ▸ same ▸ mem)⟩

/-- The value under `key`. -/
def get? (map : OrderedMap κ α) (key : κ) : Option α :=
  lookup key map.entries

def contains (map : OrderedMap κ α) (key : κ) : Bool :=
  (map.get? key).isSome

/-- The map with `value` under `key`. -/
def insert (map : OrderedMap κ α) (key : κ) (value : α) : OrderedMap κ α :=
  ⟨put key value map.entries, nodup_put key value map.nodup_keys⟩

/-- The map with only the keys that satisfy `p`. -/
def filterKeys (p : κ → Bool) (map : OrderedMap κ α) : OrderedMap κ α :=
  ⟨map.entries.filter fun entry => p entry.1,
    List.Nodup.sublist (List.filter_sublist.map _) map.nodup_keys⟩

/-- The map without `key`; the other keys keep their order. -/
def erase (map : OrderedMap κ α) (key : κ) : OrderedMap κ α :=
  map.filterKeys fun k => !decide (k = key)

@[simp] theorem get?_empty (key : κ) : (empty : OrderedMap κ α).get? key = none := rfl

@[simp] theorem get?_insert_self (map : OrderedMap κ α) (key : κ) (value : α) :
    (map.insert key value).get? key = some value :=
  lookup_put_self key value map.entries

/-- Under any other key the value is the one that was there. -/
theorem get?_insert_of_ne (map : OrderedMap κ α) {key other : κ} (ne : other ≠ key) (value : α) :
    (map.insert key value).get? other = map.get? other :=
  lookup_put_of_ne ne value map.entries

/-- A key that is there keeps its place; only a new one makes the map longer. -/
theorem keys_insert (map : OrderedMap κ α) (key : κ) (value : α) :
    (map.insert key value).keys = if key ∈ map.keys then map.keys else map.keys ++ [key] :=
  map_fst_put key value map.entries

theorem lookup_filter (p : κ → Bool) (key : κ) (entries : List (κ × α)) :
    lookup key (entries.filter fun entry => p entry.1) =
      if p key then lookup key entries else none := by
  induction entries with
  | nil => simp [lookup]
  | cons entry rest ih =>
    obtain ⟨k, value⟩ := entry
    by_cases same : k = key
    · subst same
      cases kept : p k <;> simp_all [lookup]
    · cases kept : p k <;> simp_all [lookup]

/-- Keys that are kept keep their values, and the others have none. -/
theorem get?_filterKeys (p : κ → Bool) (map : OrderedMap κ α) (key : κ) :
    (map.filterKeys p).get? key = if p key then map.get? key else none :=
  lookup_filter p key map.entries

/-- Taking a key away takes its value and no other. -/
theorem get?_erase (map : OrderedMap κ α) (key other : κ) :
    (map.erase key).get? other = if other = key then none else map.get? other := by
  by_cases same : other = key <;> simp [erase, get?_filterKeys, same]

end OrderedMap

end DevfilePush
