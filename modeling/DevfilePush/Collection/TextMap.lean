/-!
Maps from text to text, in the order of their keys.

Labels, selectors and resource amounts are such maps. Two maps are equal exactly
when they have the same entries, because the order leaves no choice.
-/

namespace DevfilePush

/-- A map from text to text. -/
structure TextMap where
  entries : List (String × String)
  sorted : entries.Pairwise fun a b => a.1 < b.1
  deriving DecidableEq

namespace TextMap

/-- The map without keys. -/
def empty : TextMap :=
  ⟨[], .nil⟩

instance : Inhabited TextMap := ⟨empty⟩

instance : Repr TextMap := ⟨fun map n => reprPrec map.entries n⟩

/-- The value under `key`. -/
def get? (map : TextMap) (key : String) : Option String :=
  (map.entries.find? fun entry => entry.1 = key).map (·.2)

/-- Whether there is a value under `key`. -/
def contains (map : TextMap) (key : String) : Bool :=
  (map.get? key).isSome

/-- `entries` with `value` under `key`, in its place. -/
def put (key value : String) : List (String × String) → List (String × String)
  | [] => [(key, value)]
  | (k, old) :: rest =>
    if key < k then (key, value) :: (k, old) :: rest
    else if key = k then (key, value) :: rest
    else (k, old) :: put key value rest

theorem mem_put {key value : String} {entries : List (String × String)} {entry : String × String}
    (mem : entry ∈ put key value entries) : entry = (key, value) ∨ entry ∈ entries := by
  induction entries with
  | nil => simpa [put] using mem
  | cons first rest ih =>
    obtain ⟨k, old⟩ := first
    simp only [put] at mem
    split at mem
    · simpa using mem
    · split at mem
      · rcases List.mem_cons.mp mem with rfl | mem
        · exact .inl rfl
        · exact .inr (List.mem_cons_of_mem _ mem)
      · rcases List.mem_cons.mp mem with rfl | mem
        · exact .inr List.mem_cons_self
        · exact (ih mem).imp_right (List.mem_cons_of_mem _)

theorem sorted_put (key value : String) {entries : List (String × String)}
    (sorted : entries.Pairwise fun a b => a.1 < b.1) :
    (put key value entries).Pairwise fun a b => a.1 < b.1 := by
  induction entries with
  | nil => simp [put]
  | cons first rest ih =>
    obtain ⟨k, old⟩ := first
    obtain ⟨least, sortedRest⟩ := List.pairwise_cons.mp sorted
    simp only [put]
    split
    · rename_i before
      refine List.pairwise_cons.mpr ⟨fun entry mem => ?_, sorted⟩
      rcases List.mem_cons.mp mem with rfl | mem
      · exact before
      · exact String.lt_trans before (least entry mem)
    · split
      · rename_i same
        exact List.pairwise_cons.mpr ⟨fun entry mem => same ▸ least entry mem, sortedRest⟩
      · rename_i notBefore ne
        refine List.pairwise_cons.mpr ⟨fun entry mem => ?_, ih sortedRest⟩
        rcases mem_put mem with rfl | mem
        · exact Std.lt_of_le_of_ne (Std.not_lt.mp notBefore) (Ne.symm ne)
        · exact least entry mem

/-- The map with `value` under `key`. -/
def insert (map : TextMap) (key value : String) : TextMap :=
  ⟨put key value map.entries, sorted_put key value map.sorted⟩

/-- The map with the given entries; of several under one key the last counts. -/
def ofList (entries : List (String × String)) : TextMap :=
  entries.foldl (fun map entry => map.insert entry.1 entry.2) empty

end TextMap

end DevfilePush
