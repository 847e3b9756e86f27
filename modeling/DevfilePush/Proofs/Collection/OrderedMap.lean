import DevfilePush.Collection.OrderedMap

/-!
The entries of an ordered map.

Keys occur once, so `get?` and the list of entries say the same (`get?_eq_some_iff`), and
what is true of all entries can be followed through the operations.
-/

namespace DevfilePush.OrderedMap

variable {κ α : Type} [DecidableEq κ] {map : OrderedMap κ α} {key : κ} {value : α}

theorem mem_of_lookup {entries : List (κ × α)} (found : lookup key entries = some value) :
    (key, value) ∈ entries := by
  induction entries with
  | nil => cases found
  | cons entry rest ih =>
    obtain ⟨k, old⟩ := entry
    rw [lookup] at found
    split at found
    · rename_i same
      cases found
      rw [same]
      exact List.mem_cons_self
    · exact List.mem_cons_of_mem _ (ih found)

theorem lookup_of_mem {entries : List (κ × α)} (nodup : (entries.map (·.1)).Nodup)
    (mem : (key, value) ∈ entries) : lookup key entries = some value := by
  induction entries with
  | nil => cases mem
  | cons entry rest ih =>
    obtain ⟨k, old⟩ := entry
    obtain ⟨fresh, nodupRest⟩ := List.nodup_cons.mp nodup
    rw [lookup]
    rcases List.mem_cons.mp mem with same | mem
    · cases same
      rw [if_pos rfl]
    · have ne : k ≠ key := by
        rintro rfl
        exact fresh (List.mem_map.mpr ⟨_, mem, rfl⟩)
      rw [if_neg ne]
      exact ih nodupRest mem

/-- To be found under a key is to be an entry: there is one for each key. -/
theorem get?_eq_some_iff : map.get? key = some value ↔ (key, value) ∈ map.entries :=
  ⟨mem_of_lookup, lookup_of_mem map.nodup_keys⟩

/-- A value stands under some key. -/
theorem exists_get?_of_mem_values (mem : value ∈ map.values) :
    ∃ key, map.get? key = some value := by
  obtain ⟨⟨key, value⟩, isEntry, rfl⟩ := List.mem_map.mp mem
  exact ⟨key, get?_eq_some_iff.mpr isEntry⟩

theorem mem_values_of_get? (found : map.get? key = some value) : value ∈ map.values :=
  List.mem_map.mpr ⟨(key, value), get?_eq_some_iff.mp found, rfl⟩

/-- The keys are those under which something is found. -/
theorem mem_keys_iff : key ∈ map.keys ↔ map.contains key = true := by
  rw [contains, Option.isSome_iff_exists]
  constructor
  · intro mem
    obtain ⟨⟨key, value⟩, isEntry, rfl⟩ := List.mem_map.mp mem
    exact ⟨value, get?_eq_some_iff.mpr isEntry⟩
  · rintro ⟨value, found⟩
    exact List.mem_map.mpr ⟨(key, value), get?_eq_some_iff.mp found, rfl⟩

/-- What is found after an insertion was put in or was there before. -/
theorem get?_insert {other : κ} :
    (map.insert key value).get? other = if other = key then some value else map.get? other := by
  by_cases same : other = key
  · rw [if_pos same, same, get?_insert_self]
  · rw [if_neg same, get?_insert_of_ne map same]

/-- Dropping a key that is not there changes nothing. -/
theorem erase_of_get?_eq_none (absent : map.get? key = none) : map.erase key = map := by
  obtain ⟨entries, nodup⟩ := map
  have kept : entries.filter (fun entry => !decide (entry.1 = key)) = entries := by
    refine List.filter_eq_self.mpr fun entry mem => ?_
    have ne : entry.1 ≠ key := by
      rintro rfl
      cases (lookup_of_mem nodup mem).symm.trans absent
    simp [ne]
  exact OrderedMap.mk.injEq .. ▸ kept

/-- What is found under a key that is dropped, unless it is kept. -/
theorem get?_ite_erase {kept : Bool} :
    (if kept then map else map.erase key).get? key = if kept then map.get? key else none := by
  cases kept with
  | true => rfl
  | false => exact (get?_erase map key key).trans (if_pos rfl)

/-- When no key is kept, what is put in then is all there is. -/
theorem values_insert_filterKeys {kept : κ → Bool} (none : ∀ key ∈ map.keys, kept key = false) :
    ((map.filterKeys kept).insert key value).values = [value] := by
  have cleared : map.entries.filter (fun entry => kept entry.1) = [] := by
    refine List.filter_eq_nil_iff.mpr fun entry mem => ?_
    simp [none entry.1 (List.mem_map.mpr ⟨entry, mem, rfl⟩)]
  simp [insert, filterKeys, values, cleared, put]

omit [DecidableEq κ] in
theorem filterKeys_eq_self {kept : κ → Bool} (all : ∀ key, kept key = true) :
    map.filterKeys kept = map := by
  have whole : map.entries.filter (fun entry => kept entry.1) = map.entries :=
    List.filter_eq_self.mpr fun entry _ => all entry.1
  exact OrderedMap.mk.injEq .. ▸ whole

omit [DecidableEq κ] in
/-- Taking entries out twice is taking them out once. -/
theorem filterKeys_filterKeys {first second : κ → Bool} :
    (map.filterKeys first).filterKeys second =
      map.filterKeys fun key => first key && second key := by
  have once : (map.entries.filter fun entry => first entry.1).filter (fun entry => second entry.1) =
      map.entries.filter fun entry => first entry.1 && second entry.1 := by
    rw [List.filter_filter]
    exact List.filter_congr fun entry _ => Bool.and_comm _ _
  exact OrderedMap.mk.injEq .. ▸ once

/-- A new key comes last. -/
theorem values_insert_of_get?_eq_none (absent : map.get? key = none) :
    (map.insert key value).values = map.values ++ [value] := by
  obtain ⟨entries, nodup⟩ := map
  change lookup key entries = none at absent
  change (put key value entries).map (·.2) = entries.map (·.2) ++ [value]
  clear nodup
  induction entries with
  | nil => rfl
  | cons entry rest ih =>
    obtain ⟨k, old⟩ := entry
    by_cases same : k = key
    · rw [lookup, if_pos same] at absent
      cases absent
    · rw [lookup, if_neg same] at absent
      rw [put, if_neg same, List.map_cons, List.map_cons, ih absent, List.cons_append]

/-- What is put in under a key that is dropped makes no difference. -/
theorem filterKeys_insert_of_dropped {kept : κ → Bool} (dropped : kept key = false) :
    (map.insert key value).filterKeys kept = map.filterKeys kept := by
  obtain ⟨entries, nodup⟩ := map
  have same : (put key value entries).filter (fun entry => kept entry.1) =
      entries.filter fun entry => kept entry.1 := by
    clear nodup
    induction entries with
    | nil => simp [put, dropped]
    | cons entry rest ih =>
      obtain ⟨k, old⟩ := entry
      by_cases isKey : k = key
      · subst isKey
        simp [put, dropped]
      · rw [put, if_neg isKey, List.filter_cons, List.filter_cons, ih]
  exact OrderedMap.mk.injEq .. ▸ same

/-! ### Keys that follow from the values -/

/-- Every value stands under the key that `keyOf` reads off it. -/
def KeyedBy (keyOf : α → κ) (map : OrderedMap κ α) : Prop :=
  ∀ entry ∈ map.entries, keyOf entry.2 = entry.1

variable {keyOf : α → κ}

theorem KeyedBy.key_eq (keyed : map.KeyedBy keyOf) (found : map.get? key = some value) :
    keyOf value = key :=
  keyed (key, value) (get?_eq_some_iff.mp found)

theorem keyedBy_of_get? (keyed : ∀ key value, map.get? key = some value → keyOf value = key) :
    map.KeyedBy keyOf :=
  fun entry mem => keyed entry.1 entry.2 (get?_eq_some_iff.mpr mem)

/-- A value stands under its own key and nowhere else. -/
theorem KeyedBy.get?_of_mem_values (keyed : map.KeyedBy keyOf) (mem : value ∈ map.values) :
    map.get? (keyOf value) = some value := by
  obtain ⟨key, found⟩ := exists_get?_of_mem_values mem
  rw [keyed.key_eq found, found]

theorem KeyedBy.empty : (empty : OrderedMap κ α).KeyedBy keyOf :=
  keyedBy_of_get? nofun

/-- What is put in under its own key stands under it. -/
theorem KeyedBy.insert (keyed : map.KeyedBy keyOf) (same : keyOf value = key) :
    (map.insert key value).KeyedBy keyOf := by
  refine keyedBy_of_get? fun other found isFound => ?_
  rw [get?_insert] at isFound
  split at isFound
  · rename_i isKey
    cases isFound
    rw [isKey, same]
  · exact keyed.key_eq isFound

/-- Taking entries out moves none of the others. -/
theorem KeyedBy.filterKeys (keyed : map.KeyedBy keyOf) (kept : κ → Bool) :
    (map.filterKeys kept).KeyedBy keyOf := by
  refine keyedBy_of_get? fun other found isFound => ?_
  rw [get?_filterKeys] at isFound
  split at isFound
  · exact keyed.key_eq isFound
  · cases isFound

theorem KeyedBy.ite_filterKeys (keyed : map.KeyedBy keyOf) (whole : Bool) (kept : κ → Bool) :
    (if whole then map else map.filterKeys kept).KeyedBy keyOf := by
  split
  · exact keyed
  · exact keyed.filterKeys kept

/-! ### Losing entries -/

/-- `after` is what is left of `before` when entries are taken out, none of them but those
that `lost` allows; the others keep their order. -/
def LosesOnly (lost : κ → α → Prop) (before after : OrderedMap κ α) : Prop :=
  ∃ kept : κ → Bool, after = before.filterKeys kept ∧
    ∀ key value, before.get? key = some value → kept key = false → lost key value

variable {lost : κ → α → Prop}

theorem LosesOnly.refl : LosesOnly lost map map :=
  ⟨fun _ => true, (filterKeys_eq_self fun _ => rfl).symm, nofun⟩

/-- What may be lost may be described more loosely. -/
theorem LosesOnly.imp {allowed : κ → α → Prop} {after : OrderedMap κ α}
    (loses : LosesOnly lost map after) (imp : ∀ key value, lost key value → allowed key value) :
    LosesOnly allowed map after := by
  obtain ⟨kept, rfl, only⟩ := loses
  exact ⟨kept, rfl, fun key value held gone => imp key value (only key value held gone)⟩

theorem LosesOnly.ite_erase {kept : Bool} :
    LosesOnly (fun other _ => other = key) map (if kept then map else map.erase key) := by
  split
  · exact .refl
  · exact ⟨_, rfl, fun other _ _ gone => by simpa using gone⟩

/-- The lost entries are such as are allowed. -/
theorem LosesOnly.lost_of_get? {after : OrderedMap κ α} (loses : LosesOnly lost map after)
    (held : map.get? key = some value) (gone : after.get? key = none) : lost key value := by
  obtain ⟨kept, rfl, allowed⟩ := loses
  rw [get?_filterKeys] at gone
  split at gone
  · cases gone.symm.trans held
  · rename_i dropped
    exact allowed key value held (Bool.eq_false_iff.mpr dropped)

end DevfilePush.OrderedMap
