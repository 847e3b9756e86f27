import DevfilePush.Devfile.Json
import DevfilePush.Yaml.Decoder
import DevfilePush.Proofs.Text.Decimal

/-!
Reading what was written.

Each way of writing a value as JSON has its way of reading one out of a document, and from the
document that the JSON text denotes the same value is read: there is one law for each of them
(`text_string`, `list_array` and so on). For records the law takes the members one by one
(`Fills`), as far as they are present; a member that was left out leaves the value that the record
starts with.
-/

namespace DevfilePush.Yaml

/-! ### Integers -/

/-- An integer is read back from its decimal form. -/
theorem Plain.integer?_toString (number : Int) :
    Plain.integer? (toString number) = some number := by
  cases number with
  | ofNat size =>
    obtain ⟨c, rest, isDigits, notPlus, notMinus, alone⟩ := Text.toDigits_eq_cons size
    have isText : (toString (Int.ofNat size)).toList = c :: rest := by
      rw [← isDigits]
      exact Nat.toList_repr
    have isNumber := Text.natOfDigits?_toDigits size
    rw [isDigits] at isNumber
    rw [integer?, isText]
    cases rest with
    | nil => simp [startsWithSign, notPlus, notMinus, isNumber]
    | cons next more =>
      have notZero : c ≠ '0' := fun isZero => List.cons_ne_nil _ _ (alone isZero)
      simp [startsWithSign, notPlus, notMinus, notZero, isNumber]
  | negSucc size =>
    obtain ⟨c, rest, isDigits, notPlus, notMinus, alone⟩ := Text.toDigits_eq_cons (size + 1)
    have isText : (toString (Int.negSucc size)).toList = '-' :: c :: rest := by
      rw [← isDigits, ← Nat.toList_repr]
      exact String.toList_append
    have isNumber := Text.natOfDigits?_toDigits (size + 1)
    rw [isDigits] at isNumber
    rw [integer?, isText]
    cases rest with
    | nil => simp [startsWithSign, notPlus, notMinus, isNumber, Int.negSucc_eq]
    | cons next more =>
      have notZero : c ≠ '0' := fun isZero => List.cons_ne_nil _ _ (alone isZero)
      simp [startsWithSign, notPlus, notMinus, notZero, isNumber, Int.negSucc_eq]

namespace Decode

variable {α β : Type}

/-! ### Values -/

/-- There is no alias in what JSON text denotes. -/
theorem follow_ofJson (json : Json) : follow (Node.ofJson json) = pure (Node.ofJson json) := by
  cases json with
  | bool value => cases value <;> rfl
  | _ => rfl

/-- A string is written in double quotes, so nothing else is read for it, whatever it looks
like. -/
theorem text_string (value : String) : text (Node.ofJson (.string value)) = pure value := by
  rw [text, follow_ofJson, pure_bind, Node.ofJson]

theorem bool_bool (value : Bool) : bool (Node.ofJson (.bool value)) = pure value := by
  cases value <;> rfl

/-- A number is a plain scalar, and it is read if it fits. -/
theorem int32_integer {value : Int} (fits : Text.Integer.fitsSigned 32 value = true) :
    int32 (Node.ofJson (.integer value)) = pure value := by
  rw [int32, plainText, follow_ofJson, pure_bind, Node.ofJson]
  simp only [pure_bind, Plain.integer?_toString, fits, if_true]

/-- A word is read for what it means. -/
theorem word_string {meaning : String → Option α} {name : String} {value : α}
    (isMeaning : meaning name = some value) :
    word meaning (Node.ofJson (.string name)) = pure value := by
  rw [word, follow_ofJson, pure_bind, Node.ofJson]
  simp only [pure_bind, isMeaning]

theorem isAbsent_bool (value : Bool) : isAbsent (Node.ofJson (.bool value)) = pure false := by
  cases value <;> rfl

/-- A value that is there and is not written as a null is read. -/
theorem optional_ofJson {read : Node → Decode α} {json : Json} {value : α}
    (present : isAbsent (Node.ofJson json) = pure false)
    (reads : read (Node.ofJson json) = pure value) :
    optional read (Node.ofJson json) = pure (some value) := by
  simp only [optional, follow_ofJson, pure_bind, present, reads, Bool.false_eq_true, if_false]

theorem ofJsonItems_eq_map (items : List Json) :
    Node.ofJsonItems items = items.map Node.ofJson := by
  induction items with
  | nil => rfl
  | cons item rest ih => rw [Node.ofJsonItems, ih, List.map_cons]

/-- A list is read item by item. -/
theorem list_array {read : Node → Decode α} {write : α → Json} {items : List α}
    (reads : ∀ item ∈ items, read (Node.ofJson (write item)) = pure item) :
    list read (Node.ofJson (.array (items.map write))) = pure items := by
  rw [list, follow_ofJson, pure_bind, Node.ofJson, ofJsonItems_eq_map]
  dsimp only
  induction items with
  | nil => rfl
  | cons item rest ih =>
    obtain ⟨first, others⟩ := List.forall_mem_cons.mp reads
    simp only [List.map_cons, List.mapM_cons, first, ih others, pure_bind]

/-! ### Records -/

variable {field : String → Option (Node → α → Decode α)} {key : String}
  {members : List (String × Option Json)} {before after : α}

/-- Taken in as fields, as far as they are present, the members turn one value into another. -/
inductive Fills (field : String → Option (Node → α → Decode α)) :
    List (String × Option Json) → α → α → Prop
  | nil {value : α} : Fills field [] value value
  | absent {key : String} {members : List (String × Option Json)} {before after : α} :
      Fills field members before after → Fills field ((key, none) :: members) before after
  | present {key : String} {json : Json} {members : List (String × Option Json)}
      {before middle after : α} {take : Node → α → Decode α} :
      field key = some take → take (Node.ofJson json) before = pure middle →
      Fills field members middle after → Fills field ((key, some json) :: members) before after

/-- A member that is always present. -/
theorem Fills.value {json : Json} {written : β} {read : Node → Decode β} {put : β → α → α}
    (isKey : field key = some fun node value => do return put (← read node) value)
    (reads : read (Node.ofJson json) = pure written)
    (rest : Fills field members (put written before) after) :
    Fills field ((key, some json) :: members) before after := by
  refine .present isKey ?_ rest
  rw [reads, pure_bind]

/-- A member that is left out if there is no value. -/
theorem Fills.optional {written : Option β} {write : β → Json} {read : Node → Decode β}
    {put : Option β → α → α}
    (isKey : field key = some fun node value => do return put (← Decode.optional read node) value)
    (isDefault : put none before = before)
    (present : ∀ value, isAbsent (Node.ofJson (write value)) = pure false)
    (reads : ∀ value, written = some value → read (Node.ofJson (write value)) = pure value)
    (rest : Fills field members (put written before) after) :
    Fills field ((key, written.map write) :: members) before after := by
  cases written with
  | none =>
    rw [isDefault] at rest
    exact .absent rest
  | some value => exact .value isKey (optional_ofJson (present value) (reads value rfl)) rest

/-- A member that is left out if the list is empty. -/
theorem Fills.list {written : List β} {write : β → Json} {read : Node → Decode β}
    {put : List β → α → α}
    (isKey : field key = some fun node value => do return put (← Decode.list read node) value)
    (isDefault : put [] before = before)
    (reads : ∀ value ∈ written, read (Node.ofJson (write value)) = pure value)
    (rest : Fills field members (put written before) after) :
    Fills field ((key, Json.nonEmpty? write written) :: members) before after := by
  cases written with
  | nil =>
    rw [isDefault] at rest
    exact .absent rest
  | cons first others => exact .value isKey (list_array reads) rest

/-- The reader of a record takes in its members and remembers the keys of those that are
present. -/
theorem fields_of_fills (fills : Fills field members before after)
    (distinct : (members.map Prod.fst).Nodup) (seen : List String)
    (fresh : ∀ key ∈ members.map Prod.fst, key ∉ seen) :
    ∃ keys, fields field (Node.ofJsonMembers (members.filterMap fun member =>
        member.2.map fun json => (member.1, json))) seen before = pure (after, keys) ∧
      (∀ key ∈ seen, key ∈ keys) ∧ ∀ key json, (key, some json) ∈ members → key ∈ keys := by
  induction fills generalizing seen with
  | nil => exact ⟨seen, rfl, fun _ mem => mem, fun _ _ mem => by cases mem⟩
  | absent _ ih =>
    obtain ⟨keys, isFields, known, met⟩ := ih (List.nodup_cons.mp distinct).2 seen
      fun key mem => fresh key (List.mem_cons_of_mem _ mem)
    refine ⟨keys, isFields, known, fun key json mem => ?_⟩
    rcases List.mem_cons.mp mem with same | mem
    · cases same
    · exact met key json mem
  | @present first json rest before middle after take isKey takes _ ih =>
    obtain ⟨apart, distinct⟩ := List.nodup_cons.mp distinct
    obtain ⟨keys, isFields, known, met⟩ := ih distinct (first :: seen) <| by
      intro key mem again
      rcases List.mem_cons.mp again with rfl | again
      · exact apart mem
      · exact fresh key (List.mem_cons_of_mem _ mem) again
    refine ⟨keys, ?_, fun key mem => known key (List.mem_cons_of_mem _ mem), ?_⟩
    · have isText : text (.scalar .doubleQuoted none first) = pure first := rfl
      have isFresh : seen.contains first = false := by
        simpa using fresh first List.mem_cons_self
      simp only [List.filterMap_cons, Option.map_some, Node.ofJsonMembers, fields, isText, isKey,
        isFresh, takes, isFields, pure_bind, Bool.false_eq_true, if_false]
    · intro key json mem
      rcases List.mem_cons.mp mem with same | mem
      · cases same
        exact known _ List.mem_cons_self
      · exact met key json mem

/-- A record comes back if its members fill it, no two of them have one key, and none that is
required is left out. -/
theorem record_of_fills {required : List String} (fills : Fills field members before after)
    (distinct : (members.map Prod.fst).Nodup)
    (given : ∀ key ∈ required, ∃ json, (key, some json) ∈ members) :
    record required before field (Node.ofJson (Json.ofFields members)) = pure after := by
  obtain ⟨keys, isFields, -, met⟩ := fields_of_fills fills distinct [] fun _ _ => List.not_mem_nil
  have complete : required.all keys.contains = true := by
    refine List.all_eq_true.mpr fun key mem => List.contains_iff_mem.mpr ?_
    obtain ⟨json, isMember⟩ := given key mem
    exact met key json isMember
  rw [record, follow_ofJson, pure_bind, Json.ofFields, Node.ofJson]
  simp only [pure_bind, isFields, complete, if_true]

end Decode

/-! ### Documents -/

/-- A document without anchors is read as its root is. -/
theorem Document.decode_ofJson {α : Type} {read : Node → Decode α} {json : Json} {value : α}
    (reads : read (Node.ofJson json) = pure value) :
    (Document.ofJson json).decode read = .ok value := by
  rw [Document.decode, Document.ofJson, reads]
  rfl

end DevfilePush.Yaml
