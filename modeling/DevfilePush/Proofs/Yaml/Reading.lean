import DevfilePush.Yaml.Decoder
import DevfilePush.Proofs.Checked

/-!
What was read says about the document.

A value that was read out of a node tells what the node looks like, once aliases are followed: a
list has as many items as the sequence, an optional value is absent if the node is a null, and what
a record holds under a key was read from the only entry with that key, or no entry has it
(`Reads.of_record`).
-/

namespace DevfilePush.Yaml

/-! ### The parts of a node -/

namespace Node

/-- The node itself, for an alias the node that is anchored under its number. -/
def target (anchored : List (Nat × Node)) : Node → Node
  | .alias anchor => ((anchored.find? fun entry => entry.1 = anchor).map (·.2)).getD .unreadable
  | node => node

/-- The text of a scalar. -/
def spelled? : Node → Option String
  | .scalar _ _ text => some text
  | _ => none

/-- Whether the node is a plain scalar that stands for nothing. -/
def isNull : Node → Bool
  | .scalar .plain none text => text.isEmpty || Plain.isNullWord text
  | .scalar .plain (some "tag:yaml.org,2002:null") text => Plain.isNullWord text
  | _ => false

/-- The items of a sequence. -/
def items : Node → List Node
  | .sequence items => items
  | _ => []

/-- The entries of a mapping. -/
def entries : Node → List (Node × Node)
  | .mapping entries => entries
  | _ => []

/-- The nodes that the key leads to, one for each entry that has it. -/
def valuesOf (anchored : List (Nat × Node)) (key : String) (entries : List (Node × Node)) :
    List Node :=
  entries.filterMap fun entry =>
    if (entry.1.target anchored).spelled? = some key then some (entry.2.target anchored) else none

/-- The nodes under a key of a record. -/
def under (anchored : List (Nat × Node)) (key : String) (record : Node) : List Node :=
  valuesOf anchored key (record.target anchored).entries

/-- The items of the list under a key of a record. -/
def itemsUnder (anchored : List (Nat × Node)) (key : String) (record : Node) : List Node :=
  (record.under anchored key).flatMap items

/-- There is something under a key of a record, a null apart. -/
def Carries (anchored : List (Nat × Node)) (key : String) (record : Node) : Prop :=
  ∃ node ∈ record.under anchored key, node.isNull = false

instance (anchored : List (Nat × Node)) (key : String) (record : Node) :
    Decidable (record.Carries anchored key) :=
  inferInstanceAs (Decidable (∃ node ∈ record.under anchored key, node.isNull = false))

end Node

namespace Decode

/-- Reading can give the value, whatever aliases have been followed before. -/
def Reads {α : Type} (anchors : Anchors) (action : Decode α) (value : α) : Prop :=
  ∃ before after, (action.run anchors).run before = .ok (value, after)

namespace Reads

variable {α β : Type} {anchors : Anchors} {node : Node}

/-! ### Steps -/

theorem of_pure {found value : α} (reads : Reads anchors (pure found) value) : found = value := by
  obtain ⟨before, after, done⟩ := reads
  cases done
  rfl

/-- What was read in two steps was read in each of them, the aliases in between included. -/
theorem of_bind {action : Decode α} {next : α → Decode β} {value : β}
    (reads : Reads anchors (action >>= next) value) :
    ∃ found, Reads anchors action found ∧ Reads anchors (next found) value := by
  obtain ⟨before, after, done⟩ := reads
  obtain ⟨⟨found, between⟩, first, second⟩ := Checked.bind_eq_ok_iff.mp done
  exact ⟨found, ⟨before, between, first⟩, between, after, second⟩

theorem of_map {action : Decode α} {f : α → β} {value : β}
    (reads : Reads anchors (do return f (← action)) value) :
    ∃ found, Reads anchors action found ∧ f found = value := by
  obtain ⟨found, readsFound, readsValue⟩ := reads.of_bind
  exact ⟨found, readsFound, readsValue.of_pure⟩

theorem not_throw {fault : Fault} {value : α} : ¬ Reads anchors (throw fault) value := by
  rintro ⟨before, after, done⟩
  cases done

theorem not_malformed {value : α} : ¬ Reads anchors malformed value :=
  not_throw

/-! ### Values -/

/-- Aliases lead to the node that is anchored under their number. -/
theorem of_follow {target : Node} (reads : Reads anchors (follow node) target) :
    node.target anchors.nodes = target := by
  unfold follow at reads
  split at reads
  · obtain ⟨-, -, reads⟩ := reads.of_bind
    obtain ⟨known, isKnown, reads⟩ := reads.of_bind
    obtain rfl : anchors = known := by
      obtain ⟨before, after, done⟩ := isKnown
      cases done
      rfl
    obtain ⟨count, -, reads⟩ := reads.of_bind
    split at reads
    · exact absurd reads not_malformed
    · split at reads
      · rename_i found
        rw [Node.target, found]
        exact reads.of_pure
      · exact absurd reads not_malformed
  · exact absurd reads not_malformed
  · rename_i notAlias _
    rw [Node.target.eq_2 _ _ notAlias]
    exact reads.of_pure

/-- A text is that of a scalar, whichever way it was written. -/
theorem of_text {value : String} (reads : Reads anchors (text node) value) :
    (node.target anchors.nodes).spelled? = some value := by
  obtain ⟨target, isTarget, reads⟩ := reads.of_bind
  rw [isTarget.of_follow]
  split at reads
  · rw [Node.spelled?, reads.of_pure]
  · exact absurd reads not_malformed

/-- No number that needs more than 32 bits is read. -/
theorem of_int32 {value : Int} (reads : Reads anchors (int32 node) value) :
    Text.Integer.fitsSigned 32 value = true := by
  obtain ⟨spelled, -, reads⟩ := reads.of_bind
  split at reads
  · split at reads
    · rename_i fits
      rwa [reads.of_pure] at fits
    · exact absurd reads not_malformed
  · exact absurd reads not_malformed

theorem of_isAbsent {absent : Bool} (reads : Reads anchors (isAbsent node) absent) :
    node.isNull = absent := by
  unfold isAbsent at reads
  split at reads
  · exact reads.of_pure
  · split at reads
    · rename_i isWord
      change Plain.isNullWord _ = absent
      rw [isWord]
      exact reads.of_pure
    · exact absurd reads not_malformed
  · rename_i notPlain notTagged
    have notNull : node.isNull = false := by
      unfold Node.isNull
      split
      · exact absurd rfl (notPlain _)
      · exact absurd rfl (notTagged _)
      · rfl
    rw [notNull]
    exact reads.of_pure

/-- An optional value is there unless the node is a null. -/
theorem of_optional {read : Node → Decode α} {value : Option α}
    (reads : Reads anchors (optional read node) value) :
    (node.target anchors.nodes).isNull = value.isNone ∧
      ∀ found, value = some found → Reads anchors (read (node.target anchors.nodes)) found := by
  obtain ⟨target, isTarget, reads⟩ := reads.of_bind
  obtain ⟨absent, isAbsent, reads⟩ := reads.of_bind
  rw [isTarget.of_follow, isAbsent.of_isAbsent]
  split at reads
  · rename_i isTrue
    cases reads.of_pure
    exact ⟨isTrue, fun _ impossible => by cases impossible⟩
  · rename_i isFalse
    obtain ⟨found, readsFound, rfl⟩ := reads.of_map
    refine ⟨Bool.eq_false_iff.mpr isFalse, ?_⟩
    rintro _ ⟨⟩
    exact readsFound

/-- Each node gives a value, and each value comes from a node. -/
theorem of_mapM {read : Node → Decode α} {nodes : List Node} {values : List α}
    (reads : Reads anchors (nodes.mapM read) values) :
    (∀ node ∈ nodes, ∃ value ∈ values, Reads anchors (read node) value) ∧
      ∀ value ∈ values, ∃ node ∈ nodes, Reads anchors (read node) value := by
  induction nodes generalizing values with
  | nil =>
    rw [List.mapM_nil] at reads
    cases reads.of_pure
    exact ⟨List.forall_mem_nil _, List.forall_mem_nil _⟩
  | cons node rest ih =>
    rw [List.mapM_cons] at reads
    obtain ⟨value, readsFirst, reads⟩ := reads.of_bind
    obtain ⟨others, readsRest, rfl⟩ := reads.of_map
    obtain ⟨eachNode, eachValue⟩ := ih readsRest
    constructor
    · intro other mem
      rcases List.mem_cons.mp mem with rfl | mem
      · exact ⟨value, List.mem_cons_self, readsFirst⟩
      · obtain ⟨found, foundMem, readsFound⟩ := eachNode other mem
        exact ⟨found, List.mem_cons_of_mem _ foundMem, readsFound⟩
    · intro found mem
      rcases List.mem_cons.mp mem with rfl | mem
      · exact ⟨node, List.mem_cons_self, readsFirst⟩
      · obtain ⟨other, otherMem, readsFound⟩ := eachValue found mem
        exact ⟨other, List.mem_cons_of_mem _ otherMem, readsFound⟩

/-- Each item of a sequence gives a value of the list, and there are no other values. -/
theorem of_list {read : Node → Decode α} {values : List α}
    (reads : Reads anchors (list read node) values) :
    (∀ item ∈ (node.target anchors.nodes).items,
        ∃ value ∈ values, Reads anchors (read item) value) ∧
      ∀ value ∈ values, ∃ item ∈ (node.target anchors.nodes).items,
        Reads anchors (read item) value := by
  obtain ⟨target, isTarget, reads⟩ := reads.of_bind
  rw [isTarget.of_follow]
  split at reads
  · exact reads.of_mapM
  · cases reads.of_pure
    exact ⟨List.forall_mem_nil _, List.forall_mem_nil _⟩
  · exact absurd reads not_malformed

end Reads

/-! ### Records -/

/-- What is seen of a record in `view` is the value that is read under `key`. -/
structure Slot {α β : Type} (anchors : Anchors) (field : String → Option (Node → α → Decode α))
    (key : String) (view : α → β) (read : Node → Decode β) : Prop where
  /-- The field under the key reads the value and puts it where it is seen. -/
  own : ∃ put : β → α → α,
    (field key = some fun node value => do return put (← read node) value) ∧
      ∀ found value, view (put found value) = found
  /-- Other fields leave it as it is. -/
  others : ∀ other take, field other = some take → other ≠ key → ∀ node before after,
    Reads anchors (take node before) after → view after = view before

namespace Reads

variable {α β : Type} {anchors : Anchors} {node : Node}
  {field : String → Option (Node → α → Decode α)} {required : List String} {initial value : α}

/-- What holds at the start of a record, and goes on holding with each field, holds in the end. -/
theorem holds_of_fields {holds : α → Prop}
    (step : ∀ key take, field key = some take → ∀ node before after, holds before →
      Reads anchors (take node before) after → holds after)
    {entries : List (Node × Node)} {seen met : List String} {before after : α}
    (start : holds before) (reads : Reads anchors (fields field entries seen before) (after, met)) :
    holds after := by
  induction entries generalizing seen before with
  | nil =>
    cases reads.of_pure
    exact start
  | cons entry rest ih =>
    obtain ⟨keyNode, node⟩ := entry
    obtain ⟨key, -, reads⟩ := reads.of_bind
    split at reads
    · obtain ⟨-, -, reads⟩ := reads.of_bind
      exact ih start reads
    · rename_i take isTake
      split at reads
      · exact absurd reads not_malformed
      · obtain ⟨middle, readsMiddle, reads⟩ := reads.of_bind
        exact ih (step key take isTake node before middle start readsMiddle) reads

/-- What is seen of a record in `view` was read under `key`, from one node, or there is no entry
with that key and nothing has changed. -/
theorem of_fields {key : String} {view : α → β} {read : Node → Decode β}
    (slot : Slot anchors field key view read)
    {entries : List (Node × Node)} {seen met : List String} {before after : α}
    (reads : Reads anchors (fields field entries seen before) (after, met)) :
    (Node.valuesOf anchors.nodes key entries = [] ∧ view after = view before) ∨
      key ∉ seen ∧ ∃ node, Node.valuesOf anchors.nodes key entries = [node.target anchors.nodes] ∧
        Reads anchors (read node) (view after) := by
  obtain ⟨⟨put, isKey, view_put⟩, others⟩ := slot
  induction entries generalizing seen before with
  | nil =>
    cases reads.of_pure
    exact .inl ⟨rfl, rfl⟩
  | cons entry rest ih =>
    obtain ⟨keyNode, node⟩ := entry
    obtain ⟨name, isName, reads⟩ := reads.of_bind
    rw [Node.valuesOf, List.filterMap_cons, isName.of_text]
    split at reads
    · rename_i unknown
      obtain ⟨-, -, reads⟩ := reads.of_bind
      have apart : some name ≠ some key := by
        rintro ⟨⟩
        cases unknown.symm.trans isKey
      rw [if_neg apart]
      exact ih reads
    · rename_i take isTake
      split at reads
      · exact absurd reads not_malformed
      · rename_i fresh
        obtain ⟨middle, readsMiddle, reads⟩ := reads.of_bind
        by_cases same : name = key
        · -- From here on the key is known, so it does not come again.
          subst same
          cases isTake.symm.trans isKey
          obtain ⟨found, readsFound, rfl⟩ := readsMiddle.of_map
          rw [if_pos rfl]
          rcases ih reads with ⟨isEmpty, same⟩ | ⟨notSeen, -⟩
          · rw [Node.valuesOf] at isEmpty
            refine .inr ⟨fun mem => fresh (List.contains_iff_mem.mpr mem), node, ?_, ?_⟩
            · dsimp only
              rw [isEmpty]
            · rw [same, view_put]
              exact readsFound
          · exact absurd List.mem_cons_self notSeen
        · have kept := others name take isTake same node before middle readsMiddle
          rw [if_neg fun isSame => same (Option.some.inj isSame)]
          rcases ih reads with ⟨isEmpty, unchanged⟩ | ⟨notSeen, found⟩
          · exact .inl ⟨isEmpty, unchanged.trans kept⟩
          · exact .inr ⟨fun mem => notSeen (List.mem_cons_of_mem _ mem), found⟩

/-- A record is read from the entries of a mapping, starting with nothing met. -/
theorem fields_of_record (reads : Reads anchors (record required initial field node) value) :
    ∃ met, Reads anchors (fields field (node.target anchors.nodes).entries [] initial)
      (value, met) := by
  obtain ⟨target, isTarget, reads⟩ := reads.of_bind
  rw [isTarget.of_follow]
  have finish : ∀ entries, Reads anchors (fields field entries [] initial >>= fun found =>
      if required.all found.2.contains then pure found.1 else malformed) value →
      ∃ met, Reads anchors (fields field entries [] initial) (value, met) := by
    intro entries reads
    obtain ⟨⟨found, met⟩, readsFields, reads⟩ := reads.of_bind
    dsimp only at reads
    split at reads
    · cases reads.of_pure
      exact ⟨met, readsFields⟩
    · exact absurd reads not_malformed
  split at reads
  · exact finish _ reads
  · exact finish _ reads
  · obtain ⟨_, impossible, -⟩ := reads.of_bind
    exact absurd impossible not_malformed

/-- So what is true of the initial record, and stays true with each entry, is true of what is
read. -/
theorem holds_of_record {holds : α → Prop} (start : holds initial)
    (step : ∀ key take, field key = some take → ∀ node before after, holds before →
      Reads anchors (take node before) after → holds after)
    (reads : Reads anchors (record required initial field node) value) : holds value := by
  obtain ⟨met, readsFields⟩ := reads.fields_of_record
  exact holds_of_fields step start readsFields

/-- What is seen of a record was read from the one entry with the key, or it is what the record
starts with. -/
theorem of_record {key : String} {view : α → β} {read : Node → Decode β}
    (slot : Slot anchors field key view read)
    (reads : Reads anchors (record required initial field node) value) :
    (node.under anchors.nodes key = [] ∧ view value = view initial) ∨
      ∃ entry, node.under anchors.nodes key = [entry.target anchors.nodes] ∧
        Reads anchors (read entry) (view value) := by
  obtain ⟨met, readsFields⟩ := reads.fields_of_record
  rcases of_fields slot readsFields with absent | ⟨-, present⟩
  · exact .inl absent
  · exact .inr present

/-- An optional value of a record is there exactly if the record carries the key. -/
theorem isSome_iff_carries {key : String} {view : α → Option β} {read : Node → Decode β}
    (slot : Slot anchors field key view (optional read)) (isInitial : view initial = none)
    (reads : Reads anchors (record required initial field node) value) :
    (view value).isSome = true ↔ node.Carries anchors.nodes key := by
  unfold Node.Carries
  rcases reads.of_record slot with ⟨isEmpty, unchanged⟩ | ⟨entry, isOnly, found⟩
  · rw [isEmpty, unchanged, isInitial]
    simp
  · simp [isOnly, found.of_optional.1]

/-- Each item of a list in a record is read. -/
theorem items_of_record {key : String} {view : α → List β} {read : Node → Decode β}
    (slot : Slot anchors field key view (list read))
    (reads : Reads anchors (record required initial field node) value) :
    ∀ item ∈ node.itemsUnder anchors.nodes key,
      ∃ found ∈ view value, Reads anchors (read item) found := by
  intro item mem
  unfold Node.itemsUnder at mem
  rcases reads.of_record slot with ⟨isEmpty, -⟩ | ⟨entry, isOnly, found⟩
  · rw [isEmpty] at mem
    cases mem
  · rw [isOnly, List.flatMap_singleton] at mem
    exact found.of_list.1 item mem

end Reads

end Decode

/-- A value of a document was read from its root. -/
theorem Document.reads_of_decode {α : Type} {read : Node → Decode α} {document : Document}
    {value : α} (decoded : document.decode read = .ok value) :
    Decode.Reads ⟨document.anchored, 100 * document.size⟩ (read document.root) value := by
  obtain ⟨⟨found, count⟩, done, decoded⟩ := Checked.bind_eq_ok_iff.mp decoded
  dsimp only at decoded
  split at decoded
  · cases decoded
    exact ⟨0, count, done⟩
  · cases decoded

end DevfilePush.Yaml
