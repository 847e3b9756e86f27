import DevfilePush.Cluster.Selector
import DevfilePush.Proofs.Collection.TextMap
import DevfilePush.Proofs.Text.Blank
import Mathlib.Logic.Relation

/-!
What a selector asks for.

A selector is read as a list of requirements, one for each part that is not blank, and labels
match it exactly when they meet them all (`matchesSelector_iff`). Everything about the way in
which a selector is written is settled by the reading: requirements are the same, as a set,
however the parts are ordered, repeated and spaced (`Respelled.same_requirements`).
-/

namespace DevfilePush

/-! ### Requirements -/

/-- What a part of a selector asks for. -/
inductive Requirement where
  /-- A value under a key. -/
  | entry (key value : String)
  /-- Any value under a key. -/
  | presence (key : String)
  deriving DecidableEq, Repr

namespace Requirement

/-- The key that something is asked of. -/
def key : Requirement → String
  | entry key _ => key
  | presence key => key

/-- Whether labels have what is asked for. -/
def MetBy (labels : Labels) : Requirement → Prop
  | entry key value => labels.get? key = some value
  | presence key => ∃ value, labels.get? key = some value

/-- What a part asks for. A blank part asks for nothing. -/
def ofPart? (part : List Char) : Option Requirement :=
  match Text.trimChars part with
  | [] => none
  | visible =>
    match Text.splitFirst? '=' visible with
    | some (key, value) =>
      some (.entry (String.ofList (Text.trimChars key)) (String.ofList (Text.trimChars value)))
    | none => some (.presence (String.ofList visible))

variable {labels : Labels} {requirement : Requirement} {part key value : List Char}

theorem ofPart?_of_blanks (blanks : Text.Blanks part) : ofPart? part = none := by
  rw [ofPart?, blanks.trimChars_eq_nil]

theorem ofPart?_congr {other : List Char} (same : Text.trimChars part = Text.trimChars other) :
    ofPart? part = ofPart? other := by
  rw [ofPart?, same, ofPart?]

/-- The first equals sign ends the key. -/
theorem ofPart?_entry (unequal : '=' ∉ key) :
    ofPart? (key ++ '=' :: value) =
      some
        (.entry (String.ofList (Text.trimChars key)) (String.ofList (Text.trimChars value))) := by
  have free : '=' ∉ key.dropWhile Text.isBlank :=
    fun mem => unequal ((List.dropWhile_suffix _).subset mem)
  rw [ofPart?, Text.trimChars_append_cons (by decide)]
  split
  · rename_i isEmpty
    cases List.append_ne_nil_of_right_ne_nil _ (List.cons_ne_nil _ _) isEmpty
  · rw [Text.splitFirst?_append_cons free]
    simp [Text.trimChars_dropWhile, Text.trimChars_dropTrailing]

/-- Where nothing can be found, nothing but blanks holds: absent labels are refused without a look
at what the part asks for, and labels without an entry because none of it is there. -/
theorem matchesPart_none (part : List Char) :
    matchesPart none part = matchesPart (some .empty) part := by
  have nothing : ∀ key, TextMap.empty.get? key = none := fun _ => rfl
  cases trimmed : Text.trimChars part with
  | nil => simp only [matchesPart, trimmed]
  | cons c rest =>
    cases split : Text.splitFirst? '=' (c :: rest) with
    | some parts => simp [matchesPart, trimmed, split, nothing]
    | none => simp [matchesPart, trimmed, split, nothing, TextMap.contains]

theorem matchesPart_some_iff :
    matchesPart (some labels) part = true ↔
      ∀ requirement ∈ ofPart? part, requirement.MetBy labels := by
  cases trimmed : Text.trimChars part with
  | nil => simp [matchesPart, ofPart?, trimmed]
  | cons c rest =>
    cases split : Text.splitFirst? '=' (c :: rest) with
    | some parts => simp [matchesPart, ofPart?, trimmed, split, MetBy]
    | none =>
      simp [matchesPart, ofPart?, trimmed, split, MetBy, TextMap.contains,
        Option.isSome_iff_exists]

/-- A part holds where what it asks for is met. -/
theorem matchesPart_iff_metBy {labels : Option Labels} :
    matchesPart labels part = true ↔
      ∀ requirement ∈ ofPart? part, requirement.MetBy (labels.getD .empty) := by
  cases labels with
  | none => rw [matchesPart_none, matchesPart_some_iff, Option.getD_none]
  | some labels => rw [matchesPart_some_iff, Option.getD_some]

/-- Keys are asked for without blanks at their edges, and never contain what ends a part or a
key. -/
theorem key_of_ofPart? (free : ',' ∉ part) (asks : ofPart? part = some requirement) :
    ',' ∉ requirement.key.toList ∧ '=' ∉ requirement.key.toList ∧
      Text.trim requirement.key = requirement.key := by
  have freeTrimmed : ',' ∉ Text.trimChars part := fun mem => free (Text.mem_of_mem_trimChars mem)
  unfold ofPart? at asks
  split at asks
  · cases asks
  · split at asks
    · rename_i keyChars valueChars split
      cases asks
      obtain ⟨unequal, whole⟩ := Text.eq_append_of_splitFirst? split
      rw [whole] at freeTrimmed
      have freeKey : ',' ∉ keyChars := fun mem => freeTrimmed (List.mem_append_left _ mem)
      simp only [Requirement.key, String.toList_ofList, Text.trim, Text.trimChars_trimChars]
      exact ⟨fun mem => freeKey (Text.mem_of_mem_trimChars mem),
        fun mem => unequal (Text.mem_of_mem_trimChars mem), trivial⟩
    · rename_i split
      cases asks
      simp only [Requirement.key, String.toList_ofList, Text.trim, Text.trimChars_trimChars]
      exact ⟨freeTrimmed, Text.splitFirst?_eq_none_iff.mp split, trivial⟩

/-- What stands under another key does not matter to a requirement. -/
theorem metBy_insert_of_ne {newKey newValue : String} (ne : newKey ≠ requirement.key) :
    requirement.MetBy (labels.insert newKey newValue) ↔ requirement.MetBy labels := by
  cases requirement with
  | entry key value =>
    change newKey ≠ key at ne
    rw [MetBy, MetBy, TextMap.get?_insert, if_neg ne]
  | presence key =>
    change newKey ≠ key at ne
    rw [MetBy, MetBy, TextMap.get?_insert, if_neg ne]

theorem MetBy.get?_ne_none (met : requirement.MetBy labels) :
    labels.get? requirement.key ≠ none := by
  cases requirement with
  | entry key value =>
    intro absent
    cases absent.symm.trans met
  | presence key =>
    obtain ⟨value, found⟩ := met
    intro absent
    cases absent.symm.trans found

/-- A label under a new key takes nothing away. -/
theorem MetBy.insert {newKey newValue : String} (met : requirement.MetBy labels)
    (isNew : labels.get? newKey = none) :
    requirement.MetBy (labels.insert newKey newValue) := by
  have ne : newKey ≠ requirement.key := by
    rintro rfl
    exact met.get?_ne_none isNew
  exact (metBy_insert_of_ne ne).mpr met

end Requirement

/-! ### Selectors -/

/-- The parts of a selector. -/
def selectorParts (selector : String) : List (List Char) :=
  Text.pieces ',' selector.toList

/-- Everything that a selector asks for. -/
def requirements (selector : String) : List Requirement :=
  (selectorParts selector).filterMap Requirement.ofPart?

/-- Absent labels match what a map without labels matches. -/
theorem matchesSelector_none (selector : String) :
    matchesSelector none selector = matchesSelector (some .empty) selector := by
  rw [matchesSelector, matchesSelector, funext Requirement.matchesPart_none]

/-- Labels match a selector exactly when they meet all of its requirements. -/
theorem matchesSelector_iff {labels : Option Labels} {selector : String} :
    matchesSelector labels selector = true ↔
      ∀ requirement ∈ requirements selector, requirement.MetBy (labels.getD .empty) := by
  simp only [matchesSelector, requirements, selectorParts, List.all_eq_true,
    Requirement.matchesPart_iff_metBy, List.mem_filterMap]
  constructor
  · rintro all requirement ⟨part, mem, asks⟩
    exact all part mem requirement asks
  · intro all part mem requirement asks
    exact all requirement ⟨part, mem, asks⟩

/-- A comma joins the requirements of two selectors. -/
theorem requirements_append (first second : String) :
    requirements (first ++ "," ++ second) = requirements first ++ requirements second := by
  have comma : (",").toList = [','] := rfl
  simp only [requirements, selectorParts, String.toList_append, comma, List.append_assoc,
    List.singleton_append, Text.pieces_append_separator, List.filterMap_append]

theorem key_of_mem_requirements {requirement : Requirement} {selector : String}
    (mem : requirement ∈ requirements selector) :
    ',' ∉ requirement.key.toList ∧ '=' ∉ requirement.key.toList ∧
      Text.trim requirement.key = requirement.key := by
  obtain ⟨part, isPart, asks⟩ := List.mem_filterMap.mp mem
  exact Requirement.key_of_ofPart? (Text.separator_notMem_of_mem_pieces isPart) asks

/-! ### Spellings -/

/-- The same part with more blanks: around it, or around its key and its value. -/
inductive Spaced : List Char → List Char → Prop where
  | around {before part after : List Char} : Text.Blanks before → Text.Blanks after →
      Spaced part (before ++ part ++ after)
  | entry {key before after value : List Char} : '=' ∉ key → Text.Blanks before →
      Text.Blanks after → Spaced (key ++ '=' :: value) (key ++ before ++ '=' :: (after ++ value))

/-- Blanks make no difference to what a part asks for. -/
theorem Spaced.ofPart?_eq {part spaced : List Char} (isSpaced : Spaced part spaced) :
    Requirement.ofPart? spaced = Requirement.ofPart? part := by
  cases isSpaced with
  | around before after =>
    apply Requirement.ofPart?_congr
    rw [after.trimChars_append_right, before.trimChars_append]
  | entry unequal before after =>
    have free := List.not_mem_append unequal (before.notMem (by decide))
    rw [Requirement.ofPart?_entry free, Requirement.ofPart?_entry unequal,
      before.trimChars_append_right, after.trimChars_append]

/-- One way in which the parts of a selector may be changed. -/
inductive Respelled : List (List Char) → List (List Char) → Prop where
  | reordered {parts others : List (List Char)} : parts.Perm others → Respelled parts others
  | repeated {part : List Char} {parts : List (List Char)} : part ∈ parts →
      Respelled parts (part :: parts)
  | blank {part : List Char} {parts : List (List Char)} : Text.Blanks part →
      Respelled parts (part :: parts)
  | spaced {part spaced : List Char} {parts : List (List Char)} : Spaced part spaced →
      Respelled (part :: parts) (spaced :: parts)

/-- A change of spelling leaves the set of requirements as it is. -/
theorem Respelled.same_requirements {parts others : List (List Char)}
    (respelled : Respelled parts others) (requirement : Requirement) :
    requirement ∈ parts.filterMap Requirement.ofPart? ↔
      requirement ∈ others.filterMap Requirement.ofPart? := by
  cases respelled with
  | reordered perm => exact (perm.filterMap _).mem_iff
  | repeated mem =>
    simp only [List.mem_filterMap, List.mem_cons]
    constructor
    · rintro ⟨part, isPart, asks⟩
      exact ⟨part, .inr isPart, asks⟩
    · rintro ⟨part, rfl | isPart, asks⟩
      · exact ⟨part, mem, asks⟩
      · exact ⟨part, isPart, asks⟩
  | blank blanks => rw [List.filterMap_cons_none (Requirement.ofPart?_of_blanks blanks)]
  | spaced isSpaced => rw [List.filterMap_cons, List.filterMap_cons, isSpaced.ofPart?_eq]

/-- Selectors with the same parts up to their order and number, blank parts and blanks. -/
def AlikeSelectors (selector other : String) : Prop :=
  Relation.EqvGen Respelled (selectorParts selector) (selectorParts other)

theorem same_requirements_of_eqvGen {parts others : List (List Char)}
    (respelled : Relation.EqvGen Respelled parts others) (requirement : Requirement) :
    requirement ∈ parts.filterMap Requirement.ofPart? ↔
      requirement ∈ others.filterMap Requirement.ofPart? := by
  induction respelled with
  | rel parts others step => exact step.same_requirements requirement
  | refl parts => exact Iff.rfl
  | symm parts others _ ih => exact ih.symm
  | trans parts others more _ _ first second => exact first.trans second

theorem AlikeSelectors.same_requirements {selector other : String}
    (alike : AlikeSelectors selector other) (requirement : Requirement) :
    requirement ∈ requirements selector ↔ requirement ∈ requirements other :=
  same_requirements_of_eqvGen alike requirement

/-- **A selector is the conjunction of its parts.** Labels match two selectors joined by a comma
exactly when they match both, and nothing else about the way in which a selector is written
makes a difference. Absent labels count as none, and a label under a new key never undoes a
match. -/
theorem selector_conjunctive :
    (∀ (labels : Option Labels) (first second : String),
      matchesSelector labels (first ++ "," ++ second) = true ↔
        matchesSelector labels first = true ∧ matchesSelector labels second = true) ∧
    (∀ (labels : Option Labels) (selector other : String), AlikeSelectors selector other →
      matchesSelector labels selector = matchesSelector labels other) ∧
    (∀ selector, matchesSelector none selector = matchesSelector (some .empty) selector) ∧
    (∀ (labels : Labels) (key value selector : String), labels.get? key = none →
      matchesSelector (some labels) selector = true →
      matchesSelector (some (labels.insert key value)) selector = true) := by
  refine ⟨?_, ?_, ?_, ?_⟩
  · intro labels first second
    simp only [matchesSelector_iff, requirements_append, List.mem_append]
    constructor
    · intro all
      exact ⟨fun requirement mem => all requirement (.inl mem),
        fun requirement mem => all requirement (.inr mem)⟩
    · rintro ⟨left, right⟩ requirement (mem | mem)
      · exact left requirement mem
      · exact right requirement mem
  · intro labels selector other alike
    rw [Bool.eq_iff_iff, matchesSelector_iff, matchesSelector_iff]
    simp only [alike.same_requirements]
  · exact matchesSelector_none
  · intro labels key value selector isNew isMatch
    rw [matchesSelector_iff] at isMatch ⊢
    intro requirement mem
    exact (isMatch requirement mem).insert isNew

/-- Two parts in the other order, one of them twice, with blanks and a blank part. -/
theorem selector_conjunctive_respelled :
    let labels : Labels := .ofList [("component", "web"), ("tier", "")]
    let spelling := " tier , ,component = web,component=web"
    AlikeSelectors "component=web,tier" spelling ∧
      matchesSelector (some labels) spelling = true ∧ labels.get? "zone" = none ∧
      matchesSelector (some (labels.insert "zone" "a")) spelling = true := by
  intro labels spelling
  obtain ⟨conjoins, respells, -, grows⟩ := selector_conjunctive
  have alike : AlikeSelectors "component=web,tier" spelling := by
    let plain := "component=web".toList
    let wide := "component = web".toList
    have repeated : Respelled [plain, "tier".toList] [plain, plain, "tier".toList] :=
      .repeated List.mem_cons_self
    have widened : Respelled [plain, plain, "tier".toList] [wide, plain, "tier".toList] :=
      .spaced (@Spaced.entry "component".toList [' '] [' '] "web".toList (by decide) (by decide)
        (by decide))
    have turned : Respelled [wide, plain, "tier".toList] ["tier".toList, wide, plain] :=
      .reordered (by decide)
    have surrounded : Respelled ["tier".toList, wide, plain] [" tier ".toList, wide, plain] :=
      .spaced (@Spaced.around [' '] "tier".toList [' '] (by decide) (by decide))
    have filled : Respelled [" tier ".toList, wide, plain]
        [" ".toList, " tier ".toList, wide, plain] :=
      .blank (by decide)
    have placed : Respelled [" ".toList, " tier ".toList, wide, plain]
        (selectorParts spelling) :=
      .reordered (by decide)
    exact (Relation.EqvGen.rel _ _ repeated).trans _ _ _ <|
      (Relation.EqvGen.rel _ _ widened).trans _ _ _ <|
      (Relation.EqvGen.rel _ _ turned).trans _ _ _ <|
      (Relation.EqvGen.rel _ _ surrounded).trans _ _ _ <|
      (Relation.EqvGen.rel _ _ filled).trans _ _ _ (.rel _ _ placed)
  have isMatch : matchesSelector (some labels) "component=web,tier" = true :=
    (conjoins (some labels) "component=web" "tier").mpr ⟨by decide, by decide⟩
  have spelled : matchesSelector (some labels) spelling = true :=
    (respells (some labels) _ _ alike).symm.trans isMatch
  have isNew : labels.get? "zone" = none := by decide
  exact ⟨alike, spelled, isNew, grows labels "zone" "a" spelling isNew spelled⟩

end DevfilePush
