import DevfilePush.Text.Blank
import Mathlib.Data.List.DropRight

/-!
Edges and pieces of a text.

Trimming clears the edges of a text once and for all (`trimChars_trimChars`), and pieces that were
joined by a separator which none of them contains come apart again (`pieces_intercalate`).
-/

namespace DevfilePush.Text

variable {cs key value : List Char} {separator : Char}

/-! ### Edges -/

theorem dropWhile_eq_self_iff {p : Char → Bool} :
    cs.dropWhile p = cs ↔ ∀ c ∈ cs.head?, p c = false := by
  rw [List.dropWhile_eq_self_iff]
  cases cs with
  | nil => simp
  | cons c rest => simp

/-- Nothing is dropped exactly if the last character stays. -/
theorem dropTrailing_eq_self_iff {p : Char → Bool} :
    dropTrailing p cs = cs ↔ ∀ c ∈ cs.getLast?, p c = false := by
  rw [dropTrailing, List.reverse_eq_iff, dropWhile_eq_self_iff, List.head?_reverse]

/-- After the end has been cleared, nothing of the kind ends the text. -/
theorem getLast?_dropTrailing (p : Char → Bool) (cs : List Char) :
    ∀ c ∈ (dropTrailing p cs).getLast?, p c = false :=
  dropTrailing_eq_self_iff.mp (List.rdropWhile_idempotent p cs)

/-- What stands before a character that stays, stays. -/
theorem dropTrailing_append_cons {p : Char → Bool} (stays : p separator = false) :
    dropTrailing p (key ++ separator :: value) = key ++ separator :: dropTrailing p value := by
  simp only [dropTrailing, List.reverse_append, List.reverse_cons, List.append_assoc,
    List.dropWhile_append, List.dropWhile_cons, stays]
  split
  · rename_i isEmpty
    rw [List.isEmpty_iff.mp isEmpty]
    simp
  · simp

/-- A character that is not blank shields what is next to it. -/
theorem trimChars_append_cons (visible : isBlank separator = false) :
    trimChars (key ++ separator :: value) =
      key.dropWhile isBlank ++ separator :: dropTrailing isBlank value := by
  have leading : (key ++ separator :: value).dropWhile isBlank =
      key.dropWhile isBlank ++ separator :: value := by
    rw [List.dropWhile_append]
    split
    · rename_i isEmpty
      rw [List.isEmpty_iff.mp isEmpty, List.dropWhile_cons_of_neg (by simp [visible])]
      rfl
    · rfl
  rw [trimChars, leading, dropTrailing_append_cons visible]

/-- From the front, a character goes only if all of what follows it goes too. -/
theorem dropTrailing_cons {p : Char → Bool} (c : Char) (rest : List Char) :
    dropTrailing p (c :: rest) =
      if p c = true ∧ dropTrailing p rest = [] then [] else c :: dropTrailing p rest := by
  simp only [dropTrailing, List.reverse_cons, List.dropWhile_append, List.reverse_eq_nil_iff]
  by_cases cleared : rest.reverse.dropWhile p = []
  · cases blank : p c <;> simp [cleared, blank]
  · simp [cleared]

/-- The end may be cleared before the rest is trimmed. -/
theorem trimChars_dropTrailing : trimChars (dropTrailing isBlank cs) = trimChars cs := by
  induction cs with
  | nil => rfl
  | cons c rest ih =>
    unfold trimChars at ih ⊢
    cases blank : isBlank c with
    | true =>
      rw [dropTrailing_cons, List.dropWhile_cons_of_pos blank, ← ih]
      split
      · rename_i cleared
        rw [cleared.2]
      · rw [List.dropWhile_cons_of_pos blank]
    | false =>
      have stays : dropTrailing isBlank (c :: rest) = c :: dropTrailing isBlank rest := by
        simp [dropTrailing_cons, blank]
      have first : ∀ tail : List Char, (c :: tail).dropWhile isBlank = c :: tail := by
        intro tail
        simp [blank]
      rw [stays, first, first, ← stays]
      exact List.rdropWhile_idempotent isBlank _

/-- The start may be cleared as well. -/
theorem trimChars_dropWhile : trimChars (cs.dropWhile isBlank) = trimChars cs := by
  rw [trimChars, List.dropWhile_idempotent, trimChars]

/-- A text that has been trimmed has nothing left to be trimmed. -/
theorem trimChars_trimChars : trimChars (trimChars cs) = trimChars cs := by
  calc trimChars (trimChars cs)
      = trimChars (dropTrailing isBlank (cs.dropWhile isBlank)) := rfl
    _ = trimChars (cs.dropWhile isBlank) := trimChars_dropTrailing
    _ = trimChars cs := trimChars_dropWhile

theorem mem_of_mem_trimChars {c : Char} (mem : c ∈ trimChars cs) : c ∈ cs :=
  (List.dropWhile_suffix isBlank).subset ((dropTrailing_isPrefix _ _).subset mem)

/-- Characters that are all blank. -/
def Blanks (cs : List Char) : Prop :=
  ∀ c ∈ cs, isBlank c = true

instance (cs : List Char) : Decidable (Blanks cs) :=
  decidable_of_iff (cs.all isBlank = true) List.all_eq_true

namespace Blanks

variable {blanks : List Char} (areBlank : Blanks blanks)

include areBlank

/-- Blanks before a text make no difference to what is left of it, and neither do blanks after
it. -/
theorem trimChars_append : trimChars (blanks ++ cs) = trimChars cs := by
  rw [trimChars, List.dropWhile_append_of_pos areBlank, trimChars]

theorem dropTrailing_append : dropTrailing isBlank (cs ++ blanks) = dropTrailing isBlank cs := by
  have reversed : ∀ c ∈ blanks.reverse, isBlank c = true :=
    fun c mem => areBlank c (List.mem_reverse.mp mem)
  rw [dropTrailing, List.reverse_append, List.dropWhile_append_of_pos reversed, dropTrailing]

theorem trimChars_append_right : trimChars (cs ++ blanks) = trimChars cs := by
  rw [← trimChars_dropTrailing, areBlank.dropTrailing_append, trimChars_dropTrailing]

theorem trimChars_eq_nil : trimChars blanks = [] := by
  have alone : trimChars (blanks ++ []) = trimChars [] := areBlank.trimChars_append
  rwa [List.append_nil] at alone

/-- Among blanks there is no character that is visible. -/
theorem notMem (visible : isBlank separator = false) : separator ∉ blanks := by
  intro mem
  rw [areBlank separator mem] at visible
  cases visible

end Blanks

/-! ### Pieces -/

/-- The pieces are those that the library splits a list into. -/
theorem pieces_eq_splitOn : pieces separator cs = cs.splitOn separator := by
  induction cs with
  | nil => rfl
  | cons c rest ih =>
    have step : (c :: rest).splitOn separator =
        if c == separator then [] :: rest.splitOn separator
        else (rest.splitOn separator).modifyHead (c :: ·) :=
      List.splitOnP_cons_eq_if_modifyHead c rest
    rw [pieces, ih, step]
    by_cases same : c = separator
    · simp [same]
    · simp only [same, if_false, beq_iff_eq]
      cases split : rest.splitOn separator with
      | nil => exact absurd split (List.splitOnP_ne_nil _ _)
      | cons first others => rfl

theorem pieces_ne_nil : pieces separator cs ≠ [] := by
  rw [pieces_eq_splitOn]
  exact List.splitOnP_ne_nil _ _

/-- What does not contain the separator only lengthens the first piece. -/
theorem pieces_append (free : separator ∉ key) :
    pieces separator (key ++ cs) = (pieces separator cs).modifyHead (key ++ ·) := by
  induction key with
  | nil => cases isPieces : pieces separator cs <;> simp [isPieces]
  | cons c rest ih =>
    obtain ⟨ne, freeRest⟩ := not_or.mp (fun mem => free (List.mem_cons.mpr mem))
    have other : c ≠ separator := fun same => ne same.symm
    rw [List.cons_append, pieces, if_neg other, ih freeRest]
    cases isPieces : pieces separator cs with
    | nil => exact absurd isPieces pieces_ne_nil
    | cons first others => rfl

/-- The first separator ends the first piece. -/
theorem pieces_append_cons (free : separator ∉ key) :
    pieces separator (key ++ separator :: cs) = key :: pieces separator cs := by
  rw [pieces_append free]
  simp [pieces]

/-- Texts without the separator come apart as they were joined. There has to be one, since no text
and the empty text are joined to the same. -/
theorem pieces_intercalate {parts : List (List Char)} (free : ∀ part ∈ parts, separator ∉ part)
    (some : parts ≠ []) : pieces separator ([separator].intercalate parts) = parts := by
  rw [pieces_eq_splitOn, List.splitOn_intercalate separator free some]

/-- Texts with the separator between them are taken apart one by one. -/
theorem pieces_append_separator (cs others : List Char) :
    pieces separator (cs ++ separator :: others) =
      pieces separator cs ++ pieces separator others := by
  rw [pieces_eq_splitOn, pieces_eq_splitOn, pieces_eq_splitOn, List.splitOn_append_cons_self]

/-- No piece contains the separator. -/
theorem separator_notMem_of_mem_pieces {piece : List Char} (mem : piece ∈ pieces separator cs) :
    separator ∉ piece := by
  induction cs generalizing piece with
  | nil =>
    rw [List.mem_singleton.mp mem]
    exact List.not_mem_nil
  | cons c rest ih =>
    by_cases same : c = separator
    · rw [pieces, if_pos same] at mem
      rcases List.mem_cons.mp mem with rfl | mem
      · exact List.not_mem_nil
      · exact ih mem
    · rw [pieces, if_neg same] at mem
      cases isPieces : pieces separator rest with
      | nil => exact absurd isPieces pieces_ne_nil
      | cons first others =>
        rw [isPieces] at mem ih
        rcases List.mem_cons.mp mem with rfl | mem
        · intro mem
          rcases List.mem_cons.mp mem with rfl | mem
          · exact same rfl
          · exact ih List.mem_cons_self mem
        · exact ih (List.mem_cons_of_mem _ mem)

theorem splitFirst?_append_cons (free : separator ∉ key) :
    splitFirst? separator (key ++ separator :: value) = some (key, value) := by
  induction key with
  | nil => simp [splitFirst?]
  | cons c rest ih =>
    obtain ⟨ne, freeRest⟩ := not_or.mp (fun mem => free (List.mem_cons.mpr mem))
    have other : c ≠ separator := fun same => ne same.symm
    simp [splitFirst?, other, ih freeRest]

/-- A text is taken apart at its first separator. -/
theorem eq_append_of_splitFirst? (split : splitFirst? separator cs = some (key, value)) :
    separator ∉ key ∧ cs = key ++ separator :: value := by
  induction cs generalizing key with
  | nil => cases split
  | cons c rest ih =>
    by_cases same : c = separator
    · rw [splitFirst?, if_pos same] at split
      cases split
      exact ⟨List.not_mem_nil, by rw [same, List.nil_append]⟩
    · rw [splitFirst?, if_neg same] at split
      obtain ⟨⟨before, after⟩, found, parts⟩ := Option.map_eq_some_iff.mp split
      cases parts
      obtain ⟨free, whole⟩ := ih found
      refine ⟨List.not_mem_cons_of_ne_of_not_mem (Ne.symm same) free, ?_⟩
      rw [whole, List.cons_append]

theorem splitFirst?_eq_none_iff : splitFirst? separator cs = none ↔ separator ∉ cs := by
  induction cs with
  | nil => simp [splitFirst?]
  | cons c rest ih =>
    by_cases same : c = separator
    · simp [splitFirst?, same]
    · simp [splitFirst?, same, ih, Ne.symm same]

end DevfilePush.Text
