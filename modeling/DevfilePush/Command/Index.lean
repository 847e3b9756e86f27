import DevfilePush.Devfile.Basic

/-!
Following references from command to command.

Composite commands name others by id in any letter case. Whoever follows such names
keeps the keys on the path from the start; since a key is never entered twice, the
keys not yet on the path (`Devfile.unvisited`) run out, and the walk ends however the
commands refer to each other.
-/

namespace DevfilePush

namespace Devfile

/-- The keys of all commands. -/
def commandKeys (devfile : Devfile) : List String :=
  devfile.commands.map Command.key

/-- The number of commands whose keys are not on `path`. -/
def unvisited (devfile : Devfile) (path : List String) : Nat :=
  devfile.commandKeys.countP fun key => key ∉ path

theorem key_of_commandByKey? {devfile : Devfile} {key : String} {command : Command}
    (found : devfile.commandByKey? key = some command) : command.key = key := by
  simpa using List.find?_some found

theorem mem_of_commandByKey? {devfile : Devfile} {key : String} {command : Command}
    (found : devfile.commandByKey? key = some command) : command ∈ devfile.commands := by
  simpa using List.mem_of_find?_eq_some found

theorem mem_commandKeys_of_commandByKey? {devfile : Devfile} {key : String} {command : Command}
    (found : devfile.commandByKey? key = some command) : key ∈ devfile.commandKeys :=
  List.mem_map.mpr ⟨command, mem_of_commandByKey? found, key_of_commandByKey? found⟩

/-- A stronger condition that one member fails holds of fewer members. -/
theorem countP_lt {α : Type} {p q : α → Bool} {items : List α}
    (stronger : ∀ item, p item = true → q item = true) {lost : α} (mem : lost ∈ items)
    (kept : q lost = true) (dropped : p lost = false) : items.countP p < items.countP q := by
  induction items with
  | nil => simp at mem
  | cons first rest ih =>
    rcases List.mem_cons.mp mem with rfl | mem
    · have : rest.countP p ≤ rest.countP q :=
        List.countP_mono_left fun item _ => stronger item
      simp only [List.countP_cons, kept, dropped]
      simpa using Nat.lt_succ_of_le this
    · have := ih mem
      simp only [List.countP_cons]
      cases hp : p first
      · simp
        omega
      · simp [stronger first hp]
        omega

/-- Entering a command that is not on the path leaves fewer to enter. -/
theorem unvisited_cons_lt {devfile : Devfile} {path : List String} {key : String}
    (known : key ∈ devfile.commandKeys) (fresh : key ∉ path) :
    devfile.unvisited (key :: path) < devfile.unvisited path := by
  refine countP_lt (fun item h => ?_) known ?_ ?_
  · simp only [List.mem_cons, not_or, decide_eq_true_eq] at h ⊢
    exact h.2
  · simpa using fresh
  · simp

end Devfile

end DevfilePush
