import DevfilePush.Naming.Label

/-!
Handing out names, each at most once.

For a full name there is a sequence of candidates: the name cut to size, then the name
with a hash of itself, then with hashes of the name and a running number. The first one
that is not in use is handed out. If the candidates are different, one of the first ones
is free, of which there is one more than there are names in use (`firstFree?`). Hashes may
collide, so the search goes on after them (`search`); where it finds every candidate in
use it goes on for ever.
-/

namespace DevfilePush.Naming

/-- Names in use. -/
structure Allocator where
  used : List String
  deriving DecidableEq, Repr

namespace Allocator

/-- No name is in use. -/
def empty : Allocator := ⟨[]⟩

/-- Takes `name` out of what can be handed out. -/
def reserve (names : Allocator) (name : String) : Allocator :=
  ⟨name :: names.used⟩

/-- The candidate with the given number for a full name. -/
def candidate (hash : String → String) (full : String) : Nat → String
  | 0 => truncate full maxLength
  | 1 => hashed hash full maxLength
  | n + 2 => withSuffix full (hash (full ++ "#" ++ toString (n + 1))) maxLength

/-- The first candidate not in use, of `budget` candidates from number `start` on. -/
def firstFree? (hash : String → String) (names : Allocator) (full : String) :
    (budget start : Nat) → Option String
  | 0, _ => none
  | budget + 1, start =>
    let name := candidate hash full start
    if name ∈ names.used then firstFree? hash names full budget (start + 1) else some name

/-- The first candidate not in use, of all from number `start` on. A search that does not
end finds none. -/
def search (hash : String → String) (names : Allocator) (full : String) (start : Nat) :
    Option String :=
  let name := candidate hash full start
  if name ∈ names.used then names |>.search hash full (start + 1) else some name
partial_fixpoint

/-- The full name with a number after it, the first one not in use. -/
def numbered (names : Allocator) (full : String) : String :=
  let tries := (List.range (names.used.length + 1)).map fun n =>
    withSuffix full (toString n) maxLength
  (tries.find? fun name => name ∉ names.used).getD full

/-- A name for `full` that is not in use: the first free candidate. The numbered name stands
for what a search without end would give. -/
def freshName (hash : String → String) (names : Allocator) (full : String) : String :=
  let budget := names.used.length + 1
  match firstFree? hash names full budget 0 with
  | some name => name
  | none => (search hash names full budget).getD (names.numbered full)

/-- Hands out a name for `full`. -/
def allocate (hash : String → String) (names : Allocator) (full : String) : String × Allocator :=
  let name := freshName hash names full
  (name, names.reserve name)

end Allocator

end DevfilePush.Naming
