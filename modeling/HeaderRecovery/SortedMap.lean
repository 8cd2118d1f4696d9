/-! Finite maps whose entries are listed in ascending order of their keys. -/
namespace HeaderRecovery

structure SortedMap (κ α : Type) where
  entries : List (κ × α)
  deriving Repr

namespace SortedMap

variable {κ α : Type} [LT κ] [DecidableLT κ] [DecidableEq κ]

def empty : SortedMap κ α := ⟨[]⟩

/-- Sets the value at a key in an ascending list to what `f` makes of the present one. -/
def alterEntries (key : κ) (f : Option α → α) : List (κ × α) → List (κ × α)
  | [] => [(key, f none)]
  | (k, a) :: rest =>
    if key < k then (key, f none) :: (k, a) :: rest
    else if key = k then (k, f (some a)) :: rest
    else (k, a) :: alterEntries key f rest

def alter (m : SortedMap κ α) (key : κ) (f : Option α → α) : SortedMap κ α :=
  ⟨alterEntries key f m.entries⟩

/-- Adds an entry unless its key has one. -/
def insertNew (m : SortedMap κ α) (key : κ) (a : α) : SortedMap κ α :=
  m.alter key fun present => present.getD a

omit [LT κ] [DecidableLT κ] in
def find? (m : SortedMap κ α) (key : κ) : Option α := m.entries.lookup key

omit [LT κ] [DecidableLT κ] [DecidableEq κ] in
def values (m : SortedMap κ α) : List α := m.entries.map (·.2)

omit [LT κ] [DecidableLT κ] [DecidableEq κ] in
def map {β : Type} (f : α → β) (m : SortedMap κ α) : SortedMap κ β :=
  ⟨m.entries.map fun e => (e.1, f e.2)⟩

end SortedMap
end HeaderRecovery
