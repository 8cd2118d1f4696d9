import HeaderRecovery.Text.Blank

/-! Templates of the standard library whose last arguments have defaults. -/
namespace HeaderRecovery.Cleanup

inductive Container where
  | vector | list | deque | queue | uniquePtr | set | unorderedSet | map | unorderedMap
  deriving DecidableEq, Repr

namespace Container

def name : Container → String
  | vector => "vector"
  | list => "list"
  | deque => "deque"
  | queue => "queue"
  | uniquePtr => "unique_ptr"
  | set => "set"
  | unorderedSet => "unordered_set"
  | map => "map"
  | unorderedMap => "unordered_map"

def all : List Container :=
  [vector, list, deque, queue, uniquePtr, set, unorderedSet, map, unorderedMap]

/-- A template of the standard library applied to arguments. -/
def standard (template arguments : String) : String := "std::" ++ template ++ "<" ++ arguments ++ ">"

def allocator (element : String) : String := standard "allocator" element

/-- The allocators of a map: its entries have a constant key, which has two spellings. -/
def entryAllocators (key value : String) : List String :=
  [allocator (standard "pair" ("const " ++ key ++ ", " ++ value)),
   allocator (standard "pair" (key ++ " const, " ++ value))]

/-- How many arguments have no default. -/
def required : Container → Nat
  | map | unorderedMap => 2
  | _ => 1

/-- The lists of default arguments behind the required ones, in all their spellings. -/
def defaults (container : Container) (required : List String) : List (List String) :=
  match container, required with
  | vector, [a] | list, [a] | deque, [a] => [[allocator a]]
  | queue, [a] => [[standard "deque" a]]
  | uniquePtr, [a] => [[standard "default_delete" a]]
  | set, [a] => [[standard "less" a, allocator a]]
  | unorderedSet, [a] => [[standard "hash" a, standard "equal_to" a, allocator a]]
  | map, [key, value] => (entryAllocators key value).map fun x => [standard "less" key, x]
  | unorderedMap, [key, value] =>
    (entryAllocators key value).map fun x => [standard "hash" key, standard "equal_to" key, x]
  | _, _ => []

end Container

/-- A spelling without its blanks. -/
def dense (spelling : String) : List Char := spelling.toList.filter fun c => !Text.isBlank c

/-- Whether two spellings differ in blanks only. -/
def sameSpelling (a b : String) : Bool := dense a = dense b

/-- The required arguments, when there are others and these are the defaults. -/
def shortened? (container : Container) (arguments : List String) : Option (List String) :=
  let kept := arguments.take container.required
  let rest := arguments.drop container.required
  if rest ≠ [] && (container.defaults kept).any fun defaults =>
      defaults.length = rest.length && (defaults.zip rest).all fun (a, b) => sameSpelling a b
  then some kept else none

end HeaderRecovery.Cleanup
