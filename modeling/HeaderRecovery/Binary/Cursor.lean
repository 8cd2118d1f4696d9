import HeaderRecovery.Number.Leb128

/-!
Reading numbers and byte strings off an array of bytes. A `Reader` starts at a cursor and either
fails or gives a value and the cursor behind it; it never looks at the cursor's end or beyond.
-/
namespace HeaderRecovery.Binary

/-- A place in `bytes` and the end up to which may be read. -/
structure Cursor where
  bytes : Array UInt8
  position : Nat
  stop : Nat
  /-- Numbers of fixed width have their highest byte first. -/
  bigEndian : Bool

namespace Cursor

def ofBytes (bytes : Array UInt8) (bigEndian : Bool) : Cursor := ⟨bytes, 0, bytes.size, bigEndian⟩

def remaining (c : Cursor) : Nat := c.stop - c.position

def atEnd (c : Cursor) : Bool := c.remaining = 0

/-- The next bytes, at most `n`. -/
def upcoming (c : Cursor) (n : Nat) : List UInt8 :=
  (c.bytes.extract c.position (min c.stop (c.position + n))).toList

def advance (c : Cursor) (n : Nat) : Cursor := { c with position := c.position + n }

end Cursor

abbrev Reader := StateT Cursor Option

namespace Reader

def fail {α : Type} : Reader α := fun _ => none

def ofOption {α : Type} (value : Option α) : Reader α := fun c => value.map (·, c)

def require (condition : Bool) : Reader Unit := if condition then pure () else fail

def byte : Reader UInt8 := fun c =>
  if c.position < c.stop then c.bytes[c.position]?.map (·, c.advance 1) else none

def skip (n : Nat) : Reader Unit := fun c =>
  if n ≤ c.remaining then some ((), c.advance n) else none

/-- The next `n` bytes to be read on their own. -/
def slice (n : Nat) : Reader Cursor := fun c =>
  if n ≤ c.remaining then some ({ c with stop := c.position + n }, c.advance n) else none

def bytes (n : Nat) : Reader (List UInt8) := fun c =>
  if n ≤ c.remaining then some (c.upcoming n, c.advance n) else none

/-- A number of which the lowest byte comes first. -/
def littleEndian : List UInt8 → Nat
  | [] => 0
  | b :: rest => b.toNat + 256 * littleEndian rest

/-- An unsigned number of `n` bytes. -/
def number (n : Nat) : Reader Nat := do
  let read ← bytes n
  return littleEndian (if (← get).bigEndian then read.reverse else read)

/-- The bytes before the next zero, which is passed as well. -/
def untilZero : Nat → Reader (List UInt8)
  | 0 => fail
  | fuel + 1 => do
    let b ← byte
    if b = 0 then return []
    return b :: (← untilZero fuel)

def zeroTerminated : Reader (List UInt8) := fun c => untilZero c.remaining c

/-- A number of variable length, read by `decode` from as many bytes as it can take. -/
def variableLength {α : Type} (width : Nat)
    (decode : Nat → List UInt8 → Option (α × List UInt8)) : Reader α := fun c =>
  let window := c.upcoming (Leb128.maxLength width)
  (decode width window).map fun (value, rest) =>
    (value, c.advance (window.length - rest.length))

def unsigned (width : Nat) : Reader Nat := variableLength width Leb128.unsigned?

def signed (width : Nat) : Reader Int := variableLength width Leb128.signed?

/-- A count or an offset: of `width` bytes, or else of variable length. -/
def count : Option Nat → Reader Nat
  | some width => number width
  | none => unsigned 64

/-- The answers of `step` up to its first `none`. -/
def manyUpTo {α : Type} (step : Reader (Option α)) : Nat → Reader (List α)
  | 0 => fail
  | fuel + 1 => do
    match ← step with
    | none => return []
    | some a => return a :: (← manyUpTo step fuel)

/-- The answers of `step` up to its first `none`, where each passes a byte at least: no more of
them than bytes are left. -/
def many {α : Type} (step : Reader (Option α)) : Reader (List α) := fun c =>
  manyUpTo step (c.remaining + 1) c

/-- `n` values in a row. -/
def times {α : Type} (step : Reader α) : Nat → Reader (List α)
  | 0 => return []
  | n + 1 => do
    let a ← step
    return a :: (← times step n)

/-- `n` values of which each takes a byte at least, so no more than the bytes left. -/
def repeated {α : Type} (step : Reader α) (n : Nat) : Reader (List α) := fun c =>
  if n ≤ c.remaining then times step n c else none

/-- The value that `reader` gives at the start of `c`. -/
def at? {α : Type} (reader : Reader α) (c : Cursor) : Option α := (reader c).map (·.1)

end Reader
end HeaderRecovery.Binary
