/-! Lines and columns of a text, both counted from one. Columns count bytes. -/
namespace HeaderRecovery.Text

/-- The stretches up to and with each line feed, and what stands behind the last one. -/
def segments : List Char → List (List Char)
  | [] => []
  | c :: rest =>
    if c = '\n' then [c] :: segments rest
    else match segments rest with
      | [] => [[c]]
      | next :: others => (c :: next) :: others

def byteLength (cs : List Char) : Nat := cs.foldl (fun n c => n + c.utf8Size) 0

structure Position where
  line : Nat
  column : Nat
  deriving DecidableEq, Repr

/-- The position of a byte, where the first segment starts at `start` and is the line `line`. -/
def locate (offset : Nat) : Nat → Nat → List (List Char) → Position
  | start, line, [] => ⟨line, offset - start + 1⟩
  | start, line, segment :: rest =>
    let stop := start + byteLength segment
    if offset < stop then ⟨line, offset - start + 1⟩ else locate offset stop (line + 1) rest

/-- The position of the byte at `offset`. The end of a text counts as a line of its own, also
where no line feed ends the line before. -/
def position (text : String) (offset : Nat) : Position :=
  locate offset 0 1 (segments text.toList)

end HeaderRecovery.Text
