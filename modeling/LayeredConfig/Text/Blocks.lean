import LayeredConfig.Text.Encoding

/-! UTF-8 text that is decoded block by block, so that the text before a faulty block is known. A
character may begin in one block and end in the next. -/

namespace LayeredConfig.Text.Blocks

def one? (bytes : List UInt8) : Option Char :=
  match Encoding.utf8.decode? ⟨bytes.toArray⟩ with
  | some [c] => some c
  | _ => none

def front? (bytes : List UInt8) : Option (Char × List UInt8) :=
  [1, 2, 3, 4].findSome? fun n => (one? (bytes.take n)).map (·, bytes.drop n)

def decodable : Nat → List UInt8 → List Char × List UInt8
  | 0, bytes => ([], bytes)
  | fuel + 1, bytes =>
    match front? bytes with
    | some (c, rest) =>
      let (cs, left) := decodable fuel rest
      (c :: cs, left)
    | none => ([], bytes)

def isCut (bytes : List UInt8) : Bool :=
  [0x80, 0xbf].any fun b => [1, 2, 3].any fun n => (one? (bytes ++ List.replicate n b)).isSome

/-- The text of the blocks before the first faulty one; `held` is what the blocks so far left
over. -/
def readable (held : List UInt8) : List (List UInt8) → List Char
  | [] => []
  | block :: rest =>
    let bytes := held ++ block
    let (cs, left) := decodable bytes.length bytes
    if left.isEmpty || isCut left then cs ++ readable left rest else []

def blockSize : Nat := 8192

def ofBytes (bytes : ByteArray) : List (List UInt8) :=
  (List.range ((bytes.size + blockSize - 1) / blockSize)).map fun i =>
    (bytes.extract (i * blockSize) ((i + 1) * blockSize)).toList

end LayeredConfig.Text.Blocks
