import LayeredConfig.Document

/-! A place in a YAML text with its line and column, and the steps from it. -/

namespace LayeredConfig.Document.Yaml

structure Cursor where
  rest : List Char
  index : Nat
  line : Nat
  column : Nat

def isBreak (c : Char) : Bool :=
  c == '\n' || c == '\r' || c.val == 0x85 || c.val == 0x2028 || c.val == 0x2029

def endsLine (c? : Option Char) : Bool := c?.all isBreak

def endsWord (c? : Option Char) : Bool := c?.all fun c => c == ' ' || c == '\t' || isBreak c

def byteOrderMark : Char := '\ufeff'

namespace Cursor

def start (cs : List Char) : Cursor := ⟨cs, 0, 0, 0⟩

def step (k : Cursor) : Cursor :=
  match k.rest with
  | [] => k
  | c :: cs =>
    if isBreak c && !(c == '\r' && cs.head? == some '\n') then ⟨cs, k.index + 1, k.line + 1, 0⟩
    else ⟨cs, k.index + 1, k.line, if c = byteOrderMark then k.column else k.column + 1⟩

def steps : Nat → Cursor → Cursor
  | 0, k => k
  | n + 1, k => steps n k.step

def atSeparator (k : Cursor) : Bool :=
  let three := k.rest.take 3
  (three == ['-', '-', '-'] || three == ['.', '.', '.']) && endsWord k.rest[3]?

end Cursor

abbrev Scan (α : Type) := StateT Cursor (Except Fault) α

namespace Scan

variable {α : Type}

def fail (complaint : String) : Scan α := fun _ => .error (.malformed complaint)

def cursor : Scan Cursor := fun k => .ok (k, k)

def peekAt? (n : Nat) : Scan (Option Char) := fun k => .ok (k.rest[n]?, k)

def peek? : Scan (Option Char) := fun k => .ok (k.rest.head?, k)

def skip (n : Nat) : Scan Unit := fun k => .ok ((), k.steps n)

def takeWhile (p : Char → Bool) : Scan (List Char) := fun k =>
  let cs := k.rest.takeWhile p
  .ok (cs, k.steps cs.length)

def skipWhile (p : Char → Bool) : Scan Unit := do
  let _ ← takeWhile p
  return

def skipIndent (column : Nat) : Scan Unit := fun k =>
  let blanks := (k.rest.takeWhile (· == ' ')).length
  .ok ((), k.steps (min blanks (column - k.column)))

def lineBreak : Scan (List Char) := fun k =>
  match k.rest with
  | '\r' :: '\n' :: _ => .ok (['\n'], k.steps 2)
  | c :: _ =>
    if c.val = 0x2028 ∨ c.val = 0x2029 then .ok ([c], k.step)
    else if isBreak c then .ok (['\n'], k.step)
    else .ok ([], k)
  | [] => .ok ([], k)

def expectBlank : Scan Unit := do
  let next ← peek?
  unless endsLine next || next = some ' ' do fail "expected a blank"

def restOfLine : Scan Unit := do
  skipWhile (· == ' ')
  if (← peek?) = some '#' then skipWhile (!isBreak ·)
  unless endsLine (← peek?) do fail "expected the end of the line"
  let _ ← lineBreak
  return

def fuel : Scan Nat := fun k => .ok (k.rest.length + 1, k)

end Scan

end LayeredConfig.Document.Yaml
