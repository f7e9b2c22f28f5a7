import LayeredConfig.Calendar
import LayeredConfig.Data
import LayeredConfig.Number.Integer

/-! What the readers of documents share: the faults they find, and reading from the front of a
text. -/

namespace LayeredConfig.Document

open Number

inductive Fault
  | malformed (complaint : String)
  | number (fault : Integer.Fault)
  | calendar (fault : Calendar.Fault)
  /-- The document is a mapping that leads back into itself, along values and items, and this is
  what a walk through it ends with. -/
  | endless (complaint : String)
  /-- A failure that says nothing about the text, under the reader's name for its kind. -/
  | foreign (kind text : String)

abbrev Decoder := ByteArray → Except Fault Data

abbrev Reader (α : Type) := StateT (List Char) (Except Fault) α

namespace Reader

variable {α : Type}

def fail (complaint : String) : Reader α := fun _ => .error (.malformed complaint)

def peek? : Reader (Option Char) := fun cs => .ok (cs.head?, cs)

def rest : Reader (List Char) := fun cs => .ok (cs, cs)

def skip (n : Nat) : Reader Unit := fun cs => .ok ((), cs.drop n)

def takeWhile (p : Char → Bool) : Reader (List Char) := fun cs =>
  .ok (cs.takeWhile p, cs.dropWhile p)

def skipWhile (p : Char → Bool) : Reader Unit := fun cs => .ok ((), cs.dropWhile p)

def accept (text : List Char) : Reader Bool := fun cs =>
  if text.isPrefixOf cs then .ok (true, cs.drop text.length) else .ok (false, cs)

def acceptChar (c : Char) : Reader Bool := accept [c]

def expect (c : Char) : Reader Unit := do
  unless ← acceptChar c do fail ("expected " ++ String.singleton c)

def runOn (r : Reader α) (cs : List Char) : Except Fault (α × List Char) := r.run cs

def integer (r : Except Integer.Fault Int) : Reader Data :=
  match r with
  | .ok n => pure (.integer n)
  | .error f => fun _ => .error (.number f)

end Reader

def isHexDigit (c : Char) : Bool :=
  c.isDigit || ('a' ≤ c && c ≤ 'f') || ('A' ≤ c && c ≤ 'F')

def natOf (base : Nat) (cs : List Char) : Nat := Integer.value base cs

def hexNumber (count : Nat) : Reader Nat := fun cs =>
  let digits := cs.take count
  if digits.length = count && digits.all isHexDigit then .ok (natOf 16 digits, cs.drop count)
  else .error (.malformed "bad hexadecimal digits")

end LayeredConfig.Document
