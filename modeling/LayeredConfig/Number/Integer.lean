import LayeredConfig.Text.Blank
import LayeredConfig.Text.Digit
import LayeredConfig.Text.Quoted

/-! Integers written with digits of base 2, 8, 10 or 16. Digits of any script count; a decimal
literal has at most 4300 of them. -/

namespace LayeredConfig.Number.Integer

open Text

inductive Fault
  /-- The base is the one the text was read in, or 0 when its own mark was to choose it. -/
  | malformed (base : Nat) (text : String)
  | tooLong (digits : Nat)
  | unwritable
  deriving DecidableEq

def maxDigits : Nat := 4300

def Fault.message : Fault → String
  | malformed base text =>
    "invalid literal for int() with base " ++ toString base ++ ": " ++
      String.ofList ((quote text).toList.take 200)
  | tooLong digits =>
    "Exceeds the limit (" ++ toString maxDigits ++ " digits) for integer string conversion: value has "
      ++ toString digits ++ " digits; use sys.set_int_max_str_digits() to increase the limit"
  | unwritable =>
    "Exceeds the limit (" ++ toString maxDigits ++
      " digits) for integer string conversion; use sys.set_int_max_str_digits() to increase the limit"

def digitValue? (base : Nat) (c : Char) : Option Nat :=
  let v :=
    if c.isDigit then c.toNat - 0x30
    else if 'a' ≤ c ∧ c ≤ 'z' then c.toNat - 0x61 + 10
    else if 'A' ≤ c ∧ c ≤ 'Z' then c.toNat - 0x41 + 10
    else base
  if v < base then some v else none

def value (base : Nat) (cs : List Char) : Nat :=
  cs.foldl (fun n c => n * base + (digitValue? base c).getD 0) 0

def isPadding (c : Char) : Bool :=
  if c.val < 0x80 then c == ' ' || (0x09 ≤ c.toNat && c.toNat ≤ 0x0d) else isBlank c

def sign : List Char → Bool × List Char
  | '-' :: cs => (true, cs)
  | '+' :: cs => (false, cs)
  | cs => (false, cs)

def dropMark (base : Nat) : List Char → List Char
  | '0' :: m :: cs =>
    if (base = 16 ∧ (m = 'x' ∨ m = 'X')) ∨ (base = 8 ∧ (m = 'o' ∨ m = 'O')) ∨
        (base = 2 ∧ (m = 'b' ∨ m = 'B')) then cs
    else '0' :: m :: cs
  | cs => cs

inductive Unread
  | notDigits
  | tooLong (digits : Nat)

def readSigned (base : Nat) (cs : List Char) : Except Unread Int :=
  let (negative, cs) := sign ((cs.map asciiDigit).dropWhile isPadding)
  let cs := dropMark base cs
  let digits := cs.takeWhile fun c => (digitValue? base c).isSome
  if digits.isEmpty then .error .notDigits
  else if base = 10 ∧ maxDigits < digits.length then .error (.tooLong digits.length)
  else if (cs.drop digits.length).all isPadding then
    let n : Int := value base digits
    .ok (if negative then -n else n)
  else .error .notDigits

def Unread.toFault (base : Nat) (text : String) : Unread → Fault
  | notDigits => .malformed base text
  | tooLong n => .tooLong n

def readDecimal (s : String) : Except Fault Int :=
  (readSigned 10 s.toList).mapError (Unread.toFault 10 s)

def markedBase : List Char → Option Nat
  | '0' :: m :: _ =>
    if m = 'x' ∨ m = 'X' then some 16
    else if m = 'o' ∨ m = 'O' then some 8
    else if m = 'b' ∨ m = 'B' then some 2
    else none
  | _ => none

/-- Reads a literal in the base that its mark names, after any signs, and in base ten if it
has no mark. -/
def readMarked (s : String) : Except Fault Int :=
  match markedBase (s.toList.dropWhile fun c => c == '+' || c == '-') with
  | some base => (readSigned base s.toList).mapError (Unread.toFault 0 s)
  | none => readDecimal s

def text (n : Int) : String := toString n

def isWritable (n : Int) : Bool := n.natAbs < Nat.pow 10 maxDigits

end LayeredConfig.Number.Integer
