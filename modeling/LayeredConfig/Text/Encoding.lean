/-! Text as bytes, in units of eight, sixteen or thirty-two bits. -/

namespace LayeredConfig.Text

inductive ByteOrder
  | little
  | big
  deriving DecidableEq

inductive Encoding
  | utf8
  | utf16 (order : ByteOrder)
  | utf32 (order : ByteOrder)
  deriving DecidableEq

namespace Encoding

def number (order : ByteOrder) (bytes : List UInt8) : Nat :=
  (match order with | .big => bytes | .little => bytes.reverse).foldl
    (fun (n : Nat) (b : UInt8) => n * 256 + b.toNat) 0

def units16 (order : ByteOrder) : List UInt8 → Option (List Nat)
  | [] => some []
  | a :: b :: rest => (units16 order rest).map (number order [a, b] :: ·)
  | _ => none

def units32 (order : ByteOrder) : List UInt8 → Option (List Nat)
  | [] => some []
  | a :: b :: c :: d :: rest => (units32 order rest).map (number order [a, b, c, d] :: ·)
  | _ => none

def isHigh (n : Nat) : Bool := 0xd800 ≤ n && n < 0xdc00

def isLow (n : Nat) : Bool := 0xdc00 ≤ n && n < 0xe000

def paired (high low : Nat) : Nat := 0x10000 + (high - 0xd800) * 0x400 + (low - 0xdc00)

def char? (n : Nat) : Option Char := if n.isValidChar then some (Char.ofNat n) else none

def ofUnits16 : List Nat → Option (List Char)
  | [] => some []
  | [n] => (char? n).map ([·])
  | n :: m :: rest =>
    if isHigh n && isLow m then (ofUnits16 rest).map (Char.ofNat (paired n m) :: ·)
    else do
      let c ← char? n
      return c :: (← ofUnits16 (m :: rest))

def decode? (e : Encoding) (bytes : ByteArray) : Option (List Char) :=
  match e with
  | utf8 => (String.fromUTF8? bytes).map String.toList
  | utf16 order => (units16 order bytes.toList).bind ofUnits16
  | utf32 order => (units32 order bytes.toList).bind (·.mapM char?)

def marked? : List UInt8 → Option (Encoding × Nat)
  | 0xff :: 0xfe :: 0x00 :: 0x00 :: _ => some (utf32 .little, 4)
  | 0x00 :: 0x00 :: 0xfe :: 0xff :: _ => some (utf32 .big, 4)
  | 0xff :: 0xfe :: _ => some (utf16 .little, 2)
  | 0xfe :: 0xff :: _ => some (utf16 .big, 2)
  | 0xef :: 0xbb :: 0xbf :: _ => some (utf8, 3)
  | _ => none

def byZeros : List UInt8 → Encoding
  | 0 :: 0 :: _ :: _ :: _ => utf32 .big
  | 0 :: _ :: _ :: _ :: _ => utf16 .big
  | _ :: 0 :: 0 :: 0 :: _ => utf32 .little
  | _ :: 0 :: _ :: _ :: _ => utf16 .little
  | [0, _] => utf16 .big
  | [_, 0] => utf16 .little
  | _ => utf8

end Encoding

end LayeredConfig.Text
