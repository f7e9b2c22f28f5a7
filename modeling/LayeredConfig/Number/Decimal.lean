import LayeredConfig.Number.Power
import LayeredConfig.Text.Digit
import LayeredConfig.Text.Blank

/-! Decimal arithmetic's numbers: a coefficient with an exponent, infinities, and values that are
not numbers, with their scientific notation. -/

namespace LayeredConfig.Number

inductive Decimal
  | finite (negative : Bool) (coefficient : Nat) (exponent : Int)
  | infinite (negative : Bool)
  | nan (negative : Bool) (signaling : Bool) (payload : Nat)
  deriving DecidableEq, Inhabited

namespace Decimal

def maxExponent : Int := 999999999999999999

def minExponent : Int := -1999999999999999997

def digitCount (n : Nat) : Nat := (Nat.toDigits 10 n).length

def inRange (coefficient : Nat) (exponent : Int) : Bool :=
  minExponent ≤ exponent &&
    (if coefficient = 0 then exponent ≤ maxExponent
     else exponent + digitCount coefficient - 1 ≤ maxExponent)

def natOf (cs : List Char) : Nat := cs.foldl (fun n c => n * 10 + (c.toNat - 0x30)) 0

def exponentOf? : List Char → Option Int
  | [] => some 0
  | e :: cs =>
    if e != 'e' then none
    else
      let (down, cs) := match cs with
        | '-' :: r => (true, r)
        | '+' :: r => (false, r)
        | r => (false, r)
      if cs.isEmpty || !cs.all Char.isDigit then none
      else
        let n : Int := natOf cs
        some (if down then -n else n)

def readUnsigned? (negative : Bool) (cs : List Char) : Option Decimal :=
  let word := String.ofList (cs.takeWhile Char.isAlpha)
  let after := cs.dropWhile Char.isAlpha
  if word = "inf" ∨ word = "infinity" then
    if after.isEmpty then some (infinite negative) else none
  else if word = "nan" ∨ word = "snan" then
    if after.all Char.isDigit then some (nan negative (word = "snan") (natOf after)) else none
  else
    let whole := cs.takeWhile Char.isDigit
    let rest := cs.drop whole.length
    let (fraction, rest) := match rest with
      | '.' :: r => (r.takeWhile Char.isDigit, r.dropWhile Char.isDigit)
      | r => ([], r)
    if whole.isEmpty && fraction.isEmpty then none
    else do
      let e ← exponentOf? rest
      let c := natOf (whole ++ fraction)
      let e := e - fraction.length
      if inRange c e then some (finite negative c e) else none

def read? (s : String) : Option Decimal :=
  let cs := (Text.trim s.toList).filter (· != '_')
  match cs.map fun c => (Text.asciiDigit c).toLower with
  | '-' :: r => readUnsigned? true r
  | '+' :: r => readUnsigned? false r
  | r => readUnsigned? false r

def signText (negative : Bool) : String := if negative then "-" else ""

def text : Decimal → String
  | infinite negative => signText negative ++ "Infinity"
  | nan negative signaling payload =>
    signText negative ++ (if signaling then "sNaN" else "NaN") ++
      (if payload = 0 then "" else toString payload)
  | finite negative c e =>
    let ds := Nat.toDigits 10 c
    let lead : Int := ds.length + e
    let body :=
      if e ≤ 0 && -6 ≤ lead - 1 then
        if e = 0 then ds
        else if lead ≤ 0 then '0' :: '.' :: (List.replicate (-lead).toNat '0' ++ ds)
        else ds.take lead.toNat ++ '.' :: ds.drop lead.toNat
      else
        let x := lead - 1
        let tail := ds.drop 1
        ds.take 1 ++ (if tail.isEmpty then [] else '.' :: tail) ++
          'E' :: (if x < 0 then '-' else '+') :: Nat.toDigits 10 x.natAbs
    signText negative ++ String.ofList body

def isNaN : Decimal → Bool
  | nan .. => true
  | _ => false

def isSignaling : Decimal → Bool
  | nan _ s _ => s
  | _ => false

def aligned (c d : Nat) (e f : Int) : Nat × Nat :=
  (c * power 10 (e - f), d * power 10 (f - e))

/-- Where the first digit stands; values whose first digits stand apart differ by that alone. -/
def lead (c : Nat) (e : Int) : Int := digitCount c + e

def compareMagnitude (c d : Nat) (e f : Int) : Ordering :=
  if c = 0 ∨ d = 0 then compare (min c 1) (min d 1)
  else if lead c e = lead d f then
    let (a, b) := aligned c d e f
    compare a b
  else compare (lead c e) (lead d f)

def compareNumbers (x y : Decimal) : Ordering :=
  match x, y with
  | infinite a, infinite b => compare b a
  | infinite a, _ => if a then .lt else .gt
  | _, infinite b => if b then .gt else .lt
  | finite a c e, finite b d f =>
    if c = 0 ∧ d = 0 then .eq
    else if c = 0 then (if b then .gt else .lt)
    else if d = 0 then (if a then .lt else .gt)
    else if a != b then (if a then .lt else .gt)
    else if a then compareMagnitude d c f e else compareMagnitude c d e f
  | _, _ => .eq

end Decimal

end LayeredConfig.Number
