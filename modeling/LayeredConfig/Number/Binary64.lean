import LayeredConfig.Number.Power
import LayeredConfig.Text.Digit

/-! Binary floating point of 64 bits, in exact arithmetic: rounding a quotient to the nearest
value, reading a decimal literal, and the fewest decimal digits that read back. -/

namespace LayeredConfig.Number

/-- A finite value is `mantissa * 2 ^ exponent`, with a mantissa below `2 ^ 53` and an exponent
of at least `-1074`; above that exponent the mantissa has all its 53 bits. -/
inductive Binary64
  | nan
  | infinite (negative : Bool)
  | finite (negative : Bool) (mantissa : Nat) (exponent : Int)
  deriving DecidableEq, Inhabited

namespace Binary64

def minExponent : Int := -1074

def maxExponent : Int := 971

def zero (negative : Bool) : Binary64 := finite negative 0 minExponent

def roundDiv (num den : Nat) : Nat :=
  let q := num / den
  let r := num % den
  if 2 * r < den then q
  else if den < 2 * r then q + 1
  else if q % 2 = 0 then q else q + 1

def floorLog2 (num den : Nat) : Int :=
  let k : Int := (num.log2 : Int) - den.log2
  if den * power 2 k ≤ num * power 2 (-k) then k else k - 1

def round (negative : Bool) (num den : Nat) : Binary64 :=
  if num = 0 then zero negative
  else
    let e := max minExponent (floorLog2 num den - 52)
    let m := roundDiv (num * power 2 (-e)) (den * power 2 e)
    let (m, e) := if m = power 2 53 then (power 2 52, e + 1) else (m, e)
    if maxExponent < e then infinite negative else finite negative m e

def ofDecimal (negative : Bool) (digits : Nat) (exponent : Int) : Binary64 :=
  if digits = 0 then zero negative
  else
    let size : Int := (Nat.toDigits 10 digits).length + exponent
    if 400 < size then infinite negative
    else if size < -400 then zero negative
    else round negative (digits * power 10 exponent) (power 10 (-exponent))

def numerator (mantissa : Nat) (exponent : Int) : Nat := mantissa * power 2 exponent

def denominator (exponent : Int) : Nat := power 2 (-exponent)

def toRat? : Binary64 → Option Rat
  | finite negative m e =>
    let x := mkRat (numerator m e) (denominator e)
    some (if negative then -x else x)
  | _ => none

def isNegative : Binary64 → Bool
  | nan => false
  | infinite n => n
  | finite n _ _ => n

def equal (x y : Binary64) : Bool :=
  match x, y with
  | infinite a, infinite b => a == b
  | finite .., finite .. => x.toRat? == y.toRat?
  | _, _ => false

def less (x y : Binary64) : Bool :=
  match x, y with
  | nan, _ | _, nan => false
  | infinite a, infinite b => a && !b
  | infinite a, finite .. => a
  | finite .., infinite b => !b
  | finite .., finite .. =>
    match x.toRat?, y.toRat? with
    | some p, some q => p < q
    | _, _ => false

def add (x y : Binary64) : Binary64 :=
  match x, y with
  | nan, _ | _, nan => nan
  | infinite a, infinite b => if a = b then infinite a else nan
  | infinite a, _ | _, infinite a => infinite a
  | finite a .., finite b .. =>
    match x.toRat?, y.toRat? with
    | some p, some q =>
      let s := p + q
      if s = 0 then zero (a && b) else round (s < 0) s.num.natAbs s.den
    | _, _ => nan

def mul (x y : Binary64) : Binary64 :=
  match x, y with
  | nan, _ | _, nan => nan
  | finite a m e, finite b n f =>
    round (a != b) (numerator m e * numerator n f) (denominator e * denominator f)
  | infinite a, finite b m _ | finite a m _, infinite b =>
    if m = 0 then nan else infinite (a != b)
  | infinite a, infinite b => infinite (a != b)

def ofNat (n : Nat) : Binary64 := round false n 1

def ofInt (n : Int) : Binary64 := round (n < 0) n.natAbs 1

def neg : Binary64 → Binary64
  | nan => nan
  | infinite n => infinite !n
  | finite n m e => finite (!n) m e

/-! ### Reading -/

def lowerWord (cs : List Char) : String := String.ofList (cs.map Char.toLower)

def readUnsigned? (negative : Bool) (cs : List Char) : Option Binary64 :=
  let whole := cs.takeWhile Char.isDigit
  let rest := cs.drop whole.length
  let (fraction, rest) := match rest with
    | '.' :: r => (r.takeWhile Char.isDigit, r.dropWhile Char.isDigit)
    | r => ([], r)
  let digits := (whole ++ fraction).foldl (fun n c => n * 10 + (c.toNat - 0x30)) 0
  let shift : Int := -(fraction.length : Int)
  if whole.isEmpty && fraction.isEmpty then none
  else match rest with
    | [] => some (ofDecimal negative digits shift)
    | e :: r =>
      if e != 'e' && e != 'E' then none
      else
        let (down, r) := match r with
          | '-' :: r => (true, r)
          | '+' :: r => (false, r)
          | r => (false, r)
        if r.isEmpty || !r.all Char.isDigit then none
        else
          let n : Int := r.foldl (fun n c => n * 10 + (c.toNat - 0x30)) (0 : Nat)
          some (ofDecimal negative digits (shift + if down then -n else n))

def dropUnderscores? : Bool → List Char → Option (List Char)
  | _, [] => some []
  | afterDigit, '_' :: c :: cs =>
    if afterDigit && c.isDigit then (dropUnderscores? true cs).map (c :: ·) else none
  | _, '_' :: [] => none
  | _, c :: cs => (dropUnderscores? c.isDigit cs).map (c :: ·)

def read? (s : String) : Option Binary64 := do
  let cs ← dropUnderscores? false (s.toList.map Text.asciiDigit)
  let (negative, cs) := match cs with
    | '-' :: r => (true, r)
    | '+' :: r => (false, r)
    | r => (false, r)
  match lowerWord cs with
  | "inf" | "infinity" => some (infinite negative)
  | "nan" => some nan
  | _ => readUnsigned? negative cs

/-! ### Writing -/

def floorAt (num den : Nat) (exponent : Int) : Nat :=
  num * power 10 (-exponent) / (den * power 10 exponent)

/-- Of the two neighbours of the value on the grid of `10 ^ exponent`, the nearer one that
reads back, or the other if only that one does. -/
def onGrid? (m : Nat) (e : Int) (exponent : Int) : Option Nat :=
  let num := numerator m e
  let den := denominator e
  let low := floorAt num den exponent
  let readsBack := fun c => ofDecimal false c exponent = finite false m e
  let twice := 2 * num * power 10 (-exponent)
  let middle := (2 * low + 1) * (den * power 10 exponent)
  let lowFirst := twice < middle || (twice == middle && low % 2 == 0)
  let (a, b) := if lowFirst then (low, low + 1) else (low + 1, low)
  if readsBack a then some a else if readsBack b then some b else none

def magnitude (m : Nat) (e : Int) : Int :=
  (Nat.toDigits 10 (floorAt (numerator m e) (denominator e) (-400))).length - 400

def shortest (m : Nat) (e : Int) : Nat × Int :=
  let size := magnitude m e
  let grids := (List.range 17).map fun (n : Nat) => size - ((n : Int) + 1)
  (grids.findSome? fun x => (onGrid? m e x).map (·, x)).getD (0, 0)

/-- How a value is laid out: positional for decimal exponents from `low` up to and without
`high`, otherwise with an exponent of at least two digits. -/
structure Layout where
  low : Int
  high : Int

def layout : Layout := ⟨-4, 16⟩

def stripZeros (cs : List Char) : List Char := (cs.reverse.dropWhile (· == '0')).reverse

def exponentText (x : Int) : List Char :=
  let d := Nat.toDigits 10 x.natAbs
  (if x < 0 then '-' else '+') :: (if d.length < 2 then '0' :: d else d)

def layOut (l : Layout) (digits : List Char) (exponent : Int) : List Char :=
  let lead : Int := digits.length + exponent
  let ds := stripZeros digits
  if l.low ≤ lead - 1 && lead - 1 < l.high then
    if lead ≤ 0 then '0' :: '.' :: (List.replicate (-lead).toNat '0' ++ ds)
    else
      let n := lead.toNat
      let whole := ds.take n ++ List.replicate (n - ds.length) '0'
      let fraction := ds.drop n
      whole ++ '.' :: (if fraction.isEmpty then ['0'] else fraction)
  else
    let tail := ds.drop 1
    ds.take 1 ++ (if tail.isEmpty then [] else '.' :: tail) ++ 'e' :: exponentText (lead - 1)

def text : Binary64 → String
  | nan => "nan"
  | infinite negative => if negative then "-inf" else "inf"
  | finite negative m e =>
    let body :=
      if m = 0 then ['0', '.', '0']
      else
        let (digits, exponent) := shortest m e
        layOut layout (Nat.toDigits 10 digits) exponent
    String.ofList (if negative then '-' :: body else body)

end Binary64

end LayeredConfig.Number
