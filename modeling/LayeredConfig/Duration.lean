import LayeredConfig.Number.Binary64
import LayeredConfig.Text.Blank
import LayeredConfig.Text.Digit
import LayeredConfig.Text.Quoted

/-! Durations written as an amount and a unit. The amount is read as a binary number; its whole
part counts exactly, its fraction is multiplied by the unit in binary arithmetic, and the result
is rounded to the nearest microsecond, a half to the even one. -/

namespace LayeredConfig.Duration

open Number Text

inductive Unit
  | millisecond
  | second
  | minute
  | hour
  | day
  deriving DecidableEq

def Unit.microseconds : Unit → Nat
  | millisecond => 1000
  | second => 1000000
  | minute => 60000000
  | hour => 3600000000
  | day => 86400000000

inductive Fault
  /-- The long s counts as an s where the unit is looked for, and is then no unit. -/
  | unknownUnit (unit : String)
  | infinite
  | tooManyDays (days : Int)
  deriving DecidableEq

def maxDays : Int := 999999999

def Fault.message : Fault → String
  | unknownUnit u => quote u
  | infinite => "cannot convert float infinity to integer"
  | tooManyDays d =>
    if d < 0x80000000 then
      "days=" ++ toString d ++ "; must have magnitude <= " ++ toString maxDays
    else "Python int too large to convert to C int"

structure Written where
  amount : List Char
  unit : List Char

def isUnitLetter (letter : Char) (c : Char) : Bool :=
  c.toLower == letter || (letter == 's' && c.toNat == 0x17f)

def unitLetters : List Char → List Char × List Char
  | c :: d :: cs =>
    if isUnitLetter 'm' c && isUnitLetter 's' d then ([c, d], cs)
    else if ['s', 'm', 'h', 'd'].any (isUnitLetter · c) then ([c], d :: cs)
    else ([], c :: d :: cs)
  | [c] => if ['s', 'm', 'h', 'd'].any (isUnitLetter · c) then ([c], []) else ([], [c])
  | [] => ([], [])

def written? (cs : List Char) : Option Written :=
  let cs := trimStart cs
  let whole := cs.takeWhile isDecimal
  let rest := cs.drop whole.length
  let fraction := match rest with
    | '.' :: r => if (r.takeWhile isDecimal).isEmpty then [] else '.' :: r.takeWhile isDecimal
    | _ => []
  let (unit, rest) := unitLetters (trimStart (rest.drop fraction.length))
  if whole.isEmpty || !rest.all isBlank then none else some ⟨whole ++ fraction, unit⟩

def unit? (cs : List Char) : Option Unit :=
  match String.ofList (cs.map Char.toLower) with
  | "" => some .second
  | "ms" => some .millisecond
  | "s" => some .second
  | "m" => some .minute
  | "h" => some .hour
  | "d" => some .day
  | _ => none

def microseconds? (unit : Unit) : Binary64 → Option Nat
  | .finite _ m e =>
    let num := Binary64.numerator m e
    let den := Binary64.denominator e
    let fraction := Binary64.round false (unit.microseconds * (num % den)) den
    let part := match fraction with
      | .finite _ m e => Binary64.roundDiv (Binary64.numerator m e) (Binary64.denominator e)
      | _ => 0
    some (num / den * unit.microseconds + part)
  | _ => none

def ofWritten (w : Written) : Except Fault Nat :=
  match unit? w.unit with
  | none => .error (.unknownUnit (String.ofList (w.unit.map Char.toLower)))
  | some unit =>
    match (Binary64.read? (String.ofList w.amount)).bind (microseconds? unit) with
    | none => .error .infinite
    | some n =>
      let days : Int := n / 86400000000
      if maxDays < days then .error (.tooManyDays days) else .ok n

def read (s : String) : Except Fault (Option Nat) :=
  match written? s.toList with
  | none => .ok none
  | some w => some <$> ofWritten w

end LayeredConfig.Duration
