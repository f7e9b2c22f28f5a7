import LayeredConfig.Document

/-! The types that plain text takes from its form: null, truth values, numbers in several bases,
dates and times. All other text is text. -/

namespace LayeredConfig.Document.Yaml

open Number

inductive Form
  | null
  | boolean (b : Bool)
  | integer
  | real
  | moment
  | merge
  | default
  | text
  deriving DecidableEq

namespace Form

def unsigned : List Char → List Char
  | '+' :: cs | '-' :: cs => cs
  | cs => cs

def isNegative (cs : List Char) : Bool := cs.head? == some '-'

def some' (p : Char → Bool) (cs : List Char) : Bool := !cs.isEmpty && cs.all p

def orUnderscore (p : Char → Bool) (c : Char) : Bool := p c || c == '_'

def isRun : List Char → Bool
  | c :: cs => c.isDigit && cs.all (orUnderscore Char.isDigit)
  | [] => false

def sections : List Char → List (List Char)
  | [] => [[]]
  | ':' :: cs => [] :: sections cs
  | c :: cs =>
    match sections cs with
    | s :: ss => (c :: s) :: ss
    | [] => [[c]]

def isSixtieth : List Char → Bool
  | [d] => d.isDigit
  | [t, d] => '0' ≤ t && t ≤ '5' && d.isDigit
  | _ => false

def isInteger (cs : List Char) : Bool :=
  match unsigned cs with
  | '0' :: 'b' :: ds => some' (orUnderscore fun c => c == '0' || c == '1') ds
  | '0' :: 'x' :: ds => some' (orUnderscore isHexDigit) ds
  | ['0'] => true
  | '0' :: ds => ds.all (orUnderscore fun c => '0' ≤ c && c ≤ '7')
  | ds =>
    match sections ds with
    | [whole] => isRun whole
    | whole :: rest => isRun whole && rest.all isSixtieth
    | [] => false

def isExponent : List Char → Bool
  | [] => true
  | e :: s :: ds => (e == 'e' || e == 'E') && (s == '+' || s == '-') && some' Char.isDigit ds
  | _ => false

def isFraction (cs : List Char) : Bool :=
  isExponent (cs.dropWhile (orUnderscore Char.isDigit))

def infinities : List String := [".inf", ".Inf", ".INF"]

def nans : List String := [".nan", ".NaN", ".NAN"]

def isReal (cs : List Char) : Bool :=
  let ds := unsigned cs
  let whole := ds.takeWhile (· != '.')
  match ds.drop whole.length with
  | '.' :: fraction =>
    if whole.isEmpty then
      infinities.contains (String.ofList ds) || nans.contains (String.ofList cs) ||
        (ds.length == cs.length && fraction.head?.any Char.isDigit && isFraction fraction)
    else match sections whole with
      | [w] => isRun w && isFraction fraction
      | w :: rest =>
        isRun w && rest.all isSixtieth && fraction.all (orUnderscore Char.isDigit)
      | [] => false
  | _ => false

/-! ### Dates and times -/

structure Moment where
  year : List Char
  month : List Char
  day : List Char
  time : Option (List Char × List Char × List Char × List Char)
  zone : Option (Char × List Char × List Char)

def digits? (least most : Nat) (cs : List Char) : Option (List Char × List Char) :=
  let ds := (cs.take most).takeWhile Char.isDigit
  if least ≤ ds.length then some (ds, cs.drop ds.length) else none

def after? (c : Char) : List Char → Option (List Char)
  | d :: cs => if c = d then some cs else none
  | [] => none

def isBlank (c : Char) : Bool := c == ' ' || c == '\t'

def gap? (cs : List Char) : Option (List Char) :=
  match cs with
  | 'T' :: rest | 't' :: rest => some rest
  | _ => if cs.head?.any isBlank then some (cs.dropWhile isBlank) else none

def zone? (cs : List Char) : Option (Option (Char × List Char × List Char)) :=
  match cs.dropWhile isBlank with
  | [] => if cs.isEmpty then some none else none
  | ['Z'] => some (some ('Z', [], []))
  | s :: rest => do
    if s ≠ '+' ∧ s ≠ '-' then none
    else
      let (hours, rest) ← digits? 1 2 rest
      match rest with
      | [] => return some (s, hours, [])
      | ':' :: rest => do
        let (minutes, rest) ← digits? 2 2 rest
        if rest.isEmpty then return some (s, hours, minutes) else none
      | _ => none

def moment? (cs : List Char) : Option Moment := do
  let (year, cs) ← digits? 4 4 cs
  let (month, cs) ← digits? 1 2 (← after? '-' cs)
  let (day, cs) ← digits? 1 2 (← after? '-' cs)
  if cs.isEmpty then return ⟨year, month, day, none, none⟩
  let (hour, cs) ← digits? 1 2 (← gap? cs)
  let (minute, cs) ← digits? 2 2 (← after? ':' cs)
  let (second, cs) ← digits? 2 2 (← after? ':' cs)
  let fraction := (after? '.' cs).elim [] (·.takeWhile Char.isDigit)
  let cs := (after? '.' cs).elim cs (·.dropWhile Char.isDigit)
  return ⟨year, month, day, some (hour, minute, second, fraction), ← zone? cs⟩

def isMoment (cs : List Char) : Bool :=
  (moment? cs).any fun m => m.time.isSome || (m.month.length == 2 && m.day.length == 2)

def trueWords : List String :=
  ["yes", "Yes", "YES", "true", "True", "TRUE", "on", "On", "ON"]

def falseWords : List String :=
  ["no", "No", "NO", "false", "False", "FALSE", "off", "Off", "OFF"]

def nullWords : List String := ["", "~", "null", "Null", "NULL"]

def ofText (s : String) : Form :=
  let cs := s.toList
  if nullWords.contains s then null
  else if trueWords.contains s then boolean true
  else if falseWords.contains s then boolean false
  else if isReal cs then real
  else if isInteger cs then integer
  else if s = "<<" then merge
  else if isMoment cs then moment
  else if s = "=" then default
  else text

/-! ### Values -/

def withoutUnderscores (cs : List Char) : List Char := cs.filter (· != '_')

def readIn (base : Nat) (cs : List Char) : Except Integer.Fault Int :=
  let text := String.ofList cs
  (Integer.readSigned base cs).mapError (Integer.Unread.toFault base text)

def signed (negative : Bool) (n : Int) : Int := if negative then -n else n

def readInteger (s : String) : Except Integer.Fault Int := do
  let cs := withoutUnderscores s.toList
  let n ← match unsigned cs with
    | ['0'] => pure 0
    | '0' :: 'b' :: ds => readIn 2 ds
    | '0' :: 'x' :: ds => readIn 16 ds
    | '0' :: ds => readIn 8 ('0' :: ds)
    | ds =>
      if ds.contains ':' then
        (sections ds).foldlM (fun n part => return n * 60 + (← readIn 10 part)) (0 : Int)
      else readIn 10 ds
  return signed (isNegative cs) n

def sixtieths (parts : List Binary64) : Binary64 :=
  (parts.reverse.foldl
    (fun (sum, base) x => (Binary64.add sum (Binary64.mul x (Binary64.ofNat base)), base * 60))
    (Binary64.zero false, 1)).1

def readReal? (s : String) : Option Binary64 := do
  let cs := (withoutUnderscores s.toList).map Char.toLower
  let ds := unsigned cs
  let x ←
    if String.ofList ds = ".inf" then some (.infinite false)
    else if String.ofList ds = ".nan" then some .nan
    else if ds.contains ':' then
      sixtieths <$> (sections ds).mapM fun part => Binary64.read? (String.ofList part)
    else Binary64.read? (String.ofList ds)
  return if isNegative cs then x.neg else x

def ten (cs : List Char) : Nat := natOf 10 cs

def microseconds (fraction : List Char) : Nat :=
  let six := fraction.take 6
  ten (six ++ List.replicate (6 - six.length) '0')

def offset (sign : Char) (hours minutes : List Char) : Int :=
  let n : Int := ten hours * 3600 + ten minutes * 60
  if sign = '-' then -n else n

def Moment.read (m : Moment) : Except Calendar.Fault Data :=
  let date : Calendar.Date := ⟨ten m.year, ten m.month, ten m.day⟩
  match m.time with
  | none =>
    match date.fault? with
    | some f => .error f
    | none => .ok (.date date)
  | some (hour, minute, second, fraction) =>
    let time : Calendar.Time := ⟨ten hour, ten minute, ten second, microseconds fraction⟩
    let d : Calendar.DateTime := ⟨date, time, m.zone.map fun (s, h, mi) => offset s h mi⟩
    match d.fault? with
    | some f => .error f
    | none => .ok (.dateTime d)

end Form

end LayeredConfig.Document.Yaml
