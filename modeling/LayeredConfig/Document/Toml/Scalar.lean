import LayeredConfig.Document
import LayeredConfig.Text.Encoding

/-! Strings, numbers, dates and times of TOML. -/

namespace LayeredConfig.Document.Toml

open Number Reader

def isSpace (c : Char) : Bool := c == ' ' || c == '\t'

def isSpaceOrBreak (c : Char) : Bool := isSpace c || c == '\n'

def isControl (c : Char) : Bool := (c.val < 0x20 && c != '\t') || c.val == 0x7f

def isControlInLines (c : Char) : Bool := isControl c && c != '\n'

/-! ### Strings -/

def escaped? : Char → Option Char
  | 'b' => some '\x08'
  | 't' => some '\t'
  | 'n' => some '\n'
  | 'f' => some '\x0c'
  | 'r' => some '\r'
  | '"' => some '"'
  | '\\' => some '\\'
  | _ => none

def codePoint (digits : Nat) : Reader Char := do
  match Text.Encoding.char? (← hexNumber digits) with
  | some c => return c
  | none => fail "no character"

def lineEnd : Reader Unit := do
  skipWhile isSpace
  match ← peek? with
  | none => return
  | some '\n' => skipWhile isSpaceOrBreak
  | some _ => fail "bad escape"

def escape (lines : Bool) : Reader (List Char) := do
  match ← peek? with
  | none => fail "unterminated string"
  | some c =>
    if lines && isSpaceOrBreak c then do
      lineEnd
      return []
    else do
      skip 1
      if c = 'u' then return [← codePoint 4]
      else if c = 'U' then return [← codePoint 8]
      else match escaped? c with
        | some d => return [d]
        | none => fail "bad escape"

def basicBody (lines : Bool) (acc : List Char) : Nat → Reader (List Char)
  | 0 => fail "unterminated string"
  | fuel + 1 => do
    if lines then
      if ← accept ['"', '"', '"'] then return acc.reverse
    match ← peek? with
    | none => fail "unterminated string"
    | some c =>
      skip 1
      if c = '"' && !lines then return acc.reverse
      else if c = '\\' then do
        let cs ← escape lines
        basicBody lines (cs.reverse ++ acc) fuel
      else if (if lines then isControlInLines c else isControl c) then fail "control character"
      else basicBody lines (c :: acc) fuel

def basic (lines : Bool) : Reader (List Char) := do basicBody lines [] ((← rest).length + 1)

def literal : Reader (List Char) := do
  let cs ← takeWhile fun c => c != '\''
  unless ← acceptChar '\'' do fail "unterminated string"
  if cs.any isControl then fail "control character"
  return cs

def upTo (stop : List Char) (acc : List Char) : List Char → Option (List Char × List Char)
  | [] => none
  | c :: cs =>
    if stop.isPrefixOf (c :: cs) then some (acc.reverse, (c :: cs).drop stop.length)
    else upTo stop (c :: acc) cs

def literalLines : Reader (List Char) := fun cs =>
  match upTo ['\'', '\'', '\''] [] cs with
  | none => .error (.malformed "unterminated string")
  | some (text, rest) =>
    if text.any isControlInLines then .error (.malformed "control character") else .ok (text, rest)

def moreMarks (mark : Char) (text : List Char) : Reader String := do
  if ← acceptChar mark then
    if ← acceptChar mark then return String.ofList (text ++ [mark, mark])
    return String.ofList (text ++ [mark])
  return String.ofList text

def dropBreak : Reader Unit := do
  let _ ← acceptChar '\n'
  return

def string : Reader String := do
  if ← accept ['"', '"', '"'] then
    dropBreak
    moreMarks '"' (← basic true)
  else if ← accept ['\'', '\'', '\''] then
    dropBreak
    moreMarks '\'' (← literalLines)
  else if ← acceptChar '"' then return String.ofList (← basic false)
  else do
    expect '\''
    return String.ofList (← literal)

/-! ### Numbers -/

def digits (ok : Char → Bool) : List Char → List Char
  | '_' :: _ => []
  | c :: '_' :: d :: cs =>
    if !ok c then [] else if ok d then c :: '_' :: digits ok (d :: cs) else [c]
  | c :: cs => if ok c then c :: digits ok cs else []
  | [] => []

def isDigitOf (base : Nat) (c : Char) : Bool := (Integer.digitValue? base c).isSome

def marked? : List Char → Option Nat
  | '0' :: 'x' :: _ => some 16
  | '0' :: 'o' :: _ => some 8
  | '0' :: 'b' :: _ => some 2
  | _ => none

def sign : List Char → List Char
  | '+' :: _ => ['+']
  | '-' :: _ => ['-']
  | _ => []

def whole : List Char → List Char
  | '0' :: _ => ['0']
  | cs => digits Char.isDigit cs

def fraction : List Char → List Char
  | '.' :: cs =>
    let ds := digits Char.isDigit cs
    if ds.isEmpty then [] else '.' :: ds
  | _ => []

def exponent : List Char → List Char
  | e :: cs =>
    let ds := digits Char.isDigit (cs.drop (sign cs).length)
    if (e = 'e' ∨ e = 'E') ∧ !ds.isEmpty then e :: sign cs ++ ds else []
  | [] => []

def plain (cs : List Char) : String := String.ofList (cs.filter (· != '_'))

def decimal : Reader Data := do
  let cs ← rest
  let s := sign cs
  let unsigned := cs.drop s.length
  let w := whole unsigned
  if w.isEmpty then fail "expected a value"
  else
    let f := fraction (unsigned.drop w.length)
    let x := exponent (unsigned.drop (w.length + f.length))
    skip (s.length + w.length + f.length + x.length)
    if f.isEmpty && x.isEmpty then integer (Integer.readDecimal (plain (s ++ w)))
    else return .real ((Binary64.read? (plain (s ++ w ++ f ++ x))).getD .nan)

def specials : List (String × Binary64) :=
  [("inf", .infinite false), ("+inf", .infinite false), ("-inf", .infinite true), ("nan", .nan),
    ("+nan", .nan), ("-nan", .nan)]

def number : Reader Data := do
  let cs ← rest
  let ds := (marked? cs).elim [] fun base => digits (isDigitOf base) (cs.drop 2)
  match marked? cs, ds with
  | some base, _ :: _ => do
    skip (2 + ds.length)
    return .integer (natOf base (ds.filter (· != '_')))
  | _, _ =>
    match specials.find? fun s => s.1.toList.isPrefixOf cs with
    | some (s, x) => do
      skip s.length
      return .real x
    | none => decimal

/-! ### Dates and times -/

def twoDigits? (low high : Nat) (cs : List Char) : Option (Nat × List Char) :=
  match cs with
  | a :: b :: rest =>
    if a.isDigit && b.isDigit then
      let n := natOf 10 [a, b]
      if low ≤ n && n ≤ high then some (n, rest) else none
    else none
  | _ => none

def after? (c : Char) : List Char → Option (List Char)
  | d :: cs => if c = d then some cs else none
  | [] => none

def microseconds (ds : List Char) : Nat :=
  let six := ds.take 6
  natOf 10 (six ++ List.replicate (6 - six.length) '0')

def time? (cs : List Char) : Option (Calendar.Time × List Char) := do
  let (hour, cs) ← twoDigits? 0 23 cs
  let (minute, cs) ← twoDigits? 0 59 (← after? ':' cs)
  let (second, cs) ← twoDigits? 0 59 (← after? ':' cs)
  let ds := (after? '.' cs).elim [] (·.takeWhile Char.isDigit)
  if ds.isEmpty then return (⟨hour, minute, second, 0⟩, cs)
  return (⟨hour, minute, second, microseconds ds⟩, cs.drop (1 + ds.length))

def date? (cs : List Char) : Option (Calendar.Date × List Char) := do
  let year := cs.takeWhile Char.isDigit
  if year.length ≠ 4 then none
  else
    let (month, cs) ← twoDigits? 1 12 (← after? '-' (cs.drop 4))
    let (day, cs) ← twoDigits? 1 31 (← after? '-' cs)
    return (⟨natOf 10 year, month, day⟩, cs)

def offset? (cs : List Char) : Option (Int × List Char) :=
  match cs with
  | 'Z' :: rest | 'z' :: rest => some (0, rest)
  | s :: rest => do
    if s ≠ '+' ∧ s ≠ '-' then none
    else
      let (hours, rest) ← twoDigits? 0 23 rest
      let (minutes, rest) ← twoDigits? 0 59 (← after? ':' rest)
      let n : Int := hours * 3600 + minutes * 60
      return (if s = '-' then -n else n, rest)
  | [] => none

def timeAfterDate? : List Char → Option (Calendar.Time × List Char)
  | c :: cs => if c = 'T' ∨ c = 't' ∨ c = ' ' then time? cs else none
  | [] => none

def moment? (cs : List Char) : Option (Except Fault (Data × List Char)) :=
  match date? cs with
  | some (date, rest) =>
    match timeAfterDate? rest with
    | none =>
      some (if date.isValid then .ok (.date date, rest) else .error (.malformed "no such date"))
    | some (time, rest) =>
      let (offset, rest) := match offset? rest with
        | some (n, rest) => (some n, rest)
        | none => (none, rest)
      some (if date.isValid then .ok (.dateTime ⟨date, time, offset⟩, rest)
        else .error (.malformed "no such date"))
  | none => (time? cs).map fun (time, rest) => .ok (.time time, rest)

def scalar : Reader Data := do
  let cs ← rest
  match cs.head? with
  | some '"' | some '\'' => return .text (← string)
  | _ =>
    if ← accept ['t', 'r', 'u', 'e'] then return .boolean true
    if ← accept ['f', 'a', 'l', 's', 'e'] then return .boolean false
    match moment? cs with
    | some result => fun _ => result
    | none => number

end LayeredConfig.Document.Toml
