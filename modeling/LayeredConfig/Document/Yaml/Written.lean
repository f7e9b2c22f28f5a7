import LayeredConfig.Document.Yaml.Cursor
import LayeredConfig.Text.Encoding

/-! The text of scalars in their written forms: in quotes, plain, and as blocks. Lines are folded
to blanks, except in literal blocks. -/

namespace LayeredConfig.Document.Yaml

open Scan

def folded (first later : List Char) : List Char :=
  if first ≠ ['\n'] then first ++ later else if later.isEmpty then [' '] else later

/-! ### Quotes -/

def quotedBreaks (acc : List Char) : Nat → Scan (List Char)
  | 0 => return acc
  | fuel + 1 => do
    if (← cursor).atSeparator then fail "document separator in quotes"
    skipWhile fun c => c == ' ' || c == '\t'
    if (← peek?).any isBreak then quotedBreaks (acc ++ (← lineBreak)) fuel
    else return acc

def quotedBlanks : Scan (List Char) := do
  let blanks ← takeWhile fun c => c == ' ' || c == '\t'
  match ← peek? with
  | none => fail "unterminated string"
  | some c =>
    if isBreak c then
      let first ← lineBreak
      return folded first (← quotedBreaks [] (← fuel))
    else return blanks

def escaped? : Char → Option Nat
  | '0' => some 0
  | 'a' => some 7
  | 'b' => some 8
  | 't' => some 9
  | '\t' => some 9
  | 'n' => some 10
  | 'v' => some 11
  | 'f' => some 12
  | 'r' => some 13
  | 'e' => some 27
  | ' ' => some 32
  | '"' => some 34
  | '\\' => some 92
  | '/' => some 47
  | 'N' => some 0x85
  | '_' => some 0xa0
  | 'L' => some 0x2028
  | 'P' => some 0x2029
  | _ => none

def escapeDigits? : Char → Option Nat
  | 'x' => some 2
  | 'u' => some 4
  | 'U' => some 8
  | _ => none

def escape : Scan (List Char) := do
  match ← peek? with
  | none => fail "unterminated string"
  | some c =>
    if isBreak c then
      let _ ← lineBreak
      quotedBreaks [] (← fuel)
    else do
      skip 1
      match escaped? c, escapeDigits? c with
      | some n, _ => return [Char.ofNat n]
      | none, some count => do
        let digits := (← cursor).rest.take count
        unless digits.length = count && digits.all isHexDigit do fail "bad escape"
        skip count
        let n := natOf 16 digits
        if n ≤ 0x10ffff then return [(Text.Encoding.char? n).getD '\ufffd'] else fail "bad escape"
      | none, none => fail "bad escape"

def isQuotedText (c : Char) : Bool :=
  !(c == '\'' || c == '"' || c == '\\' || c == ' ' || c == '\t' || isBreak c)

def quotedBody (mark : Char) (acc : List Char) : Nat → Scan String
  | 0 => fail "unterminated string"
  | fuel + 1 => do
    let text ← takeWhile isQuotedText
    let acc := acc ++ text
    match ← peek? with
    | none => fail "unterminated string"
    | some c =>
      if c = mark then do
        skip 1
        if mark = '\'' ∧ (← peek?) = some '\'' then do
          skip 1
          quotedBody mark (acc ++ ['\'']) fuel
        else return String.ofList acc
      else if c = ' ' || c = '\t' || isBreak c then do
        quotedBody mark (acc ++ (← quotedBlanks)) fuel
      else if c = '\\' ∧ mark = '"' then do
        skip 1
        quotedBody mark (acc ++ (← escape)) fuel
      else do
        skip 1
        quotedBody mark (acc ++ [c]) fuel

def quoted (mark : Char) : Scan String := do
  skip 1
  quotedBody mark [] (← fuel)

/-! ### Plain text -/

def isFlowMark (c : Char) : Bool := c == ',' || c == '[' || c == ']' || c == '\x7b' || c == '\x7d'

def plainLength (inFlow : Bool) : List Char → Nat
  | [] => 0
  | c :: cs =>
    let next := cs.head?
    if endsWord (some c) || (c == ':' && (endsWord next || (inFlow && next.any isFlowMark))) ||
        (inFlow && (isFlowMark c || c == '?')) then 0
    else plainLength inFlow cs + 1

def plainBreaks (acc : List Char) : Nat → Scan (Option (List Char))
  | 0 => return some acc
  | fuel + 1 => do
    match ← peek? with
    | some c =>
      if c = ' ' then do
        skip 1
        plainBreaks acc fuel
      else if isBreak c then do
        let acc := acc ++ (← lineBreak)
        if (← cursor).atSeparator then return none
        plainBreaks acc fuel
      else return some acc
    | none => return some acc

def plainBlanks : Scan (List Char × Bool × Bool) := do
  let blanks ← takeWhile (· == ' ')
  if (← peek?).any isBreak then
    let first ← lineBreak
    if (← cursor).atSeparator then return ([], true, false)
    match ← plainBreaks [] (← fuel) with
    | none => return ([], true, false)
    | some later => return (folded first later, true, true)
  else return (blanks, false, !blanks.isEmpty)

/-- Plain text at an indentation. The second result says whether its last line has ended. -/
def plainBody (inFlow : Bool) (indent : Nat) (acc blanks : List Char) (ended : Bool) :
    Nat → Scan (String × Bool)
  | 0 => return (String.ofList acc, ended)
  | fuel + 1 => do
    let k ← cursor
    let length := if k.rest.head? = some '#' then 0 else plainLength inFlow k.rest
    if length = 0 then return (String.ofList acc, ended)
    else
      skip length
      let acc := acc ++ blanks ++ k.rest.take length
      let (blanks, ended, more) ← plainBlanks
      if !more || (← peek?) = some '#' || (!inFlow && (← cursor).column < indent) then
        return (String.ofList acc, ended)
      else plainBody inFlow indent acc blanks ended fuel

def plain (inFlow : Bool) (indent : Nat) : Scan (String × Bool) := do
  plainBody inFlow indent [] [] false (← fuel)

/-! ### Blocks -/

inductive Chomping
  | strip
  | clip
  | keep
  deriving DecidableEq

def chomping? : Char → Option Chomping
  | '-' => some .strip
  | '+' => some .keep
  | _ => none

def blockHead : Scan (Chomping × Option Nat) := do
  match ← peek? with
  | none => return (.clip, none)
  | some c =>
    match chomping? c with
    | some chomping => do
      skip 1
      return (chomping, ← indentDigit)
    | none => do
      let digit ← indentDigit
      match digit, (← peek?).bind chomping? with
      | some _, some chomping => do
        skip 1
        return (chomping, digit)
      | _, _ => return (.clip, digit)
where
  indentDigit : Scan (Option Nat) := do
    match ← peek? with
    | some c =>
      if c = '0' then fail "no indentation of zero"
      else if c.isDigit then do
        skip 1
        return some (c.toNat - 0x30)
      else return none
    | none => return none

def blockLead (acc : List Char) (widest : Nat) : Nat → Scan (List Char × Nat)
  | 0 => return (acc, widest)
  | fuel + 1 => do
    match ← peek? with
    | some c =>
      if c = ' ' then do
        skip 1
        blockLead acc (max widest (← cursor).column) fuel
      else if isBreak c then do
        let b ← lineBreak
        blockLead (acc ++ b) widest fuel
      else return (acc, widest)
    | none => return (acc, widest)

def blockBreaks (indent : Nat) (acc : List Char) : Nat → Scan (List Char)
  | 0 => return acc
  | fuel + 1 => do
    skipIndent indent
    if (← peek?).any isBreak then blockBreaks indent (acc ++ (← lineBreak)) fuel
    else return acc

def isAtLine (indent : Nat) : Scan Bool := do
  let k ← cursor
  return k.column == indent && !k.rest.isEmpty

def startsBlank (c? : Option Char) : Bool := c? == some ' ' || c? == some '\t'

def blockLines (fold : Bool) (indent : Nat) (acc breaks : List Char) :
    Nat → Scan (List Char × List Char × List Char)
  | 0 => return (acc, [], breaks)
  | fuel + 1 => do
    if !(← isAtLine indent) then return (acc, [], breaks)
    else
      let indented := startsBlank (← peek?)
      let line ← takeWhile (!isBreak ·)
      let acc := acc ++ breaks ++ line
      let last ← lineBreak
      let breaks ← blockBreaks indent [] (← Scan.fuel)
      if !(← isAtLine indent) then return (acc, last, breaks)
      else if fold && last = ['\n'] && !indented && !startsBlank (← peek?) then
        blockLines fold indent (if breaks.isEmpty then acc ++ [' '] else acc) breaks fuel
      else blockLines fold indent (acc ++ last) breaks fuel

def block (fold : Bool) (least : Nat) : Scan String := do
  skip 1
  let (chomping, digit) ← blockHead
  expectBlank
  restOfLine
  let (breaks, indent) ← match digit with
    | some n => do
      let indent := least + n - 1
      pure (← blockBreaks indent [] (← fuel), indent)
    | none => do
      let (breaks, widest) ← blockLead [] 0 (← fuel)
      pure (breaks, max least widest)
  let (text, last, breaks) ← blockLines fold indent [] breaks (← fuel)
  return String.ofList (text ++ match chomping with
    | .strip => []
    | .clip => last
    | .keep => last ++ breaks)

end LayeredConfig.Document.Yaml
