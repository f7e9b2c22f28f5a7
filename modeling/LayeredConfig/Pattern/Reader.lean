import LayeredConfig.Pattern
import LayeredConfig.Text.Quoted

/-! Patterns read from text. Parts are read from left to right onto a stack of open groups; each
step takes at least one token, so the number of tokens bounds the steps. -/

namespace LayeredConfig.Pattern

inductive Fault
  | danglingEscape
  | badEscape (c : Char)
  | unterminatedSet
  | unterminatedGroup
  | unterminatedName
  | badRange
  | nothingToRepeat
  | multipleRepeat
  | leastAboveMost
  | tooManyRepeats
  | unbalanced
  | unknownExtension
  | badName (name : String)
  | repeatedName (name : String)
  | unknownGroup (name : String)
  | openGroup (number : Nat)
  | lookbehindGroup (number : Nat)
  | tooManyBranches
  | badFlags
  | misplacedFlags
  | noFixedWidth
  deriving DecidableEq

def Fault.message : Fault → String
  | danglingEscape => "a backslash ends the pattern"
  | badEscape c => "bad escape " ++ Text.quote (String.singleton c)
  | unterminatedSet => "unterminated character set"
  | unterminatedGroup => "unterminated group"
  | unterminatedName => "unterminated name"
  | badRange => "bad character range"
  | nothingToRepeat => "nothing to repeat"
  | multipleRepeat => "multiple repeat"
  | leastAboveMost => "least number of repeats above the most"
  | tooManyRepeats => "the repetition number is too large"
  | unbalanced => "unbalanced parenthesis"
  | unknownExtension => "unknown extension"
  | badName name => "bad group name " ++ Text.quote name
  | repeatedName name => "second group of the name " ++ Text.quote name
  | unknownGroup name => "unknown group " ++ Text.quote name
  | openGroup n => "group " ++ toString n ++ " is still open"
  | lookbehindGroup n => "group " ++ toString n ++ " stands in the same look-behind"
  | tooManyBranches => "more than two branches"
  | badFlags => "bad flags"
  | misplacedFlags => "global flags behind the start"
  | noFixedWidth => "look-behind without a fixed width"

/-! ### Tokens -/

inductive Token
  | plain (c : Char)
  | escaped (c : Char)
  deriving DecidableEq

def tokens : List Char → Except Fault (List Token)
  | [] => .ok []
  | ['\\'] => .error .danglingEscape
  | '\\' :: c :: cs => return .escaped c :: (← tokens cs)
  | c :: cs => return .plain c :: (← tokens cs)

def Token.chars : Token → List Char
  | plain c => [c]
  | escaped c => ['\\', c]

def run (most : Nat) (ok : Char → Bool) : List Token → List Char × List Token
  | .plain c :: ts =>
    match most with
    | 0 => ([], .plain c :: ts)
    | n + 1 => if ok c then let (cs, rest) := run n ok ts; (c :: cs, rest) else ([], .plain c :: ts)
  | ts => ([], ts)

def textUntil (close : Char) : List Token → Except Fault (List Char × List Token)
  | [] => .error .unterminatedName
  | t :: ts =>
    if t = .plain close then .ok ([], ts)
    else do
      let (cs, rest) ← textUntil close ts
      return (t.chars ++ cs, rest)

def isOctal (c : Char) : Bool := '0' ≤ c && c ≤ '7'

def isHex (c : Char) : Bool := c.isDigit || ('a' ≤ c && c ≤ 'f') || ('A' ≤ c && c ≤ 'F')

def hexValue (c : Char) : Nat :=
  if c.isDigit then c.toNat - 0x30 else c.toLower.toNat - 0x61 + 10

def inBase (base : Nat) (cs : List Char) : Nat := cs.foldl (fun n c => n * base + hexValue c) 0

/-! ### Escapes -/

def letterEscape? : Char → Option Nat
  | 'a' => some 7
  | 'f' => some 12
  | 'n' => some 10
  | 'r' => some 13
  | 't' => some 9
  | 'v' => some 11
  | _ => none

def categoryEscape? : Char → Option (Category × Bool)
  | 'd' => some (.digit, false)
  | 'D' => some (.digit, true)
  | 's' => some (.blank, false)
  | 'S' => some (.blank, true)
  | 'w' => some (.word, false)
  | 'W' => some (.word, true)
  | _ => none

def hexEscape (letter : Char) (count : Nat) (ts : List Token) : Except Fault (Nat × List Token) :=
  let (digits, rest) := run count isHex ts
  let n := inBase 16 digits
  if digits.length = count ∧ n ≤ 0x10ffff then .ok (n, rest) else .error (.badEscape letter)

def charEscape (c : Char) (ts : List Token) : Except Fault (Nat × List Token) :=
  match letterEscape? c with
  | some n => .ok (n, ts)
  | none =>
    if c = 'x' then hexEscape c 2 ts
    else if c = 'u' then hexEscape c 4 ts
    else if c = 'U' then hexEscape c 8 ts
    else if c.isAlphanum then .error (.badEscape c)
    else .ok (c.toNat, ts)

/-! ### Sets -/

def one (n : Nat) : CharSet := .range n n

def setMember (asciiOnly : Bool) : Token → List Token → Except Fault (CharSet × List Token)
  | .plain c, ts => .ok (one c.toNat, ts)
  | .escaped c, ts =>
    match categoryEscape? c with
    | some (kind, negated) => .ok (.category kind asciiOnly negated, ts)
    | none =>
      if c = 'b' then .ok (one 8, ts)
      else if isOctal c then
        let (digits, rest) := run 2 isOctal ts
        let n := inBase 8 (c :: digits)
        if n ≤ 0xff then .ok (one n, rest) else .error (.badEscape c)
      else do
        let (n, rest) ← charEscape c ts
        return (one n, rest)

def rangeOf : CharSet → CharSet → Except Fault CharSet
  | .range a _, .range b _ => if b < a then .error .badRange else .ok (.range a b)
  | _, _ => .error .badRange

def setMembers (asciiOnly : Bool) (acc : List CharSet) :
    Nat → List Token → Except Fault (List CharSet × List Token)
  | 0, _ | _, [] => .error .unterminatedSet
  | fuel + 1, t :: ts =>
    if t = .plain ']' ∧ acc ≠ [] then .ok (acc.reverse, ts)
    else do
      let (first, rest) ← setMember asciiOnly t ts
      match rest with
      | .plain '-' :: .plain ']' :: rest => return ((one 0x2d :: first :: acc).reverse, rest)
      | .plain '-' :: u :: rest => do
        let (last, rest) ← setMember asciiOnly u rest
        setMembers asciiOnly ((← rangeOf first last) :: acc) fuel rest
      | rest => setMembers asciiOnly (first :: acc) fuel rest

/-! ### Flags -/

structure Flags where
  ignoreCase : Bool
  multiline : Bool
  dotAll : Bool
  verbose : Bool
  asciiOnly : Bool

namespace Flags

def none : Flags := ⟨false, false, false, false, false⟩

def folding (f : Flags) : Folding :=
  if !f.ignoreCase then .exact else if f.asciiOnly then .ascii else .full

def set (f : Flags) (on : Bool) : Char → Flags
  | 'i' => { f with ignoreCase := on }
  | 'm' => { f with multiline := on }
  | 's' => { f with dotAll := on }
  | 'x' => { f with verbose := on }
  | 'a' => { f with asciiOnly := on }
  | 'u' => { f with asciiOnly := !on }
  | _ => f

def isLetter (c : Char) : Bool := c ∈ ['i', 'm', 's', 'x', 'a', 'u', 't']

def letters (ts : List Token) : List Char × List Token := run ts.length isLetter ts

end Flags

def flagHead (ts : List Token) : Except Fault (List Char × List Char × Bool × List Token) :=
  let (on, rest) := Flags.letters ts
  if 'a' ∈ on ∧ 'u' ∈ on then .error .badFlags
  else match rest with
    | .plain ')' :: rest => if on.isEmpty then .error .badFlags else .ok (on, [], false, rest)
    | .plain ':' :: rest =>
      if on.isEmpty ∨ 't' ∈ on then .error .badFlags else .ok (on, [], true, rest)
    | .plain '-' :: rest =>
      let (off, rest) := Flags.letters rest
      if off.isEmpty || off.any (fun c => c ∈ ['a', 'u', 't'] || c ∈ on) || 't' ∈ on then
        .error .badFlags
      else match rest with
        | .plain ':' :: rest => .ok (on, off, true, rest)
        | _ => .error .badFlags
    | _ => .error .badFlags

/-! ### The stack -/

inductive Shape
  | anchor
  | repeated
  | other
  deriving DecidableEq

structure Part where
  pattern : Pattern
  shape : Shape

inductive Opening
  | plain
  | capture (number : Nat)
  | ahead (wanted : Bool)
  /-- `outer` says whether it stands in no other look-behind. -/
  | behind (wanted outer : Bool)
  | committed
  | given (number : Nat)

structure Frame where
  opening : Opening
  flags : Flags
  branches : List Pattern
  parts : List Part

structure Reader where
  rest : List Token
  top : Frame
  below : List Frame
  count : Nat
  widths : Ledger Nat Width
  names : Ledger String Nat
  /-- In a look-behind, the groups opened before it. -/
  lookbehind : Option Nat
  awaited : List Nat

namespace Frame

def push (f : Frame) (p : Pattern) (shape : Shape) : Frame :=
  { f with parts := ⟨p, shape⟩ :: f.parts }

def branch (f : Frame) : Pattern := f.parts.foldl (fun p part => sequence part.pattern p) nothing

def allBranches (f : Frame) : List Pattern := f.branches ++ [f.branch]

def choice : List Pattern → Pattern
  | [] => nothing
  | [p] => p
  | p :: ps => either p (choice ps)

def body (f : Frame) : Pattern := choice f.allBranches

end Frame

namespace Reader

def start (ts : List Token) : Reader :=
  ⟨ts, ⟨.plain, .none, [], []⟩, [], 0, .empty, .empty, none, []⟩

def push (r : Reader) (p : Pattern) (shape : Shape) : Reader := { r with top := r.top.push p shape }

def pushSet (r : Reader) (negated : Bool) (sets : List CharSet) : Reader :=
  r.push (oneOf negated sets r.top.flags.folding) .other

def pushChar (r : Reader) (n : Nat) : Reader := r.pushSet false [one n]

def pushAnchor (r : Reader) (a : Anchor) : Reader := r.push (.anchor a) .anchor

def beginGroup (r : Reader) (opening : Opening) (flags : Flags) : Reader :=
  { r with top := ⟨opening, flags, [], []⟩, below := r.top :: r.below }

def checkGroup (r : Reader) (n : Nat) : Except Fault Unit :=
  if !r.widths.contains n then .error (.openGroup n)
  else if r.lookbehind.any (· < n) then .error (.lookbehindGroup n)
  else .ok ()

def pushAgain (r : Reader) (n : Nat) : Except Fault Reader := do
  r.checkGroup n
  return r.push (again n r.top.flags.folding) .other

def digitEscape (r : Reader) (c : Char) (ts : List Token) : Except Fault Reader :=
  let (more, rest) := run 1 Char.isDigit ts
  let (last, rest') := run 1 isOctal rest
  if c = '0' then
    let (digits, rest) := run 2 isOctal ts
    .ok ({ r with rest }.pushChar (inBase 8 digits))
  else if (c :: more).all isOctal ∧ more ≠ [] ∧ last ≠ [] then
    let n := inBase 8 (c :: more ++ last)
    if n ≤ 0xff then .ok ({ r with rest := rest' }.pushChar n) else .error (.badEscape c)
  else
    let n := inBase 10 (c :: more)
    if n ≤ r.count then { r with rest }.pushAgain n
    else .error (.unknownGroup (toString n))

def escape (r : Reader) (c : Char) (ts : List Token) : Except Fault Reader :=
  let r := { r with rest := ts }
  let asciiOnly := r.top.flags.asciiOnly
  match categoryEscape? c with
  | some (kind, negated) => .ok (r.pushSet false [.category kind asciiOnly negated])
  | none =>
    if c = 'A' then .ok (r.pushAnchor .textStart)
    else if c = 'Z' then .ok (r.pushAnchor .textEnd)
    else if c = 'b' then .ok (r.pushAnchor (.boundary asciiOnly))
    else if c = 'B' then .ok (r.pushAnchor (.inside asciiOnly))
    else if c.isDigit then r.digitEscape c ts
    else do
      let (n, rest) ← charEscape c ts
      return { r with rest }.pushChar n

/-! #### Repeats -/

def bounds? : List Token → Option (Nat × Option Nat × List Token)
  | .plain '\x7d' :: _ => none
  | ts =>
    let (low, rest) := run ts.length Char.isDigit ts
    let (high, rest) := match rest with
      | .plain ',' :: rest => run rest.length Char.isDigit rest
      | rest => (low, rest)
    match rest with
    | .plain '\x7d' :: rest =>
      some (inBase 10 low, if high.isEmpty then none else some (inBase 10 high), rest)
    | _ => none

def repeatLimit : Nat := 0xffffffff

/-- Repeats the last part. A question mark prefers fewer repeats and a plus allows no others than
the preferred number. -/
def repeatLast (r : Reader) (low : Nat) (high : Option Nat) (ts : List Token) :
    Except Fault Reader :=
  if repeatLimit ≤ low ∨ high.any (repeatLimit ≤ ·) then .error .tooManyRepeats
  else match r.top.parts with
  | [] => .error .nothingToRepeat
  | ⟨p, shape⟩ :: parts =>
    if high.any (· < low) then .error .leastAboveMost
    else if shape = .anchor then .error .nothingToRepeat
    else if shape = .repeated then .error .multipleRepeat
    else
      let r := { r with top := { r.top with parts } }
      match ts with
      | .plain '?' :: ts =>
        .ok ({ r with rest := ts }.push (repeated .fewest low high p) .repeated)
      | .plain '+' :: ts =>
        .ok ({ r with rest := ts }.push (committed (repeated .most low high p)) .repeated)
      | ts => .ok ({ r with rest := ts }.push (repeated .most low high p) .repeated)

/-! #### Groups -/

def isName (cs : List Char) : Bool :=
  match cs with
  | [] => false
  | c :: _ => cs.all Text.isWord && !Text.isDigit c

def openCapture (r : Reader) (name : Option String) : Except Fault Reader :=
  let number := r.count + 1
  let r := { r with count := number }.beginGroup (.capture number) r.top.flags
  match name with
  | none => .ok r
  | some name =>
    if r.names.contains name then .error (.repeatedName name)
    else .ok { r with names := r.names.put name number }

def named (r : Reader) (cs : List Char) : Except Fault Nat :=
  match r.names.get? (String.ofList cs) with
  | some n => .ok n
  | none => .error (.unknownGroup (String.ofList cs))

def namedGroup (r : Reader) : List Token → Except Fault Reader
  | .plain '<' :: ts => do
    let (name, rest) ← textUntil '>' ts
    let r := { r with rest }
    if isName name then r.openCapture (some (String.ofList name))
    else throw (.badName (String.ofList name))
  | .plain '=' :: ts => do
    let (name, rest) ← textUntil ')' ts
    let r := { r with rest }
    if isName name then r.pushAgain (← r.named name)
    else throw (.badName (String.ofList name))
  | _ => .error .unknownExtension

def openBehind (r : Reader) (wanted : Bool) (ts : List Token) : Reader :=
  let opened := { r with rest := ts }.beginGroup (.behind wanted r.lookbehind.isNone) r.top.flags
  { opened with lookbehind := r.lookbehind.or (some r.count) }

def openGiven (r : Reader) (ts : List Token) : Except Fault Reader := do
  let (name, rest) ← textUntil ')' ts
  let r := { r with rest }
  let number ←
    if isName name then r.named name
    else
      let n := inBase 10 (name.map Text.asciiDigit)
      if !name.isEmpty && name.all Text.isDecimal && n != 0 then pure n
      else throw (.badName (String.ofList name))
  if r.lookbehind.isSome then r.checkGroup number
  return { r with awaited := number :: r.awaited }.beginGroup (.given number) r.top.flags

def skipComment (r : Reader) (ts : List Token) : Except Fault Reader :=
  match ts.dropWhile (· != .plain ')') with
  | [] => .error .unterminatedGroup
  | _ :: rest => .ok { r with rest }

def openFlags (r : Reader) (ts : List Token) : Except Fault Reader := do
  let (on, off, withBody, rest) ← flagHead ts
  let flags := off.foldl (fun f c => f.set false c) (on.foldl (fun f c => f.set true c) r.top.flags)
  let r := { r with rest }
  if withBody then return r.beginGroup .plain flags
  else if r.below.isEmpty && r.top.branches.isEmpty && r.top.parts.isEmpty then
    return { r with top := { r.top with flags } }
  else throw .misplacedFlags

def openGroup (r : Reader) : List Token → Except Fault Reader
  | .plain '?' :: ts =>
    match ts with
    | .plain 'P' :: ts => r.namedGroup ts
    | .plain ':' :: ts => .ok ({ r with rest := ts }.beginGroup .plain r.top.flags)
    | .plain '#' :: ts => r.skipComment ts
    | .plain '=' :: ts => .ok ({ r with rest := ts }.beginGroup (.ahead true) r.top.flags)
    | .plain '!' :: ts => .ok ({ r with rest := ts }.beginGroup (.ahead false) r.top.flags)
    | .plain '<' :: .plain '=' :: ts => .ok (r.openBehind true ts)
    | .plain '<' :: .plain '!' :: ts => .ok (r.openBehind false ts)
    | .plain '(' :: ts => r.openGiven ts
    | .plain '>' :: ts => .ok ({ r with rest := ts }.beginGroup .committed r.top.flags)
    | .plain c :: _ =>
      if Flags.isLetter c || c == '-' then r.openFlags ts else .error .unknownExtension
    | _ => .error .unknownExtension
  | ts => { r with rest := ts }.openCapture none

def closed (r : Reader) (f : Frame) : Except Fault (Pattern × Reader) :=
  match f.opening with
  | .plain => .ok (f.body, r)
  | .capture n => .ok (group n f.body, { r with widths := r.widths.put n (f.body.width r.widths) })
  | .ahead wanted => .ok (ahead wanted f.body, r)
  | .behind wanted outer =>
    match (f.body.width r.widths).fixed? with
    | some w =>
      .ok (behind wanted w f.body, { r with lookbehind := if outer then none else r.lookbehind })
    | none => .error .noFixedWidth
  | .committed => .ok (committed f.body, r)
  | .given n =>
    match f.allBranches with
    | [yes] => .ok (given n yes nothing, r)
    | [yes, no] => .ok (given n yes no, r)
    | _ => .error .tooManyBranches

def closeGroup (r : Reader) (ts : List Token) : Except Fault Reader :=
  match r.below with
  | [] => .error .unbalanced
  | outer :: below => do
    let (p, after) ← r.closed r.top
    return { after with rest := ts, top := outer.push p .other, below }

def nextBranch (r : Reader) (ts : List Token) : Reader :=
  { r with rest := ts, top := { r.top with branches := r.top.allBranches, parts := [] } }

/-! #### Steps -/

def isFiller (c : Char) : Bool := c == ' ' || (0x09 ≤ c.toNat && c.toNat ≤ 0x0d)

def readSet (r : Reader) (ts : List Token) : Except Fault Reader := do
  let (negated, ts) := match ts with
    | .plain '^' :: ts => (true, ts)
    | ts => (false, ts)
  let (sets, rest) ← setMembers r.top.flags.asciiOnly [] ts.length ts
  return { r with rest }.pushSet negated sets

def plainStep (r : Reader) (c : Char) (ts : List Token) : Except Fault Reader :=
  let flags := r.top.flags
  let r := { r with rest := ts }
  if flags.verbose && isFiller c then .ok r
  else if flags.verbose && c == '#' then
    .ok { r with rest := (ts.dropWhile (· != .plain '\n')).drop 1 }
  else match c with
    | '|' => .ok (r.nextBranch ts)
    | ')' => r.closeGroup ts
    | '(' => r.openGroup ts
    | '[' => r.readSet ts
    | '.' => .ok (r.push (oneOf true (if flags.dotAll then [] else [one 10]) .exact) .other)
    | '^' => .ok (r.pushAnchor (if flags.multiline then .lineStart else .textStart))
    | '$' => .ok (r.pushAnchor (if flags.multiline then .lineEnd else .lastLineEnd))
    | '?' => r.repeatLast 0 (some 1) ts
    | '*' => r.repeatLast 0 none ts
    | '+' => r.repeatLast 1 none ts
    | '\x7b' =>
      match bounds? ts with
      | some (low, high, rest) => r.repeatLast low high rest
      | none => .ok (r.pushChar c.toNat)
    | _ => .ok (r.pushChar c.toNat)

def steps : Nat → Reader → Except Fault Reader
  | 0, r => .ok r
  | fuel + 1, r =>
    match r.rest with
    | [] => .ok r
    | .plain c :: ts => do steps fuel (← r.plainStep c ts)
    | .escaped c :: ts => do steps fuel (← r.escape c ts)

end Reader

def read (text : String) : Except Fault Pattern := do
  let ts ← tokens text.toList
  let r ← (Reader.start ts).steps ts.length
  if !r.below.isEmpty then throw .unterminatedGroup
  match r.awaited.find? (r.count < ·) with
  | some n => throw (.unknownGroup (toString n))
  | none =>
    let p := r.top.body
    return p.keepGroups p.references

end LayeredConfig.Pattern
