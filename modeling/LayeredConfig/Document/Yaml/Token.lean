import LayeredConfig.Document.Yaml.Written

/-! The tokens of a YAML text. Indentation opens and closes block collections. Whether a token
begins a key is known once the colon behind it is found, and the key's mark is then put in front of
that token. -/

namespace LayeredConfig.Document.Yaml

open Scan

structure WrittenTag where
  handle : Option String
  suffix : String

inductive Token
  | version (major : Nat)
  | tagHandle (handle lead : String)
  | otherDirective
  | documentStart
  | documentEnd
  | blockSequenceStart
  | blockMappingStart
  | blockEnd
  | flowSequenceStart
  | flowSequenceEnd
  | flowMappingStart
  | flowMappingEnd
  | blockEntry
  | flowEntry
  | key
  | value
  | alias (name : String)
  | anchor (name : String)
  | tag (t : WrittenTag)
  | scalar (text : String) (isPlain : Bool)

/-! ### Names and tags -/

def isNameChar (c : Char) : Bool := c.isAlphanum || c == '-' || c == '_'

def name : Scan String := do
  let cs ← takeWhile isNameChar
  if cs.isEmpty then fail "expected a name"
  return String.ofList cs

def anchorName : Scan String := do
  skip 1
  let n ← name
  let next ← peek?
  unless endsWord next || next.any ("?:,]\x7d%@`".toList.contains ·) do fail "bad name"
  return n

def isTagChar (c : Char) : Bool := c.isAlphanum || "-;/?:@&=+$,_.!~*'()[]".toList.contains c

def tagText (acc : List Char) : Nat → Scan String
  | 0 => return String.ofList acc
  | fuel + 1 => do
    let acc := acc ++ (← takeWhile isTagChar)
    if (← peek?) = some '%' then
      let digits := ((← cursor).rest.drop 1).take 2
      unless digits.length = 2 && digits.all isHexDigit do fail "bad escape in a tag"
      skip 3
      tagText (acc ++ [Char.ofNat (natOf 16 digits)]) fuel
    else if acc.isEmpty then fail "expected a tag"
    else return String.ofList acc

def tagHandle : Scan String := do
  skip 1
  let cs ← takeWhile isNameChar
  if (← peek?) = some '!' then
    skip 1
    return String.ofList ('!' :: cs ++ ['!'])
  else if cs.isEmpty then return "!"
  else fail "bad tag handle"

def hasHandle (cs : List Char) : Bool :=
  (cs.takeWhile fun c => c != ' ' && !isBreak c).contains '!'

def tag : Scan WrittenTag := do
  let next ← peekAt? 1
  let t ← if next = some '<' then do
      skip 2
      let suffix ← tagText [] (← fuel)
      unless (← peek?) = some '>' do fail "unterminated tag"
      skip 1
      pure ⟨none, suffix⟩
    else if endsWord next then do
      skip 1
      pure ⟨none, "!"⟩
    else if hasHandle ((← cursor).rest.drop 1) then do
      let handle ← tagHandle
      pure ⟨some handle, ← tagText [] (← fuel)⟩
    else do
      skip 1
      pure ⟨some "!", ← tagText [] (← fuel)⟩
  expectBlank
  return t

def digits : Scan Nat := do
  let cs ← takeWhile Char.isDigit
  if cs.isEmpty then fail "expected a number"
  return natOf 10 cs

def directive : Scan Token := do
  skip 1
  let n ← name
  expectBlank
  let t ← match n with
    | "YAML" => do
      skipWhile (· == ' ')
      let major ← digits
      unless (← peek?) = some '.' do fail "expected a version"
      skip 1
      let _ ← digits
      expectBlank
      pure (.version major)
    | "TAG" => do
      skipWhile (· == ' ')
      let handle ← tagHandle
      unless (← peek?) = some ' ' do fail "expected a blank"
      skipWhile (· == ' ')
      let lead ← tagText [] (← fuel)
      expectBlank
      pure (.tagHandle handle lead)
    | _ => do
      skipWhile (!isBreak ·)
      pure .otherDirective
  restOfLine
  return t

/-! ### The state of reading -/

structure Candidate where
  position : Nat
  required : Bool
  index : Nat
  line : Nat
  column : Nat

structure Lexer where
  cursor : Cursor
  tokens : List Token
  depth : Nat
  indent : Int
  outer : List Int
  keyAllowed : Bool
  /-- Candidates by the number of flow collections around them, the innermost first. -/
  candidates : List (Nat × Candidate)

abbrev Lex (α : Type) := StateT Lexer (Except Fault) α

namespace Lex

variable {α : Type}

def fail (complaint : String) : Lex α := fun _ => .error (.malformed complaint)

def ofScan (x : Scan α) : Lex α := fun l => do
  let (a, cursor) ← x.run l.cursor
  return (a, { l with cursor })

def push (t : Token) : Lex Unit := modify fun l => { l with tokens := l.tokens ++ [t] }

def insertAt (n : Nat) (t : Token) : Lex Unit :=
  modify fun l => { l with tokens := l.tokens.take n ++ t :: l.tokens.drop n }

def allowKey (allowed : Bool) : Lex Unit := modify fun l => { l with keyAllowed := allowed }

def inFlow : Lex Bool := return (← get).depth != 0

def column : Lex Int := return (← get).cursor.column

/-! #### Candidates -/

def dropStale : Lex Unit := do
  let l ← get
  let isStale := fun (c : Nat × Candidate) =>
    c.2.line != l.cursor.line || l.cursor.index > c.2.index + 1024
  if l.candidates.any fun c => isStale c && c.2.required then fail "expected a colon"
  set { l with candidates := l.candidates.filter (!isStale ·) }

def dropCandidate : Lex Unit := do
  let l ← get
  if l.candidates.any fun c => c.1 == l.depth && c.2.required then fail "expected a colon"
  set { l with candidates := l.candidates.filter fun c => c.1 != l.depth }

def noteCandidate : Lex Unit := do
  if (← get).keyAllowed then
    dropCandidate
    modify fun l =>
      let required := l.depth == 0 && l.indent == l.cursor.column
      let c : Candidate :=
        ⟨l.tokens.length, required, l.cursor.index, l.cursor.line, l.cursor.column⟩
      { l with candidates := (l.depth, c) :: l.candidates }

/-! #### Indentation -/

def indentTo (column : Int) : Lex Bool := do
  let l ← get
  if l.indent < column then
    set { l with indent := column, outer := l.indent :: l.outer }
    return true
  else return false

def closeBlocks (column : Int) : Nat → Lex Unit
  | 0 => return
  | n + 1 => do
    let l ← get
    if column < l.indent then
      set { l with indent := l.outer.head?.getD (-1), outer := l.outer.drop 1 }
      push .blockEnd
      closeBlocks column n

def unwind (column : Int) : Lex Unit := do
  unless ← inFlow do closeBlocks column ((← get).outer.length + 1)

/-! #### Tokens -/

def toNextToken : Nat → Lex Unit
  | 0 => return
  | fuel + 1 => do
    ofScan (skipWhile (· == ' '))
    if (← ofScan peek?) = some '#' then ofScan (skipWhile (!isBreak ·))
    let b ← ofScan lineBreak
    unless b.isEmpty do
      unless ← inFlow do allowKey true
      toNextToken fuel

def atDocument (t : Token) : Lex Unit := do
  unwind (-1)
  dropCandidate
  allowKey false
  ofScan (skip 3)
  push t

def openFlow (t : Token) : Lex Unit := do
  noteCandidate
  modify fun l => { l with depth := l.depth + 1 }
  allowKey true
  ofScan (skip 1)
  push t

def closeFlow (t : Token) : Lex Unit := do
  dropCandidate
  modify fun l => { l with depth := l.depth - 1 }
  allowKey false
  ofScan (skip 1)
  push t

def flowEntry : Lex Unit := do
  allowKey true
  dropCandidate
  ofScan (skip 1)
  push .flowEntry

def blockEntry : Lex Unit := do
  unless ← inFlow do
    unless (← get).keyAllowed do fail "no sequence entry here"
    if ← indentTo (← column) then push .blockSequenceStart
  allowKey true
  dropCandidate
  ofScan (skip 1)
  push .blockEntry

def explicitKey : Lex Unit := do
  unless ← inFlow do
    unless (← get).keyAllowed do fail "no key here"
    if ← indentTo (← column) then push .blockMappingStart
  allowKey (!(← inFlow))
  dropCandidate
  ofScan (skip 1)
  push .key

def keyValue : Lex Unit := do
  let l ← get
  match l.candidates.find? fun c => c.1 == l.depth with
  | some (_, c) => do
    set { l with candidates := l.candidates.filter fun c => c.1 != l.depth }
    insertAt c.position .key
    unless ← inFlow do
      if ← indentTo c.column then insertAt c.position .blockMappingStart
    allowKey false
  | none => do
    unless ← inFlow do
      unless l.keyAllowed do fail "no value here"
      if ← indentTo (← column) then push .blockMappingStart
    allowKey (!(← inFlow))
    dropCandidate
  ofScan (skip 1)
  push .value

def atom (x : Scan Token) : Lex Unit := do
  noteCandidate
  allowKey false
  push (← ofScan x)

def block (fold : Bool) : Lex Unit := do
  allowKey true
  dropCandidate
  let least := max 1 ((← get).indent + 1).toNat
  push (.scalar (← ofScan (Yaml.block fold least)) false)

def plain : Lex Unit := do
  noteCandidate
  let (text, ended) ← ofScan (Yaml.plain (← inFlow) ((← get).indent + 1).toNat)
  allowKey ended
  push (.scalar text true)

def startsPlain (flow : Bool) (c : Char) (next : Option Char) : Bool :=
  (!endsWord (some c) && !"-?:,[]\x7b\x7d#&*!|>'\"%@`".toList.contains c) ||
    (!endsWord next && (c == '-' || (!flow && (c == '?' || c == ':'))))

def finish : Lex Unit := do
  unwind (-1)
  dropCandidate

def token (c : Char) : Lex Unit := do
  let k := (← get).cursor
  let flow ← inFlow
  let next := k.rest[1]?
  if k.column = 0 ∧ c = '%' then do
    unwind (-1)
    dropCandidate
    allowKey false
    push (← ofScan directive)
  else if k.column = 0 ∧ k.atSeparator then
    atDocument (if c = '-' then .documentStart else .documentEnd)
  else if c = '[' then openFlow .flowSequenceStart
  else if c = '\x7b' then openFlow .flowMappingStart
  else if c = ']' then closeFlow .flowSequenceEnd
  else if c = '\x7d' then closeFlow .flowMappingEnd
  else if c = ',' then flowEntry
  else if c = '-' ∧ endsWord next then blockEntry
  else if c = '?' ∧ (flow ∨ endsWord next) then explicitKey
  else if c = ':' ∧ (flow ∨ endsWord next) then keyValue
  else if c = '*' then atom (.alias <$> anchorName)
  else if c = '&' then atom (.anchor <$> anchorName)
  else if c = '!' then atom (.tag <$> tag)
  else if (c = '|' ∨ c = '>') ∧ !flow then block (c == '>')
  else if c = '\'' ∨ c = '"' then atom ((.scalar · false) <$> quoted c)
  else if startsPlain flow c next then plain
  else fail "no token begins so"

def tokens : Nat → Lex Unit
  | 0 => return
  | fuel + 1 => do
    toNextToken (← ofScan Scan.fuel)
    dropStale
    unwind (← column)
    match ← ofScan peek? with
    | none => finish
    | some c => do
      token c
      tokens fuel

end Lex

def isPrintable (c : Char) : Bool :=
  let n := c.toNat
  n == 9 || n == 10 || n == 13 || (0x20 ≤ n && n ≤ 0x7e) || n == 0x85 || (0xa0 ≤ n && n ≤ 0xd7ff) ||
    (0xe000 ≤ n && n ≤ 0xfffd) || 0x10000 ≤ n

def tokensOf (cs : List Char) : Except Fault (List Token) := do
  if !cs.all isPrintable then throw (.malformed "a character that cannot be printed")
  let start := Cursor.start cs
  let cursor := if cs.head? = some byteOrderMark then start.step else start
  let (_, l) ← (Lex.tokens (cs.length + 1)).run ⟨cursor, [], 0, -1, [], true, []⟩
  return l.tokens

end LayeredConfig.Document.Yaml
