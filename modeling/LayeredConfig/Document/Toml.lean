import LayeredConfig.Document.Toml.Scalar
import LayeredConfig.Document.Toml.Tables

/-! TOML documents. -/

namespace LayeredConfig.Document.Toml

open Reader

/-! ### Keys -/

def isBare (c : Char) : Bool := c.isAlphanum || c == '-' || c == '_'

def keyPart : Reader String := do
  match ← peek? with
  | some '"' => do
    skip 1
    return String.ofList (← basic false)
  | some '\'' => do
    skip 1
    return String.ofList (← literal)
  | _ =>
    let name ← takeWhile isBare
    if name.isEmpty then fail "expected a key"
    return String.ofList name

def keyParts : Nat → Reader Key
  | 0 => fail "expected a key"
  | fuel + 1 => do
    let name ← keyPart
    skipWhile isSpace
    if ← acceptChar '.' then
      skipWhile isSpace
      return name :: (← keyParts fuel)
    return [name]

def key : Reader Key := do keyParts ((← rest).length + 1)

/-! ### Values -/

def comment : Reader Unit := do
  if ← acceptChar '#' then
    let text ← takeWhile fun c => c != '\n'
    if text.any isControl then fail "control character"

def filler : Nat → Reader Unit
  | 0 => return
  | fuel + 1 => do
    skipWhile isSpaceOrBreak
    if (← peek?) = some '#' then
      comment
      filler fuel

def skipFiller : Reader Unit := do filler ((← rest).length + 1)

def orFail (t? : Option Tables) (complaint : String) : Reader Tables :=
  match t? with
  | some t => pure t
  | none => fail complaint

mutual

def value : Nat → Reader Data
  | 0 => fail "nested too deeply"
  | fuel + 1 => do
    match ← peek? with
    | some '[' => do
      skip 1
      skipFiller
      if ← acceptChar ']' then return .collection .list []
      return .collection .list (← items fuel)
    | some '\x7b' => do
      skip 1
      skipWhile isSpace
      if ← acceptChar '\x7d' then return .mapping []
      return .mapping (← members .empty fuel).root
    | _ => scalar

def items : Nat → Reader (List Data)
  | 0 => fail "nested too deeply"
  | fuel + 1 => do
    let v ← value fuel
    skipFiller
    if ← acceptChar ']' then return [v]
    expect ','
    skipFiller
    if ← acceptChar ']' then return [v]
    return v :: (← items fuel)

def members (t : Tables) : Nat → Reader Tables
  | 0 => fail "nested too deeply"
  | fuel + 1 => do
    let k ← key
    expect '='
    skipWhile isSpace
    let v ← value fuel
    let t ← orFail (t.setInline k v) "second value for a key"
    skipWhile isSpace
    if ← acceptChar '\x7d' then return t
    expect ','
    skipWhile isSpace
    members t fuel

end

/-! ### Statements -/

def setting (t : Tables) (header : Key) : Reader Tables := do
  let k ← key
  expect '='
  skipWhile isSpace
  let v ← value (2 * (← rest).length + 2)
  orFail (t.set header k v) "second value for a key"

def tableHeader (t : Tables) : Reader (Tables × Key) := do
  skipWhile isSpace
  let k ← key
  let t ← orFail (t.openTable k) "second table of a name"
  expect ']'
  return (t, k)

def memberHeader (t : Tables) : Reader (Tables × Key) := do
  skipWhile isSpace
  let k ← key
  let t ← orFail (t.openMember k) "no array of tables"
  expect ']'
  expect ']'
  return (t, k)

def statement (t : Tables) (header : Key) : Reader (Tables × Key) := do
  let result ← do
    match ← peek? with
    | none | some '\n' | some '#' => pure (t, header)
    | some '[' => do
      let t := t.settle
      if ← accept ['[', '['] then memberHeader t
      else do
        skip 1
        tableHeader t
    | some _ => do pure (← setting t header, header)
  skipWhile isSpace
  comment
  unless (← rest).isEmpty do expect '\n'
  return result

def statements (t : Tables) (header : Key) : Nat → Reader Tables
  | 0 => return t
  | fuel + 1 => do
    skipWhile isSpace
    if (← rest).isEmpty then return t
    let (t, header) ← statement t header
    statements t header fuel

def unifyBreaks : List Char → List Char
  | '\r' :: '\n' :: cs => '\n' :: unifyBreaks cs
  | c :: cs => c :: unifyBreaks cs
  | [] => []

def document : Reader Data := do
  let t ← statements .empty [] ((← rest).length + 1)
  return .mapping t.root

def read (bytes : ByteArray) : Except Fault Data :=
  match Text.Encoding.utf8.decode? bytes with
  | none => .error (.malformed "bytes that are no text")
  | some cs => Prod.fst <$> document.runOn (unifyBreaks cs)

end LayeredConfig.Document.Toml
