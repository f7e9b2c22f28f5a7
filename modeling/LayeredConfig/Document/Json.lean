import LayeredConfig.Document
import LayeredConfig.Text.Encoding

/-! JSON documents. Besides the standard's values there are `NaN` and the infinities. Later members
of one name replace the value of earlier ones. -/

namespace LayeredConfig.Document.Json

open Number Reader

def isSpace (c : Char) : Bool := c == ' ' || c == '\t' || c == '\n' || c == '\r'

def skipSpace : Reader Unit := skipWhile isSpace

/-! ### Strings -/

def escaped? : Char → Option Char
  | '"' => some '"'
  | '\\' => some '\\'
  | '/' => some '/'
  | 'b' => some '\x08'
  | 'f' => some '\x0c'
  | 'n' => some '\n'
  | 'r' => some '\r'
  | 't' => some '\t'
  | _ => none

def lowAhead? : List Char → Option Nat
  | '\\' :: 'u' :: cs =>
    match hexNumber 4 cs with
    | .ok (n, _) => if Text.Encoding.isLow n then some n else none
    | .error _ => none
  | _ => none

def unicodeChar : Reader Char := do
  let n ← hexNumber 4
  if Text.Encoding.isHigh n then
    match lowAhead? (← rest) with
    | some m => do
      skip 6
      return Char.ofNat (Text.Encoding.paired n m)
    | none => return '\ufffd'
  else return (Text.Encoding.char? n).getD '\ufffd'

def stringBody (acc : List Char) : Nat → Reader String
  | 0 => fail "unterminated string"
  | fuel + 1 => do
    match ← peek? with
    | none => fail "unterminated string"
    | some c =>
      skip 1
      if c = '"' then return String.ofList acc.reverse
      else if c = '\\' then do
        match ← peek? with
        | some 'u' => do
          skip 1
          let u ← unicodeChar
          stringBody (u :: acc) fuel
        | some e =>
          match escaped? e with
          | some d => do
            skip 1
            stringBody (d :: acc) fuel
          | none => fail "bad escape"
        | none => fail "unterminated string"
      else if c.val < 0x20 then fail "control character in a string"
      else stringBody (c :: acc) fuel

def string : Reader String := do stringBody [] ((← rest).length + 1)

/-! ### Numbers -/

def whole (cs : List Char) : List Char :=
  match cs with
  | '0' :: _ => ['0']
  | _ => cs.takeWhile Char.isDigit

def fraction : List Char → List Char
  | '.' :: cs =>
    let digits := cs.takeWhile Char.isDigit
    if digits.isEmpty then [] else '.' :: digits
  | _ => []

def exponent : List Char → List Char
  | e :: cs =>
    if e = 'e' ∨ e = 'E' then
      let sign := match cs with
        | '+' :: _ => ['+']
        | '-' :: _ => ['-']
        | _ => []
      let digits := (cs.drop sign.length).takeWhile Char.isDigit
      if digits.isEmpty then [] else e :: sign ++ digits
    else []
  | [] => []

def number : Reader Data := do
  let cs ← rest
  let sign := if cs.head? = some '-' then ['-'] else []
  let w := whole (cs.drop sign.length)
  if w.isEmpty then fail "expected a value"
  else
    let afterWhole := cs.drop (sign.length + w.length)
    let f := fraction afterWhole
    let x := exponent (afterWhole.drop f.length)
    let text := String.ofList (sign ++ w ++ f ++ x)
    skip (sign.length + w.length + f.length + x.length)
    if f.isEmpty && x.isEmpty then integer (Integer.readDecimal text)
    else return .real ((Binary64.read? text).getD .nan)

/-! ### Values -/

def words : List (String × Data) :=
  [("null", .null), ("true", .boolean true), ("false", .boolean false), ("NaN", .real .nan),
    ("Infinity", .real (.infinite false)), ("-Infinity", .real (.infinite true))]

mutual

def value : Nat → Reader Data
  | 0 => fail "nested too deeply"
  | fuel + 1 => do
    match ← peek? with
    | some '"' => do
      skip 1
      return .text (← string)
    | some '[' => do
      skip 1
      skipSpace
      if ← acceptChar ']' then return .collection .list []
      return .collection .list (← items fuel)
    | some '\x7b' => do
      skip 1
      skipSpace
      if ← acceptChar '\x7d' then return .mapping []
      return Data.mappingOf (← members fuel)
    | _ => do
      let cs ← rest
      match words.find? fun w => w.1.toList.isPrefixOf cs with
      | some (w, v) => do
        skip w.length
        return v
      | none => number

def items : Nat → Reader (List Data)
  | 0 => fail "nested too deeply"
  | fuel + 1 => do
    let v ← value fuel
    skipSpace
    if ← acceptChar ']' then return [v]
    expect ','
    skipSpace
    return v :: (← items fuel)

def members : Nat → Reader (List (Data × Data))
  | 0 => fail "nested too deeply"
  | fuel + 1 => do
    expect '"'
    let name ← string
    skipSpace
    expect ':'
    skipSpace
    let v ← value fuel
    skipSpace
    if ← acceptChar '\x7d' then return [(.text name, v)]
    expect ','
    skipSpace
    return (.text name, v) :: (← members fuel)

end

def document : Reader Data := do
  skipSpace
  let v ← value (2 * (← rest).length + 2)
  skipSpace
  unless (← rest).isEmpty do fail "more than one value"
  return v

def decode? (bytes : ByteArray) : Option (List Char) :=
  match Text.Encoding.marked? bytes.toList with
  | some (e, mark) => e.decode? (bytes.extract mark bytes.size)
  | none => (Text.Encoding.byZeros bytes.toList).decode? bytes

def read (bytes : ByteArray) : Except Fault Data :=
  match decode? bytes with
  | none => .error (.malformed "bytes that are no text")
  | some cs => Prod.fst <$> document.runOn cs

end LayeredConfig.Document.Json
