import LayeredConfig.Document.Yaml.Form
import LayeredConfig.Document.Yaml.Node
import LayeredConfig.Text.Cut

/-! A reader of YAML documents. Tags beyond the standard ones are refused, as are binary values and
aliases of a node within that node. -/

namespace LayeredConfig.Document.Yaml

open Number

def standardName? (tag : Option String) : Except Fault (Option String) :=
  match tag with
  | none | some "!" => .ok none
  | some t =>
    match Text.after? standardLead t with
    | some name => .ok (some name)
    | none => .error (.malformed "unknown tag")

def integerValue (text : String) : Except Fault Data :=
  match Form.readInteger text with
  | .ok n => .ok (.integer n)
  | .error f => .error (.number f)

def unreadablePart (text : String) : String :=
  let parts := Form.sections (Form.unsigned ((Form.withoutUnderscores text.toList).map Char.toLower))
  ((parts.map String.ofList).find? fun part => (Binary64.read? part).isNone).getD ""

def realValue (text : String) : Except Fault Data :=
  match Form.readReal? text with
  | some x => .ok (.real x)
  | none =>
    .error (.foreign "ValueError"
      ("could not convert string to float: " ++ Text.quote (unreadablePart text)))

def momentValue (text : String) : Except Fault Data :=
  match Form.moment? text.toList with
  | some m => m.read.mapError .calendar
  | none => .error (.foreign "AttributeError" "'NoneType' object has no attribute 'groupdict'")

def booleanValue (text : String) : Except Fault Data :=
  let word := String.ofList (text.toList.map Char.toLower)
  if Form.trueWords.contains word then .ok (.boolean true)
  else if Form.falseWords.contains word then .ok (.boolean false)
  else .error (.foreign "KeyError" (Text.quote word))

def formValue (text : String) : Form → Except Fault Data
  | .null => .ok .null
  | .boolean b => .ok (.boolean b)
  | .integer => integerValue text
  | .real => realValue text
  | .moment => momentValue text
  | .text => .ok (.text text)
  | .merge | .default => .error (.malformed "a mark that is no value")

def scalarValue (tag : Option String) (text : String) (isPlain : Bool) : Except Fault Data := do
  match ← standardName? tag with
  | none => formValue text (if isPlain then Form.ofText text else .text)
  | some "str" => .ok (.text text)
  | some "null" => .ok .null
  | some "bool" => booleanValue text
  | some "int" => integerValue text
  | some "float" => realValue text
  | some "timestamp" => momentValue text
  | some _ => .error (.malformed "no value of that tag")

def isForm (f : Form) : Node → Bool
  | .scalar none text true => Form.ofText text == f
  | _ => false

def isKey : Data → Bool
  | .collection kind _ => kind == .tuple
  | .mapping _ => false
  | _ => true

def mergeInto (merged own : List (Node × Node)) : List (Node × Node) := merged ++ own

def mergedPairs (pairsOf : Node → Except Fault (List (Node × Node))) :
    Node → Except Fault (List (Node × Node))
  | .sequence _ items => do
    let each ← items.mapM pairsOf
    return each.reverse.flatten
  | n => pairsOf n

def flatPairs : Nat → Node → Except Fault (List (Node × Node))
  | fuel + 1, .mapping _ pairs => do
    let merged ← (pairs.filter (isForm .merge ·.1)).mapM fun p =>
      mergedPairs (flatPairs fuel) p.2
    return mergeInto merged.flatten (pairs.filter (!isForm .merge ·.1))
  | _, _ => .error (.malformed "expected a mapping")

def keyValue (value : Node → Except Fault Data) (n : Node) : Except Fault Data := do
  let k ← match n with
    | .scalar none "=" true => pure (.text "=")
    | n => value n
  if isKey k then return k else throw (.malformed "a key that is none")

def singlePair (value : Node → Except Fault Data) : Node → Except Fault Data
  | .mapping _ [(k, v)] => return .collection .tuple [← value k, ← value v]
  | _ => .error (.malformed "expected a pair")

def sequenceValue (tag : Option String) (items : List Node) (value : Node → Except Fault Data) :
    Except Fault Data := do
  match ← standardName? tag with
  | none | some "seq" => return .collection .list (← items.mapM value)
  | some "omap" | some "pairs" => return .collection .list (← items.mapM (singlePair value))
  | some _ => throw (.malformed "no sequence of that tag")

def mappingValue (tag : Option String) (pairs : List (Node × Node))
    (value : Node → Except Fault Data) : Except Fault Data := do
  let entries := pairs.mapM fun p => return (← keyValue value p.1, ← value p.2)
  match ← standardName? tag with
  | none | some "map" => return Data.mappingOf (← entries)
  | some "set" => return Data.setOf .set ((← entries).map Prod.fst)
  | some _ => throw (.malformed "no mapping of that tag")

def valueOf : Nat → Node → Except Fault Data
  | 0, _ => .error (.malformed "nested too deeply")
  | _ + 1, .scalar tag text isPlain => scalarValue tag text isPlain
  | fuel + 1, .sequence tag items => sequenceValue tag items (valueOf fuel)
  | fuel + 1, .mapping tag pairs => do
    mappingValue tag (← flatPairs (fuel + 1) (.mapping tag pairs)) (valueOf fuel)

mutual

def depth : Node → Nat
  | .scalar .. => 1
  | .sequence _ items => depthOfAll items + 1
  | .mapping _ pairs => depthOfPairs pairs + 1

def depthOfAll : List Node → Nat
  | [] => 0
  | n :: ns => max (depth n) (depthOfAll ns)

def depthOfPairs : List (Node × Node) → Nat
  | [] => 0
  | (k, v) :: ps => max (max (depth k) (depth v)) (depthOfPairs ps)

end

def decode? (bytes : ByteArray) : Option (List Char) :=
  match Text.Encoding.marked? bytes.toList with
  | some (.utf16 order, mark) => (Text.Encoding.utf16 order).decode? (bytes.extract mark bytes.size)
  | _ => Text.Encoding.utf8.decode? bytes

def read (bytes : ByteArray) : Except Fault Data :=
  match decode? bytes with
  | none => .error (.malformed "bytes that are no text")
  | some cs => do
    match ← nodeOf? cs with
    | none => return .null
    | some n => valueOf (depth n) n

end LayeredConfig.Document.Yaml
