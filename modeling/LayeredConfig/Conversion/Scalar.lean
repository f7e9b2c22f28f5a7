import LayeredConfig.Conversion.Value
import LayeredConfig.Duration
import LayeredConfig.Text.Case

/-! Scalars read from text. Each reader gives a value, nothing, or a fault; blank text gives
nothing. -/

namespace LayeredConfig.Conversion

open Number

inductive Fault
  | integer (fault : Integer.Fault)
  | notReal (text : String)
  | homeUnknown
  | duration (fault : Duration.Fault)
  | notIterable (cls : Class)
  | emptySeparator
  | foreign (text : String)

def Fault.message : Fault → String
  | integer f => f.message
  | notReal s => "could not convert string to float: " ++ Text.quote s
  | homeUnknown => "Could not determine home directory."
  | duration f => f.message
  | notIterable .any => "'_AnyMeta' object is not iterable"
  | notIterable _ => "'type' object is not iterable"
  | emptySeparator => "separator must not be empty"
  | foreign s => s

abbrev Outcome := Except Fault (Option Value)

namespace Scalar

def trueWords : List String := ["true", "yes", "on", "1", "y"]

def falseWords : List String := ["false", "no", "off", "0", "n"]

def readBoolean (raw : String) : Outcome :=
  let word := Text.lower (Text.strip raw)
  if word ∈ trueWords then .ok (some (.boolean true))
  else if word ∈ falseWords then .ok (some (.boolean false))
  else .ok none

/-- Integers may carry underscores anywhere, and a mark for base 2, 8 or 16. -/
def readInteger (raw : String) : Outcome :=
  let cs := (Text.trim raw.toList).filter (· != '_')
  if cs.isEmpty then .ok none
  else
    let text := String.ofList cs
    let unsigned := (Text.lowerChars cs).dropWhile fun c => c == '+' || c == '-'
    let read := if (Integer.markedBase unsigned).isSome then Integer.readMarked text
      else Integer.readDecimal text
    match read with
    | .ok n => .ok (some (.integer n))
    | .error f => .error (.integer f)

def readReal (raw : String) : Outcome :=
  let text := Text.strip raw
  if text.isEmpty then .ok none
  else match Binary64.read? text with
    | some x => .ok (some (.real x))
    | none => .error (.notReal text)

def readDecimal (raw : String) : Outcome := .ok ((Decimal.read? (Text.strip raw)).map .decimal)

def readPath (homes : Path.Homes) (raw : String) : Outcome :=
  let text := Text.strip raw
  if text.isEmpty then .ok none
  else match (Path.ofString text).expandHome? homes with
    | some p => .ok (some (.path p))
    | none => .error .homeUnknown

/-- The member of that name, whatever the case of its letters, or else the member whose value is
written so. -/
def readMember? (e : Enumeration) (raw : String) : Option Member :=
  let text := Text.strip raw
  (e.members.find? fun m => Text.lower m.name = Text.lower text).or
    (e.members.find? fun m => m.value.display = text)

def readEnum (cls : Class) (raw : String) : Outcome :=
  match cls with
  | .enumeration e => .ok ((readMember? e raw).map (.member e))
  | c => if c.isEnum then .ok none else .error (.notIterable c)

def readDuration (raw : String) : Outcome :=
  match Duration.read raw with
  | .ok n => .ok (n.map fun us => .duration us)
  | .error f => .error (.duration f)

end Scalar

end LayeredConfig.Conversion
