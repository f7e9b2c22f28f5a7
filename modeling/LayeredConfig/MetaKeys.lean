import LayeredConfig.Ledger
import LayeredConfig.Text.Cut

/-! Keys that configure other keys. A meta-entry of `key` is spelled `key.name` for a known name,
or the same with a reserved lead in front, which is read when the plain spelling is missing. -/

namespace LayeredConfig

structure MetaKeys where
  names : List String
  lead : String
  deriving DecidableEq

namespace MetaKeys

def combinationPolicy : String := "combination-policy"

def itemSeparator : String := "item-separator"

def entrySeparator : String := "map-entry-separator"

def collectionType : String := "collection-type"

def readOnly : String := "read-only"

def itemConverter : String := "item-converter"

def standard : MetaKeys :=
  ⟨[combinationPolicy, itemSeparator, entrySeparator, collectionType, readOnly, itemConverter], "_"⟩

/-- Whether a key carries the reserved lead; an empty lead is carried by none. -/
def isReserved (m : MetaKeys) (key : String) : Bool := !m.lead.isEmpty && Text.startsWith m.lead key

def bare (m : MetaKeys) (key : String) : String :=
  if m.isReserved key then (Text.after? m.lead key).getD key else key

def targetOf? (key name : String) : Option String :=
  let suffix := '.' :: name.toList
  if suffix.isSuffixOf key.toList && suffix.length < key.toList.length then
    some (String.ofList (key.toList.take (key.toList.length - suffix.length)))
  else none

def split? (m : MetaKeys) (key : String) : Option (String × String) :=
  m.names.findSome? fun name => (targetOf? (m.bare key) name).map (·, name)

def isMeta (m : MetaKeys) (key : String) : Bool := m.isReserved key || (m.split? key).isSome

def keyFor (key name : String) : String := key ++ "." ++ name

def candidates (m : MetaKeys) (key name : String) : String × String :=
  (keyFor key name, m.lead ++ keyFor key name)

abbrev Grouped := Ledger String (Ledger String String)

def Grouped.at (g : Grouped) (key : String) : Ledger String String := g.getD key .empty

def addPlain (g : Grouped) (target name value : String) : Grouped :=
  g.put target ((g.at target).put name value)

def addReserved (g : Grouped) (target name value : String) : Grouped :=
  g.put target ((g.at target).putNew name value)

structure Part where
  reserved : Bool
  target : String
  name : String
  value : String

def parts (m : MetaKeys) (values : List (String × Option String)) : List Part :=
  values.filterMap fun (key, value?) => do
    let value ← value?
    let (target, name) ← m.split? key
    return ⟨m.isReserved key, target, name, value⟩

/-- Groups meta-entries by target; plain spellings come before reserved ones. -/
def collect (m : MetaKeys) (values : List (String × Option String)) : Grouped :=
  let ps := m.parts values
  let plain := (ps.filter (!·.reserved)).foldl (fun g p => addPlain g p.target p.name p.value) .empty
  (ps.filter (·.reserved)).foldl (fun g p => addReserved g p.target p.name p.value) plain

end MetaKeys

end LayeredConfig
