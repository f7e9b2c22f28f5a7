import LayeredConfig.Conversion.Scalar
import LayeredConfig.MetaKeys
import LayeredConfig.Tokens
import LayeredConfig.World

/-! Converters in chains, one chain for each class. The first value wins; a failure is reported
and the next converter tried. Every converter tried leaves its format in the account of the
conversion. -/

namespace LayeredConfig.Conversion

variable {σ : Type}

structure Subject where
  key : String
  config : Option (Ledger String Entry)
  annotated : Option String
  metadata : Ledger String String

structure Account where
  formats : List String
  value : Option Value

structure Result where
  formats : List String
  outcome : Outcome

structure Request (σ : Type) where
  subject : Subject
  target : Target
  /-- Whether items can be converted at all. -/
  linked : Bool
  /-- How items of each type argument are converted; those that stay text have no entry. -/
  items : List (Option (String → Note σ Account))

structure Converter (σ : Type) where
  id : Nat
  name : String
  format : String
  run : String → Request σ → Note σ Result

namespace Request

def convertItem (q : Request σ) (place : Nat) (token : String) : Note σ Account :=
  match (q.items[place]?).join with
  | none => return ⟨[], some (.text token)⟩
  | some convert => do
    let account ← convert token
    if account.value.isNone then
      report .warning "collection_item_skipped" none (some q.subject.key)
        [("item", .text token), ("target", .text (q.target.argument place).label)]
    return account

end Request

/-! ### Collections -/

inductive Builder
  | cls (c : Class)
  | sorted
  | sortedTuple

namespace Builder

def ofName? : String → Option Builder
  | "list" => some (cls .list)
  | "tuple" => some (cls .tuple)
  | "set" => some (cls .set)
  | "frozenset" => some (cls .frozenset)
  | "sorted" => some sorted
  | _ => none

def readOnly : Builder → Builder
  | cls .list => cls .tuple
  | cls .set => cls .frozenset
  | sorted => sortedTuple
  | b => b

def requested? (text : String) : Option Builder :=
  let cs := Text.lowerChars (Text.trim text.toList)
  ofName? (String.ofList (((Text.cutLast? '.' cs).map Prod.snd).getD cs))

def isReadOnly (metadata : Ledger String String) : Bool :=
  Text.lower (Text.strip (metadata.getD MetaKeys.readOnly "false")) = "true"

def choose (c : Class) (metadata : Ledger String String) : Builder :=
  let text := metadata.getD MetaKeys.collectionType ""
  let b := if text.isEmpty then cls c else (requested? text).getD (cls c)
  if isReadOnly metadata then b.readOnly else b

def pair? : Value → Option (String × Value)
  | .text s =>
    match s.toList with
    | [a, b] => some (String.singleton a, .text (String.singleton b))
    | _ => none
  | .collection _ [.text k, v] => some (k, v)
  | _ => none

def buildClass? (c : Class) (items : List Value) : Option Value :=
  match c.collection? with
  | some .list | some .tuple => some (.collection c items)
  | some .set | some .frozenset => (Value.distinct? items).map (.collection c)
  | none =>
    match c with
    | .boolean => some (.boolean !items.isEmpty)
    | .mapping => (items.mapM pair?).map fun ps => .mapping false (Ledger.ofList ps).pairs
    | _ => none

def build? : Builder → List Value → Option Value
  | cls c, items => buildClass? c items
  | sorted, items => (Value.sorted? items).map (.collection .list)
  | sortedTuple, items => (Value.sorted? items).map (.collection .tuple)

end Builder

/-- What conversions go by that is not the library's own. -/
structure Runtime where
  homes : Path.Homes
  /-- What is said of items that cannot be built into a collection. -/
  complaint : Builder → List Value → String

namespace Runtime

def silent : Runtime := ⟨⟨none, fun _ => none⟩, fun _ _ => ""⟩

def build (runtime : Runtime) (b : Builder) (items : List Value) : Outcome :=
  match b.build? items with
  | some v => .ok (some v)
  | none => .error (.foreign (runtime.complaint b items))

end Runtime

namespace Converter

def pureRun (read : String → Target → Outcome) : String → Request σ → Note σ Result :=
  fun raw q => return ⟨[], read raw q.target⟩

def boolean (id : Nat) : Converter σ :=
  ⟨id, "BoolConverter", "true|false|yes|no|on|off|1|0", pureRun fun raw _ => Scalar.readBoolean raw⟩

def integer (id : Nat) : Converter σ :=
  ⟨id, "IntConverter", "<int>, 0x<hex>, 0o<oct>, 0b<bin>",
    pureRun fun raw _ => Scalar.readInteger raw⟩

def real (id : Nat) : Converter σ :=
  ⟨id, "FloatConverter", "<float>, nan, inf", pureRun fun raw _ => Scalar.readReal raw⟩

def decimal (id : Nat) : Converter σ :=
  ⟨id, "DecimalConverter", "<decimal>", pureRun fun raw _ => Scalar.readDecimal raw⟩

def path (homes : Path.Homes) (id : Nat) : Converter σ :=
  ⟨id, "PathConverter", "<path>", pureRun fun raw _ => Scalar.readPath homes raw⟩

def enum (id : Nat) : Converter σ :=
  ⟨id, "EnumConverter", "<member name>, <member value>",
    pureRun fun raw t => Scalar.readEnum t.cls raw⟩

def duration (id : Nat) : Converter σ :=
  ⟨id, "DurationConverter", "<n>ms, <n>s, <n>m, <n>h, <n>d",
    pureRun fun raw _ => Scalar.readDuration raw⟩

def itemSeparator (q : Request σ) : String :=
  q.subject.metadata.getD MetaKeys.itemSeparator Tokens.defaultItemSeparator

def entrySeparator (q : Request σ) : String :=
  q.subject.metadata.getD MetaKeys.entrySeparator Tokens.defaultEntrySeparator

def runCollection (runtime : Runtime) (raw : String) (q : Request σ) : Note σ Result :=
  match Tokens.split? raw (itemSeparator q) with
  | none => return ⟨[], .error .emptySeparator⟩
  | some tokens => do
    let accounts ← tokens.mapM fun token => q.convertItem 0 (Text.strip token)
    let outcome := runtime.build (Builder.choose q.target.cls q.subject.metadata)
      (accounts.filterMap (·.value))
    return ⟨accounts.flatMap (·.formats), outcome⟩

def collection (runtime : Runtime) (id : Nat) : Converter σ :=
  ⟨id, "CollectionConverter", "<item><sep><item>... (item-separator, default ',')",
    runCollection runtime⟩

def convertEntry (q : Request σ) (sep token : String) : Note σ (String × Account) :=
  match Tokens.splitEntry? token sep with
  | none => return ("", ⟨[], none⟩)
  | some (key, text) => return (key, ← q.convertItem 1 text)

def runMapping (raw : String) (q : Request σ) : Note σ Result :=
  let sep := entrySeparator q
  match Tokens.split? raw (itemSeparator q) with
  | none => return ⟨[], .error .emptySeparator⟩
  | some tokens =>
    if sep.isEmpty && !tokens.isEmpty then return ⟨[], .error .emptySeparator⟩
    else do
      let entries ← tokens.mapM (convertEntry q sep)
      let pairs := Ledger.ofList (entries.filterMap fun e => e.2.value.map (e.1, ·))
      return ⟨entries.flatMap (·.2.formats),
        .ok (some (.mapping (Builder.isReadOnly q.subject.metadata) pairs.pairs))⟩

def mapping (id : Nat) : Converter σ :=
  ⟨id, "MappingConverter", "<key>=<value><sep>... (map-entry-separator, default '=')", runMapping⟩

def advertised (c : Converter σ) : String := c.format ++ " (" ++ c.name ++ ")"

def tryAll (raw : String) (q : Request σ) (formats : List String) :
    List (Converter σ) → Note σ Account
  | [] => do
    report .debug "conversion_exhausted" none (some q.subject.key)
      [("target", .text q.target.label), ("formats", Journal.strings formats)]
    return ⟨formats, none⟩
  | c :: rest => do
    let result ← c.run raw q
    let formats := formats ++ c.advertised :: result.formats
    match result.outcome with
    | .ok (some v) => return ⟨formats, some v⟩
    | .ok none => tryAll raw q formats rest
    | .error fault =>
      report .debug "converter_failed" none (some q.subject.key)
        [("converter", .text c.name), ("error", .text fault.message)]
      tryAll raw q formats rest

end Converter

structure Registry (σ : Type) where
  chains : Ledger String (List (Converter σ))

namespace Registry

def empty : Registry σ := ⟨.empty⟩

def chain (r : Registry σ) (c : Class) : List (Converter σ) := r.chains.getD c.qualified []

def register (r : Registry σ) (c : Class) (converter : Converter σ) : Registry σ :=
  ⟨r.chains.put c.qualified (r.chain c ++ [converter])⟩

def unregister (r : Registry σ) (c : Class) (converter : Converter σ) : Registry σ :=
  ⟨r.chains.put c.qualified ((r.chain c).eraseP (·.id = converter.id))⟩

/-- The classes whose chains may serve a class; enumerations look among enumerations only. -/
def servants (c : Class) : List Class :=
  c :: if c.isEnum then c.ancestors.filter Class.isEnum else c.ancestors

def convertersFor (r : Registry σ) (c : Class) : List (Converter σ) :=
  ((servants c).map r.chain).find? (!·.isEmpty) |>.getD []

def request (s : Subject) (linked : Bool) (t : Target)
    (items : List (Option (String → Note σ Account))) : Request σ :=
  ⟨s, t, linked, if linked then items else []⟩

mutual

def convert (r : Registry σ) (s : Subject) (linked : Bool) : Target → String → Note σ Account
  | .bare .text, raw => return ⟨[], some (.text raw)⟩
  | .bare c, raw => Converter.tryAll raw (request s linked (.bare c) []) [] (r.convertersFor c)
  | .generic c ts, raw =>
    Converter.tryAll raw (request s linked (.generic c ts) (convertEach r s linked ts)) []
      (r.convertersFor c)
  | .ellipsis, raw =>
    Converter.tryAll raw (request s linked .ellipsis []) [] (r.convertersFor .object)

def convertEach (r : Registry σ) (s : Subject) (linked : Bool) :
    List Target → List (Option (String → Note σ Account))
  | [] => []
  | .bare .text :: ts => none :: convertEach r s linked ts
  | .ellipsis :: ts => none :: convertEach r s linked ts
  | t :: ts => some (convert r s linked t) :: convertEach r s linked ts

end

def standard (runtime : Runtime) : Registry σ :=
  let collection := Converter.collection runtime 7
  [(.boolean, .boolean 0), (.integer, .integer 1), (.real, .real 2), (.decimal, .decimal 3),
    (.path, .path runtime.homes 4), (.enum, .enum 5), (.duration, .duration 6), (.list, collection),
    (.tuple, collection), (.set, collection), (.frozenset, collection),
    (.mapping, .mapping 8)].foldl (fun r p => r.register p.1 p.2) empty

end Registry

end LayeredConfig.Conversion
