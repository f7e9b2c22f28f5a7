import LayeredConfig.Document.Yaml.Token
import LayeredConfig.Ledger

/-! The nodes of a YAML document: scalars, sequences and mappings with their tags. An alias stands
for the node that bears its anchor. -/

namespace LayeredConfig.Document.Yaml

inductive Node
  | scalar (tag : Option String) (text : String) (isPlain : Bool)
  | sequence (tag : Option String) (items : List Node)
  | mapping (tag : Option String) (pairs : List (Node × Node))
  deriving Inhabited

namespace Node

def empty : Node := scalar none "" true

end Node

def standardLead : String := "tag:yaml.org,2002:"

structure Reading where
  tokens : List Token
  anchors : Ledger String Node
  handles : Ledger String String

abbrev Compose (α : Type) := StateT Reading (Except Fault) α

namespace Compose

variable {α : Type}

def fail (complaint : String) : Compose α := fun _ => .error (.malformed complaint)

def peek? : Compose (Option Token) := return (← get).tokens.head?

def drop : Compose Unit := modify fun r => { r with tokens := r.tokens.drop 1 }

def fullTag (t : WrittenTag) : Compose String :=
  match t.handle with
  | none => return t.suffix
  | some h => do
    match (← get).handles.get? h with
    | some lead => return lead ++ t.suffix
    | none => fail "unknown tag handle"

def properties : Compose (Option String × Option String) := do
  match (← get).tokens with
  | .anchor a :: .tag t :: _ => do
    drop; drop
    return (some a, some (← fullTag t))
  | .tag t :: .anchor a :: _ => do
    drop; drop
    return (some a, some (← fullTag t))
  | .anchor a :: _ => do
    drop
    return (some a, none)
  | .tag t :: _ => do
    drop
    return (none, some (← fullTag t))
  | _ => return (none, none)

def register (anchor : Option String) (n : Node) : Compose Unit :=
  match anchor with
  | none => return
  | some a => do
    if (← get).anchors.contains a then fail "second anchor of a name"
    modify fun r => { r with anchors := r.anchors.put a n }

def endsBlockEntry (inMapping : Bool) : Option Token → Bool
  | some .blockEntry => !inMapping
  | some .key | some .value | some .blockEnd => true
  | _ => false

def endsFlowEntry : Option Token → Bool
  | some .value | some .flowEntry | some .flowSequenceEnd | some .flowMappingEnd => true
  | _ => false

def accept (p : Token → Bool) : Compose Bool := do
  if (← peek?).any p then
    drop
    return true
  else return false

def isBlockEntry : Token → Bool
  | .blockEntry => true
  | _ => false

def isBlockEnd : Token → Bool
  | .blockEnd => true
  | _ => false

def isKey : Token → Bool
  | .key => true
  | _ => false

def isValue : Token → Bool
  | .value => true
  | _ => false

def isFlowEntry : Token → Bool
  | .flowEntry => true
  | _ => false

def isSequenceEnd : Token → Bool
  | .flowSequenceEnd => true
  | _ => false

def isMappingEnd : Token → Bool
  | .flowMappingEnd => true
  | _ => false

def plainTag (tag : Option String) : Bool := tag.all (· == "!")

mutual

/-- A node; block collections only where `inBlock`, and sequence entries without an indentation of
their own only where `unindented`. -/
def node (inBlock unindented : Bool) : Nat → Compose Node
  | 0 => fail "nested too deeply"
  | fuel + 1 => do
    match ← peek? with
    | some (.alias a) => do
      drop
      match (← get).anchors.get? a with
      | some n => return n
      | none => fail "unknown alias"
    | _ => do
      let (anchor, tag) ← properties
      let n ← content inBlock unindented (anchor.isSome || tag.isSome) tag fuel
      register anchor n
      return n

def content (inBlock unindented mayBeEmpty : Bool) (tag : Option String) : Nat → Compose Node
  | 0 => fail "nested too deeply"
  | fuel + 1 => do
    match ← peek? with
    | some (.scalar text isPlain) => do
      drop
      return .scalar (tag.filter (· != "!")) text (isPlain && tag.isNone || tag == some "!")
    | some .flowSequenceStart => do
      drop
      return .sequence tag (← flowItems true fuel)
    | some .flowMappingStart => do
      drop
      return .mapping tag (← flowPairs true fuel)
    | some .blockSequenceStart => do
      unless inBlock do fail "no block sequence here"
      drop
      return .sequence tag (← blockItems fuel)
    | some .blockMappingStart => do
      unless inBlock do fail "no block mapping here"
      drop
      return .mapping tag (← blockPairs fuel)
    | some .blockEntry => do
      if unindented then return .sequence tag (← unindentedItems fuel)
      else if mayBeEmpty then return .scalar (tag.filter (· != "!")) "" (plainTag tag)
      else fail "expected a node"
    | _ =>
      if mayBeEmpty then return .scalar (tag.filter (· != "!")) "" (plainTag tag)
      else fail "expected a node"

def blockItems : Nat → Compose (List Node)
  | 0 => fail "nested too deeply"
  | fuel + 1 => do
    if ← accept isBlockEntry then
      let next ← peek?
      let n ← if next.any fun t => isBlockEntry t || isBlockEnd t then pure .empty
        else node true false fuel
      return n :: (← blockItems fuel)
    else if ← accept isBlockEnd then return []
    else fail "expected an entry of the sequence"

def unindentedItems : Nat → Compose (List Node)
  | 0 => fail "nested too deeply"
  | fuel + 1 => do
    if ← accept isBlockEntry then
      let n ← if endsBlockEntry false (← peek?) then pure .empty else node true false fuel
      return n :: (← unindentedItems fuel)
    else return []

def blockPairs : Nat → Compose (List (Node × Node))
  | 0 => fail "nested too deeply"
  | fuel + 1 => do
    if ← accept isKey then
      let k ← if endsBlockEntry true (← peek?) then pure .empty else node true true fuel
      let v ← if ← accept isValue then
          if endsBlockEntry true (← peek?) then pure .empty else node true true fuel
        else pure .empty
      return (k, v) :: (← blockPairs fuel)
    else if ← accept isBlockEnd then return []
    else fail "expected a key of the mapping"

def flowPair : Nat → Compose (Node × Node)
  | 0 => fail "nested too deeply"
  | fuel + 1 => do
    let k ← if endsFlowEntry (← peek?) then pure .empty else node false false fuel
    let v ← if ← accept isValue then
        if endsFlowEntry (← peek?) then pure .empty else node false false fuel
      else pure .empty
    return (k, v)

def flowItems (first : Bool) : Nat → Compose (List Node)
  | 0 => fail "nested too deeply"
  | fuel + 1 => do
    if ← accept isSequenceEnd then return []
    unless first do
      unless ← accept isFlowEntry do fail "expected a comma"
    if ← accept isSequenceEnd then return []
    let n ← if ← accept isKey then pure (.mapping none [← flowPair fuel])
      else node false false fuel
    return n :: (← flowItems false fuel)

def flowPairs (first : Bool) : Nat → Compose (List (Node × Node))
  | 0 => fail "nested too deeply"
  | fuel + 1 => do
    if ← accept isMappingEnd then return []
    unless first do
      unless ← accept isFlowEntry do fail "expected a comma"
    if ← accept isMappingEnd then return []
    let p ← if ← accept isKey then flowPair fuel
      else pure (← node false false fuel, .empty)
    return p :: (← flowPairs false fuel)

end

/-! ### Documents -/

def isDocumentEnd : Token → Bool
  | .documentEnd => true
  | _ => false

def dropEnds : Nat → Compose Unit
  | 0 => return
  | n + 1 => do if ← accept isDocumentEnd then dropEnds n

def directives (versioned : Bool) : Nat → Compose Unit
  | 0 => return
  | n + 1 => do
    match ← peek? with
    | some (.version major) => do
      drop
      if versioned || major != 1 then fail "unknown version"
      directives true n
    | some (.tagHandle handle lead) => do
      drop
      if (← get).handles.contains handle then fail "second tag handle of a name"
      modify fun r => { r with handles := r.handles.put handle lead }
      directives versioned n
    | some .otherDirective => do
      drop
      directives versioned n
    | _ => return

def isEmptyDocument : Option Token → Bool
  | none | some (.version _) | some (.tagHandle ..) | some .otherDirective | some .documentStart
  | some .documentEnd => true
  | _ => false

def standardHandles : List (String × String) := [("!", "!"), ("!!", standardLead)]

def defaultHandles : Compose Unit :=
  modify fun r => { r with
    handles := standardHandles.foldl (fun hs p => hs.putNew p.1 p.2) r.handles }

def document : Compose (Option Node) := do
  let fuel := 3 * (← get).tokens.length + 3
  match ← peek? with
  | none => return none
  | some t =>
    let explicit := match t with
      | .version _ | .tagHandle .. | .otherDirective | .documentStart => true
      | _ => false
    let n ← if explicit then do
        directives false fuel
        defaultHandles
        match ← peek? with
        | some .documentStart => do
          drop
          if isEmptyDocument (← peek?) then pure .empty else node true false fuel
        | _ => fail "expected a document"
      else do
        defaultHandles
        node true false fuel
    dropEnds fuel
    unless (← peek?).isNone do fail "more than one document"
    return some n

end Compose

def nodeOf? (cs : List Char) : Except Fault (Option Node) := do
  let (n, _) ← Compose.document.run ⟨← tokensOf cs, .empty, .empty⟩
  return n

end LayeredConfig.Document.Yaml
