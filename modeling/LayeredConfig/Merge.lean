import LayeredConfig.Policy

/-! The merge of sources, key by key in ascending ordinal order. Everything is fetched from the
sources first; then meta-entries are merged, the last value winning, and each visible key goes
through its policy, once for every source that holds it. -/

namespace LayeredConfig

variable {σ : Type}

structure Snapshot where
  name : String
  ordinal : Int
  entries : Ledger String Entry

/-- Policies see a snapshot as a source, never the source itself. -/
def Snapshot.toSource (s : Snapshot) : Source σ := .ofEntries 0 s.name s.ordinal true s.entries

structure Merge (σ : Type) where
  resolver : Resolver σ
  metaKeys : MetaKeys

namespace Merge

def fetchKeys (source : Source σ) (keys : List String) : Call σ (Ledger String Entry) :=
  keys.foldlM
    (fun found key => do
      match ← source.get key with
      | some entry => return found.put key entry
      | none => return found)
    .empty

def ask (wanted : List String) (ordered : List (Source σ)) : Call σ (List Snapshot) :=
  ordered.mapM fun s => do return ⟨s.name, s.ordinal, ← fetchKeys s wanted⟩

def reportFetched (name : String) (source : Source σ) (entries : Ledger String Entry) :
    Call σ Unit :=
  report .debug name (some source.name) none
    [("ordinal", .integer source.ordinal), ("keys", .integer entries.size)]

def scan (sources : List (Source σ)) : Call σ (List (Source σ × Option (Ledger String Entry))) :=
  sources.mapM fun source => do
    if source.scannable then
      let entries ← source.properties
      reportFetched "source_loaded" source entries
      return (source, some entries)
    else return (source, none)

def found (scanned : List (Source σ × Option (Ledger String Entry))) : List String :=
  (scanned.foldl
    (fun (keys : Ledger String Unit) p =>
      keys.putAll (((p.2.map Ledger.keys).getD []).map (·, ())))
    .empty).keys

def candidates (m : MetaKeys) (key : String) : List String :=
  m.names.flatMap fun name => [(m.candidates key name).1, (m.candidates key name).2]

/-- What sources that cannot be enumerated are asked for. -/
def lookups (m : MetaKeys) (keys : List String) : List String :=
  keys ++ (keys.filter fun k => !m.isMeta k).flatMap (candidates m)

def supply (wanted : List String) (p : Source σ × Option (Ledger String Entry)) :
    Call σ Snapshot := do
  match p.2 with
  | some entries => return ⟨p.1.name, p.1.ordinal, entries⟩
  | none =>
    let entries ← fetchKeys p.1 wanted
    reportFetched "source_queried" p.1 entries
    return ⟨p.1.name, p.1.ordinal, entries⟩

def query (wanted : List String) (scanned : List (Source σ × Option (Ledger String Entry))) :
    Call σ (List Snapshot) :=
  scanned.mapM (supply wanted)

def fetch (m : MetaKeys) (ordered : List (Source σ)) : Call σ (List Snapshot × List String) := do
  let scanned ← scan ordered
  let keys := found scanned
  return (← query (lookups m keys) scanned, keys)

def keepMeta (m : MetaKeys) (values : Ledger String (Option String)) (p : String × Entry) :
    Ledger String (Option String) :=
  if p.2.value.isSome && m.isMeta p.1 then values.put p.1 p.2.value else values

def metaValues (m : MetaKeys) (snapshots : List Snapshot) : Ledger String (Option String) :=
  snapshots.foldl (fun values s => s.entries.pairs.foldl (keepMeta m) values) .empty

def metadata (m : MetaKeys) (snapshots : List Snapshot) : MetaKeys.Grouped :=
  m.collect (metaValues m snapshots).pairs

structure Running where
  value : Option String
  contributor : Option (String × Entry)

def combineAll (policy : Policy σ) (key : String) (metadata : Ledger String String)
    (running : Running) : List (Snapshot × Entry) → Call σ Running
  | [] => return running
  | (s, entry) :: rest => do
    let value ← policy.combine running.value key s.toSource metadata
    let contributor := if entry.value.isSome then some (s.name, entry) else running.contributor
    combineAll policy key metadata ⟨value, contributor⟩ rest

def holders (key : String) (snapshots : List Snapshot) : List (Snapshot × Entry) :=
  snapshots.filterMap fun s => (s.entries.get? key).map (s, ·)

def Running.entry? (key : String) (metadata : Ledger String String) (r : Running) :
    Except Failure (Option Entry) :=
  match r.value, r.contributor with
  | some value, some (name, entry) =>
    some <$> Entry.make key (some value) name (entry.metadata.union metadata)
  | _, _ => .ok none

def mergeKey (e : Merge σ) (key : String) (snapshots : List Snapshot)
    (metadata : Ledger String String) : Act σ (Option Entry) := do
  match holders key snapshots with
  | [] => return none
  | holders =>
    let choice ← (e.resolver.resolve key metadata : Recall σ (Resolver.Choice σ))
    let running ← combineAll choice.policy key metadata ⟨none, none⟩ holders
    ExceptT.mk (pure (running.entry? key metadata))

def mergeKeys (e : Merge σ) (snapshots : List Snapshot) (grouped : MetaKeys.Grouped)
    (keys : List String) : Act σ (Ledger String Entry) :=
  keys.foldlM
    (fun merged key => do
      match ← e.mergeKey key snapshots (grouped.at key) with
      | some entry => return merged.put key entry
      | none => return merged)
    .empty

def resolveAll (e : Merge σ) (sources : List (Source σ)) : Act σ (Ledger String Entry) := do
  let (snapshots, keys) ← (fetch e.metaKeys (Source.inOrder sources) : Call σ _)
  let visible := keys.filter fun k => !e.metaKeys.isMeta k
  let merged ← e.mergeKeys snapshots (metadata e.metaKeys snapshots) visible
  report .debug "merge_complete" none none
    [("sources", .integer sources.length), ("keys", .integer merged.size)]
  return merged

/-- Merges one key, asking every source for that key and its meta-entries. A meta-entry is never
visible. -/
def resolve (e : Merge σ) (key : String) (sources : List (Source σ)) : Act σ (Option Entry) :=
  if e.metaKeys.isMeta key then return none
  else do
    let snapshots ← (ask (key :: candidates e.metaKeys key) (Source.inOrder sources) : Call σ _)
    e.mergeKey key snapshots ((metadata e.metaKeys snapshots).at key)

end Merge

end LayeredConfig
