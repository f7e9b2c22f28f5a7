import LayeredConfig.World

/-! A filter changes or drops a merged entry. A chain runs its filters in order, each on what the
one before it made, and stops at the first that drops the entry. -/

namespace LayeredConfig

structure FilterContext where
  key : String
  /-- All merged entries of the pass; none when one key is looked up. -/
  entries : Ledger String Entry
  single : Bool

structure Filter (σ : Type) where
  id : Nat
  name : String
  run : Entry → FilterContext → Act σ (Option Entry)

namespace Filter

variable {σ : Type}

def removeEach (filters gone : List (Filter σ)) : List (Filter σ) :=
  gone.foldl (fun rest f => rest.eraseP (·.id = f.id)) filters

def runAll (context : FilterContext) (current : Entry) :
    List (Filter σ) → Act σ (Except String Entry)
  | [] => return .ok current
  | f :: rest => do
    match ← f.run current context with
    | some next => runAll context next rest
    | none => return .error f.name

def apply (filters : List (Filter σ)) (entry : Entry) (context : FilterContext) :
    Act σ (Option Entry) := do
  match ← runAll context entry filters with
  | .ok filtered => return some filtered
  | .error name =>
    report .debug "property_filtered" (some entry.source) (some entry.key) [("filter", .text name)]
    return none

/-- The entries of a pass after filtering: those kept under their own key, in order, and those
renamed, each with its former key. Entries without a value are gone. -/
structure Sorted where
  kept : Ledger String Entry
  renamed : List (String × Entry)

def Sorted.file (s : Sorted) (key : String) : Option Entry → Sorted
  | none => s
  | some e =>
    if e.value.isNone then s
    else if e.key = key then { s with kept := s.kept.put key e }
    else { s with renamed := s.renamed ++ [(key, e)] }

def settle (result : Ledger String Entry) : List (String × Entry) → Act σ (Ledger String Entry)
  | [] => return result
  | (former, e) :: rest => do
    if result.contains e.key then
      report .warning "property_rekey_collision" (some e.source) (some e.key)
        [("renamed_from", .text former)]
      settle result rest
    else settle (result.put e.key e) rest

/-- Filters every entry of a pass. The chain is asked for its filters before each entry, so that a
filter may change the chain for the entries that follow. An empty chain leaves all entries as
they are. -/
def applyAll (chain : Act σ (List (Filter σ))) (entries : Ledger String Entry) :
    Act σ (Ledger String Entry) := do
  if (← chain).isEmpty then return entries
  let sorted ← entries.pairs.foldlM
    (fun (s : Sorted) (key, entry) => do
      let filtered ← apply (← chain) entry ⟨key, entries, false⟩
      return s.file key filtered)
    ⟨.empty, []⟩
  settle sorted.kept (sorted.renamed.mergeSort fun a b => a.1 ≤ b.1)

end Filter

end LayeredConfig
