import LayeredConfig.World

/-! A source supplies entries and an ordinal. Sources with higher ordinals are asked later and so
prevail. -/

namespace LayeredConfig

structure Source (σ : Type) where
  /-- Tells sources apart that look the same. -/
  id : Nat
  name : String
  ordinal : Int
  /-- Whether `properties` enumerates every entry. -/
  scannable : Bool
  get : String → Call σ (Option Entry)
  properties : Call σ (Ledger String Entry)

namespace Source

variable {σ : Type}

def ofEntries (id : Nat) (name : String) (ordinal : Int) (scannable : Bool)
    (entries : Ledger String Entry) : Source σ where
  id
  name
  ordinal
  scannable
  get key := pure (entries.get? key)
  properties := pure (if scannable then entries else .empty)

def inOrder (sources : List (Source σ)) : List (Source σ) :=
  sources.mergeSort fun a b => a.ordinal ≤ b.ordinal

def removeEach (sources gone : List (Source σ)) : List (Source σ) :=
  gone.foldl (fun rest s => rest.eraseP (·.id = s.id)) sources

end Source

end LayeredConfig
