import LayeredConfig.Source

/-! A source behind a switch. An expression over variables sets the switch, and a failure of the
expression turns it off. -/

namespace LayeredConfig.Source.Guarded

variable {σ : Type}

abbrev Expression (σ : Type) := Ledger String String → Call σ Bool

def evaluate (name : String) (expr : Expression σ) (bindings : Ledger String String) :
    Note σ Bool := do
  match ← (expr bindings).attempt with
  | .error failure =>
    report .error "source_enablement_failed" (some name) none [("error", .text failure.message)]
    return false
  | .ok enabled =>
    unless enabled do report .debug "source_disabled" (some name) none []
    return enabled

def setEnabled (switch : Nat) (enabled : Bool) : Note σ Unit :=
  modify fun w => { w with switches := w.switches.put switch enabled }

def isEnabled (switch : Nat) : Note σ Bool := fun w => (w.switches.getD switch false, w)

def reevaluate (switch : Nat) (name : String) (expr : Expression σ)
    (bindings : Ledger String String) : Note σ Bool := do
  let enabled ← evaluate name expr bindings
  setEnabled switch enabled
  return enabled

def source (id switch : Nat) (inner : Source σ) : Source σ where
  id
  name := inner.name
  ordinal := inner.ordinal
  scannable := inner.scannable
  get key := do
    let enabled ← (isEnabled switch : Note σ Bool)
    if enabled then inner.get key else return none
  properties := do
    let enabled ← (isEnabled switch : Note σ Bool)
    if enabled then inner.properties else return .empty

end LayeredConfig.Source.Guarded
