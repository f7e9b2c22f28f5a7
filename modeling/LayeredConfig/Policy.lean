import LayeredConfig.MetaKeys
import LayeredConfig.Source
import LayeredConfig.Text.Blank
import LayeredConfig.Text.Case

/-! How the values of several sources become one. A policy takes the running value of a key and
the next source; a resolver chooses the policy by the key's meta-entries and keeps one instance
of each policy built. -/

namespace LayeredConfig

variable {σ : Type}

structure Policy (σ : Type) where
  label : String
  combine : Option String → String → Source σ → Ledger String String → Call σ (Option String)

namespace Policy

def overrideName : String := "override"

def collectName : String := "collect"

def isBuiltIn (name : String) : Bool :=
  Text.lower name = overrideName ∨ Text.lower name = collectName

def defaultSeparator : String := ","

def override : Policy σ where
  label := overrideName
  combine current key source _ := do
    let entry ← source.get key
    return (entry.bind (·.value)).or current

def separator (metadata : Ledger String String) : String :=
  metadata.getD MetaKeys.itemSeparator defaultSeparator

def collect : Policy σ where
  label := collectName
  combine current key source metadata := do
    let entry ← source.get key
    match entry.bind (·.value), current with
    | none, current => return current
    | some v, none => return some v
    | some v, some c => return some (c ++ separator metadata ++ v)

end Policy

/-- Builds instances of one custom policy. An instance is known by its serial number. -/
structure Factory (σ : Type) where
  id : Nat
  build : Call σ Nat
  policy : Nat → Policy σ

abbrev Factories (σ : Type) := Ledger String (Factory σ)

namespace Factories

def register (fs : Factories σ) (name : String) (f : Factory σ) : Except Failure (Factories σ) :=
  if Policy.isBuiltIn name then .error (.reservedPolicy name) else .ok (fs.put name f)

end Factories

structure Resolver (σ : Type) where
  slot : Nat
  factories : Factories σ
  metaKeys : MetaKeys

namespace Resolver

inductive Choice (σ : Type)
  | override
  | collect
  | custom (factory : Factory σ) (serial : Nat)

def Choice.policy : Choice σ → Policy σ
  | override => .override
  | collect => .collect
  | custom f serial => f.policy serial

def serial? (r : Resolver σ) (factory : Nat) : Recall σ (Option Nat) := fun m =>
  ((m.instances.getD r.slot .empty).get? factory, m)

def remember (r : Resolver σ) (factory serial : Nat) : Recall σ Unit := fun m =>
  ((), { m with
    instances := m.instances.put r.slot ((m.instances.getD r.slot .empty).put factory serial) })

def clear (r : Resolver σ) : Recall σ Unit := fun m =>
  ((), { m with instances := m.instances.put r.slot .empty })

/-- The instance for a name: the remembered one of its factory, or else a new one. A failure to
build is not remembered. -/
def custom (r : Resolver σ) (name : String) : Act σ (Choice σ) :=
  match r.factories.get? name with
  | none => throw (.unknownPolicy name)
  | some f => do
    match ← (r.serial? f.id : Recall σ (Option Nat)) with
    | some serial => return .custom f serial
    | none =>
      match ← (f.build.attempt : Note σ (Except Failure Nat)) with
      | .error cause => throw (.policyNotBuilt name cause.message)
      | .ok serial =>
        (r.remember f.id serial : Recall σ Unit)
        return .custom f serial

/-- Chooses the policy of a key. A custom policy that cannot be had gives way to the override
policy, for this call only. -/
def resolve (r : Resolver σ) (key : String) (metadata : Ledger String String) :
    Recall σ (Choice σ) :=
  if r.metaKeys.isMeta key then return .override
  else match metadata.get? MetaKeys.combinationPolicy with
    | none => return .override
    | some text => do
      let name := Text.strip text
      let lowered := Text.lower name
      if lowered = Policy.overrideName then return .override
      else if lowered = Policy.collectName then
        report .debug "policy_selected" none (some key) [("policy", .text Policy.collectName)]
        return .collect
      else
        match ← (r.custom name).attempt with
        | .error failure =>
          report .error "policy_instantiation_failed" none (some key)
            [("policy", .text name), ("error", .text failure.message)]
          return .override
        | .ok choice =>
          report .debug "policy_selected" none (some key) [("policy", .text name)]
          return choice

def combine (r : Resolver σ) (current : Option String) (key : String) (source : Source σ)
    (metadata : Ledger String String) : Act σ (Option String) := do
  let choice ← (r.resolve key metadata : Recall σ (Choice σ))
  choice.policy.combine current key source metadata

end Resolver

end LayeredConfig
