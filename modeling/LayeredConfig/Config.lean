import LayeredConfig.Conversion.Registry
import LayeredConfig.Data.Json

/-! A resolved configuration: entries by key, with typed access through a registry of
converters. -/

namespace LayeredConfig

open Conversion

structure Config (σ : Type) where
  entries : Ledger String Entry
  converters : Option (Registry σ)

namespace Config

variable {σ : Type}

def empty : Config σ := ⟨.empty, none⟩

def isEmpty (c : Config σ) : Bool := c.entries.pairs.isEmpty

def size (c : Config σ) : Nat := c.entries.size

def keys (c : Config σ) : List String := c.entries.keys

def entry? (c : Config σ) (key : String) : Option Entry := c.entries.get? key

def get? (c : Config σ) (key : String) : Option String := (c.entry? key).bind (·.value)

def get (c : Config σ) (key : String) : Except Failure String :=
  match c.get? key with
  | some v => .ok v
  | none => .error (.noSuchKey key)

def contains (c : Config σ) (key : String) : Bool := (c.get? key).isSome

/-- Converts the text of an entry. Text needs no converters; without converters nothing else is
possible. -/
def convert (c : Config σ) (e : Entry) (text : String) (target : Target)
    (annotated : Option String) : Note σ Account :=
  if target.isText then return ⟨[], some (.text text)⟩
  else match c.converters with
    | none => return ⟨[], none⟩
    | some r => r.convert ⟨e.key, some c.entries, annotated, e.metadata⟩ true target text

def getAs (c : Config σ) (key : String) (target : Target) (default' : Option Value)
    (annotated : Option String) : Note σ (Option Value) :=
  match c.entry? key with
  | none => return default'
  | some e =>
    match e.value with
    | none => return default'
    | some text => return (← c.convert e text target annotated).value.or default'

def require (c : Config σ) (key : String) (target : Target) (annotated : Option String) :
    Call σ Value :=
  match c.entry? key with
  | none => throw (.missingKey key)
  | some e =>
    match e.value with
    | none => throw (.missingKey key)
    | some text => do
      let account ← (c.convert e text target annotated : Note σ Account)
      match account.value with
      | some v => return v
      | none => throw (.unconvertible key target account.formats)

structure Origin where
  source : String
  key : String
  metadata : Ledger String String

def origin? (c : Config σ) (key : String) : Option Origin :=
  (c.entry? key).map fun e => ⟨e.source, e.key, e.metadata⟩

def toPairs (c : Config σ) : List (String × String) :=
  c.entries.pairs.filterMap fun p => p.2.value.map (p.1, ·)

def provenance (c : Config σ) : List (String × Origin) :=
  c.keys.filterMap fun k => (c.origin? k).map (k, ·)

def textMapping (ps : List (String × String)) : Data :=
  .mapping (ps.map fun p => (.text p.1, .text p.2))

def toJson (c : Config σ) (indent : Option Int) : String :=
  (textMapping c.toPairs).toJson ⟨indent, false⟩

def Origin.toData (o : Origin) : Data :=
  .mapping [(.text "source", .text o.source), (.text "key", .text o.key),
    (.text "meta", textMapping o.metadata.pairs)]

def withOverrides (c : Config σ) (overrides : List (String × Option String)) (source : String) :
    Except Failure (Config σ) := do
  let entries ← overrides.foldlM
    (fun (es : Ledger String Entry) p => do
      let metadata := ((es.get? p.1).map (·.metadata)).getD .empty
      return es.put p.1 (← Entry.make p.1 p.2 source metadata))
    c.entries
  return ⟨entries, c.converters⟩

def sameText (l m : Ledger String String) : Bool :=
  l.size == m.size && l.pairs.all fun p => m.get? p.1 == some p.2

def sameEntry (e f : Entry) : Bool :=
  e.key == f.key && e.value == f.value && e.source == f.source && sameText e.metadata f.metadata

def same (c d : Config σ) : Bool :=
  c.size == d.size && c.entries.pairs.all fun p => (d.entry? p.1).any (sameEntry p.2)

end Config

end LayeredConfig
