import LayeredConfig.Config
import LayeredConfig.Filter
import LayeredConfig.Merge

/-! Sources, filters, converters and policies together. Every resolution reads the sources
again. -/

namespace LayeredConfig

open Conversion

structure Context (σ : Type) where
  sources : List (Source σ)
  filters : List (Filter σ)
  converters : Registry σ
  resolver : Resolver σ

namespace Context

variable {σ : Type}

def merge (c : Context σ) : Merge σ := ⟨c.resolver, c.resolver.metaKeys⟩

def addSources (c : Context σ) (sources : List (Source σ)) : Note σ (Context σ) := do
  sources.forM fun s =>
    report .debug "source_registered" (some s.name) none [("ordinal", .integer s.ordinal)]
  return { c with sources := c.sources ++ sources }

def removeSources (c : Context σ) (gone : List (Source σ)) : Context σ :=
  { c with sources := Source.removeEach c.sources gone }

def addFilters (c : Context σ) (filters : List (Filter σ)) : Context σ :=
  { c with filters := c.filters ++ filters }

def removeFilters (c : Context σ) (gone : List (Filter σ)) : Context σ :=
  { c with filters := Filter.removeEach c.filters gone }

def registerConverter (c : Context σ) (cls : Conversion.Class) (converter : Converter σ) : Context σ :=
  { c with converters := c.converters.register cls converter }

def registerPolicy (c : Context σ) (name : String) (f : Factory σ) : Except Failure (Context σ) := do
  let factories ← Factories.register c.resolver.factories name f
  return { c with resolver := { c.resolver with factories } }

def resolve (c : Context σ) : Act σ (Config σ) := do
  let merged ← c.merge.resolveAll c.sources
  let filtered ← Filter.applyAll (pure c.filters) merged
  return ⟨filtered, some c.converters⟩

def get? (c : Context σ) (key : String) : Act σ (Option Entry) := do
  match ← c.merge.resolve key c.sources with
  | none => return none
  | some entry =>
    let filtered ← Filter.apply c.filters entry ⟨key, .empty, true⟩
    return filtered.filter (·.value.isSome)

def close (c : Context σ) : Recall σ (Context σ) := do
  c.resolver.clear
  return { c with sources := [], filters := [] }

end Context

end LayeredConfig
