import LayeredConfig.Context
import LayeredConfig.Source.Dotenv
import LayeredConfig.Source.File

/-! The usual sources put together: defaults, files, a dotenv file and the environment, in ascending
order of their ordinals. Missing files are passed over; files at fault are not. -/

namespace LayeredConfig

structure Assembly (σ : Type) where
  defaults : List (Data × Data)
  files : List (String × Option Int)
  dotenv : Option String
  lead : Option String
  environment : Note σ (Ledger String String)
  filters : List (Filter σ)

namespace Assembly

def defaultsOrdinal : Int := 0

def defaultsName : String := "defaults"

def environmentName : String := "env"

variable {σ : Type}

/-- What a source gives, or nothing if it is missing. Other faults of form are failures of access. -/
def orSkip {α : Type} (path : String) (wrap : Failure → Failure) (x : Call σ α) :
    Call σ (Option α) := do
  match ← (ExceptT.lift x.attempt : Call σ (Except Failure α)) with
  | .ok a => return some a
  | .error f =>
    if f.isNotFound then
      report .debug "source_skipped" (some path) none [("reason", .text "missing")]
      return none
    else if f.isInvalidFormat then throw (wrap f)
    else throw f

def defaultsSource (a : Assembly σ) (id : Nat) : Except Failure (List (Source σ)) :=
  if a.defaults.isEmpty then .ok []
  else do
    let m ← Source.Mapping.make defaultsName a.defaults defaultsOrdinal true .empty
    return [m.toSource id]

def fileOrdinal (place : Nat) (asked : Option Int) : Int :=
  asked.getD (Source.File.defaultOrdinal + place)

def fileSources (s : Surroundings) (id place : Nat) :
    List (String × Option Int) → Call σ (List (Source σ))
  | [] => return []
  | (path, asked) :: rest => do
    let m? ← orSkip path (.fileNotLoaded path)
      (Source.File.make s path (fileOrdinal place asked) none)
    let others ← fileSources s (id + 1) (place + 1) rest
    return (m?.map (·.toSource id)).toList ++ others

def dotenvSource (a : Assembly σ) (s : Surroundings) (id : Nat) : Call σ (List (Source σ)) :=
  match a.dotenv with
  | none => return []
  | some path => do
    let source? ← orSkip path (.dotenvNotLoaded path)
      (Source.Dotenv.source s.files id path Source.Dotenv.defaultOrdinal)
    return source?.toList

def environmentSource (a : Assembly σ) (id : Nat) : List (Source σ) :=
  (a.lead.map fun lead =>
    Source.Environment.source id lead environmentName Source.Environment.defaultOrdinal
      a.environment).toList

def sources (a : Assembly σ) (s : Surroundings) (id : Nat) : Call σ (List (Source σ)) := do
  let defaults ← ExceptT.mk (pure (a.defaultsSource id))
  let files ← fileSources s (id + 1) 0 a.files
  let dotenv ← a.dotenvSource s (id + a.files.length + 1)
  return defaults ++ files ++ dotenv ++ a.environmentSource (id + a.files.length + 2)

def idCount (a : Assembly σ) : Nat := a.files.length + 3

def build (a : Assembly σ) (s : Surroundings) (id slot : Nat) (converters : Conversion.Registry σ) :
    Call σ (Context σ) := do
  return ⟨← a.sources s id, a.filters, converters, ⟨slot, .empty, .standard⟩⟩

/-- Resolves the sources once. Without any key the result is the empty configuration, which has no
converters. -/
def resolve (a : Assembly σ) (s : Surroundings) (id slot : Nat)
    (converters : Conversion.Registry σ) : Act σ (Config σ) := do
  (bindTrace none : Note σ Unit)
  let c ← (a.build s id slot converters : Call σ (Context σ))
  let config ← c.resolve
  if config.isEmpty then
    report .info "configuration_empty" none none []
    return .empty
  else
    report .info "configuration_resolved" none none [("keys", .integer config.size)]
    return config

end Assembly

end LayeredConfig
