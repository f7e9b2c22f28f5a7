import LayeredConfig.Assembly
import LayeredConfig.CommandLine.Command
import LayeredConfig.Filter.Stock

/-! The program: each command gives the text that it prints, or fails. -/

namespace LayeredConfig.CommandLine

open Conversion

structure About where
  name : String
  version : String
  requires : String
  summary : String

def about : About where
  name := "lib_ordinal_config"
  version := "1.0.0"
  requires := ">=3.10"
  summary := "Ordinal-based configuration resolution: merge property sources by precedence, " ++
    "combine values per key, filter and convert them"

def unknownVersion : String := "0.0.0"

def versionOf (installed : Option About) : String := (installed.map (·.version)).getD unknownVersion

structure Program (σ : Type) where
  surroundings : Surroundings
  runtime : Runtime
  environment : Note σ (Ledger String String)
  installed : Option About

variable {σ : Type}

/-- A path with the ordinal behind its last colon, if digits stand there. -/
def fileAndOrdinal (word : String) : Except Failure (String × Option Int) :=
  match Text.cutLast? ':' word.toList with
  | some (path, ordinal) =>
    let digits := ordinal.dropWhile (· == '-')
    if !path.isEmpty && !digits.isEmpty && digits.all Text.isDigit then
      match Number.Integer.readDecimal (String.ofList ordinal) with
      | .ok n => .ok (String.ofList path, some n)
      | .error f => .error (.badNumber f)
    else .ok (word, none)
  | none => .ok (word, none)

def filters (s : Selection) : Except Failure (List (Filter σ)) := do
  let hide ← s.hide.mapM Filter.KeyPattern.read
  let mask ← s.mask.mapM Filter.KeyPattern.read
  let stock : List (Filter.Stock σ) :=
    hide.map .hide ++ mask.map (.mask · Filter.Stock.defaultMask)
  return stock.zipIdx.map fun (f, i) => f.toFilter i

def assembly (p : Program σ) (s : Selection) : Except Failure (Assembly σ) := do
  let files ← s.files.mapM fileAndOrdinal
  return ⟨[], files, s.dotenv, s.lead, p.environment, ← filters s⟩

def sortedTexts (xs : List Value) : List String :=
  (xs.filterMap Value.text?).mergeSort fun a b => a ≤ b

mutual

def dataOf : Value → Data
  | .text s => .text s
  | .boolean b => .boolean b
  | .integer n => .integer n
  | .real x => .real x
  | .collection c xs =>
    match c.collection? with
    | some .set | some .frozenset => .collection .list ((sortedTexts xs).map .text)
    | _ => .collection .list (dataOfAll xs)
  | .mapping _ ps => .mapping (dataOfPairs ps)
  | _ => .null

def dataOfAll : List Value → List Data
  | [] => []
  | x :: xs => dataOf x :: dataOfAll xs

def dataOfPairs : List (String × Value) → List (Data × Data)
  | [] => []
  | (k, v) :: ps => (.text k, dataOf v) :: dataOfPairs ps

end

def asciiJson (indent : Option Int) (d : Data) : String := d.toJson ⟨indent, true⟩

def withProvenance (c : Config σ) : Data :=
  .mapping [(.text "config", Config.textMapping c.toPairs),
    (.text "provenance", .mapping (c.provenance.map fun p => (.text p.1, p.2.toData)))]

def runResolve (p : Program σ) (s : Selection) (indent : Option Int) (provenance : Bool) :
    Act σ String := do
  let a ← ExceptT.mk (pure (assembly p s))
  let config ← a.resolve p.surroundings 0 0 (.standard p.runtime)
  return if provenance then asciiJson indent (withProvenance config) else config.toJson indent

def runLookup (p : Program σ) (key : String) (t : Target) (s : Selection) : Act σ String := do
  let a ← ExceptT.mk (pure (assembly p s))
  let c ← (a.build p.surroundings 0 0 (.standard p.runtime) : Call σ (Context σ))
  let entry ← c.get? key
  let config : Config σ := ⟨Ledger.ofList (entry.map (key, ·)).toList, some c.converters⟩
  let value ← (config.require key t none : Call σ Value)
  return asciiJson none (dataOf value)

def orSeparatorFailure {α : Type} : Option α → Except Failure α
  | some a => .ok a
  | none => .error .emptySeparator

def splitData (value separator : String) (entrySeparator : Option String) : Except Failure Data := do
  let tokens ← orSeparatorFailure (Tokens.split? value separator)
  match entrySeparator with
  | none => return .collection .list (tokens.map .text)
  | some sep =>
    let sep := if sep.isEmpty then Tokens.defaultEntrySeparator else sep
    let pairs ← tokens.mapM fun t => orSeparatorFailure (Tokens.splitEntry? t sep)
    return Config.textMapping (Ledger.ofList pairs).pairs

def infoText : Option About → String
  | none => about.name ++ " (metadata unavailable)"
  | some a =>
    "Info for " ++ a.name ++ ":\n  Version         : " ++ a.version ++ "\n  Requires-Python : " ++
      a.requires ++ (if a.summary.isEmpty then "" else "\n  Summary         : " ++ a.summary)

def helpText : String :=
  "Usage: " ++ about.name ++ " [--version] [--traceback] COMMAND ...\n\n" ++
    "  resolve     resolve every source and print the visible keys as JSON\n" ++
    "  get         resolve one key, convert it and print the result as JSON\n" ++
    "  split       print the items of a value as JSON\n" ++
    "  env-prefix  compute the environment prefix for a slug\n" ++
    "  info        print what is known of this installation"

def Command.run (p : Program σ) : Command → Act σ String
  | help => return helpText
  | version => return about.name ++ " version " ++ about.version
  | info => return infoText p.installed
  | environmentLead slug => return Source.Environment.leadFor slug
  | resolve s indent provenance => runResolve p s indent provenance
  | lookup key t s => runLookup p key t s
  | split value separator entrySeparator => do
    return asciiJson none (← ExceptT.mk (pure (splitData value separator entrySeparator)))

def misuseCode : Nat := 2

def failureCode (f : Failure) : Nat :=
  match f.kind with
  | .value | .decoding => 22
  | _ => 1

inductive Ending
  | done (output : String)
  | misused (m : Misuse)
  | failed (f : Failure)

namespace Ending

def code : Ending → Nat
  | done _ => 0
  | misused _ => misuseCode
  | failed f => failureCode f

def output : Ending → Option String
  | done s => some s
  | _ => none

end Ending

def run (p : Program σ) (words : List String) : Recall σ Ending := do
  match Command.read p.surroundings.files words with
  | .error m => return .misused m
  | .ok c =>
    match ← (c.run p).attempt with
    | .ok s => return .done (s ++ "\n")
    | .error f => return .failed f

end LayeredConfig.CommandLine
