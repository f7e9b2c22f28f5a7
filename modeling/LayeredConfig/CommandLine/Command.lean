import LayeredConfig.CommandLine.Words
import LayeredConfig.Conversion.Target
import LayeredConfig.Files
import LayeredConfig.Number.Binary64
import LayeredConfig.Number.Integer
import LayeredConfig.Text.Case

/-! The commands of the program, read from the words of its command line. -/

namespace LayeredConfig.CommandLine

open Conversion

structure Selection where
  files : List String
  lead : Option String
  dotenv : Option String
  hide : List String
  mask : List String

inductive Command
  | help
  | version
  | info
  | environmentLead (slug : String)
  | resolve (selection : Selection) (indent : Option Int) (provenance : Bool)
  | lookup (key : String) (target : Target) (selection : Selection)
  | split (value separator : String) (entrySeparator : Option String)

namespace Command

def helpOptions : Options := [("-h", false), ("--help", false)]

def sourceOptions : Options :=
  [("--file", true), ("--env-prefix", true), ("--dotenv", true), ("--hide", true),
    ("--mask", true)]

def targets : List (String × Target) :=
  [("str", .bare .text), ("int", .bare .integer), ("float", .bare .real), ("bool", .bare .boolean),
    ("list", .generic .list [.bare .text]), ("set", .generic .set [.bare .text]),
    ("dict", .generic .mapping [.bare .text, .bare .text])]

def target (name : String) : Except Misuse Target :=
  match targets.find? (·.1 = Text.lower name) with
  | some (_, t) => .ok t
  | none => .error (.badValue "--type" name)

def indent (text : String) : Except Misuse Int :=
  let digits? := Number.Binary64.dropUnderscores? false (text.toList.map Text.asciiDigit)
  match digits?.map fun cs => Number.Integer.readDecimal (String.ofList cs) with
  | some (.ok n) => .ok n
  | _ => .error (.badValue "--indent" text)

def existing (files : Files) (path : String) : Except Misuse String :=
  let last := ((Text.cutLast? '/' path.toList).map Prod.snd).getD path.toList
  match files.read (Path.ofString path) with
  | .ok (some _) =>
    if last != [] && last != ['.'] then .ok (Path.ofString path).text
    else .error (.badValue "--dotenv" path)
  | _ => .error (.badValue "--dotenv" path)

def selection (files : Files) (w : Words) : Except Misuse Selection := do
  let dotenv ← (w.value? "--dotenv").mapM (existing files)
  return ⟨w.values "--file", w.value? "--env-prefix", dotenv, w.values "--hide", w.values "--mask"⟩

def withWords (known : Options) (words : List String)
    (command : Words → Except Misuse Command) : Except Misuse Command := do
  let w ← Words.read (helpOptions ++ known) words
  if helpOptions.any fun o => w.has o.1 then return help else command w

def readResolve (files : Files) (words : List String) : Except Misuse Command :=
  withWords (sourceOptions ++ [("--indent", true), ("--provenance", false),
      ("--no-provenance", false)]) words fun w => do
    let s ← selection files w
    let indent ← (w.value? "--indent").mapM indent
    w.noArguments
    return resolve s indent (w.isOn "--provenance" "--no-provenance")

def readLookup (files : Files) (words : List String) : Except Misuse Command :=
  withWords (sourceOptions ++ [("--type", true)]) words fun w => do
    let key ← w.oneArgument "KEY"
    let t ← target ((w.value? "--type").getD "str")
    return lookup key t (← selection files w)

def readSplit (words : List String) : Except Misuse Command :=
  withWords [("--separator", true), ("--map-entry-separator", true)] words fun w => do
    let value ← w.oneArgument "VALUE"
    return split value ((w.value? "--separator").getD ",") (w.value? "--map-entry-separator")

def readInfo (words : List String) : Except Misuse Command :=
  withWords [] words fun w => do
    w.noArguments
    return info

def readEnvironmentLead (words : List String) : Except Misuse Command :=
  withWords [] words fun w => return environmentLead (← w.oneArgument "SLUG")

def read (files : Files) (words : List String) : Except Misuse Command := do
  let (lead, rest) ← Words.readLead
    (helpOptions ++ [("--version", false), ("--traceback", false), ("--no-traceback", false)]) words
  match lead.given.find? fun p => p.1 ∈ ["-h", "--help", "--version"] with
  | some ("--version", _) => return version
  | some _ => return help
  | none =>
    match rest with
    | [] => throw .missingCommand
    | "resolve" :: words => readResolve files words
    | "get" :: words => readLookup files words
    | "split" :: words => readSplit words
    | "info" :: words => readInfo words
    | "env-prefix" :: words => readEnvironmentLead words
    | word :: _ => throw (.unknownCommand word)

end Command

end LayeredConfig.CommandLine
