import LayeredConfig.Document.Json
import LayeredConfig.Document.Toml
import LayeredConfig.Files
import LayeredConfig.Source.Mapping
import LayeredConfig.Text.Case

/-! Documents in files as sources. The suffix of a path chooses the format. -/

namespace LayeredConfig

/-- The files there are, and the reader of YAML if one is at hand. -/
structure Surroundings where
  files : Files
  yaml : Option Document.Decoder

def Surroundings.readsYaml (s : Surroundings) : Bool := s.yaml.isSome

namespace Format

def ofPath? (p : Path) : Option Format :=
  match Text.lower p.suffix with
  | ".toml" => some toml
  | ".json" => some json
  | ".yaml" | ".yml" => some yaml
  | _ => none

def decoder? (s : Surroundings) : Format → Option Document.Decoder
  | toml => some Document.Toml.read
  | json => some Document.Json.read
  | yaml => s.yaml

end Format

namespace Source.File

def defaultOrdinal : Int := 100

variable {σ : Type}

/-- An empty YAML document is an empty mapping; otherwise only mappings count. -/
def mapping? (format : Format) : Data → Option (List (Data × Data))
  | .mapping ps => some ps
  | .null => if format = .yaml then some [] else none
  | _ => none

def reportLoaded (format : Format) (path : String) : Call σ Unit :=
  report .debug "config_file_loaded" (some path) none [("format", .text format.name)]

def parse (read : Document.Decoder) (format : Format) (path : String) (content : ByteArray) :
    Call σ Data :=
  match read content with
  | .ok d => return d
  | .error (.malformed complaint) => do
    report .error "config_file_invalid" (some path) none
      [("format", .text format.name), ("error", .text complaint)]
    throw (.malformedFile format path complaint)
  | .error (.number f) => throw (.badNumber f)
  | .error (.calendar f) => throw (.badCalendar f)
  | .error (.endless complaint) => do
    -- Such a mapping counts as loaded; it is the way through its values that never ends.
    reportLoaded format path
    throw (.endless complaint)
  | .error (.foreign kind text) => throw (.foreign kind text)

def load (s : Surroundings) (path : String) : Call σ (List (Data × Data)) := do
  let place := Path.ofString path
  let some format := Format.ofPath? place | throw (.unsupportedFile path)
  let some read := format.decoder? s | throw .yamlUnavailable
  match s.files.read place with
  | .error complaint => throw (.refused complaint)
  | .ok none => throw (.fileNotFound path)
  | .ok (some content) => do
    report .debug "config_file_read" (some path) none [("size", .integer content.size)]
    let some pairs := mapping? format (← parse read format path content) | throw (.notAMapping path)
    reportLoaded format path
    return pairs

def make (s : Surroundings) (path : String) (ordinal : Int) (name : Option String) :
    Call σ Mapping := do
  let pairs ← load s path
  let name := (name.filter (· ≠ "")).getD path
  let m ← ExceptT.mk (pure (Mapping.make name pairs ordinal true .empty))
  report .debug "source_created" (some m.name) none
    [("ordinal", .integer ordinal), ("path", .text path)]
  return m

end Source.File

end LayeredConfig
