import LayeredConfig.Calendar
import LayeredConfig.Conversion.Target
import LayeredConfig.Number.Integer
import LayeredConfig.Text.Quoted

/-! What can go wrong, by cause, and the message of each cause. -/

namespace LayeredConfig

inductive Format
  | toml
  | json
  | yaml
  deriving DecidableEq

namespace Format

def name : Format → String
  | toml => "toml"
  | json => "json"
  | yaml => "yaml"

def title : Format → String
  | toml => "TOML"
  | json => "JSON"
  | yaml => "YAML"

end Format

inductive Failure
  | emptyKey
  | emptySeparator
  | reservedPolicy (name : String)
  | unknownPolicy (name : String)
  | policyNotBuilt (name cause : String)
  | unsupportedFile (path : String)
  | malformedFile (format : Format) (path complaint : String)
  | notAMapping (path : String)
  | fileNotFound (path : String)
  | yamlUnavailable
  | dotenvNotFound (path : String)
  | malformedLine (line : Nat) (path : String)
  | missingName (line : Nat) (path : String)
  | fileNotLoaded (path : String) (cause : Failure)
  | dotenvNotLoaded (path : String) (cause : Failure)
  | sourceAccess (text : String)
  | missingKey (key : String)
  | unconvertible (key : String) (target : Conversion.Target) (formats : List String)
  | accessDenied (key : String) (roles : List String)
  | unknownSecurePolicy (text : String)
  | badNumber (fault : Number.Integer.Fault)
  | badCalendar (fault : Calendar.Fault)
  | badPattern (complaint : String)
  | largePattern (complaint : String)
  | undecodable (complaint : String)
  | noSuchKey (key : String)
  | refused (complaint : String)
  | endless (complaint : String)
  | foreign (kind text : String)
  deriving Inhabited

namespace Failure

inductive Kind
  | config
  | invalidFormat
  | notFound
  | missingKey
  | conversion
  | sourceAccess
  | policyInstantiation
  | accessDenied
  | value
  | decoding
  | lookup
  | pattern
  | overflow
  | system
  | recursion
  | foreign (name : String)
  deriving DecidableEq

def Kind.wider? : Kind → Option Kind
  | missingKey => some notFound
  | invalidFormat | notFound | conversion | sourceAccess | policyInstantiation | accessDenied =>
    some config
  | decoding => some value
  | _ => none

def kind : Failure → Kind
  | emptyKey | emptySeparator | reservedPolicy _ | unknownSecurePolicy _ | badNumber _
  | badCalendar _ => .value
  | unknownPolicy _ | policyNotBuilt .. => .policyInstantiation
  | unsupportedFile _ | malformedFile .. | notAMapping _ | malformedLine .. | missingName .. =>
    .invalidFormat
  | fileNotFound _ | yamlUnavailable | dotenvNotFound _ => .notFound
  | fileNotLoaded .. | dotenvNotLoaded .. | sourceAccess _ => .sourceAccess
  | missingKey _ => .missingKey
  | unconvertible .. => .conversion
  | accessDenied .. => .accessDenied
  | badPattern _ => .pattern
  | largePattern _ => .overflow
  | undecodable _ => .decoding
  | noSuchKey _ => .lookup
  | refused _ => .system
  | endless _ => .recursion
  | foreign kind _ => .foreign kind

def isNotFound (f : Failure) : Bool := f.kind = .notFound ∨ f.kind = .missingKey

def isInvalidFormat (f : Failure) : Bool := f.kind = .invalidFormat

def message : Failure → String
  | emptyKey => "PropertyEntry key must not be empty"
  | emptySeparator => "separator must not be empty"
  | reservedPolicy name => Text.quote name ++ " is reserved for a built-in policy"
  | unknownPolicy name => "No combination policy registered as " ++ Text.quote name
  | policyNotBuilt name cause =>
    "Cannot create combination policy " ++ Text.quote name ++ ": " ++ cause
  | unsupportedFile path => "Unsupported configuration file type: " ++ path
  | malformedFile format path complaint =>
    "Invalid " ++ format.title ++ " in " ++ path ++ ": " ++ complaint
  | notAMapping path => "File " ++ path ++ " did not produce a mapping"
  | fileNotFound path => "Configuration file not found: " ++ path
  | yamlUnavailable => "PyYAML is required for YAML configuration support"
  | dotenvNotFound path => "Dotenv file not found: " ++ path
  | malformedLine line path => "Malformed line " ++ toString line ++ " in " ++ path
  | missingName line path => "Missing key on line " ++ toString line ++ " in " ++ path
  | fileNotLoaded path cause =>
    "Failed to load configuration file " ++ path ++ ": " ++ cause.message
  | dotenvNotLoaded path cause => "Failed to load dotenv file " ++ path ++ ": " ++ cause.message
  | sourceAccess text => text
  | missingKey key => "Required configuration key not found: " ++ key
  | unconvertible key target formats =>
    let listed := ", ".intercalate formats
    "Cannot convert value of " ++ Text.quote key ++ " to " ++ target.label ++
      " (supported formats: " ++ (if listed.isEmpty then "none" else listed) ++ ")"
  | accessDenied key roles =>
    "Unauthorized access to " ++ Text.quote key ++ ", not in " ++ Text.quoteList roles
  | unknownSecurePolicy text => Text.quote text ++ " is not a valid SecurePolicy"
  | badNumber fault => fault.message
  | badCalendar fault => fault.message
  | badPattern complaint => complaint
  | largePattern complaint => complaint
  | undecodable complaint => complaint
  | noSuchKey key => Text.quote key
  | refused complaint => complaint
  | endless complaint => complaint
  | foreign _ text => text

end Failure

end LayeredConfig
