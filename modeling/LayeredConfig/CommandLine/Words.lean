import LayeredConfig.Text.Cut

/-! The words of a command line: options, which begin with two hyphens, and arguments. -/

namespace LayeredConfig.CommandLine

inductive Misuse
  | unknownOption (name : String)
  | missingValue (name : String)
  | unwantedValue (name : String)
  | missingArgument (name : String)
  | extraArgument (word : String)
  | unknownCommand (word : String)
  | missingCommand
  | badValue (option value : String)
  deriving DecidableEq

namespace Misuse

def message : Misuse → String
  | unknownOption name => "No such option: " ++ name
  | missingValue name => "Option " ++ name ++ " requires an argument"
  | unwantedValue name => "Option " ++ name ++ " does not take a value"
  | missingArgument name => "Missing argument " ++ name
  | extraArgument word => "Unexpected extra argument " ++ word
  | unknownCommand word => "No such command " ++ word
  | missingCommand => "Missing command"
  | badValue option value => "Invalid value for " ++ option ++ ": " ++ value

end Misuse

abbrev Options := List (String × Bool)

structure Words where
  given : List (String × Option String)
  arguments : List String

namespace Words

def isOption (word : String) : Bool :=
  match word.toList with
  | '-' :: _ :: _ => true
  | _ => false

def parts (word : String) : String × Option String :=
  if Text.startsWith "--" word then
    match Text.cut? ['='] word.toList with
    | some (name, value) => (String.ofList name, some (String.ofList value))
    | none => (word, none)
  else (word, none)

def takesValue? (known : Options) (name : String) : Except Misuse Bool :=
  match known.find? (·.1 = name) with
  | some (_, b) => .ok b
  | none => .error (.unknownOption name)

def withOption (name : String) (value : Option String) (w : Words) : Words :=
  { w with given := (name, value) :: w.given }

def withArgument (word : String) (w : Words) : Words :=
  { w with arguments := word :: w.arguments }

def read (known : Options) : List String → Except Misuse Words
  | [] => .ok ⟨[], []⟩
  | word :: rest =>
    if word = "--" then .ok ⟨[], rest⟩
    else if !isOption word then withArgument word <$> read known rest
    else do
      let (name, value) := parts word
      match ← takesValue? known name, value, rest with
      | true, some v, rest => withOption name (some v) <$> read known rest
      | true, none, v :: rest => withOption name (some v) <$> read known rest
      | true, none, [] => throw (.missingValue name)
      | false, some _, _ => throw (.unwantedValue name)
      | false, none, rest => withOption name none <$> read known rest

def readLead (known : Options) : List String → Except Misuse (Words × List String)
  | [] => .ok (⟨[], []⟩, [])
  | word :: rest =>
    if word = "--" then .ok (⟨[], []⟩, rest)
    else if !isOption word then .ok (⟨[], []⟩, word :: rest)
    else do
      let (name, value) := parts word
      match ← takesValue? known name, value with
      | false, none => do
        let (w, rest) ← readLead known rest
        return (w.withOption name none, rest)
      | false, some _ => throw (.unwantedValue name)
      | true, _ => throw (.missingValue name)

def has (w : Words) (name : String) : Bool := w.given.any (·.1 = name)

def values (w : Words) (name : String) : List String :=
  w.given.filterMap fun p => if p.1 = name then p.2 else none

def value? (w : Words) (name : String) : Option String := (w.values name).getLast?

def isOn (w : Words) (on off : String) : Bool :=
  ((w.given.filter fun p => p.1 = on ∨ p.1 = off).getLast?).any (·.1 = on)

def noArguments (w : Words) : Except Misuse Unit :=
  match w.arguments with
  | [] => .ok ()
  | word :: _ => .error (.extraArgument word)

def oneArgument (w : Words) (name : String) : Except Misuse String :=
  match w.arguments with
  | [] => .error (.missingArgument name)
  | [word] => .ok word
  | _ :: word :: _ => .error (.extraArgument word)

end Words

end LayeredConfig.CommandLine
