import LayeredConfig.Files
import LayeredConfig.Source.Environment
import LayeredConfig.Text.Blank
import LayeredConfig.Text.Blocks

/-! Lines `NAME=value` as a source. Names follow the rule for environment variables; quotes around
a value and a comment behind it are removed. -/

namespace LayeredConfig.Source.Dotenv

open Text

def defaultOrdinal : Int := 250

def lines : List Char → List (List Char)
  | [] => []
  | '\r' :: '\n' :: cs => [] :: lines cs
  | '\r' :: cs => [] :: lines cs
  | '\n' :: cs => [] :: lines cs
  | c :: cs =>
    match lines cs with
    | [] => [[c]]
    | l :: ls => if cs.head? = some '\n' ∨ cs.head? = some '\r' then [c] :: ls else (c :: l) :: ls

def comment : List Char := [' ', '#']

def isQuote (c : Char) : Bool := c == '"' || c == '\''

/-- The text inside quotes, or else the text in front of a comment. -/
def unquote (cs : List Char) : List Char :=
  match cs with
  | [] => []
  | c :: rest =>
    if isQuote c && !rest.isEmpty && rest.getLast? == some c then rest.dropLast
    else if c = '#' then []
    else match cut? comment cs with
      | some (before, _) => trim before
      | none => cs

inductive Line
  | skipped
  | setting (name value : List Char)
  | malformed
  | nameless

def exported : List Char := "export ".toList

def readLine (raw : List Char) : Line :=
  let line := trim raw
  if line.isEmpty || line.head? == some '#' then .skipped
  else
    let line := if exported.isPrefixOf line then trimStart (line.drop exported.length) else line
    match cut? ['='] line with
    | none => .malformed
    | some (name, value) =>
      if (trim name).isEmpty then .nameless else .setting (trim name) (unquote (trim value))

inductive Fault
  | malformed (line : Nat)
  | nameless (line : Nat)

def Fault.line : Fault → Nat
  | malformed n => n
  | nameless n => n

def readLines (found : Ledger String String) (number : Nat) :
    List (List Char) → Except Fault (Ledger String String)
  | [] => .ok found
  | raw :: rest =>
    match readLine raw with
    | .skipped => readLines found (number + 1) rest
    | .setting name value =>
      readLines (found.put (Environment.key (String.ofList name)) (String.ofList value))
        (number + 1) rest
    | .malformed => .error (.malformed number)
    | .nameless => .error (.nameless number)

def parse (cs : List Char) : Except Fault (Ledger String String) := readLines .empty 1 (lines cs)

def Fault.toFailure (path : String) : Fault → Failure
  | malformed n => .malformedLine n path
  | nameless n => .missingName n path

variable {σ : Type}

def endedLines (cs : List Char) : List Char :=
  let isEnd (c : Char) : Bool := c == '\n' || c == '\r'
  let backward := cs.reverse
  let backward := if backward.head? = some '\r' then backward.drop 1 else backward
  (backward.dropWhile (!isEnd ·)).reverse

def readText (name : String) (cs : List Char) : Call σ (Ledger String String) :=
  match parse cs with
  | .ok settings => return settings
  | .error fault => do
    report .error "dotenv_invalid_line" (some name) none [("line", .integer fault.line)]
    throw (fault.toFailure name)

/-- Settings of the bytes of a file. Lines that end before the text becomes undecodable are read
first. -/
def readBytes (name : String) (content : ByteArray) : Call σ (Ledger String String) :=
  match String.fromUTF8? content with
  | some text => readText name text.toList
  | none => do
    discard (readText name (endedLines (Blocks.readable [] (Blocks.ofBytes content))))
    throw (.undecodable "not UTF-8")

def load (fs : Files) (path : String) : Call σ (Ledger String Entry) := do
  let place := Path.ofString path
  let name := place.text
  match fs.read place with
  | .error complaint => throw (.refused complaint)
  | .ok none => throw (.dotenvNotFound path)
  | .ok (some content) => do
    let settings ← readBytes name content
    let entries ← ExceptT.mk (pure (Entry.all name .empty (settings.map some)))
    report .debug "dotenv_loaded" (some name) none
      [("keys", Journal.strings (Environment.sortedKeys entries.keys))]
    return entries

def source (fs : Files) (id : Nat) (path : String) (ordinal : Int) : Call σ (Source σ) := do
  return .ofEntries id (Path.ofString path).text ordinal true (← load fs path)

def fileName : String := ".env"

def searchPaths (fs : Files) (start : Option String) : List Path :=
  let base := match start with
    | some s => if s.isEmpty then fs.currentPath else Path.ofString s
    | none => fs.currentPath
  (base :: base.parents).map (·.child fileName)

def find (fs : Files) (start : Option String) : Call σ (Option String) := do
  match fs.firstFile (searchPaths fs start) with
  | .error complaint => throw (.refused complaint)
  | .ok (some p) => return some p.text
  | .ok none => do
    report .debug "dotenv_not_found" (some "dotenv") none [("start_dir", Journal.optional start)]
    return none

end LayeredConfig.Source.Dotenv
