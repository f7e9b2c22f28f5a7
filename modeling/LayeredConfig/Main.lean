import LayeredConfig.CommandLine
import LayeredConfig.Document.Yaml

/-! The program on a command line of its own. -/

namespace LayeredConfig.CommandLine

def zeroTerminated (bytes : ByteArray) : List String :=
  (bytes.toList.splitOnP (· == 0)).filterMap fun piece => String.fromUTF8? ⟨piece.toArray⟩

def assignment? (text : String) : Option (String × String) :=
  (Text.cut? ['='] text.toList).map fun p => (String.ofList p.1, String.ofList p.2)

def readVariables : IO (Ledger String String) := do
  let bytes ← try IO.FS.readBinFile "/proc/self/environ" catch _ => pure .empty
  return Ledger.ofList ((zeroTerminated bytes).filterMap assignment?)

def mentioned (word : String) : List String :=
  let text := ((Words.parts word).2).getD word
  text :: (Text.cutLast? ':' text.toList).toList.map fun p => String.ofList p.1

def addMentioned (files : Files) (path : String) : IO Files := do
  try
    return files.addAt (Path.ofString path) (.file (← IO.FS.readBinFile path))
  catch
    | .noFileOrDirectory .. | .inappropriateType .. => return files
    | e => return files.refuse .lookup (Path.ofString path) (toString e)

def readFiles (current : String) (words : List String) : IO Files := do
  let start : Files := { tree := .empty, current := (Path.ofString current).parts }
  (words.flatMap mentioned).foldlM addMentioned start

end LayeredConfig.CommandLine

open LayeredConfig CommandLine in
def main (words : List String) : IO UInt32 := do
  let bindings ← readVariables
  let files ← readFiles (bindings.getD "PWD" "/") words
  let program : Program Unit :=
    { surroundings := ⟨files, some Document.Yaml.read⟩
      runtime :=
        { homes := ⟨bindings.get? "HOME", fun _ => none⟩
          complaint := fun _ _ => "no collection can be built of these items" }
      environment := return bindings
      installed := some about }
  let ending := ((run program words).run (Memory.initial .critical ())).1
  match ending with
  | .done output => IO.print output
  | .misused m => IO.eprintln ("Error: " ++ m.message)
  | .failed f => IO.eprintln ("Error: " ++ f.message)
  return ending.code.toUInt32
