import LayeredConfig.Conversion.Target
import LayeredConfig.Text.Cut

/-! Types read from their written form: a name, and behind it arguments in brackets. Names are
short; a table gives the classes of those that are not built in. -/

namespace LayeredConfig.Conversion

namespace Class

def builtIn : List Class :=
  [object, any, text, integer, boolean, real, complex, decimal, path, duration, list, tuple, set,
    frozenset, mapping, enum, integerEnum]

def name (c : Class) : String :=
  ((Text.cutLast? '.' c.qualified.toList).map fun p => String.ofList p.2).getD c.qualified

def ofName? (others : List Class) (name : String) : Option Class :=
  (others ++ builtIn).find? (·.name = name)

end Class

namespace Target

def isNameChar (c : Char) : Bool := !("[], ".toList.contains c)

variable (others : List Class)

mutual

def readFrom : Nat → List Char → Option (Target × List Char)
  | 0, _ => none
  | fuel + 1, cs =>
    let name := String.ofList (cs.takeWhile isNameChar)
    match cs.dropWhile isNameChar with
    | '[' :: rest => do
      let c ← Class.ofName? others name
      let (ts, rest) ← readArguments fuel rest
      return (generic c ts, rest)
    | rest =>
      if name = "..." then some (ellipsis, rest)
      else (Class.ofName? others name).map (bare ·, rest)

def readArguments : Nat → List Char → Option (List Target × List Char)
  | 0, _ => none
  | fuel + 1, cs =>
    if "()]".toList.isPrefixOf cs then some ([], cs.drop 3)
    else do
      let (t, rest) ← readFrom fuel (cs.dropWhile (· == ' '))
      match rest with
      | ',' :: rest => do
        let (ts, rest) ← readArguments fuel rest
        return (t :: ts, rest)
      | ']' :: rest => return ([t], rest)
      | _ => none

end

def read? (s : String) : Option Target :=
  match readFrom others (2 * s.length + 1) s.toList with
  | some (t, []) => some t
  | _ => none

end Target

end LayeredConfig.Conversion
