import LayeredConfig.Data

/-! What a value is to be converted to: a class, possibly with arguments, and the classes it
descends from. -/

namespace LayeredConfig.Conversion

inductive Mixin
  | none
  | integer
  | text
  deriving DecidableEq, Inhabited

/-- The names of an enumeration with their values, in the order of definition. A name whose value
was defined before is an alias of the earlier name. -/
structure Enumeration where
  module : String
  name : String
  mixin : Mixin
  defined : List (String × Data)
  deriving Inhabited

structure Member where
  name : String
  value : Data
  deriving Inhabited

namespace Enumeration

def define (members : List Member) (d : String × Data) : List Member :=
  if members.any (·.value.equal d.2) then members else members ++ [⟨d.1, d.2⟩]

def members (e : Enumeration) : List Member := e.defined.foldl define []

/-- The member that a defined name stands for: the one of that name, or else the one whose value the
name was defined with. -/
def denotes? (e : Enumeration) (name : String) : Option Member :=
  (e.members.find? (·.name = name)).or do
    let (_, value) ← e.defined.find? (·.1 = name)
    e.members.find? (·.value.equal value)

end Enumeration

inductive Class
  | object
  | any
  | text
  | integer
  | boolean
  | real
  | complex
  | decimal
  | path
  | duration
  | list
  | tuple
  | set
  | frozenset
  | mapping
  | enum
  | integerEnum
  | enumeration (e : Enumeration)
  -- A class of the program around this library. It has one base; those with several are left out.
  | derived (module name : String) (base : Class)
  deriving Inhabited

namespace Class

def ancestors : Class → List Class
  | object => []
  | boolean => [integer, object]
  | integerEnum => [integer, enum, object]
  | enumeration e =>
    match e.mixin with
    | .none => [enum, object]
    | .integer => [integerEnum, integer, enum, object]
    | .text => [text, enum, object]
  | derived _ _ base => base :: base.ancestors
  | _ => [object]

def isEnum : Class → Bool
  | enum | integerEnum | enumeration _ => true
  | derived _ _ base => base.isEnum
  | _ => false

def qualified : Class → String
  | object => "object"
  | any => "typing.Any"
  | text => "str"
  | integer => "int"
  | boolean => "bool"
  | real => "float"
  | complex => "complex"
  | decimal => "decimal.Decimal"
  | path => "pathlib.Path"
  | duration => "datetime.timedelta"
  | list => "list"
  | tuple => "tuple"
  | set => "set"
  | frozenset => "frozenset"
  | mapping => "dict"
  | enum => "enum.Enum"
  | integerEnum => "enum.IntEnum"
  | enumeration e => e.module ++ "." ++ e.name
  | derived module name _ => module ++ "." ++ name

def same (c d : Class) : Bool := c.qualified == d.qualified

def label : Class → String
  | any => "typing.Any"
  | enum => "<enum 'Enum'>"
  | integerEnum => "<enum 'IntEnum'>"
  | enumeration e => "<enum '" ++ e.name ++ "'>"
  | c => "<class '" ++ c.qualified ++ "'>"

end Class

inductive Target
  | bare (c : Class)
  | generic (c : Class) (args : List Target)
  | ellipsis
  deriving Inhabited

namespace Target

def cls : Target → Class
  | bare c => c
  | generic c _ => c
  | ellipsis => .object

def args : Target → List Target
  | generic _ ts => ts
  | _ => []

def isText : Target → Bool
  | bare .text => true
  | _ => false

mutual

def asArgument : Target → String
  | bare c => c.qualified
  | generic c ts =>
    c.qualified ++ "[" ++ (if ts.isEmpty then "()" else ", ".intercalate (asArguments ts)) ++ "]"
  | ellipsis => "..."

def asArguments : List Target → List String
  | [] => []
  | t :: ts => t.asArgument :: asArguments ts

end

def label : Target → String
  | bare c => c.label
  | t => t.asArgument

def argument (t : Target) (i : Nat) : Target :=
  match t.args[i]? with
  | some .ellipsis | none => bare .text
  | some a => a

end Target

end LayeredConfig.Conversion
