import LayeredConfig.Calendar
import LayeredConfig.Number.Binary64
import LayeredConfig.Number.Integer
import LayeredConfig.Text.Quoted

/-! Documents as values: scalars, collections and mappings whose keys are values too. -/

namespace LayeredConfig

open Number

inductive Collection
  | list
  | tuple
  | set
  | frozenset
  deriving DecidableEq

inductive Data
  | null
  | boolean (b : Bool)
  | integer (n : Int)
  | real (x : Binary64)
  | text (s : String)
  | date (d : Calendar.Date)
  | time (t : Calendar.Time)
  | dateTime (d : Calendar.DateTime)
  | collection (kind : Collection) (items : List Data)
  | mapping (pairs : List (Data × Data))
  deriving Inhabited

namespace Data

/-- Numbers that are equal count as the same key, whatever their type. -/
inductive Magnitude
  | exact (x : Rat)
  | unbounded (negative : Bool)
  deriving DecidableEq

def magnitude? : Data → Option Magnitude
  | boolean b => some (.exact (if b then 1 else 0))
  | integer n => some (.exact n)
  | real (.infinite n) => some (.unbounded n)
  | real x => x.toRat?.map .exact
  | _ => none

mutual

def same : Data → Data → Bool
  | null, null => true
  | text s, text t => s == t
  | date d, date e => d == e
  | time t, time u => t == u
  | dateTime d, dateTime e => d == e
  | collection .tuple xs, collection .tuple ys => sameAll xs ys
  | collection .frozenset xs, collection .frozenset ys => sameAll xs ys
  | boolean a, boolean b => a == b
  | x, y =>
    match x.magnitude?, y.magnitude? with
    | some a, some b => a == b
    | _, _ => false

def sameAll : List Data → List Data → Bool
  | [], [] => true
  | x :: xs, y :: ys => same x y && sameAll xs ys
  | _, _ => false

end

def sameMembers (xs ys : List Data) : Bool :=
  xs.length == ys.length && xs.all fun x => ys.any x.same

mutual

/-- Whether two values are equal, those included that are no keys: sequences item by item, sets by
their members, mappings by the values under their keys. -/
def equal : Data → Data → Bool
  | collection .list xs, collection .list ys => equalAll xs ys
  | collection .tuple xs, collection .tuple ys => equalAll xs ys
  | collection .set xs, collection .set ys => sameMembers xs ys
  | collection .set xs, collection .frozenset ys => sameMembers xs ys
  | collection .frozenset xs, collection .set ys => sameMembers xs ys
  | collection .frozenset xs, collection .frozenset ys => sameMembers xs ys
  | mapping ps, mapping qs => ps.length == qs.length && equalPairs ps qs
  | x, y => same x y

def equalAll : List Data → List Data → Bool
  | [], [] => true
  | x :: xs, y :: ys => equal x y && equalAll xs ys
  | _, _ => false

def equalPairs : List (Data × Data) → List (Data × Data) → Bool
  | [], _ => true
  | (k, v) :: ps, qs =>
    (match qs.find? fun q => k.same q.1 with
      | some q => equal v q.2
      | none => false) && equalPairs ps qs

end

def placePair (k v : Data) : List (Data × Data) → List (Data × Data)
  | [] => [(k, v)]
  | (j, w) :: ps => if j.same k then (j, v) :: ps else (j, w) :: placePair k v ps

def mappingOf (ps : List (Data × Data)) : Data :=
  mapping (ps.foldl (fun acc p => placePair p.1 p.2 acc) [])

def setOf (kind : Collection) (xs : List Data) : Data :=
  collection kind
    (xs.foldl (fun acc x => if acc.any (·.same x) then acc else acc ++ [x]) [])

def braces (s : String) : String := "\x7b" ++ s ++ "\x7d"

mutual

def expression : Data → String
  | null => "None"
  | boolean b => if b then "True" else "False"
  | integer n => Integer.text n
  | real x => x.text
  | text s => Text.quote s
  | date d => d.expression
  | time t => t.expression
  | dateTime d => d.expression
  | collection .list xs => "[" ++ ", ".intercalate (expressions xs) ++ "]"
  | collection .tuple [x] => "(" ++ x.expression ++ ",)"
  | collection .tuple xs => "(" ++ ", ".intercalate (expressions xs) ++ ")"
  | collection .set [] => "set()"
  | collection .set xs => braces (", ".intercalate (expressions xs))
  | collection .frozenset [] => "frozenset()"
  | collection .frozenset xs => "frozenset(" ++ braces (", ".intercalate (expressions xs)) ++ ")"
  | mapping ps => braces (", ".intercalate (pairExpressions ps))

def expressions : List Data → List String
  | [] => []
  | x :: xs => x.expression :: expressions xs

def pairExpressions : List (Data × Data) → List String
  | [] => []
  | (k, v) :: ps => (k.expression ++ ": " ++ v.expression) :: pairExpressions ps

end

mutual

def isWritable : Data → Bool
  | integer n => Integer.isWritable n
  | collection _ xs => allWritable xs
  | mapping ps => pairsWritable ps
  | _ => true

def allWritable : List Data → Bool
  | [] => true
  | x :: xs => x.isWritable && allWritable xs

def pairsWritable : List (Data × Data) → Bool
  | [] => true
  | (k, v) :: ps => k.isWritable && v.isWritable && pairsWritable ps

end

def display : Data → String
  | text s => s
  | date d => d.text
  | time t => t.text
  | dateTime d => d.text
  | x => x.expression

end Data

end LayeredConfig
