import LayeredConfig.Conversion.Target
import LayeredConfig.Number.Decimal
import LayeredConfig.Path
import LayeredConfig.Sorting

/-! The results of conversions, with the equality that sets go by and the order that sorting
goes by. -/

namespace LayeredConfig.Conversion

open Number

inductive Value
  | text (s : String)
  | boolean (b : Bool)
  | integer (n : Int)
  | real (x : Binary64)
  | decimal (d : Decimal)
  | path (p : Path)
  | duration (microseconds : Int)
  | member (e : Enumeration) (m : Member)
  | collection (cls : Class) (items : List Value)
  | mapping (frozen : Bool) (pairs : List (String × Value))
  deriving Inhabited

def Class.collection? : Class → Option Collection
  | .list => some .list
  | .tuple => some .tuple
  | .set => some .set
  | .frozenset => some .frozenset
  | .derived _ _ base => base.collection?
  | _ => none

namespace Value

def exactDecimal : Binary64 → Decimal
  | .nan => .nan false false 0
  | .infinite n => .infinite n
  | .finite n m e => if e < 0 then .finite n (m * power 5 (-e)) e else .finite n (m * power 2 e) 0

def ofInt (n : Int) : Decimal := .finite (n < 0) n.natAbs 0

def number? : Value → Option Decimal
  | boolean b => some (ofInt (if b then 1 else 0))
  | integer n => some (ofInt n)
  | real x => some (exactDecimal x)
  | decimal d => some d
  | member e m =>
    match e.mixin, m.value with
    | .integer, .integer n => some (ofInt n)
    | _, _ => none
  | _ => none

def text? : Value → Option String
  | text s => some s
  | member e m =>
    match e.mixin, m.value with
    | .text, .text s => some s
    | _, _ => none
  | _ => none

def equalNumbers (x y : Decimal) : Bool :=
  !x.isNaN && !y.isNaN && x.compareNumbers y == .eq

mutual

def same : Value → Value → Bool
  | path p, path q => p == q
  | duration a, duration b => a == b
  | collection c xs, collection d ys =>
    match c.collection?, d.collection? with
    | some .list, some .list | some .tuple, some .tuple => sameAll xs ys
    | some .set, some .set | some .set, some .frozenset | some .frozenset, some .set
    | some .frozenset, some .frozenset => xs.length == ys.length && subset xs ys
    | _, _ => false
  | mapping _ ps, mapping _ qs => ps.length == qs.length && submap ps qs
  | x, y =>
    match x.number?, y.number? with
    | some a, some b => equalNumbers a b
    | _, _ =>
      match x.text?, y.text? with
      | some s, some t => s == t
      | _, _ =>
        match x, y with
        | member e m, member f n => e.name == f.name && m.name == n.name
        | _, _ => false

def sameAll : List Value → List Value → Bool
  | [], [] => true
  | x :: xs, y :: ys => same x y && sameAll xs ys
  | _, _ => false

def subset : List Value → List Value → Bool
  | [], _ => true
  | x :: xs, ys => among x ys && subset xs ys

def among : Value → List Value → Bool
  | _, [] => false
  | x, y :: ys => same x y || among x ys

def submap : List (String × Value) → List (String × Value) → Bool
  | [], _ => true
  | (k, v) :: ps, qs => held k v qs && submap ps qs

def held : String → Value → List (String × Value) → Bool
  | _, _, [] => false
  | k, v, (j, w) :: qs => (k == j && same v w) || held k v qs

end

mutual

def hashable : Value → Bool
  | decimal d => !d.isSignaling
  | collection c xs =>
    match c.collection? with
    | some .tuple => hashableAll xs
    | some .frozenset => true
    | _ => false
  | mapping .. => false
  | _ => true

def hashableAll : List Value → Bool
  | [] => true
  | x :: xs => x.hashable && hashableAll xs

end

def lessText : List String → List String → Bool
  | _, [] => false
  | [], _ :: _ => true
  | x :: xs, y :: ys => if x = y then lessText xs ys else x < y

mutual

/-- The order of two values; none if they have none. A float that is not a number is less than
nothing, and a decimal that is not a number cannot be compared. -/
def less? : Value → Value → Option Bool
  | path p, path q => some (lessText p.components q.components)
  | duration a, duration b => some (a < b)
  | collection c xs, collection d ys =>
    match c.collection?, d.collection? with
    | some .list, some .list | some .tuple, some .tuple => lessAll? xs ys
    | some .set, some .set | some .set, some .frozenset | some .frozenset, some .set
    | some .frozenset, some .frozenset => some (xs.length < ys.length && subset xs ys)
    | _, _ => none
  | decimal x, y =>
    match y.number? with
    | some d => if x.isNaN || d.isNaN then none else some (x.compareNumbers d == .lt)
    | none => none
  | x, y =>
    match x.number?, y.number? with
    | some a, some b =>
      if a.isNaN || b.isNaN then
        match y with
        | decimal _ => none
        | _ => some false
      else some (a.compareNumbers b == .lt)
    | _, _ =>
      match x.text?, y.text? with
      | some s, some t => some (s < t)
      | _, _ => none

def lessAll? : List Value → List Value → Option Bool
  | [], ys => some !ys.isEmpty
  | _ :: _, [] => some false
  | x :: xs, y :: ys => if same x y then lessAll? xs ys else less? x y

end

def distinct? (xs : List Value) : Option (List Value) :=
  if hashableAll xs then
    some (xs.foldl (fun seen x => if seen.any (same x) then seen else seen ++ [x]) [])
  else none

def sorted? (xs : List Value) : Option (List Value) := Sorting.sort? less? xs

end Value

end LayeredConfig.Conversion
