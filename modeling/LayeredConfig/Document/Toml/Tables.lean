import LayeredConfig.Data

/-! The tables of a document while it is read. A table stands behind its path of keys, where an
array of tables stands for its last member. Tables are declared once, and inline values are frozen
with all that lies under them. -/

namespace LayeredConfig.Document.Toml

abbrev Key := List String

abbrev Pairs := List (Data × Data)

structure Tables where
  root : Pairs
  declared : List Key
  frozen : List Key
  pending : List Key

namespace Tables

def empty : Tables := ⟨[], [], [], []⟩

def isDeclared (t : Tables) (key : Key) : Bool := t.declared.contains key

def isFrozen (t : Tables) (key : Key) : Bool := t.frozen.any (·.isPrefixOf key)

def declare (t : Tables) (key : Key) : Tables := { t with declared := key :: t.declared }

def freeze (t : Tables) (key : Key) : Tables := { t with frozen := key :: t.frozen }

def awaitHeader (t : Tables) (keys : List Key) : Tables := { t with pending := keys ++ t.pending }

def settle (t : Tables) : Tables := { t with declared := t.pending ++ t.declared, pending := [] }

def reopen (t : Tables) (key : Key) : Tables :=
  { t with
    declared := t.declared.filter fun k => !key.isPrefixOf k
    frozen := t.frozen.filter fun k => !key.isPrefixOf k }

def find? (name : String) : Pairs → Option Data
  | [] => none
  | (.text s, v) :: ps => if s = name then some v else find? name ps
  | _ :: ps => find? name ps

def put (ps : Pairs) (name : String) (v : Data) : Pairs := Data.placePair (.text name) v ps

/-- Changes the table behind a path, making the tables on the way that are missing; nothing if
something else than a table stands there. An array leads to its last table if `through` allows. -/
def within (through : Bool) (change : Pairs → Option Pairs) : Key → Pairs → Option Pairs
  | [], ps => change ps
  | name :: names, ps =>
    match find? name ps with
    | none => (within through change names []).map fun qs => put ps name (.mapping qs)
    | some (.mapping qs) =>
      (within through change names qs).map fun qs => put ps name (.mapping qs)
    | some (.collection .list xs) =>
      match through, xs.getLast? with
      | true, some (.mapping qs) =>
        (within through change names qs).map fun qs =>
          put ps name (.collection .list (xs.dropLast ++ [.mapping qs]))
      | _, _ => none
    | some _ => none

def addNew (name : String) (v : Data) (ps : Pairs) : Option Pairs :=
  match find? name ps with
  | none => some (put ps name v)
  | some _ => none

def addMember (name : String) (ps : Pairs) : Option Pairs :=
  match find? name ps with
  | none => some (put ps name (.collection .list [.mapping []]))
  | some (.collection .list xs) => some (put ps name (.collection .list (xs ++ [.mapping []])))
  | some _ => none

def change (t : Tables) (key : Key) (f : Pairs → Option Pairs) : Option Tables :=
  (within true f key t.root).map fun root => { t with root }

def openTable (t : Tables) (key : Key) : Option Tables :=
  if t.isDeclared key || t.isFrozen key then none else (t.declare key).change key some

def openMember (t : Tables) (key : Key) : Option Tables :=
  if t.isFrozen key then none
  else ((t.reopen key).declare key).change key.dropLast (addMember (key.getLast?.getD ""))

def steps (header key : Key) : List Key :=
  (List.range (key.length - 1)).map fun i => header ++ key.take (i + 1)

def isInline : Data → Bool
  | .mapping _ | .collection .. => true
  | _ => false

def set (t : Tables) (header key : Key) (v : Data) : Option Tables :=
  let table := header ++ key.dropLast
  if (steps header key).any t.isDeclared || t.isFrozen table then none
  else
    let t := t.awaitHeader (steps header key)
    let t := if isInline v then t.freeze (header ++ key) else t
    t.change table (addNew (key.getLast?.getD "") v)

def setInline (t : Tables) (key : Key) (v : Data) : Option Tables :=
  if t.isFrozen key then none
  else
    let t := if isInline v then t.freeze key else t
    (within false (addNew (key.getLast?.getD "") v) key.dropLast t.root).map
      fun root => { t with root }

end Tables

end LayeredConfig.Document.Toml
