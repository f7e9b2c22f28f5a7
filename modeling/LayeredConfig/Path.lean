import LayeredConfig.Text.Cut

/-! File paths. Repeated slashes and single dots vanish, exactly two leading slashes stay, and
`..` is kept as written. -/

namespace LayeredConfig

structure Path where
  /-- No slash, one, or two. -/
  root : Nat
  parts : List String
  deriving DecidableEq, Inhabited

namespace Path

def leadingSlashes (cs : List Char) : Nat := (cs.takeWhile (· == '/')).length

def ofString (s : String) : Path :=
  let cs := s.toList
  let n := leadingSlashes cs
  let names := (Text.pieces ['/'] (by simp) cs).map String.ofList
  ⟨if n = 0 then 0 else if n = 2 then 2 else 1, names.filter fun p => p ≠ "" ∧ p ≠ "."⟩

def rootText (p : Path) : String := String.ofList (List.replicate p.root '/')

def text (p : Path) : String :=
  if p.root = 0 ∧ p.parts = [] then "." else p.rootText ++ "/".intercalate p.parts

def isAbsolute (p : Path) : Bool := p.root ≠ 0

def components (p : Path) : List String := if p.root = 0 then p.parts else p.rootText :: p.parts

def name (p : Path) : String := p.parts.getLast?.getD ""

def suffix (p : Path) : String :=
  match Text.cutLast? '.' p.name.toList with
  | some (before, after) =>
    if before.isEmpty ∨ after.isEmpty then "" else String.ofList ('.' :: after)
  | none => ""

def child (p : Path) (name : String) : Path := { p with parts := p.parts ++ [name] }

def parents (p : Path) : List Path :=
  (List.range p.parts.length).map fun i => { p with parts := p.parts.take (p.parts.length - 1 - i) }

/-- The directories that `~` and `~user` stand for. -/
structure Homes where
  own : Option String
  ofUser : String → Option String

def expandHome? (homes : Homes) (p : Path) : Option Path :=
  match p.root, p.parts with
  | 0, first :: rest =>
    match first.toList with
    | '~' :: user =>
      let home := if user.isEmpty then homes.own else homes.ofUser (String.ofList user)
      home.bind fun h =>
        let q := ofString h
        if h.toList.head? = some '~' then none else some { q with parts := q.parts ++ rest }
    | _ => some p
  | _, _ => some p

end Path

end LayeredConfig
