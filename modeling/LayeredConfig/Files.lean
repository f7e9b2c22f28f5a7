import LayeredConfig.Ledger
import LayeredConfig.Path

/-! A tree of files with a current directory, behind a system that may refuse to look at it. -/

namespace LayeredConfig

inductive Node
  | directory
  | file (content : ByteArray)

/-- What the system may refuse: to look a path up, or to hand out the file there. -/
inductive Access
  | lookup
  | reading
  deriving DecidableEq

/-- Nodes by the names on the way from the root, which itself is always a directory. -/
structure Files where
  tree : Ledger (List String) Node
  current : List String
  /-- What the system says where it refuses, whatever the tree holds there. -/
  refusal? : Access → Path → Option String := fun _ _ => none

namespace Files

def empty : Files := { tree := .empty, current := [] }

def node? (fs : Files) (place : List String) : Option Node :=
  if place.isEmpty then some .directory else fs.tree.get? place

def walk (fs : Files) (place : List String) : List String → Option (List String)
  | [] => some place
  | ".." :: ps => fs.walk place.dropLast ps
  | p :: ps =>
    let next := place ++ [p]
    match fs.node? next with
    | some .directory => fs.walk next ps
    | some (.file _) => if ps.isEmpty then some next else none
    | none => none

def locate? (fs : Files) (p : Path) : Option (List String) :=
  fs.walk (if p.isAbsolute then [] else fs.current) p.parts

def content? (fs : Files) (p : Path) : Option ByteArray :=
  match (fs.locate? p).bind fs.node? with
  | some (.file content) => some content
  | _ => none

def isFile (fs : Files) (p : Path) : Bool := (fs.content? p).isSome

def lookUp (fs : Files) (p : Path) : Except String Bool :=
  match fs.refusal? .lookup p with
  | some complaint => .error complaint
  | none => .ok (fs.isFile p)

/-- The content of the file at a path, if one is there. It is looked up first. -/
def read (fs : Files) (p : Path) : Except String (Option ByteArray) :=
  match fs.refusal? .lookup p, fs.content? p, fs.refusal? .reading p with
  | some complaint, _, _ => .error complaint
  | none, none, _ => .ok none
  | none, some _, some complaint => .error complaint
  | none, some content, none => .ok (some content)

theorem isFile_of_read {fs : Files} {p : Path} {found : Option ByteArray}
    (h : fs.read p = .ok found) : fs.isFile p = found.isSome := by
  rw [read] at h
  rw [isFile]
  split at h <;> cases h <;> simp_all

theorem read_eq_of_open {fs : Files} {p : Path} (h : ∀ access, fs.refusal? access p = none) :
    fs.read p = .ok (fs.content? p) := by
  rw [read, h, h]
  cases fs.content? p <;> rfl

def firstFile (fs : Files) : List Path → Except String (Option Path)
  | [] => .ok none
  | p :: ps => do if ← fs.lookUp p then return some p else fs.firstFile ps

def refuse (fs : Files) (access : Access) (p : Path) (complaint : String) : Files :=
  { fs with
    refusal? := fun a q => if a = access ∧ q = p then some complaint else fs.refusal? a q }

def currentPath (fs : Files) : Path := ⟨1, fs.current⟩

def above (place : List String) : List (List String) :=
  (List.range place.length).filterMap fun i => if i = 0 then none else some (place.take i)

def add (fs : Files) (place : List String) (node : Node) : Files :=
  let withParents := (above place).foldl (fun t d => t.putNew d .directory) fs.tree
  { fs with tree := withParents.put place node }

def openWay (fs : Files) (place : List String) : List String → Files × List String
  | [] => (fs, place)
  | ".." :: ps => openWay fs place.dropLast ps
  | p :: ps =>
    let next := place ++ [p]
    let fs := if ps.isEmpty then fs else { fs with tree := fs.tree.putNew next .directory }
    openWay fs next ps

def addAt (fs : Files) (p : Path) (node : Node) : Files :=
  let (fs, place) := fs.openWay (if p.isAbsolute then [] else fs.current) p.parts
  fs.add place node

end Files

end LayeredConfig
