import LayeredConfig.Ledger
import LayeredConfig.Text.Blank
import LayeredConfig.Text.Digit
import LayeredConfig.Text.Kindred
import LayeredConfig.Text.Word

/-! Patterns over text: alternatives, repeats, groups, back references and conditions on what
stands around. A pattern maps a point of the text to the points where it can end, the preferred
first and each once, so that repeats of repeats stay small. -/

namespace LayeredConfig

namespace Pattern

inductive Folding
  | exact
  | ascii
  | full
  deriving DecidableEq

inductive Category
  | digit
  | blank
  | word
  deriving DecidableEq

inductive CharSet
  | range (low high : Nat)
  | category (kind : Category) (asciiOnly negated : Bool)
  deriving DecidableEq

inductive Anchor
  | textStart
  | lineStart
  | textEnd
  /-- Also in front of a line feed that ends the text. -/
  | lastLineEnd
  | lineEnd
  | boundary (asciiOnly : Bool)
  | inside (asciiOnly : Bool)
  deriving DecidableEq

inductive Preference
  | most
  | fewest
  deriving DecidableEq

end Pattern

inductive Pattern
  | nothing
  | oneOf (negated : Bool) (sets : List Pattern.CharSet) (folding : Pattern.Folding)
  | anchor (a : Pattern.Anchor)
  | sequence (first second : Pattern)
  | either (first second : Pattern)
  | repeated (preference : Pattern.Preference) (low : Nat) (high : Option Nat) (body : Pattern)
  | group (number : Nat) (body : Pattern)
  | again (number : Nat) (folding : Pattern.Folding)
  | ahead (wanted : Bool) (body : Pattern)
  /-- The same for the last `width` characters in front of the point. -/
  | behind (wanted : Bool) (width : Nat) (body : Pattern)
  /-- Only the preferred end of the body. -/
  | committed (body : Pattern)
  | given (number : Nat) (yes no : Pattern)
  deriving Inhabited

namespace Pattern

/-! ### Characters -/

def Category.has (kind : Category) (asciiOnly : Bool) (c : Char) : Bool :=
  if asciiOnly then
    match kind with
    | digit => c.isDigit
    | blank => c == ' ' || (0x09 ≤ c.toNat && c.toNat ≤ 0x0d)
    | word => c.isAlphanum || c == '_'
  else
    match kind with
    | digit => Text.isDecimal c
    | blank => Text.isBlank c
    | word => Text.isWord c

def Folding.lower : Folding → Char → Char
  | exact, c => c
  | ascii, c => c.toLower
  | full, c => Text.lowerOne c

def Folding.same : Folding → Char → Char → Bool
  | exact, a, b => a == b
  | ascii, a, b => a.toLower == b.toLower
  | full, a, b => Text.sameLetter a b

def inRange (folding : Folding) (low high : Nat) (c : Char) : Bool :=
  (low ≤ c.toNat && c.toNat ≤ high) ||
    (folding != .exact && (List.range (high + 1 - low)).any fun i =>
      (low + i).isValidChar && folding.same (Char.ofNat (low + i)) c)

def CharSet.has (folding : Folding) (c : Char) : CharSet → Bool
  | range low high => inRange folding low high c
  | category kind asciiOnly negated => kind.has asciiOnly (folding.lower c) != negated

def isOneOf (negated : Bool) (sets : List CharSet) (folding : Folding) (c : Char) : Bool :=
  sets.any (CharSet.has folding c) != negated

/-! ### Points -/

structure Point where
  before : List Char
  place : Nat
  rest : List Char
  groups : Ledger Nat (List Char)

namespace Point

def start (text : List Char) : Point := ⟨[], 0, text, .empty⟩

def same (p q : Point) : Bool := p.place == q.place && p.groups.pairs == q.groups.pairs

def forward (p : Point) (n : Nat) : Point :=
  ⟨(p.rest.take n).reverse ++ p.before, p.place + n, p.rest.drop n, p.groups⟩

def back (p : Point) (n : Nat) : Point :=
  ⟨p.before.drop n, p.place - n, (p.before.take n).reverse ++ p.rest, p.groups⟩

def distinct (ps : List Point) : List Point :=
  (ps.foldl (fun seen p => if seen.any p.same then seen else p :: seen) []).reverse

def isWordAt (asciiOnly : Bool) (c? : Option Char) : Bool :=
  c?.any (Category.word.has asciiOnly)

def atBoundary (p : Point) (asciiOnly : Bool) : Bool :=
  isWordAt asciiOnly p.before.head? != isWordAt asciiOnly p.rest.head?

def holds (p : Point) : Anchor → Bool
  | .textStart => p.place == 0
  | .lineStart => p.place == 0 || p.before.head? == some '\n'
  | .textEnd => p.rest.isEmpty
  | .lastLineEnd => p.rest.isEmpty || p.rest == ['\n']
  | .lineEnd => p.rest.isEmpty || p.rest.head? == some '\n'
  | .boundary asciiOnly => p.atBoundary asciiOnly
  | .inside asciiOnly => !(p.before.isEmpty && p.rest.isEmpty) && !p.atBoundary asciiOnly

def startsWith (p : Point) (folding : Folding) (cs : List Char) : Bool :=
  cs.length ≤ p.rest.length &&
    (cs.zip p.rest).all fun (a, b) => folding.lower a == folding.lower b

end Point

/-! ### Repeats -/

structure Reached where
  left : Option Nat
  point : Point

def Reached.same (a b : Reached) : Bool := a.left == b.left && a.point.same b.point

def exactly (once : Point → List Point) : Nat → List Point → List Point
  | 0, ps => ps
  | n + 1, ps => if ps.isEmpty then [] else exactly once n (Point.distinct (ps.flatMap once))

/-- Any further repeats, depth first, onto the points reached before, last first. A repeat that
takes no text is the last. -/
def further (once : Point → List Point) (preference : Preference) :
    Nat → List Reached → Reached → List Reached
  | 0, seen, r => r :: seen
  | fuel + 1, seen, r =>
    if seen.any r.same then seen
    else
      let seen := if preference = .fewest then r :: seen else seen
      let seen :=
        if r.left = some 0 then seen
        else (once r.point).foldl
          (fun seen e =>
            let left := if e.place = r.point.place then some 0 else r.left.map (· - 1)
            further once preference fuel seen ⟨left, e⟩)
          seen
      if preference = .fewest then seen else r :: seen

def repeatFrom (once : Point → List Point) (preference : Preference) (low : Nat)
    (high : Option Nat) (p : Point) : List Point :=
  let reached := (exactly once low [p]).foldl
    (fun seen q =>
      further once preference (q.rest.length + 2) seen ⟨high.map (· - low), q⟩) []
  Point.distinct (reached.reverse.map (·.point))

/-! ### Ends -/

def ends : Pattern → Point → List Point
  | nothing, p => [p]
  | oneOf negated sets folding, p =>
    match p.rest with
    | c :: _ => if isOneOf negated sets folding c then [p.forward 1] else []
    | [] => []
  | anchor a, p => if p.holds a then [p] else []
  | sequence a b, p => Point.distinct ((ends a p).flatMap (ends b))
  | either a b, p => Point.distinct (ends a p ++ ends b p)
  | repeated preference low high a, p => repeatFrom (ends a) preference low high p
  | group n a, p =>
    (ends a p).map fun e =>
      { e with groups := e.groups.put n (p.rest.take (e.place - p.place)) }
  | again n folding, p =>
    match p.groups.get? n with
    | some cs => if p.startsWith folding cs then [p.forward cs.length] else []
    | none => []
  | ahead wanted a, p =>
    match wanted, (ends a p).head? with
    | true, some e => [{ p with groups := e.groups }]
    | false, none => [p]
    | _, _ => []
  | behind wanted width a, p =>
    let found := if width ≤ p.place then (ends a (p.back width)).head? else none
    match wanted, found with
    | true, some e => [{ p with groups := e.groups }]
    | false, none => [p]
    | _, _ => []
  | committed a, p => (ends a p).take 1
  | given n yes no, p => if p.groups.contains n then ends yes p else ends no p

def accepts (a : Pattern) (text : String) : Bool :=
  (a.ends (.start text.toList)).any (·.rest.isEmpty)

/-! ### Width -/

structure Width where
  least : Nat
  greatest : Option Nat

namespace Width

def sum (v w : Width) : Width :=
  ⟨v.least + w.least, do return (← v.greatest) + (← w.greatest)⟩

def union (v w : Width) : Width :=
  ⟨min v.least w.least, do return max (← v.greatest) (← w.greatest)⟩

def times (v : Width) (low : Nat) (high : Option Nat) : Width :=
  ⟨v.least * low, if v.greatest = some 0 then some 0 else do return (← v.greatest) * (← high)⟩

def fixed? (w : Width) : Option Nat := if w.greatest = some w.least then some w.least else none

end Width

def width (groups : Ledger Nat Width) : Pattern → Width
  | nothing | anchor _ | ahead .. | behind .. => ⟨0, some 0⟩
  | oneOf .. => ⟨1, some 1⟩
  | sequence a b => (width groups a).sum (width groups b)
  | either a b | given _ a b => (width groups a).union (width groups b)
  | repeated _ low high a => (width groups a).times low high
  | group _ a | committed a => width groups a
  | again n _ => groups.getD n ⟨0, none⟩

def references : Pattern → List Nat
  | again n _ => [n]
  | given n a b => n :: references a ++ references b
  | sequence a b | either a b => references a ++ references b
  | repeated _ _ _ a | group _ a | ahead _ a | behind _ _ a | committed a => references a
  | nothing | oneOf .. | anchor _ => []

def keepGroups (used : List Nat) : Pattern → Pattern
  | group n a => if n ∈ used then group n (keepGroups used a) else keepGroups used a
  | sequence a b => sequence (keepGroups used a) (keepGroups used b)
  | either a b => either (keepGroups used a) (keepGroups used b)
  | given n a b => given n (keepGroups used a) (keepGroups used b)
  | repeated preference low high a => repeated preference low high (keepGroups used a)
  | ahead wanted a => ahead wanted (keepGroups used a)
  | behind wanted width a => behind wanted width (keepGroups used a)
  | committed a => committed (keepGroups used a)
  | a => a

end Pattern

end LayeredConfig
