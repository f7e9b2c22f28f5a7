import LayeredConfig.Data
import LayeredConfig.Ledger
import LayeredConfig.Text.Cut

/-! A document as a flat mapping from dotted keys to text. Sequences are joined with commas, and a
comma inside an item is escaped so that splitting finds the item again. -/

namespace LayeredConfig.Data

def itemSeparator : Char := ','

def escapeItem (s : String) : String :=
  String.ofList (Text.substitute itemSeparator ['\\', itemSeparator] s.toList)

def joinItems (items : List String) : String :=
  Text.join (String.singleton itemSeparator) (items.map escapeItem)

def inOrder (ps : List (String × String)) : List String :=
  (ps.mergeSort fun p q => p.1 ≤ q.1).map Prod.snd

mutual

/-- The text of a leaf; nothing for `null`. The members of a set stand in the order of their
display. -/
def render : Data → Option String
  | null => none
  | boolean b => some (if b then "true" else "false")
  | collection kind xs =>
    match kind with
    | .list | .tuple => some (joinItems (renderItems xs))
    | .set | .frozenset => some (joinItems (inOrder (renderMembers xs)))
  | x => some x.display

def renderItems : List Data → List String
  | [] => []
  | x :: xs => x.render.getD "" :: renderItems xs

def renderMembers : List Data → List (String × String)
  | [] => []
  | x :: xs => (x.display, x.render.getD "") :: renderMembers xs

end

def dotted (lead : String) (key : Data) : String :=
  if lead.isEmpty then key.display else lead ++ "." ++ key.display

def flattenOnto (flat : Ledger String String) (lead : String) :
    List (Data × Data) → Ledger String String
  | [] => flat
  | (k, .mapping ps) :: rest =>
    flattenOnto (flat.union (flattenOnto .empty (dotted lead k) ps)) lead rest
  | (k, v) :: rest =>
    match v.render with
    | some s => flattenOnto (flat.put (dotted lead k) s) lead rest
    | none => flattenOnto flat lead rest

/-- Nested keys are joined with dots; the keys of an empty `lead` stand by themselves. -/
def flatten (lead : String) (ps : List (Data × Data)) : Ledger String String :=
  flattenOnto .empty lead ps

def leaves (path : List Data) : List (Data × Data) → List (List Data × Data)
  | [] => []
  | (k, .mapping ps) :: rest => leaves (path ++ [k]) ps ++ leaves path rest
  | (k, v) :: rest => (path ++ [k], v) :: leaves path rest

end LayeredConfig.Data
