import LayeredConfig.Text.Blank
import LayeredConfig.Text.Cut

/-! The items of a delimited value. A backslash before a separator keeps the separator inside the
item; brackets around an entry keep the blanks inside them. -/

namespace LayeredConfig.Tokens

open Text

def escape : Char := '\\'

def defaultItemSeparator : String := ","

def defaultEntrySeparator : String := "="

def attach (lead : List Char) : List (List Char) → List (List Char)
  | [] => [lead]
  | x :: xs => (lead ++ x) :: xs

/-- `before` is the character in front of the remaining text. The last item stands only if it is
not empty. -/
def splitFrom (sep : List Char) (hs : sep ≠ []) (before : Option Char) (cs : List Char) :
    List (List Char) :=
  match _h : cut? sep cs with
  | none => if cs.isEmpty then [] else [cs]
  | some (a, b) =>
    if (a.getLast?.or before) = some escape then
      attach (a.dropLast ++ sep) (splitFrom sep hs sep.getLast? b)
    else a :: splitFrom sep hs sep.getLast? b
termination_by cs.length
decreasing_by all_goals exact length_lt_of_cut? hs _h

def split? (value sep : String) : Option (List String) :=
  if h : sep.toList ≠ [] then some ((splitFrom sep.toList h none value.toList).map String.ofList)
  else none

def dropOpening : List Char → List Char
  | '[' :: cs => cs
  | cs => cs

def closeValue (cs : List Char) : List Char :=
  if (trim cs).getLast? = some ']' then (trimEnd cs).dropLast else trim cs

def entryParts (sep entry : List Char) : List Char × List Char :=
  let (key, value) := (cut? sep entry).getD (entry, entry)
  (dropOpening (trim key), closeValue value)

def splitEntry? (entry sep : String) : Option (String × String) :=
  if sep.isEmpty then none
  else
    let (key, value) := entryParts sep.toList entry.toList
    some (String.ofList key, String.ofList value)

end LayeredConfig.Tokens
