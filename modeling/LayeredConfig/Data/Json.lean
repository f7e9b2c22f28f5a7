import LayeredConfig.Data
import LayeredConfig.Text.Quoted

/-! JSON text of a document. -/

namespace LayeredConfig.Data

open Number

structure JsonStyle where
  indent : Option Int
  asciiOnly : Bool

def unicodeEscape (n : Nat) : List Char := '\\' :: 'u' :: Text.hex 4 n

def units (n : Nat) : List Nat :=
  if n < 0x10000 then [n]
  else [0xd800 + (n - 0x10000) / 0x400, 0xdc00 + (n - 0x10000) % 0x400]

def jsonChar (asciiOnly : Bool) (c : Char) : List Char :=
  if c = '"' then ['\\', '"']
  else if c = '\\' then ['\\', '\\']
  else if c = '\n' then ['\\', 'n']
  else if c = '\r' then ['\\', 'r']
  else if c = '\t' then ['\\', 't']
  else if c = '\x08' then ['\\', 'b']
  else if c = '\x0c' then ['\\', 'f']
  else if c.val < 0x20 then unicodeEscape c.toNat
  else if asciiOnly && 0x7f ≤ c.val then (units c.toNat).flatMap unicodeEscape
  else [c]

def jsonString (asciiOnly : Bool) (s : String) : String :=
  String.ofList ('"' :: s.toList.flatMap (jsonChar asciiOnly) ++ ['"'])

def jsonReal : Binary64 → String
  | .nan => "NaN"
  | .infinite n => if n then "-Infinity" else "Infinity"
  | x => x.text

def lineStart (style : JsonStyle) (depth : Nat) : String :=
  match style.indent with
  | none => ""
  | some n => "\n" ++ String.ofList (List.replicate (n.toNat * depth) ' ')

def enclosed (style : JsonStyle) (depth : Nat) (opening closing : String) (members : List String) :
    String :=
  if members.isEmpty then opening ++ closing
  else
    let start := lineStart style (depth + 1)
    opening ++ start ++ ("," ++ start).intercalate members ++ lineStart style depth ++ closing

mutual

def jsonAt (style : JsonStyle) (depth : Nat) : Data → String
  | null => "null"
  | boolean b => if b then "true" else "false"
  | integer n => Integer.text n
  | real x => jsonReal x
  | collection _ xs => enclosed style depth "[" "]" (jsonItems style (depth + 1) xs)
  | mapping ps => enclosed style depth "\x7b" "\x7d" (jsonMembers style (depth + 1) ps)
  | x => jsonString style.asciiOnly x.display

def jsonItems (style : JsonStyle) (depth : Nat) : List Data → List String
  | [] => []
  | x :: xs => jsonAt style depth x :: jsonItems style depth xs

def jsonMembers (style : JsonStyle) (depth : Nat) : List (Data × Data) → List String
  | [] => []
  | (k, v) :: ps =>
    (jsonString style.asciiOnly k.display ++ ":" ++ jsonAt style depth v) ::
      jsonMembers style depth ps

end

def toJson (style : JsonStyle) (x : Data) : String := jsonAt style 0 x

end LayeredConfig.Data
