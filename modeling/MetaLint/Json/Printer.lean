import MetaLint.Json.Value

/-!
# Writing JSON

Two layouts: everything on one line, or one element per line with two spaces per level. Control
characters, the quote and the backslash are escaped; everything else is written as it is.
-/

set_option autoImplicit false

namespace MetaLint.Json

def digitsText (n : Nat) : String := String.ofList (Nat.toDigits 10 n)

/-- How a fraction is written: positional notation for first digits at 10^-5 to 10^15, always with
a digit after the point; otherwise an exponent that carries its sign. -/
def fractionText (bits : UInt64) : String :=
  let sign := if bits.toNat / Nat.pow 2 63 = 1 then "-" else ""
  match Decimal.Binary.ofBits? bits with
  | none => "null"
  | some b =>
    if b.m = 0 then sign ++ "0.0"
    else
      let d := (Decimal.shortest b).normal 20
      let ds := Nat.toDigits 10 d.digits
      let lead : Int := d.exponent + ds.length - 1
      if -5 ≤ lead && lead ≤ 15 then
        if 0 ≤ d.exponent then
          sign ++ String.ofList (ds ++ List.replicate d.exponent.toNat '0') ++ ".0"
        else if 0 ≤ lead then
          let whole := lead.toNat + 1
          sign ++ String.ofList (ds.take whole) ++ "." ++ String.ofList (ds.drop whole)
        else
          sign ++ "0." ++ String.ofList (List.replicate (-lead - 1).toNat '0' ++ ds)
      else
        let tail := if ds.length = 1 then "" else "." ++ String.ofList ds.tail
        let e :=
          if lead < 0 then "e-" ++ digitsText (-lead).toNat else "e+" ++ digitsText lead.toNat
        sign ++ String.ofList (ds.take 1) ++ tail ++ e

def intText (i : Int) : String :=
  if i < 0 then "-" ++ digitsText (-i).toNat else digitsText i.toNat

def numberText : Number → String
  | .int i => intText i
  | .fraction bits => fractionText bits

def hexDigit (n : Nat) : Char := (Nat.toDigits 16 (n % 16)).headD '0'

def escapeChar (c : Char) : List Char :=
  if c = '"' then ['\\', '"']
  else if c = '\\' then ['\\', '\\']
  else if c = '\n' then ['\\', 'n']
  else if c = '\r' then ['\\', 'r']
  else if c = '\t' then ['\\', 't']
  else if c.toNat = 8 then ['\\', 'b']
  else if c.toNat = 12 then ['\\', 'f']
  else if c.toNat < 32 then ['\\', 'u', '0', '0', hexDigit (c.toNat / 16), hexDigit c.toNat]
  else [c]

def quoted (s : String) : String := "\"" ++ String.ofList (s.toList.flatMap escapeChar) ++ "\""

mutual

def compact : Value → String
  | .null => "null"
  | .bool b => if b then "true" else "false"
  | .number n => numberText n
  | .text s => quoted s
  | .list items => "[" ++ ",".intercalate (compactItems items) ++ "]"
  | .object members => "\x7b" ++ ",".intercalate (compactMembers members) ++ "\x7d"

def compactItems : List Value → List String
  | [] => []
  | v :: rest => compact v :: compactItems rest

def compactMembers : List (String × Value) → List String
  | [] => []
  | (k, v) :: rest => (quoted k ++ ":" ++ compact v) :: compactMembers rest

end

/-- A document as it is laid out on lines. Unlike a value it keeps its members in the order
given. -/
inductive Doc
  | leaf (text : String)
  | list (items : List Doc)
  | object (members : List (String × Doc))
  deriving Repr, Inhabited

mutual

def Doc.ofValue : Value → Doc
  | .null => .leaf "null"
  | .bool b => .leaf (if b then "true" else "false")
  | .number n => .leaf (numberText n)
  | .text s => .leaf (quoted s)
  | .list items => .list (Doc.ofItems items)
  | .object members => .object (Doc.ofMembers members)

def Doc.ofItems : List Value → List Doc
  | [] => []
  | v :: rest => Doc.ofValue v :: Doc.ofItems rest

def Doc.ofMembers : List (String × Value) → List (String × Doc)
  | [] => []
  | (k, v) :: rest => (k, Doc.ofValue v) :: Doc.ofMembers rest

end

namespace Doc

def text (s : String) : Doc := .leaf (quoted s)

def nat (n : Nat) : Doc := .leaf (digitsText n)

def null : Doc := .leaf "null"

def texts (ss : List String) : Doc := .list (ss.map text)

def indent (level : Nat) : String := String.ofList (List.replicate (2 * level) ' ')

def bracketed (opening closing : String) (level : Nat) (lines : List String) : String :=
  if lines.isEmpty then opening ++ closing
  else
    opening ++ "\n" ++ ",\n".intercalate (lines.map (indent (level + 1) ++ ·)) ++ "\n" ++
      indent level ++ closing

mutual

def prettyAt (level : Nat) : Doc → String
  | .leaf text => text
  | .list items => bracketed "[" "]" level (prettyItems (level + 1) items)
  | .object members => bracketed "\x7b" "\x7d" level (prettyMembers (level + 1) members)

def prettyItems (level : Nat) : List Doc → List String
  | [] => []
  | d :: rest => prettyAt level d :: prettyItems level rest

def prettyMembers (level : Nat) : List (String × Doc) → List String
  | [] => []
  | (k, d) :: rest => (quoted k ++ ": " ++ prettyAt level d) :: prettyMembers level rest

end

def pretty (d : Doc) : String := d.prettyAt 0

end Doc

def pretty (v : Value) : String := (Doc.ofValue v).pretty

end MetaLint.Json
