import MetaLint.Json.Printer

/-!
# TOML documents

A document has entries of its own and then sections, each a table under its path. Texts and keys are
written in the plainest of their styles that can hold them.
-/

set_option autoImplicit false

namespace MetaLint.Toml

inductive Style
  | basic
  | literal
  | longBasic
  | longLiteral
  deriving Repr, DecidableEq

def isControl (c : Char) : Bool :=
  (c.toNat < 32 && c != '\t' && c != '\n') || c.toNat == 127

def longestRunFrom (q : Char) (current best : Nat) : List Char → Nat
  | [] => best
  | c :: rest =>
    if c = q then longestRunFrom q (current + 1) (max best (current + 1)) rest
    else longestRunFrom q 0 best rest

def longestRun (q : Char) (s : List Char) : Nat := longestRunFrom q 0 0 s

def singleQuote : Char := Char.ofNat 39

/-- Without escapes if possible, on one line if possible, in double quotes if possible. -/
def textStyle (s : List Char) : Style :=
  let lineEnd := s.contains '\n'
  let control := s.any isControl
  let double := longestRun '"' s
  let single := longestRun singleQuote s
  let escapes := control || s.contains '\\'
  if !escapes && double = 0 && !lineEnd then .basic
  else if !control && single = 0 && !lineEnd then .literal
  else if !escapes && double ≤ 2 then .longBasic
  else if !control && single ≤ 2 then .longLiteral
  else if lineEnd then .longBasic
  else .basic

def Style.delimiter : Style → List Char
  | .basic => ['"']
  | .literal => [singleQuote]
  | .longBasic => List.replicate 3 '"'
  | .longLiteral => List.replicate 3 singleQuote

def Style.isLong : Style → Bool
  | .longBasic | .longLiteral => true
  | .basic | .literal => false

def hexFour (n : Nat) : List Char :=
  let ds := (Nat.toDigits 16 n).map Char.toUpper
  List.replicate (4 - ds.length) '0' ++ ds

def escape? (c : Char) : Option (List Char) :=
  if c = '\\' then some ['\\', '\\']
  else if c = '\t' then some ['\\', 't']
  else if c = '\r' then some ['\\', 'r']
  else if c.toNat = 8 then some ['\\', 'b']
  else if c.toNat = 12 then some ['\\', 'f']
  else if isControl c then some ('\\' :: 'u' :: hexFour c.toNat)
  else none

/-- The text between double quotes. At most `allowed` quotes may follow each other without an
escape; `quotes` is how many do here. -/
def escaped (long : Bool) (allowed : Nat) (quotes : Nat) : List Char → List Char
  | [] => []
  | c :: rest =>
    if c = '"' then
      if quotes < allowed then c :: escaped long allowed (quotes + 1) rest
      else '\\' :: '"' :: escaped long allowed 0 rest
    else if c = '\n' then
      (if long then ['\n'] else ['\\', 'n']) ++ escaped long allowed 0 rest
    else (escape? c).getD [c] ++ escaped long allowed 0 rest

def body (style : Style) (s : List Char) : List Char :=
  match style with
  | .basic => escaped false 0 0 s
  | .longBasic => escaped true 2 0 s
  | .literal | .longLiteral => s

def styled (style : Style) (s : List Char) : List Char :=
  let start := if style.isLong && s.contains '\n' then ['\n'] else []
  style.delimiter ++ start ++ body style s ++ style.delimiter

def textText (s : List Char) : List Char := styled (textStyle s) s

def isBareChar (c : Char) : Bool := c.isAlphanum || c == '-' || c == '_'

def keyText (s : List Char) : List Char :=
  let control := s.any isControl || s.contains '\n'
  if !s.isEmpty && s.all isBareChar then s
  else if !control && !s.contains '\\' && !s.contains '"' then styled .basic s
  else if !control && !s.contains singleQuote then styled .literal s
  else styled .basic s

inductive Scalar
  | text (s : String)
  | number (n : Nat)
  deriving Repr, DecidableEq

def Scalar.write : Scalar → List Char
  | .text s => textText s.toList
  | .number n => Nat.toDigits 10 n

abbrev Entries := List (String × Scalar)

/-- A table under its path; a table that is an item of an array follows the items before it. -/
structure Section where
  path : List String
  isItem : Bool
  entries : Entries
  deriving Repr, DecidableEq

structure Document where
  entries : Entries
  sections : List Section
  deriving Repr, DecidableEq

def entryText (e : String × Scalar) : List Char :=
  keyText e.1.toList ++ [' ', '=', ' '] ++ e.2.write ++ ['\n']

def entriesText (es : Entries) : List Char := es.flatMap entryText

def pathText (path : List String) : List Char :=
  List.intercalate ['.'] (path.map fun key => keyText key.toList)

def Section.header (s : Section) : List Char :=
  (if s.isItem then ['[', '['] ++ pathText s.path ++ [']', ']']
    else '[' :: pathText s.path ++ [']']) ++ ['\n']

def Section.text (s : Section) : List Char := s.header ++ entriesText s.entries

def blocksText (blocks : List (List Char)) : List Char := List.intercalate ['\n'] blocks

def Document.text (d : Document) : List Char :=
  let own := if d.entries.isEmpty then [] else [entriesText d.entries]
  blocksText (own ++ d.sections.map Section.text)

end MetaLint.Toml
