import MetaLint.Text.Basic

/-!
# Places in a pattern

A place counts lines and columns from 1, columns in characters. A cursor is a place with the text
that follows it. In verbose mode blanks and comments between the parts of a pattern are passed over.
-/

set_option autoImplicit false

namespace MetaLint.Pattern

structure Place where
  offset : Nat := 0
  line : Nat := 1
  column : Nat := 1
  deriving Repr, DecidableEq, Inhabited

structure Span where
  start : Place
  stop : Place
  deriving Repr, DecidableEq, Inhabited

def Span.at (p : Place) : Span := ⟨p, p⟩

def Place.after (p : Place) (c : Char) : Place :=
  if c = '\n' then ⟨p.offset + 1, p.line + 1, 1⟩ else ⟨p.offset + 1, p.line, p.column + 1⟩

def Span.before (a b : Span) : Bool :=
  if a.start.offset = b.start.offset then a.stop.offset ≤ b.stop.offset
  else a.start.offset < b.start.offset

structure Cursor where
  place : Place := {}
  rest : List Char
  verbose : Bool := false
  deriving Repr, Inhabited

namespace Cursor

def peek? (c : Cursor) : Option Char := c.rest.head?

def atEnd (c : Cursor) : Bool := c.rest.isEmpty

def bump (c : Cursor) : Cursor :=
  match c.rest with
  | [] => c
  | a :: rest => { c with place := c.place.after a, rest }

def bumpBy : Nat → Cursor → Cursor
  | 0, c => c
  | n + 1, c => bumpBy n c.bump

def skipFrom (inComment : Bool) (place : Place) : List Char → Place × List Char
  | [] => (place, [])
  | a :: rest =>
    if inComment then skipFrom (a != '\n') (place.after a) rest
    else if Text.isBlank a then skipFrom false (place.after a) rest
    else if a = '#' then skipFrom true (place.after a) rest
    else (place, a :: rest)

def skip (c : Cursor) : Cursor :=
  if c.verbose then
    let (place, rest) := skipFrom false c.place c.rest
    { c with place, rest }
  else c

def next (c : Cursor) : Cursor := c.bump.skip

def charSpan (c : Cursor) : Span := ⟨c.place, c.bump.place⟩

def here (c : Cursor) : Span := .at c.place

def startsWith (c : Cursor) (text : List Char) : Bool := text.isPrefixOf c.rest

def bumpIf? (c : Cursor) (text : List Char) : Option Cursor :=
  if c.startsWith text then some (bumpBy text.length c) else none

def peekFrom (signs : Nat) : List Char → Option Char
  | [] => none
  | a :: rest =>
    if Text.isBlank a then peekFrom signs rest
    else
      match signs with
      | 0 => some a
      | signs + 1 => if a = '#' then peekFrom signs rest else some a

def peekAfter? (c : Cursor) : Option Char :=
  let after := c.rest.drop 1
  if c.verbose then peekFrom 1 after <|> after.head? else after.head?

end Cursor

end MetaLint.Pattern
