import MetaLint.Json.Reader
import MetaLint.Json.Shape

/-!
# Reading JSON values

A value may be nested 127 levels deep. A later member of an object replaces an earlier one of the
same key. An object whose first key is the key of embedding holds a text, and stands for the value
that the text writes.
-/

set_option autoImplicit false

namespace MetaLint.Json

open Cursor
open Text (isDigit)

def shapeFlaw {α : Type} (c : Cursor) (e : ShapeError) : Except ParseError α :=
  c.flawHere (.shape e.message)

/-- Reads what stands in place of `expected`, up to where it is clear what it is. -/
def readWrong {α : Type} (expected : String) (c : Cursor) : Except ParseError α :=
  let wrong (v : Value) (c : Cursor) : Except ParseError α :=
    shapeFlaw c (.invalidType v.found expected)
  match c.rest with
  | [] => c.flawNext .valueEnds
  | a :: _ =>
    if a = 'n' then do wrong .null (← c.advance.word ['u', 'l', 'l'])
    else if a = 't' then do wrong (.bool true) (← c.advance.word ['r', 'u', 'e'])
    else if a = 'f' then do wrong (.bool false) (← c.advance.word ['a', 'l', 's', 'e'])
    else if a = '-' then do
      let (n, c) ← readNumber c.advance false
      wrong (.number n) c
    else if isDigit a then do
      let (n, c) ← readNumber c true
      wrong (.number n) c
    else if a = '"' then do
      let (s, c) ← readText c.advance
      wrong (.text s) c
    else if a = '[' then wrong (.list []) c
    else if a = '\x7b' then wrong (.object []) c
    else c.flawNext .expectedValue

def readString (expected : String) (c : Cursor) : Except ParseError (String × Cursor) :=
  let c := c.skip
  if nextIs c (· == '"') then readText c.advance else readWrong expected c

open Text (isDigit)

open Cursor

def depthBound : Nat := 128

def embeddingKey : String := "$serde_json::private::RawValue"

def readObjectEnd (c : Cursor) : Except ParseError Cursor :=
  let c := c.skip
  match c.rest with
  | [] => c.flawNext .objectEnds
  | a :: _ =>
    if a = '\x7d' then .ok c.advance
    else if a = ',' then c.flawNext .trailingComma
    else c.flawNext .trailingCharacters

mutual

def readValue : Nat → Nat → Cursor → Except ParseError (Value × Cursor)
  | 0, _, c => c.flawHere .valueEnds
  | fuel + 1, depth, c =>
    let c := c.skip
    match c.rest with
    | [] => c.flawNext .valueEnds
    | a :: _ =>
      if a = 'n' then return (.null, ← c.advance.word ['u', 'l', 'l'])
      else if a = 't' then return (.bool true, ← c.advance.word ['r', 'u', 'e'])
      else if a = 'f' then return (.bool false, ← c.advance.word ['a', 'l', 's', 'e'])
      else if a = '-' then do
        let (n, c) ← readNumber c.advance false
        return (.number n, c)
      else if isDigit a then do
        let (n, c) ← readNumber c true
        return (.number n, c)
      else if a = '"' then do
        let (s, c) ← readText c.advance
        return (.text s, c)
      else if a = '[' then
        if depth ≤ 1 then c.flawNext .tooDeep
        else readItems fuel (depth - 1) true [] c.advance
      else if a = '\x7b' then
        if depth ≤ 1 then c.flawNext .tooDeep
        else readMembers fuel (depth - 1) true [] c.advance
      else c.flawNext .expectedValue

def readItems : Nat → Nat → Bool → List Value → Cursor → Read Value
  | 0, _, _, _, c => c.flawHere .listEnds
  | fuel + 1, depth, first, done, c =>
    match nextItem? first c with
    | .error e => .error e
    | .ok none => .ok (.list done.reverse, c.skip.advance)
    | .ok (some c) =>
      match readValue fuel depth c with
      | .error e => .error e
      | .ok (v, c) => readItems fuel depth false (v :: done) c

def readMembers : Nat → Nat → Bool → Members → Cursor → Read Value
  | 0, _, _, _, c => c.flawHere .objectEnds
  | fuel + 1, depth, first, done, c =>
    match nextKey? first c with
    | .error e => .error e
    | .ok none => .ok (Value.ofMembers done.reverse, c.skip.advance)
    | .ok (some c) =>
      match readText c with
      | .error e => .error e
      | .ok (key, c) =>
        match readColon c with
        | .error e => .error e
        | .ok c =>
          if first && key == embeddingKey then readEmbedded fuel c
          else
            match readValue fuel depth c with
            | .error e => .error e
            | .ok (v, c) => readMembers fuel depth false ((key, v) :: done) c

/-- The value that an embedded text writes, and the end of the object that holds it. What is wrong
with the embedded value is told with its place in the text. -/
def readEmbedded : Nat → Cursor → Read Value
  | 0, c => c.flawHere .objectEnds
  | fuel + 1, c =>
    match readString "raw value" c with
    | .error e => .error e
    | .ok (text, c) =>
      match readValue fuel depthBound { rest := text.toList } with
      | .error e => .error { e with flaw := .shape e.flaw.message }
      | .ok (v, inner) =>
        match readEnd inner with
        | .error e => .error { e with flaw := .shape e.flaw.message }
        | .ok () => (readObjectEnd c).map fun c => (v, c)

end

/-- More steps than reading `c` can take: every two of them pass a character. -/
def stepsFor (c : Cursor) : Nat := 2 * c.rest.length + 2

def parse (text : List Char) : Except ParseError Value := do
  let c : Cursor := { rest := text }
  let (v, c) ← readValue (stepsFor c) depthBound c
  readEnd c
  return v

def parseNumber? (text : List Char) : Option Number :=
  let c : Cursor := { rest := text }
  let result := if nextIs c (· == '-') then readNumber c.advance false else readNumber c true
  match result with
  | .ok (n, c) => if c.rest.isEmpty then some n else none
  | .error _ => none

/-- The value that an embedded text writes, in an object of `count` members. More than one are too
many, which `surplus` says. -/
def embeddedValue (surplus : Nat → ShapeError) (count : Nat) : Value → Shaped Value
  | .text s =>
    match parse s.toList with
    | .error e => .error (.embedded e)
    | .ok v => if count = 1 then .ok v else .error (surplus count)
  | v => wrongType v "raw value"

mutual

def Value.takenOver (surplus : Nat → ShapeError) : Value → Shaped Value
  | .list items => (itemsTakenOver surplus items).map .list
  | .object [] => .ok .emptyObject
  | .object ((key, v) :: rest) =>
    if key = embeddingKey then embeddedValue surplus (rest.length + 1) v
    else (membersTakenOver surplus ((key, v) :: rest)).map .object
  | v => .ok v

def itemsTakenOver (surplus : Nat → ShapeError) : List Value → Shaped (List Value)
  | [] => .ok []
  | v :: rest =>
    match v.takenOver surplus with
    | .ok v => (itemsTakenOver surplus rest).map (v :: ·)
    | .error e => .error e

def membersTakenOver (surplus : Nat → ShapeError) : List (String × Value) → Shaped Members
  | [] => .ok []
  | (key, v) :: rest =>
    match v.takenOver surplus with
    | .ok v => (membersTakenOver surplus rest).map ((key, v) :: ·)
    | .error e => .error e

end

end MetaLint.Json
