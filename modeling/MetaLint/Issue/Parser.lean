import MetaLint.Issue.Record
import MetaLint.Json.Parser
import MetaLint.Json.Passing

/-!
# Reading an issue from JSON text

The fields are read in the order of the text, so that the first thing that is wrong is reported
where it stands. A field may be given once.
-/

set_option autoImplicit false

namespace MetaLint.Issue

open Json Json.Cursor
open Text (isDigit)

def readUInt32 (c : Cursor) : Except ParseError (UInt32 × Cursor) :=
  let c := c.skip
  let number (r : Except ParseError (Number × Cursor)) : Except ParseError (UInt32 × Cursor) := do
    let (n, c) ← r
    match asUInt32 (.number n) with
    | .ok v => .ok (v, c)
    | .error e => shapeFlaw c e
  if nextIs c (· == '-') then number (readNumber c.advance false)
  else if nextIs c isDigit then number (readNumber c true)
  else readWrong "u32" c

def readOptional {α : Type} (read : Cursor → Except ParseError (α × Cursor)) (c : Cursor) :
    Except ParseError (Option α × Cursor) := do
  let c := c.skip
  if nextIs c (· == 'n') then return (none, ← c.advance.word ['u', 'l', 'l'])
  else
    let (a, c) ← read c
    return (some a, c)

def readSeverity (c : Cursor) : Except ParseError (Severity × Cursor) :=
  let named (c : Cursor) : Except ParseError (Severity × Cursor) := do
    let (name, c) ← readString "variant identifier" c
    match Severity.ofText name with
    | .ok s => .ok (s, c)
    | .error e => shapeFlaw c e
  let c := c.skip
  match c.rest with
  | [] => c.flawNext .valueEnds
  | a :: _ =>
    if a = '"' then named c
    else if a = '\x7b' then do
      let (s, c) ← named c.advance
      let c := (← readColon c).skip
      let c ← if nextIs c (· == 'n') then c.advance.word ['u', 'l', 'l'] else readWrong "unit" c
      let c := c.skip
      match c.rest with
      | [] => c.flawHere .objectEnds
      | b :: _ => if b = '\x7d' then .ok (s, c.advance) else c.flawHere .expectedValue
    else c.flawNext .expectedValue

namespace Fields

/-- Reads the value of a field; `given` tells whether the field was read before. -/
def readOne {α : Type} (name : String) (given : Bool) (c : Cursor)
    (read : Cursor → Except ParseError (α × Cursor)) (set : α → Fields) :
    Except ParseError (Fields × Cursor) := do
  if given then
    let d := c.skip
    shapeFlaw (if nextIs d (· == '\x7d') then d.advance else d) (.duplicateField name)
  else
    let (a, c) ← read (← readColon c)
    return (set a, c)

def readField (f : Fields) (name : String) (c : Cursor) : Except ParseError (Fields × Cursor) :=
  match name with
  | "tool" =>
    readOne name f.tool.isSome c (readString "a string") fun a => { f with tool := some a }
  | "code" =>
    readOne name f.code.isSome c (readOptional (readString "a string")) fun a =>
      { f with code := some a }
  | "message" =>
    readOne name f.message.isSome c (readString "a string") fun a => { f with message := some a }
  | "filename" =>
    readOne name f.filename.isSome c (readString "path string") fun a =>
      { f with filename := some a }
  | "line" => readOne name f.line.isSome c readUInt32 fun a => { f with line := some a }
  | "character" =>
    readOne name f.character.isSome c (readOptional readUInt32) fun a =>
      { f with character := some a }
  | "severity" =>
    readOne name f.severity.isSome c readSeverity fun a => { f with severity := some a }
  | _ => do
    let c ← readColon c
    return (f, ← passValue (2 * c.rest.length + 2) c)

def readMembers : Nat → Bool → Fields → Cursor → Except ParseError (Fields × Cursor)
  | 0, _, _, c => c.flawHere .objectEnds
  | fuel + 1, first, f, c =>
    match nextKey? first c with
    | .error e => .error e
    | .ok none => .ok (f, c.skip.advance)
    | .ok (some c) =>
      match readText c with
      | .error e => .error e
      | .ok (name, c) =>
        match readField f name c with
        | .error e => .error e
        | .ok (f, c) => readMembers fuel false f c

def readItem {α : Type} (index : Nat) (c : Cursor)
    (read : Cursor → Except ParseError (α × Cursor)) (set : α → Fields) :
    Except ParseError (Option Fields × Cursor) := do
  match ← nextItem? (index == 0) c with
  | none => return (none, c)
  | some c =>
    let (a, c) ← read c
    return (some (set a), c)

def readIndexed (f : Fields) (index : Nat) (c : Cursor) :
    Except ParseError (Option Fields × Cursor) :=
  match index with
  | 0 => readItem index c (readString "a string") fun a => { f with tool := some a }
  | 1 => readItem index c (readOptional (readString "a string")) fun a => { f with code := some a }
  | 2 => readItem index c (readString "a string") fun a => { f with message := some a }
  | 3 => readItem index c (readString "path string") fun a => { f with filename := some a }
  | 4 => readItem index c readUInt32 fun a => { f with line := some a }
  | 5 => readItem index c (readOptional readUInt32) fun a => { f with character := some a }
  | _ => readItem index c readSeverity fun a => { f with severity := some a }

def readItems : Nat → Nat → Fields → Cursor → Except ParseError (Fields × Cursor)
  | 0, _, f, c => return (f, ← readListEnd c)
  | left + 1, index, f, c =>
    match readIndexed f index c with
    | .error e => .error e
    | .ok (some f, c) => readItems left (index + 1) f c
    | .ok (none, c) =>
      if index < 6 then do
        let c ← readListEnd c
        shapeFlaw c (tooShort index)
      else return (f, ← readListEnd c)

end Fields

def parse (text : List Char) : Except ParseError Issue := do
  let start : Cursor := { rest := text }
  let c := start.skip
  let (f, c) ←
    match c.rest with
    | [] => c.flawNext .valueEnds
    | a :: _ =>
      if a = '\x7b' then Fields.readMembers (c.rest.length + 1) true {} c.advance
      else if a = '[' then Fields.readItems 7 0 {} c.advance
      else readWrong "struct Issue" c
  match f.finish with
  | .ok i =>
    readEnd c
    return i
  | .error e => shapeFlaw c e

end MetaLint.Issue
