import MetaLint.Json.Reader

/-!
# Passing over JSON values

A value nobody asked for is passed over: its form is checked, its numbers may be of any size, and
its brackets may be nested to any depth.
-/

set_option autoImplicit false

namespace MetaLint.Json

open Text (isDigit)

open Cursor

def passExponent (c : Cursor) : Except ParseError Cursor :=
  let c := c.advance
  let c := if nextIs c (fun a => a == '+' || a == '-') then c.advance else c
  if nextIs c isDigit then .ok (skipDigits c.line c.column 0 c.rest).2
  else c.flawNext .invalidNumber

def passTail (c : Cursor) : Except ParseError Cursor :=
  if nextIs c (· == '.') then
    let d := c.advance
    let (count, d) := skipDigits d.line d.column 0 d.rest
    if count = 0 then d.flawNext .invalidNumber
    else if nextIs d isExponentMark then passExponent d
    else .ok d
  else if nextIs c isExponentMark then passExponent c
  else .ok c

def passNumber (c : Cursor) : Except ParseError Cursor :=
  match c.rest with
  | [] => c.flawHere .invalidNumber
  | a :: _ =>
    if a = '0' then
      if nextIs c.advance isDigit then c.advance.flawNext .invalidNumber else passTail c.advance
    else if isDigit a then passTail (skipDigits c.line c.column 0 c.rest).2
    else c.flawNext .invalidNumber

def passTextFrom : Nat → Cursor → Except ParseError Cursor
  | 0, c => c.flawHere .textEnds
  | fuel + 1, c =>
    match c.rest with
    | [] => c.flawHere .textEnds
    | a :: _ =>
      if a = '"' then .ok c.advance
      else if a = '\\' then
        let c := c.advance
        match c.rest with
        | [] => c.flawHere .textEnds
        | e :: _ =>
          if e = 'u' then
            match readHex c.advance with
            | .ok (_, c) => passTextFrom fuel c
            | .error e => .error e
          else if (plainEscape? e).isSome then passTextFrom fuel c.advance
          else c.flawNext .invalidEscape
      else if a.toNat < 32 then c.flawHere .controlCharacter
      else passTextFrom fuel c.advance

def passText (c : Cursor) : Except ParseError Cursor := passTextFrom (c.rest.length + 1) c

/-- Where to go on after an element: `some true` past a comma, `some false` at the first element,
`none` past the closing bracket. -/
def passComma (first : Bool) (closing : Char) (ends expected : Flaw) (c : Cursor) :
    Except ParseError (Bool × Cursor) :=
  let c := c.skip
  match c.rest with
  | [] => c.flawNext ends
  | a :: _ =>
    if a = closing then .ok (false, c.advance)
    else if first then .ok (true, c)
    else if a = ',' then .ok (true, c.advance)
    else c.flawNext expected

mutual

def passValue : Nat → Cursor → Except ParseError Cursor
  | 0, c => c.flawHere .valueEnds
  | fuel + 1, c =>
    let c := c.skip
    match c.rest with
    | [] => c.flawNext .valueEnds
    | a :: _ =>
      if a = 'n' then c.advance.word ['u', 'l', 'l']
      else if a = 't' then c.advance.word ['r', 'u', 'e']
      else if a = 'f' then c.advance.word ['a', 'l', 's', 'e']
      else if a = '-' then passNumber c.advance
      else if isDigit a then passNumber c
      else if a = '"' then passText c.advance
      else if a = '[' then passItems fuel true c.advance
      else if a = '\x7b' then passMembers fuel true c.advance
      else c.flawNext .expectedValue

def passItems : Nat → Bool → Cursor → Except ParseError Cursor
  | 0, _, c => c.flawHere .listEnds
  | fuel + 1, first, c =>
    match passComma first ']' .listEnds .expectedListCommaOrEnd c with
    | .error e => .error e
    | .ok (false, c) => .ok c
    | .ok (true, c) =>
      match passValue fuel c with
      | .error e => .error e
      | .ok c => passItems fuel false c

def passMembers : Nat → Bool → Cursor → Except ParseError Cursor
  | 0, _, c => c.flawHere .objectEnds
  | fuel + 1, first, c =>
    match passComma first '\x7d' .objectEnds .expectedObjectCommaOrEnd c with
    | .error e => .error e
    | .ok (false, c) => .ok c
    | .ok (true, c) =>
      let c := c.skip
      match c.rest with
      | [] => c.flawNext .objectEnds
      | a :: _ =>
        if a != '"' then c.flawNext .keyMustBeText
        else
          match passText c.advance with
          | .error e => .error e
          | .ok c =>
            match readColon c with
            | .error e => .error e
            | .ok c =>
              match passValue fuel c with
              | .error e => .error e
              | .ok c => passMembers fuel false c

end

end MetaLint.Json
