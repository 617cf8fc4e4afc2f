import MetaLint.Jsonc.Token

/-!
# Reading commented JSON

Commas between elements may be missing, and one may follow the last element. The keys of an object
are texts, words or numbers; a later member replaces an earlier one of the same key.
-/

set_option autoImplicit false

namespace MetaLint.Jsonc

open Json (Value Members)

def hexNumber? (spelling : List Char) : Option Json.Number :=
  let negative := spelling.head? == some '-'
  let body := if spelling.head?.elim false isSign then spelling.drop 1 else spelling
  match body with
  | '0' :: x :: digits =>
    if x = 'x' || x = 'X' then
      let n := Text.numberOf 16 digits
      if n < Nat.pow 2 63 then some (.int (if negative then -(n : Int) else n)) else none
    else none
  | _ => none

def isHexSpelling (spelling : List Char) : Bool := spelling.any fun a => a == 'x' || a == 'X'

/-- The value of a number; one that has none stands for its spelling. -/
def numberValue (spelling : String) : Value :=
  let cs := spelling.toList
  let number :=
    if isHexSpelling cs then hexNumber? cs
    else Json.parseNumber? (if cs.head? == some '+' then cs.drop 1 else cs)
  match number with
  | some n => .number n
  | none => .text spelling

def scanComma (c : Cursor) : Except ParseError Scanned := do
  let s ← scan c
  if s.token = some .comma then scan s.after else return s

mutual

def readValue : Nat → Token → Cursor → Cursor → Except ParseError (Value × Cursor)
  | 0, _, start, _ => start.refuse .token
  | fuel + 1, token, start, c =>
    match token with
    | .openBrace =>
      match scan c with
      | .ok s => readMembers fuel start [] s
      | .error e => .error e
    | .openBracket =>
      match scan c with
      | .ok s => readItems fuel start [] s
      | .error e => .error e
    | .text s => .ok (.text s, c)
    | .number spelling => .ok (numberValue spelling, c)
    | .bool b => .ok (.bool b, c)
    | .null => .ok (.null, c)
    | .closeBrace => start.refuse .closeBrace
    | .closeBracket => start.refuse .closeBracket
    | .colon => start.refuse .colon
    | .comma => start.refuse .comma
    | .word _ => start.refuse .word

def readItems : Nat → Cursor → List Value → Scanned → Except ParseError (Value × Cursor)
  | 0, opened, _, _ => opened.refuse .openList
  | fuel + 1, opened, done, s =>
    match s.token with
    | none => opened.refuse .openList
    | some .closeBracket => .ok (.list done.reverse, s.after)
    | some token =>
      match readValue fuel token s.start s.after with
      | .error e => .error e
      | .ok (v, c) =>
        match scanComma c with
        | .ok s => readItems fuel opened (v :: done) s
        | .error e => .error e

def readMembers : Nat → Cursor → Members → Scanned → Except ParseError (Value × Cursor)
  | 0, opened, _, _ => opened.refuse .openObject
  | fuel + 1, opened, done, s =>
    match s.token with
    | none => opened.refuse .openObject
    | some .closeBrace => .ok (Value.ofMembers done.reverse, s.after)
    | some (.text key) | some (.word key) | some (.number key) =>
      match readMember fuel s.after with
      | .error e => .error e
      | .ok (v, c) =>
        match scanComma c with
        | .ok s => readMembers fuel opened ((key, v) :: done) s
        | .error e => .error e
    | some _ => s.start.refuse .tokenInObject

def readMember : Nat → Cursor → Except ParseError (Value × Cursor)
  | 0, c => c.refuse .expectedColon
  | fuel + 1, c =>
    match scan c with
    | .error e => .error e
    | .ok s =>
      if s.token = some .colon then
        match scan s.after with
        | .error e => .error e
        | .ok s =>
          match s.token with
          | none => s.start.refuse .expectedValue
          | some token => readValue fuel token s.start s.after
      else s.start.refuse .expectedColon

end

def parse (text : List Char) : Except ParseError (Option Value) := do
  let s ← scan { rest := text }
  match s.token with
  | none => return none
  | some token =>
    let (v, c) ← readValue (2 * text.length + 2) token s.start s.after
    let s ← scan c
    match s.token with
    | none => return some v
    | some _ => s.start.refuse .severalValues

end MetaLint.Jsonc
