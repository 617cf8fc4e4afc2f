import MetaLint.Jsonc.Flaw
import MetaLint.Json.Parser
import MetaLint.Text.Basic
import MetaLint.Unicode.Letter

/-!
# Tokens of commented JSON

Texts may stand in single or double quotes, numbers may carry a plus sign or be hexadecimal, and
words may stand without quotes. Comments are passed over like blanks.
-/

set_option autoImplicit false

namespace MetaLint.Jsonc

open Text (isDigit isHexDigit)

structure Cursor where
  rest : List Char
  line : Nat := 1
  column : Nat := 1
  deriving Repr

namespace Cursor

def advance (c : Cursor) : Cursor :=
  match c.rest with
  | [] => c
  | a :: rest => if a = '\n' then ⟨rest, c.line + 1, 1⟩ else ⟨rest, c.line, c.column + 1⟩

def advanceBy : Nat → Cursor → Cursor
  | 0, c => c
  | n + 1, c => advanceBy n c.advance

def peek? (c : Cursor) : Option Char := c.rest.head?

def refuse {α : Type} (c : Cursor) (flaw : Flaw) : Except ParseError α :=
  .error ⟨flaw, c.line, c.column⟩

def nextIs (c : Cursor) (p : Char → Bool) : Bool := c.peek?.elim false p

def passWhile (p : Char → Bool) (c : Cursor) : Cursor :=
  advanceBy (c.rest.takeWhile p).length c

end Cursor

inductive Token
  | openBrace
  | closeBrace
  | openBracket
  | closeBracket
  | colon
  | comma
  | text (value : String)
  | word (value : String)
  | number (spelling : String)
  | bool (value : Bool)
  | null
  deriving Repr, DecidableEq

def passBlock (opened : Cursor) : Nat → Cursor → Except ParseError Cursor
  | 0, _ => opened.refuse .openComment
  | fuel + 1, c =>
    if ['*', '/'].isPrefixOf c.rest then .ok (c.advanceBy 2)
    else if c.rest.isEmpty then opened.refuse .openComment
    else passBlock opened fuel c.advance

def passGaps : Nat → Cursor → Except ParseError Cursor
  | 0, c => .ok c
  | fuel + 1, c =>
    let c := c.passWhile Text.isBlank
    if ['/', '/'].isPrefixOf c.rest then passGaps fuel (c.passWhile (· != '\n'))
    else if ['/', '*'].isPrefixOf c.rest then
      match passBlock c c.rest.length (c.advanceBy 2) with
      | .ok c => passGaps fuel c
      | .error e => .error e
    else .ok c

def hexDigits? (c : Cursor) : Option (List Char) :=
  let digits := c.rest.take 4
  if digits.length = 4 && digits.all isHexDigit then some digits else none

/-- The character of a hexadecimal escape whose backslash is at `start`; `c` is at the digits. -/
def readHexEscape (start c : Cursor) : Except ParseError (Char × Cursor) :=
  match hexDigits? c with
  | none => start.refuse .expectedHexDigits
  | some digits =>
    let n := Text.numberOf 16 digits
    let after := c.advanceBy 4
    if Json.isLowSurrogate n then start.refuse (.loneLow (String.ofList digits))
    else if !Json.isHighSurrogate n then .ok (Char.ofNat n, after)
    else if ['\\', 'u'].isPrefixOf after.rest then
      match hexDigits? (after.advanceBy 2) with
      | none => start.refuse .expectedHexDigits
      | some more =>
        let low := Text.numberOf 16 more
        if Json.isLowSurrogate low then .ok (Json.joinSurrogates n low, after.advanceBy 6)
        else start.refuse (.mismatchedHigh (String.ofList digits))
    else start.refuse (.loneHigh (String.ofList digits))

def readTextFrom (opened : Cursor) (quote : Char) : Nat → List Char → Cursor →
    Except ParseError (String × Cursor)
  | 0, _, _ => opened.refuse .openText
  | fuel + 1, done, c =>
    match c.rest with
    | [] => opened.refuse .openText
    | a :: _ =>
      if a = quote then .ok (String.ofList done.reverse, c.advance)
      else if a != '\\' then readTextFrom opened quote fuel (a :: done) c.advance
      else
        let d := c.advance
        match d.rest with
        | [] => opened.refuse .openText
        | e :: _ =>
          if e = 'u' then
            match readHexEscape c d.advance with
            | .ok (x, d) => readTextFrom opened quote fuel (x :: done) d
            | .error e => .error e
          else if e = '\'' then
            if quote = '"' then c.refuse .escapeInDoubleQuotes
            else readTextFrom opened quote fuel (e :: done) d.advance
          else if e = '"' && quote = '\'' then c.refuse .escapeInSingleQuotes
          else
            match Json.plainEscape? e with
            | some x => readTextFrom opened quote fuel (x :: done) d.advance
            | none => c.refuse .escape

def isSign (a : Char) : Bool := a == '-' || a == '+'

def passDigits (c : Cursor) : Except ParseError Cursor :=
  if c.nextIs isDigit then .ok (c.passWhile isDigit) else c.refuse .expectedDigit

def passDecimals (c : Cursor) : Except ParseError Cursor :=
  if c.nextIs (· == '.') then passDigits c.advance else .ok c

def passExponent (c : Cursor) : Except ParseError Cursor :=
  if c.nextIs fun a => a == 'e' || a == 'E' then
    let c := c.advance
    if c.nextIs isSign then passDigits c.advance
    else if c.nextIs isDigit then .ok (c.passWhile isDigit)
    else c.refuse .expectedExponent
  else .ok c

def passNumber (c : Cursor) : Except ParseError Cursor := do
  let c := if c.nextIs isSign then c.advance else c
  if c.nextIs (· == '0') then
    let c := c.advance
    if c.nextIs fun a => a == 'x' || a == 'X' then
      let c := c.advance
      if c.nextIs isHexDigit then return c.passWhile isHexDigit else c.refuse .expectedDigit
    else passExponent (← passDecimals c)
  else if c.nextIs isDigit then passExponent (← passDecimals (c.passWhile isDigit))
  else c.refuse .expectedDigitAfterSign

/-- The characters from `c` up to a later cursor. -/
def between (c d : Cursor) : List Char := c.rest.take (c.rest.length - d.rest.length)

/-- Past the keyword, unless a letter or digit follows it. -/
def passKeyword? (keyword : String) (c : Cursor) : Option Cursor :=
  let cs := keyword.toList
  if cs.isPrefixOf c.rest then
    let after := c.advanceBy cs.length
    if after.nextIs Unicode.isLetterOrDigit then none else some after
  else none

def isWordEnd (a : Char) : Bool := Text.isBlank a || a == ':'

def isWordChar (a : Char) : Bool := Unicode.isLetterOrDigit a || a == '-' || a == '_'

/-- A word: everything up to a blank or a colon. -/
def readWord (c : Cursor) : Except ParseError (Token × Cursor) :=
  let word := c.rest.takeWhile (!isWordEnd ·)
  if word.isEmpty || !word.all isWordChar then c.refuse .token
  else .ok (.word (String.ofList word), c.advanceBy word.length)

def punctuation? (a : Char) : Option Token :=
  [('\x7b', .openBrace), ('\x7d', .closeBrace), ('[', .openBracket), (']', .closeBracket),
   (':', .colon), (',', .comma)].lookup a

def readToken (c : Cursor) (a : Char) : Except ParseError (Token × Cursor) :=
  match punctuation? a with
  | some t => .ok (t, c.advance)
  | none =>
    if a = '"' || a = '\'' then
      (readTextFrom c a c.rest.length [] c.advance).map fun (s, c) => (.text s, c)
    else if a = '/' then c.refuse .token
    else if isSign a || isDigit a then
      (passNumber c).map fun d => (.number (String.ofList (between c d)), d)
    else
      match passKeyword? "true" c, passKeyword? "false" c, passKeyword? "null" c with
      | some d, _, _ => .ok (.bool true, d)
      | none, some d, _ => .ok (.bool false, d)
      | none, none, some d => .ok (.null, d)
      | none, none, none => readWord c

structure Scanned where
  token : Option Token
  start : Cursor
  after : Cursor

def scan (c : Cursor) : Except ParseError Scanned := do
  let c ← passGaps (c.rest.length + 1) c
  match c.rest with
  | [] => return ⟨none, c, c⟩
  | a :: _ =>
    let (t, after) ← readToken c a
    return ⟨some t, c, after⟩

end MetaLint.Jsonc
