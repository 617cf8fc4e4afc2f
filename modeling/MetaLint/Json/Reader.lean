import MetaLint.Json.Value
import MetaLint.Json.Flaw
import MetaLint.Text.Basic

/-!
# Reading the pieces of a JSON text

A cursor holds what is left of the text and how far it has been read. Numbers keep 64 bits as long
as they can; a longer one becomes a fraction from its first digits and its exponent, rounded at each
of the two steps.
-/

set_option autoImplicit false

namespace MetaLint.Json

/-- What is left of a text, the line reached, and the bytes of it that were read. -/
structure Cursor where
  rest : List Char
  line : Nat := 1
  column : Nat := 0
  deriving Repr

abbrev Read (α : Type) := Except ParseError (α × Cursor)

namespace Cursor

def advance (c : Cursor) : Cursor :=
  match c.rest with
  | [] => c
  | '\n' :: rest => ⟨rest, c.line + 1, 0⟩
  | a :: rest => ⟨rest, c.line, c.column + a.utf8Size⟩

def flawHere {α : Type} (c : Cursor) (flaw : Flaw) : Except ParseError α :=
  .error ⟨flaw, c.line, c.column⟩

/-- A flaw found at the next byte, which counts as read. -/
def flawNext {α : Type} (c : Cursor) (flaw : Flaw) : Except ParseError α :=
  match c.rest with
  | [] => .error ⟨flaw, c.line, c.column⟩
  | '\n' :: _ => .error ⟨flaw, c.line + 1, 0⟩
  | _ :: _ => .error ⟨flaw, c.line, c.column + 1⟩

def isGap (a : Char) : Bool := a == ' ' || a == '\n' || a == '\t' || a == '\r'

def skipFrom (line column : Nat) : List Char → Cursor
  | [] => ⟨[], line, column⟩
  | a :: rest =>
    if a = '\n' then skipFrom (line + 1) 0 rest
    else if isGap a then skipFrom line (column + 1) rest
    else ⟨a :: rest, line, column⟩

def skip (c : Cursor) : Cursor := skipFrom c.line c.column c.rest

def word (c : Cursor) : List Char → Except ParseError Cursor
  | [] => .ok c
  | w :: ws =>
    match c.rest with
    | [] => c.flawHere .valueEnds
    | a :: _ => if a = w then c.advance.word ws else c.flawNext .expectedWord

/-- The place `n` bytes further on, which may be inside a character. -/
def placeAfter (line column : Nat) : Nat → List Char → Nat × Nat
  | _, [] => (line, column)
  | n, a :: rest =>
    if n = 0 then (line, column)
    else if n < a.utf8Size then (line, column + n)
    else if a = '\n' then placeAfter (line + 1) 0 (n - 1) rest
    else placeAfter line (column + a.utf8Size) (n - a.utf8Size) rest

end Cursor

open Cursor
open Text (isDigit digitValue hexValue?)

def digitNext? (c : Cursor) : Option Nat :=
  match c.rest with
  | a :: _ => if isDigit a then some (digitValue a) else none
  | [] => none

def nextIs (c : Cursor) (p : Char → Bool) : Bool := c.rest.head?.elim false p

def isExponentMark (a : Char) : Bool := a == 'e' || a == 'E'

def skipDigits (line column count : Nat) : List Char → Nat × Cursor
  | [] => (count, ⟨[], line, column⟩)
  | a :: rest =>
    if isDigit a then skipDigits line (column + 1) (count + 1) rest
    else (count, ⟨a :: rest, line, column⟩)

/-- The digits from here on added to `significand` while it stays below 2^64: the new significand,
how many digits were used, whether a digit that does not fit follows, and the place reached. -/
def gather (line column significand used : Nat) : List Char → Nat × Nat × Bool × Cursor
  | [] => (significand, used, false, ⟨[], line, column⟩)
  | a :: rest =>
    if isDigit a then
      let next := significand * 10 + digitValue a
      if next < UInt64.size then gather line (column + 1) next (used + 1) rest
      else (significand, used, true, ⟨a :: rest, line, column⟩)
    else (significand, used, false, ⟨a :: rest, line, column⟩)

def powerOfTen (n : Nat) : Float := Float.ofScientific 1 false n

def signed (positive : Bool) (x : Float) : Float := if positive then x else -x

def shrink : Nat → Float → Int → Float × Int
  | 0, x, e => (x, e)
  | fuel + 1, x, e =>
    if -308 ≤ e || x == 0 then (x, e) else shrink fuel (x / powerOfTen 308) (e + 308)

def fraction? (positive : Bool) (significand : Nat) (exponent : Int) : Option Number :=
  let x := (UInt64.ofNat significand).toFloat
  let (y, e) := shrink 4 x exponent
  if y == 0 then some (.fraction (signed positive y).toBits)
  else if 308 < e then none
  else if 0 ≤ e then
    let z := y * powerOfTen e.toNat
    if z.isInf then none else some (.fraction (signed positive z).toBits)
  else if e < -308 then some (.fraction (signed positive 0).toBits)
  else some (.fraction (signed positive (y / powerOfTen (-e).toNat)).toBits)

def fractionAt (c : Cursor) (positive : Bool) (significand : Nat) (exponent : Int) : Read Number :=
  match fraction? positive significand exponent with
  | some n => .ok (n, c)
  | none => c.flawHere .numberOutOfRange

def readExponent (c : Cursor) (positive : Bool) (significand : Nat) (start : Int) : Read Number :=
  let c := c.advance
  let negative := nextIs c (· == '-')
  let c := if negative || nextIs c (· == '+') then c.advance else c
  match c.rest with
  | [] => c.flawHere .valueEnds
  | a :: _ =>
    if !isDigit a then c.flawNext .invalidNumber
    else
      let ds := c.rest.takeWhile isDigit
      let (_, after) := skipDigits c.line c.column 0 c.rest
      let value := ds.foldl (fun n d => n * 10 + digitValue d) 0
      if value ≤ 2147483647 then
        fractionAt after positive significand (if negative then start - value else start + value)
      else if significand != 0 && !negative then
        (overflowing ds.length 0 c).flawHere .numberOutOfRange
      else .ok (.fraction (signed positive 0).toBits, after)
where
  overflowing : Nat → Nat → Cursor → Cursor
    | 0, _, c => c
    | n + 1, value, c =>
      match digitNext? c with
      | some d =>
        if value * 10 + d ≤ 2147483647 then overflowing n (value * 10 + d) c.advance else c.advance
      | none => c

def readDecimals (c : Cursor) (positive : Bool) (significand : Nat) (start : Int) : Read Number :=
  let c := c.advance
  let (value, used, full, after) := gather c.line c.column significand 0 c.rest
  if full then
    let (_, after) := skipDigits after.line after.column 0 after.rest
    finish after value (start - used)
  else if used = 0 then
    if after.rest.isEmpty then after.flawNext .valueEnds else after.flawNext .invalidNumber
  else finish after value (start - used)
where
  finish (c : Cursor) (value : Nat) (exponent : Int) : Read Number :=
    if nextIs c isExponentMark then readExponent c positive value exponent
    else fractionAt c positive value exponent

def readTail (c : Cursor) (positive : Bool) (significand : Nat) : Read Number :=
  if nextIs c (· == '.') then readDecimals c positive significand 0
  else if nextIs c isExponentMark then readExponent c positive significand 0
  else if positive then .ok (.int significand, c)
  else if significand = 0 || Nat.pow 2 63 < significand then
    .ok (.fraction (-(UInt64.ofNat significand).toFloat).toBits, c)
  else .ok (.int (-(significand : Int)), c)

def readNumber (c : Cursor) (positive : Bool) : Read Number :=
  match c.rest with
  | [] => c.flawHere .valueEnds
  | a :: _ =>
    if a = '0' then
      if nextIs c.advance isDigit then c.advance.flawNext .invalidNumber
      else readTail c.advance positive 0
    else if isDigit a then
      let (value, _, full, after) := gather c.line c.column 0 0 c.rest
      if full then
        let (more, after) := skipDigits after.line after.column 0 after.rest
        if nextIs after (· == '.') then readDecimals after positive value more
        else if nextIs after isExponentMark then readExponent after positive value more
        else fractionAt after positive value more
      else readTail after positive value
    else c.flawNext .invalidNumber

def readHex (c : Cursor) : Read Nat :=
  match c.rest with
  | x :: y :: z :: w :: _ =>
    match hexValue? x, hexValue? y, hexValue? z, hexValue? w with
    | some x, some y, some z, some w =>
      .ok (((x * 16 + y) * 16 + z) * 16 + w, c.advance.advance.advance.advance)
    | _, _, _, _ => bad c
  | _ => bad c
where
  bad (c : Cursor) : Read Nat :=
    let (line, column) := placeAfter c.line c.column 4 c.rest
    if (String.ofList c.rest).utf8ByteSize < 4 then .error ⟨.textEnds, line, column⟩
    else .error ⟨.invalidEscape, line, column⟩

def isHighSurrogate (n : Nat) : Bool := 0xD800 ≤ n && n ≤ 0xDBFF

def isLowSurrogate (n : Nat) : Bool := 0xDC00 ≤ n && n ≤ 0xDFFF

def joinSurrogates (high low : Nat) : Char :=
  Char.ofNat ((high - 0xD800) * 0x400 + (low - 0xDC00) + 0x10000)

def readHexEscape (c : Cursor) : Except ParseError (Char × Cursor) := do
  let (high, c) ← readHex c
  if isLowSurrogate high then c.flawHere .loneSurrogate
  else if !isHighSurrogate high then .ok (Char.ofNat high, c)
  else
    let c ← mark c '\\'
    let c ← mark c 'u'
    let (low, c) ← readHex c
    if isLowSurrogate low then .ok (joinSurrogates high low, c) else c.flawHere .loneSurrogate
where
  mark (c : Cursor) (expected : Char) : Except ParseError Cursor :=
    match c.rest with
    | [] => c.flawHere .textEnds
    | a :: _ => if a = expected then .ok c.advance else c.flawNext .unfinishedSurrogate

def plainEscape? (a : Char) : Option Char :=
  if a = '"' || a = '\\' || a = '/' then some a
  else if a = 'b' then some (Char.ofNat 8)
  else if a = 'f' then some (Char.ofNat 12)
  else if a = 'n' then some '\n'
  else if a = 'r' then some '\r'
  else if a = 't' then some '\t'
  else none

def readTextFrom : Nat → List Char → Cursor → Read String
  | 0, _, c => c.flawHere .textEnds
  | fuel + 1, done, c =>
    match c.rest with
    | [] => c.flawHere .textEnds
    | a :: _ =>
      if a = '"' then .ok (String.ofList done.reverse, c.advance)
      else if a = '\\' then
        let c := c.advance
        match c.rest with
        | [] => c.flawHere .textEnds
        | e :: _ =>
          if e = 'u' then
            match readHexEscape c.advance with
            | .ok (x, c) => readTextFrom fuel (x :: done) c
            | .error e => .error e
          else
            match plainEscape? e with
            | some x => readTextFrom fuel (x :: done) c.advance
            | none => c.flawNext .invalidEscape
      else if a.toNat < 32 then c.flawNext .controlCharacter
      else readTextFrom fuel (a :: done) c.advance

def readText (c : Cursor) : Read String := readTextFrom (c.rest.length + 1) [] c

def readColon (c : Cursor) : Except ParseError Cursor :=
  let c := c.skip
  match c.rest with
  | [] => c.flawNext .objectEnds
  | a :: _ => if a = ':' then .ok c.advance else c.flawNext .expectedColon

def readEnd (c : Cursor) : Except ParseError Unit :=
  let c := c.skip
  if c.rest.isEmpty then .ok () else c.flawNext .trailingCharacters

def nextItem? (first : Bool) (c : Cursor) : Except ParseError (Option Cursor) :=
  let c := c.skip
  match c.rest with
  | [] => c.flawNext .listEnds
  | a :: _ =>
    if a = ']' then .ok none
    else if first then .ok (some c)
    else if a = ',' then
      let c := c.advance.skip
      match c.rest with
      | [] => c.flawNext .valueEnds
      | b :: _ => if b = ']' then c.flawNext .trailingComma else .ok (some c)
    else c.flawNext .expectedListCommaOrEnd

def nextKey? (first : Bool) (c : Cursor) : Except ParseError (Option Cursor) :=
  let c := c.skip
  match c.rest with
  | [] => c.flawNext .objectEnds
  | a :: _ =>
    if a = '\x7d' then .ok none
    else if first then if a = '"' then .ok (some c.advance) else c.flawNext .keyMustBeText
    else if a = ',' then
      let c := c.advance.skip
      match c.rest with
      | [] => c.flawNext .valueEnds
      | b :: _ =>
        if b = '"' then .ok (some c.advance)
        else if b = '\x7d' then c.flawNext .trailingComma
        else c.flawNext .keyMustBeText
    else c.flawNext .expectedObjectCommaOrEnd

/-- Past the end of a list that was read as far as it was wanted. -/
def readListEnd (c : Cursor) : Except ParseError Cursor :=
  let c := c.skip
  match c.rest with
  | [] => c.flawNext .listEnds
  | a :: _ =>
    if a = ']' then .ok c.advance
    else if a = ',' then
      let c := c.advance.skip
      if nextIs c (· == ']') then c.flawNext .trailingComma else c.flawNext .trailingCharacters
    else c.flawNext .trailingCharacters

end MetaLint.Json
