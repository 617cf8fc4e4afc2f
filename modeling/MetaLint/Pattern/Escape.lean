import MetaLint.Pattern.Syntax
import MetaLint.Text.Basic

/-!
# Reading escapes

A backslash makes a literal of a character with a meaning, or gives a meaning to a letter: a
character by its code point, a class, a property, or a condition on the place.
-/

set_option autoImplicit false

namespace MetaLint.Pattern

open Text (isDigit isHexDigit)

def refuse {α : Type} (cause : Cause) (span : Span) : Except Flaw α := .error ⟨cause, span, none⟩

def isMeta (a : Char) : Bool := "\\.+*?()|[]\x7b\x7d^$#&-~".toList.contains a

def isEscapable (a : Char) : Bool :=
  isMeta a || (a.toNat < 128 && !a.isAlphanum && a != '<' && a != '>')

def spanFrom (start : Place) (c : Cursor) : Span := ⟨start, c.place⟩

/-- The character of hexadecimal digits, up to eight of which count. -/
def charOfHex? (digits : List Char) : Option Char :=
  let n := Text.numberOf 16 digits
  if n < UInt32.size then Text.charOfCode? n else none

def readHexDigits (start : Place) (digits : List Char) : Nat → Cursor → Except Flaw (Char × Cursor)
  | 0, c =>
    match charOfHex? digits.reverse with
    | some a => .ok (a, c)
    | none => refuse .hexNoCharacter (spanFrom start c)
  | n + 1, c =>
    match c.peek? with
    | none => refuse .escapeEnds c.here
    | some a =>
      if isHexDigit a then readHexDigits start (a :: digits) n c.next
      else refuse .hexDigit c.charSpan

def readHexBraced (brace start : Place) (digits : List Char) :
    Nat → Cursor → Except Flaw (Char × Cursor)
  | 0, c => refuse .escapeEnds (spanFrom brace c)
  | fuel + 1, c =>
    match c.peek? with
    | none => refuse .escapeEnds (spanFrom brace c)
    | some '\x7d' =>
      if digits.isEmpty then refuse .hexEmpty (spanFrom brace c.next)
      else
        match charOfHex? digits.reverse with
        | some a => .ok (a, c.next)
        | none => refuse .hexNoCharacter (spanFrom start c)
    | some a =>
      if isHexDigit a then readHexBraced brace start (a :: digits) fuel c.next
      else refuse .hexDigit c.charSpan

def readHex (c : Cursor) : Except Flaw (Literal × Cursor) :=
  let width := if c.peek? == some 'x' then 2 else if c.peek? == some 'u' then 4 else 8
  let c := c.next
  match c.peek? with
  | none => refuse .escapeEnds c.here
  | some '\x7b' => do
    let (a, d) ← readHexBraced c.place c.bump.place [] c.rest.length c.next
    return (⟨a, false⟩, d)
  | some _ => do
    let (a, d) ← readHexDigits c.place [] width c
    return (⟨a, width == 2⟩, d)

def readBracedName (name : List Char) : Nat → Cursor → Except Flaw (String × Cursor)
  | 0, c => refuse .escapeEnds c.here
  | fuel + 1, c =>
    match c.peek? with
    | none => refuse .escapeEnds c.here
    | some '\x7d' => .ok (String.ofList name.reverse, c.bump)
    | some a => readBracedName (a :: name) fuel c.next

def splitAtMark? (mark text : List Char) : Option (List Char × List Char) :=
  match text with
  | [] => none
  | a :: rest =>
    if mark.isPrefixOf text then some ([], text.drop mark.length)
    else (splitAtMark? mark rest).map fun (before, after) => (a :: before, after)

/-- What a property in braces asks for, and whether it asks for a value other than the one it
names. -/
def propertyQuery (name : String) : PropertyQuery × Bool :=
  let split (mark : String) := splitAtMark? mark.toList name.toList
  match split "!=", split ":", split "=" with
  | some (n, v), _, _ => (.valued (String.ofList n) (String.ofList v), true)
  | none, some (n, v), _ => (.valued (String.ofList n) (String.ofList v), false)
  | none, none, some (n, v) => (.valued (String.ofList n) (String.ofList v), false)
  | none, none, none => (.named name, false)

def readProperty (c : Cursor) : Except Flaw ((PropertyQuery × Bool) × Cursor) :=
  let c := c.next
  match c.peek? with
  | none => refuse .escapeEnds c.here
  | some '\x7b' => do
    let (name, d) ← readBracedName [] c.rest.length c.next
    return (propertyQuery name, d)
  | some '\\' => refuse .propertyInvalid c.charSpan
  | some a => .ok ((.named (String.ofList [a]), false), c.next)

def isBoundaryNameChar (a : Char) : Bool := a.isAlpha || a == '-'

def readBoundaryName (name : List Char) : Nat → Cursor → List Char × Cursor
  | 0, c => (name.reverse, c)
  | fuel + 1, c =>
    match c.peek? with
    | some a =>
      if isBoundaryNameChar a then readBoundaryName (a :: name) fuel c.next else (name.reverse, c)
    | none => (name.reverse, c)

/-- Reads the name of a word boundary in braces; another thing in braces is left alone. -/
def readBoundary? (start : Place) (brace : Cursor) : Except Flaw (Option Anchor × Cursor) :=
  let c := brace.next
  match c.peek? with
  | none => refuse .wordBoundaryEnds (spanFrom start c)
  | some a =>
    if !isBoundaryNameChar a then .ok (none, brace)
    else
      let (name, d) := readBoundaryName [] c.rest.length c
      if d.peek? != some '\x7d' then refuse .wordBoundaryOpen (spanFrom brace.place d)
      else
        match String.ofList name with
        | "start" => .ok (some .wordStart, d.bump)
        | "end" => .ok (some .wordEnd, d.bump)
        | "start-half" => .ok (some .wordStartHalf, d.bump)
        | "end-half" => .ok (some .wordEndHalf, d.bump)
        | _ => refuse .wordBoundaryUnknown (spanFrom c.place d)

def controlOf? (a : Char) : Option Char :=
  [('a', Char.ofNat 7), ('f', Char.ofNat 12), ('t', '\t'), ('n', '\n'), ('r', '\r'),
   ('v', Char.ofNat 11)].lookup a

def perlOf? (a : Char) : Option (Bool × PerlKind) :=
  [('d', (false, .digit)), ('s', (false, .blank)), ('w', (false, .word)), ('D', (true, .digit)),
   ('S', (true, .blank)), ('W', (true, .word))].lookup a

def anchorOf? (a : Char) : Option Anchor :=
  [('A', .textStart), ('z', .textEnd), ('B', .notWordBoundary), ('<', .wordStart),
   ('>', .wordEnd)].lookup a

def readEscape (c : Cursor) : Except Flaw (Part × Cursor) :=
  let start := c.place
  let c := c.bump
  match c.peek? with
  | none => refuse .escapeEnds (spanFrom start c)
  | some a =>
    let d := c.bump
    let span := spanFrom start d
    if isDigit a then refuse .backreference span
    else if a = 'x' || a = 'u' || a = 'U' then do
      let (l, d) ← readHex c
      return (.literal (spanFrom start d) l, d)
    else if a = 'p' || a = 'P' then do
      let ((query, differs), d) ← readProperty c
      return (.property (spanFrom start d) ((a == 'P') != differs) query, d)
    else if a = 'b' then
      if d.peek? == some '\x7b' then do
        let (kind, d) ← readBoundary? start d
        match kind with
        | some kind => return (.anchor (spanFrom start d) kind, d)
        | none => return (.anchor span .wordBoundary, d)
      else .ok (.anchor span .wordBoundary, d)
    else
      match perlOf? a, controlOf? a, anchorOf? a with
      | some (negated, kind), _, _ => .ok (.perl span negated kind, d)
      | none, some b, _ => .ok (.literal span ⟨b, false⟩, d)
      | none, none, some kind => .ok (.anchor span kind, d)
      | none, none, none =>
        if isEscapable a then .ok (.literal span ⟨a, false⟩, d) else refuse .escapeUnknown span

end MetaLint.Pattern
