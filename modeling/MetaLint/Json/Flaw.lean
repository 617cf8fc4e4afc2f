/-!
# What is wrong with a JSON text

Each flaw has its text and its kind: the text ended too early, it is malformed, or it is well formed
but does not have the shape that was asked for.
-/

set_option autoImplicit false

namespace MetaLint.Json

inductive Flaw
  | listEnds
  | objectEnds
  | textEnds
  | valueEnds
  | expectedColon
  | expectedListCommaOrEnd
  | expectedObjectCommaOrEnd
  | expectedWord
  | expectedValue
  | invalidEscape
  | invalidNumber
  | numberOutOfRange
  | controlCharacter
  | keyMustBeText
  | loneSurrogate
  | trailingComma
  | trailingCharacters
  | unfinishedSurrogate
  | tooDeep
  | shape (text : String)
  deriving Repr, DecidableEq

inductive FlawKind
  | ending
  | malformed
  | shape
  deriving Repr, DecidableEq

namespace Flaw

def message : Flaw → String
  | .listEnds => "EOF while parsing a list"
  | .objectEnds => "EOF while parsing an object"
  | .textEnds => "EOF while parsing a string"
  | .valueEnds => "EOF while parsing a value"
  | .expectedColon => "expected `:`"
  | .expectedListCommaOrEnd => "expected `,` or `]`"
  | .expectedObjectCommaOrEnd => "expected `,` or `\x7d`"
  | .expectedWord => "expected ident"
  | .expectedValue => "expected value"
  | .invalidEscape => "invalid escape"
  | .invalidNumber => "invalid number"
  | .numberOutOfRange => "number out of range"
  | .controlCharacter => "control character (\\u0000-\\u001F) found while parsing a string"
  | .keyMustBeText => "key must be a string"
  | .loneSurrogate => "lone leading surrogate in hex escape"
  | .trailingComma => "trailing comma"
  | .trailingCharacters => "trailing characters"
  | .unfinishedSurrogate => "unexpected end of hex escape"
  | .tooDeep => "recursion limit exceeded"
  | .shape text => text

def kind : Flaw → FlawKind
  | .listEnds | .objectEnds | .textEnds | .valueEnds => .ending
  | .shape _ => .shape
  | _ => .malformed

end Flaw

/-- A flaw and its place: a line counted from 1, and how many bytes of that line were read. -/
structure ParseError where
  flaw : Flaw
  line : Nat
  column : Nat
  deriving Repr, DecidableEq

def ParseError.message (e : ParseError) : String :=
  e.flaw.message ++ " at line " ++ toString e.line ++ " column " ++ toString e.column

end MetaLint.Json
