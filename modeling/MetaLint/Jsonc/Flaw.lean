/-!
# What is wrong with a commented JSON text

Each flaw has its text. Its place is a line and a column, both counted from 1, columns in
characters.
-/

set_option autoImplicit false

namespace MetaLint.Jsonc

inductive Flaw
  | expectedColon
  | expectedDigit
  | expectedDigitAfterSign
  | expectedExponent
  | expectedValue
  | severalValues
  | closeBrace
  | closeBracket
  | colon
  | comma
  | token
  | tokenInObject
  | word
  | openList
  | openObject
  | openComment
  | openText
  | escapeInSingleQuotes
  | escapeInDoubleQuotes
  | escape
  | expectedHexDigits
  | loneHigh (digits : String)
  | loneLow (digits : String)
  /-- A high surrogate and an escape after it that is no low one. -/
  | mismatchedHigh (digits : String)
  deriving Repr, DecidableEq

def badSurrogate (digits what : String) : String :=
  "Invalid unicode escape sequence. '" ++ digits ++ " (" ++ what ++
    ")' is not a valid UTF8 character"

def Flaw.message : Flaw → String
  | expectedColon => "Expected colon after the string or word in object property"
  | expectedDigit => "Expected digit"
  | expectedDigitAfterSign => "Expected digit following negative sign"
  | expectedExponent => "Expected plus, minus, or digit in number literal"
  | expectedValue => "Expected value after colon in object property"
  | severalValues => "Text cannot contain more than one JSON value"
  | closeBrace => "Unexpected close brace"
  | closeBracket => "Unexpected close bracket"
  | colon => "Unexpected colon"
  | comma => "Unexpected comma"
  | token => "Unexpected token"
  | tokenInObject => "Unexpected token in object"
  | word => "Unexpected word"
  | openList => "Unterminated array"
  | openObject => "Unterminated object"
  | openComment => "Unterminated comment block"
  | openText => "Unterminated string literal"
  | escapeInSingleQuotes => "Invalid escape in single quote string"
  | escapeInDoubleQuotes => "Invalid escape in double quote string"
  | escape => "Invalid escape"
  | expectedHexDigits => "Expected four hex digits"
  | loneHigh digits => badSurrogate digits "unpaired high surrogate"
  | loneLow digits => badSurrogate digits "unpaired low surrogate"
  | mismatchedHigh digits => badSurrogate digits "high surrogate not followed by low surrogate"

structure ParseError where
  flaw : Flaw
  line : Nat
  column : Nat
  deriving Repr, DecidableEq

def ParseError.message (e : ParseError) : String :=
  e.flaw.message ++ " on line " ++ toString e.line ++ " column " ++ toString e.column

end MetaLint.Jsonc
