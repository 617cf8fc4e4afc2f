import MetaLint.Pattern.Place
import MetaLint.Text.Basic

/-!
# What is wrong with a pattern

A flaw has a cause and a span, and a second span where the cause is a conflict with an earlier part.
It is shown below the pattern, with carets under both spans.
-/

set_option autoImplicit false

namespace MetaLint.Pattern

def nestBound : Nat := 250

def sizeBound : Nat := 10485760

inductive Cause
  | classEscape
  | classRangeOrder
  | classRangeBound
  | classOpen
  | decimalEmpty
  | decimalInvalid
  | hexEmpty
  | hexNoCharacter
  | hexDigit
  | escapeEnds
  | escapeUnknown
  | flagDanglingNegation
  | flagTwice
  | flagNegationTwice
  | flagEnds
  | flagUnknown
  | groupNameTwice
  | groupNameEmpty
  | groupNameCharacter
  | groupNameOpen
  | groupOpen
  | groupNotOpened
  | tooDeep
  | countOrder
  | countEmpty
  | countOpen
  | nothingToRepeat
  | wordBoundaryOpen
  | wordBoundaryUnknown
  | wordBoundaryEnds
  | propertyInvalid
  | backreference
  | lookaround
  | unicodeNotAllowed
  | invalidUtf8
  | propertyNotFound
  | propertyValueNotFound
  deriving Repr, DecidableEq

def Cause.message : Cause → String
  | .classEscape => "invalid escape sequence found in character class"
  | .classRangeOrder => "invalid character class range, the start must be <= the end"
  | .classRangeBound => "invalid range boundary, must be a literal"
  | .classOpen => "unclosed character class"
  | .decimalEmpty => "decimal literal empty"
  | .decimalInvalid => "decimal literal invalid"
  | .hexEmpty => "hexadecimal literal empty"
  | .hexNoCharacter => "hexadecimal literal is not a Unicode scalar value"
  | .hexDigit => "invalid hexadecimal digit"
  | .escapeEnds => "incomplete escape sequence, reached end of pattern prematurely"
  | .escapeUnknown => "unrecognized escape sequence"
  | .flagDanglingNegation => "dangling flag negation operator"
  | .flagTwice => "duplicate flag"
  | .flagNegationTwice => "flag negation operator repeated"
  | .flagEnds => "expected flag but got end of regex"
  | .flagUnknown => "unrecognized flag"
  | .groupNameTwice => "duplicate capture group name"
  | .groupNameEmpty => "empty capture group name"
  | .groupNameCharacter => "invalid capture group character"
  | .groupNameOpen => "unclosed capture group name"
  | .groupOpen => "unclosed group"
  | .groupNotOpened => "unopened group"
  | .tooDeep =>
    "exceed the maximum number of nested parentheses/brackets (" ++ toString nestBound ++ ")"
  | .countOrder => "invalid repetition count range, the start must be <= the end"
  | .countEmpty => "repetition quantifier expects a valid decimal"
  | .countOpen => "unclosed counted repetition"
  | .nothingToRepeat => "repetition operator missing expression"
  | .wordBoundaryOpen =>
    "special word boundary assertion is either unclosed or contains an invalid character"
  | .wordBoundaryUnknown =>
    "unrecognized special word boundary assertion, valid choices are: start, end, start-half " ++
      "or end-half"
  | .wordBoundaryEnds =>
    "found either the beginning of a special word boundary or a bounded repetition on a \\b " ++
      "with an opening brace, but no closing brace"
  | .propertyInvalid => "invalid Unicode character class"
  | .backreference => "backreferences are not supported"
  | .lookaround => "look-around, including look-ahead and look-behind, is not supported"
  | .unicodeNotAllowed => "Unicode not allowed here"
  | .invalidUtf8 => "pattern can match invalid UTF-8"
  | .propertyNotFound => "Unicode property not found"
  | .propertyValueNotFound => "Unicode property value not found"

structure Flaw where
  cause : Cause
  span : Span
  earlier : Option Span := none
  deriving Repr, DecidableEq

def Span.isOnLine (n : Nat) (s : Span) : Bool := s.start.line == n && s.stop.line == n

namespace Flaw

def spans (f : Flaw) : List Span :=
  match f.earlier with
  | none => [f.span]
  | some s => if s.before f.span then [s, f.span] else [f.span, s]

def carets : Nat → List Span → String
  | _, [] => ""
  | column, s :: rest =>
    let gap := s.start.column - column
    let width := max 1 (s.stop.column - s.start.column)
    String.ofList (List.replicate gap ' ' ++ List.replicate width '^') ++
      carets (column + gap + width) rest

def notate (f : Flaw) (margin : Nat → String) (lines : List (List Char)) : String :=
  "".intercalate <| (Text.numberedFrom 1 lines).map fun (n, line) =>
    let here := f.spans.filter (Span.isOnLine n)
    let marks :=
      if here.isEmpty then ""
      else String.ofList (List.replicate (margin n).length ' ') ++ carets 1 here ++ "\n"
    margin n ++ String.ofList line ++ "\n" ++ marks

def acrossLines (s : Span) : String :=
  "on line " ++ toString s.start.line ++ " (column " ++ toString s.start.column ++
    ") through line " ++ toString s.stop.line ++ " (column " ++ toString (s.stop.column - 1) ++ ")"

/-- The flaw as it is shown. A pattern of several lines is shown with line numbers between rules. -/
def display (f : Flaw) (pattern : List Char) : String :=
  let lines := Text.lines pattern
  let verdict := "error: " ++ f.cause.message
  if pattern.contains '\n' then
    let count := lines.length + if pattern.getLast? == some '\n' then 1 else 0
    let margin := fun n =>
      if count ≤ 1 then "    "
      else Text.padLeft (toString count).length (toString n) ++ ": "
    let rule := String.ofList (List.replicate 79 '~') ++ "\n"
    let notes := (f.spans.filter fun s => s.start.line != s.stop.line).map acrossLines
    let notes := if notes.isEmpty then "" else "\n".intercalate notes ++ "\n"
    "regex parse error:\n" ++ rule ++ f.notate margin lines ++ rule ++ notes ++ verdict
  else
    "regex parse error:\n" ++ f.notate (fun _ => "    ") lines ++ verdict

end Flaw

inductive Refusal
  | flawed (flaw : Flaw) (pattern : String)
  | tooLarge
  deriving Repr, DecidableEq

def Refusal.message : Refusal → String
  | .flawed flaw pattern => flaw.display pattern.toList
  | .tooLarge => "Compiled regex exceeds size limit of " ++ toString sizeBound ++ " bytes."

end MetaLint.Pattern
