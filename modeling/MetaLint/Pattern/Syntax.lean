import MetaLint.Pattern.Property

/-!
# The parts of a pattern

What a pattern says, as it is written: parts with the spans that messages point at.
-/

set_option autoImplicit false

namespace MetaLint.Pattern

inductive PerlKind
  | digit
  | blank
  | word
  deriving Repr, DecidableEq, Inhabited

inductive AsciiKind
  | alnum | alpha | ascii | blank | cntrl | digit | graph | lower | print | punct | space | upper
  | word | xdigit
  deriving Repr, DecidableEq, Inhabited

namespace AsciiKind

def names : List (String × AsciiKind) :=
  [("alnum", alnum), ("alpha", alpha), ("ascii", ascii), ("blank", blank), ("cntrl", cntrl),
   ("digit", digit), ("graph", graph), ("lower", lower), ("print", print), ("punct", punct),
   ("space", space), ("upper", upper), ("word", word), ("xdigit", xdigit)]

def ofName? (name : String) : Option AsciiKind := names.lookup name

end AsciiKind

/-- A literal character. One that is written as two hexadecimal digits can also mean a byte. -/
structure Literal where
  char : Char
  isByte : Bool := false
  deriving Repr, DecidableEq, Inhabited

inductive SetOperation
  | intersection
  | difference
  | symmetricDifference
  deriving Repr, DecidableEq, Inhabited

inductive ClassSet
  | nothing (span : Span)
  | literal (span : Span) (l : Literal)
  | range (span : Span) (first last : Literal) (firstSpan lastSpan : Span)
  | ascii (span : Span) (negated : Bool) (kind : AsciiKind)
  | perl (span : Span) (negated : Bool) (kind : PerlKind)
  | property (span : Span) (negated : Bool) (query : PropertyQuery)
  | bracketed (span : Span) (negated : Bool) (body : ClassSet)
  | union (span : Span) (items : List ClassSet)
  | operation (span : Span) (op : SetOperation) (left right : ClassSet)
  deriving Repr, Inhabited

inductive Anchor
  | lineStart
  | lineEnd
  | textStart
  | textEnd
  | wordBoundary
  | notWordBoundary
  | wordStart
  | wordEnd
  | wordStartHalf
  | wordEndHalf
  deriving Repr, DecidableEq, Inhabited

inductive Flag
  | ignoreCase
  | multiLine
  | dotAll
  | swapGreed
  | unicode
  | crlf
  | verbose
  deriving Repr, DecidableEq, Inhabited

abbrev FlagChanges := List (Flag × Bool)

inductive GroupKind
  | captured
  | plain (changes : FlagChanges)
  deriving Repr, Inhabited

def GroupKind.changes : GroupKind → FlagChanges
  | .captured => []
  | .plain changes => changes

inductive Part
  | empty (span : Span)
  | flags (changes : FlagChanges)
  | literal (span : Span) (l : Literal)
  | dot (span : Span)
  | anchor (span : Span) (a : Anchor)
  | perl (span : Span) (negated : Bool) (kind : PerlKind)
  | property (span : Span) (negated : Bool) (query : PropertyQuery)
  | bracketed (span : Span) (negated : Bool) (body : ClassSet)
  | repetition (span : Span) (least : Nat) (most : Option Nat) (reluctant : Bool) (body : Part)
  | group (span : Span) (kind : GroupKind) (body : Part)
  | sequence (span : Span) (parts : List Part)
  | choice (span : Span) (parts : List Part)
  deriving Repr, Inhabited

namespace ClassSet

def span : ClassSet → Span
  | nothing s | literal s .. | range s .. | ascii s .. | perl s .. | property s .. | bracketed s ..
  | union s .. | operation s .. => s

end ClassSet

namespace Part

def span : Part → Span
  | flags _ => .at {}
  | empty s | literal s _ | dot s | anchor s _ | perl s .. | property s .. | bracketed s ..
  | repetition s .. | group s .. | sequence s _ | choice s _ => s

end Part

/-! The first part, in reading order, that is nested too deep; `depth` parts enclose it. -/

def beyond (depth : Nat) (span : Span) : Option Span :=
  if nestBound ≤ depth then some span else none

mutual

def ClassSet.tooDeep? (depth : Nat) : ClassSet → Option Span
  | .bracketed span _ body => beyond depth span <|> body.tooDeep? (depth + 1)
  | .union span items => beyond depth span <|> ClassSet.anyTooDeep? (depth + 1) items
  | .operation span _ left right =>
    beyond depth span <|> left.tooDeep? (depth + 1) <|> right.tooDeep? (depth + 1)
  | _ => none

def ClassSet.anyTooDeep? (depth : Nat) : List ClassSet → Option Span
  | [] => none
  | item :: rest => item.tooDeep? depth <|> ClassSet.anyTooDeep? depth rest

end

mutual

def Part.tooDeep? (depth : Nat) : Part → Option Span
  | .bracketed span _ body => beyond depth span <|> body.tooDeep? (depth + 1)
  | .repetition span _ _ _ body => beyond depth span <|> body.tooDeep? (depth + 1)
  | .group span _ body => beyond depth span <|> body.tooDeep? (depth + 1)
  | .sequence span parts => beyond depth span <|> Part.anyTooDeep? (depth + 1) parts
  | .choice span parts => beyond depth span <|> Part.anyTooDeep? (depth + 1) parts
  | _ => none

def Part.anyTooDeep? (depth : Nat) : List Part → Option Span
  | [] => none
  | part :: rest => part.tooDeep? depth <|> Part.anyTooDeep? depth rest

end

end MetaLint.Pattern
