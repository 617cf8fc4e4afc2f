import MetaLint.Pattern.Syntax
import MetaLint.Pattern.Regex
import MetaLint.Pattern.Parser
import MetaLint.Pattern.Footprint

/-!
# Patterns

A pattern is a regular expression with the text it was written as. The parts of the text become an
expression under the flags in force where they stand. Without the Unicode flag a class may hold
ASCII characters only.
-/

set_option autoImplicit false

namespace MetaLint.Pattern

open Unicode (CharSet)

structure Flags where
  ignoreCase : Bool := false
  multiLine : Bool := false
  dotAll : Bool := false
  unicode : Bool := true
  crlf : Bool := false
  swapGreed : Bool := false
  deriving Repr, DecidableEq, Inhabited

namespace Flags

def set (f : Flags) (flag : Flag) (on : Bool) : Flags :=
  match flag with
  | .ignoreCase => { f with ignoreCase := on }
  | .multiLine => { f with multiLine := on }
  | .dotAll => { f with dotAll := on }
  | .unicode => { f with unicode := on }
  | .crlf => { f with crlf := on }
  | .swapGreed => { f with swapGreed := on }
  | .verbose => f

def change (f : Flags) (changes : FlagChanges) : Flags :=
  changes.foldl (fun f (flag, on) => f.set flag on) f

end Flags

/-! ## Sets -/

def asciiFolded (s : CharSet) : CharSet :=
  let twin (n : Nat) : Nat × Nat := let m := if n < 0x60 then n + 32 else n - 32; (m, m)
  let letters := (List.range 26).flatMap fun n => [0x41 + n, 0x61 + n]
  CharSet.ofRanges (s ++ (letters.filter s.holdsCode).map twin)

def Flags.foldSet (f : Flags) (s : CharSet) : CharSet :=
  if !f.ignoreCase then s else if f.unicode then s.folded else asciiFolded s

/-- A set as it stands in a pattern: without the Unicode flag it must be one of ASCII characters. -/
def Flags.close (f : Flags) (span : Span) (negated : Bool) (s : CharSet) : Except Flaw CharSet :=
  let s := if negated then s.complement else s
  if f.unicode || s.isAscii then .ok s else .error ⟨.invalidUtf8, span, none⟩

def PerlKind.set (unicode : Bool) : PerlKind → CharSet
  | .digit => if unicode then Unicode.Category.decimalNumber else .asciiDigit
  | .blank => if unicode then Unicode.Trait.whiteSpace else .asciiBlank
  | .word => if unicode then Unicode.wordSet else .asciiWord

def AsciiKind.set : AsciiKind → CharSet
  | .alnum => [(0x30, 0x39), (0x41, 0x5A), (0x61, 0x7A)]
  | .alpha => .asciiLetter
  | .ascii => .ascii
  | .blank => .ofChars ['\t', ' ']
  | .cntrl => [(0x0, 0x1F), (0x7F, 0x7F)]
  | .digit => .asciiDigit
  | .graph => .range '!' '~'
  | .lower => .range 'a' 'z'
  | .print => .range ' ' '~'
  | .punct => [(0x21, 0x2F), (0x3A, 0x40), (0x5B, 0x60), (0x7B, 0x7E)]
  | .space => .asciiBlank
  | .upper => .range 'A' 'Z'
  | .word => .asciiWord
  | .xdigit => [(0x30, 0x39), (0x41, 0x46), (0x61, 0x66)]

def perlSet (f : Flags) (span : Span) (negated : Bool) (kind : PerlKind) : Except Flaw CharSet :=
  f.close span negated (kind.set f.unicode)

def propertySet (f : Flags) (span : Span) (negated : Bool) (query : PropertyQuery) :
    Except Flaw CharSet :=
  if f.unicode then
    match query.resolve with
    | .ok s => f.close span negated (f.foldSet s)
    | .error cause => .error ⟨cause, span, none⟩
  else .error ⟨.unicodeNotAllowed, span, none⟩

def classChar (f : Flags) (span : Span) (l : Literal) : Except Flaw Char :=
  if f.unicode || l.char.toNat < 128 then .ok l.char
  else .error ⟨if l.isByte then .invalidUtf8 else .unicodeNotAllowed, span, none⟩

/-- A class with brackets: case is ignored before the class is negated. -/
def bracketedSet (f : Flags) (span : Span) (negated : Bool) (body : CharSet) :
    Except Flaw CharSet :=
  f.close span negated (f.foldSet body)

mutual

def ClassSet.meaning (f : Flags) : ClassSet → Except Flaw CharSet
  | .nothing _ => .ok []
  | .literal span l => (classChar f span l).map .single
  | .range _ first last firstSpan lastSpan =>
    match classChar f firstSpan first, classChar f lastSpan last with
    | .ok a, .ok b => .ok (.range a b)
    | .error e, _ => .error e
    | .ok _, .error e => .error e
  | .ascii span negated kind => bracketedSet f span negated kind.set
  | .perl span negated kind => perlSet f span negated kind
  | .property span negated query => propertySet f span negated query
  | .bracketed span negated body =>
    match body.meaning f with
    | .ok s => bracketedSet f span negated s
    | .error e => .error e
  | .union _ items => (ClassSet.meanings f items).map CharSet.ofList
  | .operation _ op left right =>
    match left.meaning f, right.meaning f with
    | .ok l, .ok r =>
      let l := f.foldSet l
      let r := f.foldSet r
      match op with
      | .intersection => .ok (l.inter r)
      | .difference => .ok (l.diff r)
      | .symmetricDifference => .ok (l.symDiff r)
    | .error e, _ => .error e
    | .ok _, .error e => .error e

def ClassSet.meanings (f : Flags) : List ClassSet → Except Flaw (List CharSet)
  | [] => .ok []
  | item :: rest =>
    match item.meaning f with
    | .ok s => (ClassSet.meanings f rest).map (s :: ·)
    | .error e => .error e

end

/-! ## Parts -/

def literalMeaning (f : Flags) (span : Span) (l : Literal) : Except Flaw Regex :=
  if !f.unicode && l.isByte && 128 ≤ l.char.toNat then .error ⟨.invalidUtf8, span, none⟩
  else .ok (.set (f.foldSet (.single l.char)))

def dotMeaning (f : Flags) (span : Span) : Except Flaw Regex :=
  if !f.unicode then .error ⟨.invalidUtf8, span, none⟩
  else if f.dotAll then .ok (.set .everything)
  else if f.crlf then .ok (.set (CharSet.ofChars ['\r', '\n']).complement)
  else .ok (.set (CharSet.single '\n').complement)

def Anchor.look (f : Flags) : Anchor → Look
  | .lineStart =>
    if f.multiLine then (if f.crlf then .crlfLineStart else .lineStart) else .textStart
  | .lineEnd => if f.multiLine then (if f.crlf then .crlfLineEnd else .lineEnd) else .textEnd
  | .textStart => .textStart
  | .textEnd => .textEnd
  | .wordBoundary => .boundary !f.unicode
  | .notWordBoundary => .notBoundary !f.unicode
  | .wordStart => .wordStart !f.unicode
  | .wordEnd => .wordEnd !f.unicode
  | .wordStartHalf => .wordStartHalf !f.unicode
  | .wordEndHalf => .wordEndHalf !f.unicode

mutual

def Part.meaning (f : Flags) : Part → Except Flaw (Regex × Flags)
  | .empty _ => .ok (.empty, f)
  | .flags changes => .ok (.empty, f.change changes)
  | .literal span l => (literalMeaning f span l).map (·, f)
  | .dot span => (dotMeaning f span).map (·, f)
  | .anchor _ a => .ok (.look (a.look f), f)
  | .perl span negated kind => (perlSet f span negated kind).map fun s => (.set s, f)
  | .property span negated query => (propertySet f span negated query).map fun s => (.set s, f)
  | .bracketed span negated body =>
    match body.meaning f with
    | .ok s => (bracketedSet f span negated s).map fun s => (.set s, f)
    | .error e => .error e
  | .repetition _ least most reluctant body =>
    (body.meaning f).map fun (r, g) => (.times r least most (reluctant == f.swapGreed), g)
  | .group _ kind body =>
    (body.meaning (f.change kind.changes)).map fun (r, _) =>
      (match kind with | .captured => .captured r | .plain _ => r, f)
  | .sequence _ parts => (Part.meanings f parts).map fun (rs, f) => (.seq rs, f)
  | .choice _ parts => (Part.meanings f parts).map fun (rs, f) => (.alt rs, f)

def Part.meanings (f : Flags) : List Part → Except Flaw (List Regex × Flags)
  | [] => .ok ([], f)
  | part :: rest =>
    match part.meaning f with
    | .ok (r, f) => (Part.meanings f rest).map fun (rs, f) => (r :: rs, f)
    | .error e => .error e

end

end MetaLint.Pattern

namespace MetaLint

structure Pattern where
  text : String
  regex : Pattern.Regex
  deriving Repr, Inhabited

namespace Pattern

def compile (text : String) : Except Refusal Pattern :=
  let result : Except Flaw Regex := do
    let part ← parse text.toList
    let (regex, _) ← part.meaning {}
    return regex
  match result with
  | .error flaw => .error (.flawed flaw text)
  | .ok regex => if regex.fits then .ok ⟨text, regex⟩ else .error .tooLarge

def isMatch (p : Pattern) (text : String) : Bool := p.regex.isMatch text.toList

def compileAll (texts : List String) : Except Refusal (List Pattern) := texts.mapM compile

/-- Whether any of the patterns matches; an empty list selects everything. -/
def selects (ps : List Pattern) (text : String) : Bool := ps.isEmpty || ps.any (·.isMatch text)

end Pattern

end MetaLint
