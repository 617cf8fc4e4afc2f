import MetaLint.Text.Basic

/-!
# Writing YAML

A text is written plainly if it stands for itself that way, else between single quotes, else between
double quotes with escapes. A text with a line feed is written as a literal block of lines if its
line ends survive that. A plain text that looks like a null, a truth value or a number stands for
that.

Maps and lists are written as blocks, one entry to a line; a list stands under its key without
further indentation. Only empty ones have brackets. A key that is long or has several lines is
marked by a question mark of its own.
-/

set_option autoImplicit false

namespace MetaLint.Yaml

open Text (isDigit digitValue)

def isNull (s : List Char) : Bool := ["", "null", "Null", "NULL", "~"].any (·.toList == s)

def isBool (s : List Char) : Bool :=
  ["true", "True", "TRUE", "false", "False", "FALSE"].any (·.toList == s)

def isNamedFraction (s : List Char) : Bool :=
  [".inf", ".Inf", ".INF", "+.inf", "+.Inf", "+.INF", "-.inf", "-.Inf", "-.INF", ".nan", ".NaN",
    ".NAN"].any (·.toList == s)

def digitIn? (base : Nat) (c : Char) : Option Nat :=
  (Text.hexValue? c).filter (· < base)

def digitsIn? (base : Nat) : List Char → Option Nat
  | [] => none
  | s => s.foldl (fun n c => n.bind fun n => (digitIn? base c).map (n * base + ·)) (some 0)

def markedBases : List (Char × Nat) := [('x', 16), ('o', 8), ('b', 2)]

def isMarked (bound : Nat) : List Char → Bool
  | '0' :: mark :: digits =>
    match markedBases.lookup mark with
    | some base => (digitsIn? base digits).elim false (· ≤ bound)
    | none => false
  | _ => false

def isMarkedInteger : List Char → Bool
  | '+' :: s => isMarked (Nat.pow 2 128 - 1) s
  | '-' :: s => isMarked (Nat.pow 2 127) s
  | s => isMarked (Nat.pow 2 128 - 1) s

def withoutSign : List Char → List Char
  | '+' :: s => s
  | '-' :: s => s
  | s => s

def isPaddedDigits (s : List Char) : Bool :=
  match withoutSign s with
  | '0' :: c :: rest => (c :: rest).all isDigit
  | _ => false

def digitsValue (n : Nat) (s : List Char) : Nat := s.foldl (fun n c => n * 10 + digitValue c) n

/-- The first number too large for a 64-bit fraction: it rounds to infinity, as those above do. -/
def fractionBound : Nat := Nat.pow 2 1024 - Nat.pow 2 970

def isBounded (m : Nat) (e : Int) : Bool :=
  if m = 0 then true
  else
    let size : Int := (Nat.toDigits 10 m).length + e
    if size < 309 then true
    else if 309 < size then false
    else if 0 ≤ e then m * Nat.pow 10 e.toNat < fractionBound
    else m < fractionBound * Nat.pow 10 (-e).toNat

def exponent? : List Char → Option Int
  | [] => some 0
  | mark :: s =>
    if mark = 'e' || mark = 'E' then
      let digits := withoutSign s
      if digits.isEmpty || !digits.all isDigit then none
      else
        let n : Int := digitsValue 0 digits
        some (if s.head? == some '-' then -n else n)
    else none

def isDecimal (s : List Char) : Bool :=
  let whole := s.takeWhile isDigit
  let rest := s.dropWhile isDigit
  let (decimals, rest) := match rest with
    | '.' :: rest => (rest.takeWhile isDigit, rest.dropWhile isDigit)
    | rest => ([], rest)
  if whole.isEmpty && decimals.isEmpty then false
  else
    match exponent? rest with
    | some e => isBounded (digitsValue (digitsValue 0 whole) decimals) (e - decimals.length)
    | none => false

def isNumber (s : List Char) : Bool := isDecimal (withoutSign s)

def resolves (s : List Char) : Bool :=
  isNull s || isBool s || isNamedFraction s || isMarkedInteger s || isPaddedDigits s || isNumber s

def isBreak (c : Char) : Bool :=
  c == '\n' || c == '\r' || c.toNat == 0x85 || c.toNat == 0x2028 || c.toNat == 0x2029

def isPrintable (c : Char) : Bool :=
  let n := c.toNat
  n == 0x0A || (0x20 ≤ n && n ≤ 0x7E) || (0xA0 ≤ n && n != 0xFEFF && n != 0xFFFE && n != 0xFFFF)

def isBlankOrEnd : Option Char → Bool
  | none => true
  | some c => c == ' ' || c == '\t' || isBreak c || c.toNat == 0

/-! ## What keeps a text from a style -/

def startIndicators : List Char :=
  ['#', ',', '[', ']', '\x7b', '\x7d', '&', '*', '!', '|', '>', Char.ofNat 39, '"', '%', '@',
    Char.ofNat 96]

def startsWithIndicator : List Char → Bool
  | [] => false
  | c :: rest =>
    startIndicators.contains c ||
      ((c == '?' || c == ':' || c == '-') && isBlankOrEnd rest.head?)

/-- Whether a colon before a blank or a number sign after one would be read as an indicator. -/
def holdsIndicator (before : Char) : List Char → Bool
  | [] => false
  | c :: rest =>
    (c == ':' && isBlankOrEnd rest.head?) || (c == '#' && isBlankOrEnd (some before)) ||
      holdsIndicator c rest

def startsWithMark (s : List Char) : Bool :=
  "---".toList.isPrefixOf s || "...".toList.isPrefixOf s

def hasIndicator (s : List Char) : Bool :=
  startsWithMark s || startsWithIndicator s ||
    match s with
    | [] => false
    | c :: rest => holdsIndicator c rest

def hasPair (first second : Char → Bool) : List Char → Bool
  | a :: b :: rest => (first a && second b) || hasPair first second (b :: rest)
  | _ => false

def isSpace (c : Char) : Bool := c == ' '

/-- Whether a text needs escapes: for a character, or for a space before a line end. -/
def needsEscapes (s : List Char) : Bool := s.any (!isPrintable ·) || hasPair isSpace isBreak s

def isMultiline (s : List Char) : Bool := s.any isBreak

def allowsPlain (s : List Char) : Bool :=
  !hasIndicator s && !needsEscapes s && !isMultiline s &&
    !s.head?.elim false isSpace && !s.getLast?.elim false isSpace

def allowsSingle (s : List Char) : Bool := !needsEscapes s && !hasPair isBreak isSpace s

def allowsLiteral (s : List Char) : Bool :=
  !s.isEmpty && !needsEscapes s && !s.getLast?.elim false isSpace

inductive Style
  | plain
  | single
  | double
  | literal
  deriving Repr, DecidableEq

def styleOf (s : List Char) : Style :=
  if s.contains '\n' then (if allowsLiteral s then .literal else .double)
  else if !resolves s && allowsPlain s then .plain
  else if allowsSingle s then .single
  else .double

/-! ## Writing -/

def spaces (n : Nat) : List Char := List.replicate n ' '

/-- Between single quotes: a quote is written twice, and text after a line end is indented. `fresh`
says that a line end came just before. -/
def singleBody (indent : Nat) (fresh : Bool) : List Char → List Char
  | [] => if fresh then spaces indent else []
  | c :: rest =>
    if c = ' ' then c :: singleBody indent fresh rest
    else if isBreak c then c :: singleBody indent true rest
    else
      (if fresh then spaces indent else []) ++
        (if c.toNat = 39 then [c, c] else [c]) ++ singleBody indent false rest

def hexPadded (width n : Nat) : List Char :=
  let ds := (Nat.toDigits 16 n).map Char.toUpper
  List.replicate (width - ds.length) '0' ++ ds

def escapeLetters : List (Nat × Char) :=
  [(0, '0'), (7, 'a'), (8, 'b'), (9, 't'), (10, 'n'), (11, 'v'), (12, 'f'), (13, 'r'), (27, 'e'),
   (34, '"'), (92, '\\'), (0x85, 'N'), (0x2028, 'L'), (0x2029, 'P')]

def escapeChar (c : Char) : List Char :=
  if isPrintable c && !isBreak c && c != '"' && c != '\\' then [c]
  else
    match escapeLetters.lookup c.toNat with
    | some letter => ['\\', letter]
    | none =>
      if c.toNat ≤ 0xFF then '\\' :: 'x' :: hexPadded 2 c.toNat
      else '\\' :: 'u' :: hexPadded 4 c.toNat

/-- What follows the bar of a literal block: the indentation if the text does not show it, and what
becomes of the line ends at its end. -/
def literalHints (s : List Char) : List Char :=
  let indentation :=
    if s.head?.elim false (fun c => isSpace c || isBreak c) then ['2'] else []
  let ending := match s.reverse with
    | [] => ['-']
    | [c] => if isBreak c then ['+'] else ['-']
    | c :: d :: _ => if !isBreak c then ['-'] else if isBreak d then ['+'] else []
  indentation ++ ending

def literalBody (indent : Nat) (fresh : Bool) : List Char → List Char
  | [] => []
  | c :: rest =>
    if isBreak c then c :: literalBody indent true rest
    else (if fresh then spaces indent else []) ++ c :: literalBody indent false rest

def scalarText (indent : Nat) (s : List Char) : List Char :=
  let quote := Char.ofNat 39
  match styleOf s with
  | .plain => s
  | .single => quote :: singleBody indent false s ++ [quote]
  | .double => '"' :: s.flatMap escapeChar ++ ['"']
  | .literal => '|' :: literalHints s ++ '\n' :: literalBody indent true s

inductive Node
  | text (s : String)
  | number (n : Nat)
  | list (items : List Node)
  | map (members : List (String × Node))
  deriving Repr, Inhabited

def ended (text : List Char) : List Char :=
  if text.getLast?.elim false isBreak then text else text ++ ['\n']

def isShortKey (key : String) : Bool := !isMultiline key.toList && key.utf8ByteSize ≤ 128

mutual

/-- A node whose first line starts at column `indent`, which is where its other lines start. -/
def block (indent : Nat) : Node → List Char
  | .text s => ended (scalarText indent s.toList)
  | .number n => Nat.toDigits 10 n ++ ['\n']
  | .list items => if items.isEmpty then ['[', ']', '\n'] else itemsBlock indent items
  | .map members => if members.isEmpty then ['\x7b', '\x7d', '\n'] else membersBlock indent members

def itemsBlock (indent : Nat) : List Node → List Char
  | [] => []
  | item :: rest =>
    let tail := itemsBlock indent rest
    '-' :: ' ' :: block (indent + 2) item ++ (if rest.isEmpty then [] else spaces indent ++ tail)

def membersBlock (indent : Nat) : List (String × Node) → List Char
  | [] => []
  | (key, node) :: rest =>
    let tail := membersBlock indent rest
    memberBlock indent key node ++ (if rest.isEmpty then [] else spaces indent ++ tail)

def memberBlock (indent : Nat) (key : String) (node : Node) : List Char :=
  let keyText := scalarText (indent + 2) key.toList
  if isShortKey key then
    keyText ++ ':' ::
      match node with
      | .list (item :: rest) => '\n' :: spaces indent ++ itemsBlock indent (item :: rest)
      | .map (m :: rest) => '\n' :: spaces (indent + 2) ++ membersBlock (indent + 2) (m :: rest)
      | .list [] => [' ', '[', ']', '\n']
      | .map [] => [' ', '\x7b', '\x7d', '\n']
      | .text s => ' ' :: ended (scalarText (indent + 2) s.toList)
      | .number n => ' ' :: Nat.toDigits 10 n ++ ['\n']
  else
    '?' :: ' ' :: ended keyText ++ spaces indent ++ ':' :: ' ' :: block (indent + 2) node

end

def Node.pretty (n : Node) : String := String.ofList (block 0 n)

end MetaLint.Yaml
