import MetaLint.Pattern.Class
import MetaLint.Unicode.Letter

/-!
# Reading patterns

A pattern is a choice of sequences of repeated parts. A group may carry a name or changes of flags;
a flag change alone holds up to the end of the group it stands in.
-/

set_option autoImplicit false

namespace MetaLint.Pattern

open Text (isDigit)

abbrev GroupNames := List (String × Span)

def isNameStart (a : Char) : Bool := a == '_' || Unicode.isAlphabetic a

def isNameChar (a : Char) : Bool :=
  a == '_' || a == '.' || a == '[' || a == ']' || Unicode.isLetterOrDigit a

def readGroupName (start : Place) (name : List Char) : Nat → Cursor →
    Except Flaw ((String × Span) × Cursor)
  | 0, c => refuse .groupNameOpen c.here
  | fuel + 1, c =>
    match c.peek? with
    | none => refuse .groupNameOpen c.here
    | some a =>
      if a = '>' then
        if name.isEmpty then refuse .groupNameEmpty (.at start)
        else .ok ((String.ofList name.reverse, spanFrom start c), c.bump)
      else if (if name.isEmpty then isNameStart a else isNameChar a) then
        readGroupName start (a :: name) fuel c.bump
      else refuse .groupNameCharacter c.charSpan

def flagOf? (a : Char) : Option Flag :=
  [('i', .ignoreCase), ('m', .multiLine), ('s', .dotAll), ('U', .swapGreed), ('u', .unicode),
   ('R', .crlf), ('x', .verbose)].lookup a

/-- What was read of a list of flags: the flags with their spans in reverse, and the span of the
sign that switches off, with whether it came last. -/
structure FlagsSoFar where
  flags : List (Flag × Bool × Span) := []
  negation : Option Span := none
  negationLast : Bool := false

def readFlags (f : FlagsSoFar) : Nat → Cursor → Except Flaw (FlagChanges × Cursor)
  | 0, c => refuse .flagEnds c.here
  | fuel + 1, c =>
    match c.peek? with
    | none => refuse .flagEnds c.here
    | some a =>
      if a = ':' || a = ')' then
        match f.negation, f.negationLast with
        | some span, true => refuse .flagDanglingNegation span
        | _, _ => .ok (f.flags.reverse.map fun (flag, on, _) => (flag, on), c)
      else if a = '-' then
        match f.negation with
        | some span => .error ⟨.flagNegationTwice, c.charSpan, some span⟩
        | none =>
          readFlags { f with negation := some c.charSpan, negationLast := true } fuel c.bump
      else
        match flagOf? a with
        | none => refuse .flagUnknown c.charSpan
        | some flag =>
          match f.flags.lookup flag with
          | some (_, span) => .error ⟨.flagTwice, c.charSpan, some span⟩
          | none =>
            readFlags { f with flags := (flag, f.negation.isNone, c.charSpan) :: f.flags,
                               negationLast := false } fuel c.bump

inductive GroupFront
  | flags (changes : FlagChanges)
  | plain (changes : FlagChanges)
  | captured (name : Option (String × Span))

namespace GroupFront

def name? : GroupFront → Option (String × Span)
  | captured name => name
  | _ => none

def kind : GroupFront → GroupKind
  | captured _ => .captured
  | flags changes | plain changes => .plain changes

end GroupFront

def isLookaround? (c : Cursor) : Option Cursor :=
  c.bumpIf? ['?', '='] <|> c.bumpIf? ['?', '!'] <|> c.bumpIf? ['?', '<', '='] <|>
    c.bumpIf? ['?', '<', '!']

def readGroupFront (c : Cursor) : Except Flaw (GroupFront × Cursor) := do
  let opened := c.charSpan
  let c := c.next
  match isLookaround? c with
  | some d => refuse .lookaround (spanFrom opened.start d)
  | none =>
    match c.bumpIf? ['?', 'P', '<'] <|> c.bumpIf? ['?', '<'] with
    | some d =>
      let (name, d) ← readGroupName d.place [] (d.rest.length + 1) d
      return (.captured (some name), d)
    | none =>
      match c.bumpIf? ['?'] with
      | none => return (.captured none, c)
      | some d =>
        if d.atEnd then refuse .groupOpen opened
        else
          let (changes, e) ← readFlags {} (d.rest.length + 1) d
          if e.peek? == some ')' then
            if changes.isEmpty then refuse .nothingToRepeat c.here
            else return (.flags changes, e.bump)
          else return (.plain changes, e.bump)

def passBlanks (skipping : Bool) : Nat → Cursor → Cursor
  | 0, c => c
  | fuel + 1, c =>
    match c.peek? with
    | some a =>
      if Text.isBlank a then passBlanks skipping fuel (if skipping then c.next else c.bump) else c
    | none => c

def readDigits (digits : List Char) : Nat → Cursor → List Char × Cursor
  | 0, c => (digits.reverse, c)
  | fuel + 1, c =>
    match c.peek? with
    | some a =>
      if isDigit a then readDigits (a :: digits) fuel c.next else (digits.reverse, c)
    | none => (digits.reverse, c)

/-- Reads a count of 32 bits with blanks around it. The cursor moves on also when it is flawed. -/
def readCount (c : Cursor) : Except Flaw Nat × Cursor :=
  let c := passBlanks false c.rest.length c
  let (digits, d) := readDigits [] c.rest.length c
  let span := spanFrom c.place d
  let after := passBlanks true d.rest.length d
  let n := Text.numberOf 10 digits
  if digits.isEmpty then (refuse .countEmpty span, after)
  else if n < UInt32.size then (.ok n, after)
  else (refuse .decimalInvalid span, after)

def repeatable (c : Cursor) : List Part → Except Flaw (Part × List Part)
  | [] | .empty _ :: _ | .flags _ :: _ => refuse .nothingToRepeat c.here
  | part :: rest => .ok (part, rest)

def passReluctance (c : Cursor) : Bool × Cursor :=
  if c.peek? == some '?' then (true, c.bump) else (false, c)

def repeated (part : Part) (least : Nat) (most : Option Nat) (reluctant : Bool)
    (c : Cursor) : Part :=
  .repetition ⟨part.span.start, c.place⟩ least most reluctant part

def readRepetition (least : Nat) (most : Option Nat) (parts : List Part) (c : Cursor) :
    Except Flaw (List Part × Cursor) := do
  let (part, rest) ← repeatable c parts
  let (reluctant, c) := passReluctance c.bump
  return (repeated part least most reluctant c :: rest, c)

def readBounds (start : Place) (c : Cursor) : Except Flaw ((Nat × Option Nat) × Cursor) := do
  let (least, c) := readCount c
  match c.peek? with
  | none => refuse .countOpen (spanFrom start c)
  | some ',' =>
    let c := c.next
    match c.peek? with
    | none => refuse .countOpen (spanFrom start c)
    | some '\x7d' => return ((← least, none), c)
    | some _ =>
      let least ← least
      let (most, c) := readCount c
      return ((least, some (← most)), c)
  | some _ =>
    let n ← least
    return ((n, some n), c)

def readCounted (parts : List Part) (c : Cursor) : Except Flaw (List Part × Cursor) := do
  let start := c.place
  let (part, rest) ← repeatable c parts
  let c := c.next
  if c.atEnd then refuse .countOpen (spanFrom start c)
  else
    let ((least, most), c) ← readBounds start c
    if c.peek? != some '\x7d' then refuse .countOpen (spanFrom start c)
    else
      let (reluctant, c) := passReluctance c.next
      match most with
      | some m =>
        if least ≤ m then return (repeated part least most reluctant c :: rest, c)
        else refuse .countOrder (spanFrom start c)
      | none => return (repeated part least most reluctant c :: rest, c)

def readPlain (a : Char) (c : Cursor) : Except Flaw (Part × Cursor) :=
  if a = '\\' then readEscape c
  else if a = '.' then .ok (.dot c.charSpan, c.bump)
  else if a = '^' then .ok (.anchor c.charSpan .lineStart, c.bump)
  else if a = '$' then .ok (.anchor c.charSpan .lineEnd, c.bump)
  else .ok (.literal c.charSpan ⟨a, false⟩, c.bump)

def sequenceOf (start : Place) (parts : List Part) (c : Cursor) : Part :=
  match parts with
  | [] => .empty (spanFrom start c)
  | [part] => part
  | parts => .sequence (spanFrom start c) parts.reverse

def choiceOf (start : Place) (options : List Part) (c : Cursor) : Part :=
  match options with
  | [part] => part
  | options => .choice (spanFrom start c) options.reverse

/-- A choice that is being read: where it starts, its finished options in reverse, where the open
option starts, and its parts in reverse. -/
structure Draft where
  start : Place
  options : List Part := []
  optionStart : Place
  parts : List Part := []

namespace Draft

def atCursor (c : Cursor) : Draft := { start := c.place, optionStart := c.place }

def push (d : Draft) (part : Part) : Draft := { d with parts := part :: d.parts }

def bar (d : Draft) (c : Cursor) : Draft :=
  { d with options := sequenceOf d.optionStart d.parts c :: d.options,
           optionStart := c.bump.place, parts := [] }

def finish (d : Draft) (c : Cursor) : Part :=
  choiceOf d.start (sequenceOf d.optionStart d.parts c :: d.options) c

end Draft

def verboseAfter (changes : FlagChanges) (before : Bool) : Bool :=
  (changes.lookup .verbose).getD before

def addName (names : GroupNames) : Option (String × Span) → Except Flaw GroupNames
  | none => .ok names
  | some (name, span) =>
    match names.lookup name with
    | some earlier => .error ⟨.groupNameTwice, span, some earlier⟩
    | none => .ok ((name, span) :: names)

/-- Reads the rest of a choice, inside the group that was opened at `opened` or up to the end of the
pattern. A group is left past its closing parenthesis. `fuel` bounds the parts left. -/
def readChoice (opened : Option Span) : Nat → GroupNames → Draft → Cursor →
    Except Flaw (Part × GroupNames × Cursor)
  | 0, _, _, c => refuse .groupOpen (opened.getD c.here)
  | fuel + 1, names, d, c =>
    let c := c.skip
    match c.peek? with
    | none =>
      match opened with
      | some span => refuse .groupOpen span
      | none => .ok (d.finish c, names, c)
    | some a =>
      if a = '(' then
        match readGroupFront c with
        | .error e => .error e
        | .ok (.flags changes, after) =>
          readChoice opened fuel names (d.push (.flags changes))
            { after with verbose := verboseAfter changes c.verbose }
        | .ok (front, after) =>
          match addName names front.name? with
          | .error e => .error e
          | .ok names =>
            let inner := { after with verbose := verboseAfter front.kind.changes c.verbose }
            match readChoice (some c.charSpan) fuel names (.atCursor inner) inner with
            | .error e => .error e
            | .ok (body, names, after) =>
              let group := Part.group (spanFrom c.place after) front.kind body
              readChoice opened fuel names (d.push group)
                { after with verbose := c.verbose }
      else if a = ')' then
        match opened with
        | none => refuse .groupNotOpened c.charSpan
        | some _ => .ok (d.finish c, names, c.bump)
      else if a = '|' then readChoice opened fuel names (d.bar c) c.bump
      else
        let result : Except Flaw (List Part × Cursor) :=
          if a = '[' then (readClass c).map fun (part, c) => (part :: d.parts, c)
          else if a = '?' then readRepetition 0 (some 1) d.parts c
          else if a = '*' then readRepetition 0 none d.parts c
          else if a = '+' then readRepetition 1 none d.parts c
          else if a = '\x7b' then readCounted d.parts c
          else (readPlain a c).map fun (part, c) => (part :: d.parts, c)
        match result with
        | .error e => .error e
        | .ok (parts, c) => readChoice opened fuel names { d with parts } c

def parse (pattern : List Char) : Except Flaw Part := do
  let c : Cursor := { rest := pattern }
  let (part, _, _) ← readChoice none (pattern.length + 1) [] (.atCursor c) c
  match part.tooDeep? 0 with
  | some span => refuse .tooDeep span
  | none => return part

end MetaLint.Pattern
