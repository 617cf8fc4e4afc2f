import MetaLint.Pattern.Escape

/-!
# Reading classes in brackets

Items between brackets form a union; two ampersands, hyphens or tildes combine what stands before
them with the union after them, from left to right.
-/

set_option autoImplicit false

namespace MetaLint.Pattern

structure UnionSoFar where
  span : Span
  items : List ClassSet := []

namespace UnionSoFar

def push (u : UnionSoFar) (item : ClassSet) : UnionSoFar :=
  let start := if u.items.isEmpty then item.span.start else u.span.start
  ⟨⟨start, item.span.stop⟩, item :: u.items⟩

def toSet (u : UnionSoFar) : ClassSet :=
  match u.items with
  | [] => .nothing u.span
  | [item] => item
  | items => .union u.span items.reverse

end UnionSoFar

def combine (left : Option (ClassSet × SetOperation)) (right : ClassSet) : ClassSet :=
  match left with
  | none => right
  | some (l, op) => .operation ⟨l.span.start, right.span.stop⟩ op l right

def classItem : Part → Except Flaw ClassSet
  | .literal span l => .ok (.literal span l)
  | .perl span negated kind => .ok (.perl span negated kind)
  | .property span negated query => .ok (.property span negated query)
  | part => refuse .classEscape part.span

def rangeEnd : Part → Except Flaw Literal
  | .literal _ l => .ok l
  | part => refuse .classRangeBound part.span

def readClassPart (c : Cursor) : Except Flaw (Part × Cursor) :=
  match c.peek? with
  | some '\\' => readEscape c
  | some a => .ok (.literal c.charSpan ⟨a, false⟩, c.bump)
  | none => .ok (.empty c.here, c)

def readClassRange (opened : Span) (c : Cursor) : Except Flaw (ClassSet × Cursor) := do
  let (first, c) ← readClassPart c
  let c := c.skip
  match c.peek? with
  | none => refuse .classOpen opened
  | some a =>
    if a != '-' || c.peekAfter? == some ']' || c.peekAfter? == some '-' then
      return (← classItem first, c)
    else
      let c := c.next
      if c.atEnd then refuse .classOpen opened
      else
        let (last, c) ← readClassPart c
        let l ← rangeEnd first
        let r ← rangeEnd last
        let span : Span := ⟨first.span.start, last.span.stop⟩
        if l.char ≤ r.char then return (.range span l r first.span last.span, c)
        else refuse .classRangeOrder span

def readColonName (name : List Char) : Nat → Cursor → List Char × Cursor
  | 0, c => (name.reverse, c)
  | fuel + 1, c =>
    match c.peek? with
    | none | some ':' => (name.reverse, c)
    | some a => readColonName (a :: name) fuel c.bump

def readAsciiClass? (c : Cursor) : Option (ClassSet × Cursor) := do
  let start := c.place
  let c ← c.bumpIf? ['[', ':']
  let (negated, c) := match c.bumpIf? ['^'] with
    | some d => (true, d)
    | none => (false, c)
  let (name, c) := readColonName [] c.rest.length c
  let c ← c.bumpIf? [':', ']']
  let kind ← AsciiKind.ofName? (String.ofList name)
  return (.ascii (spanFrom start c) negated kind, c)

def readHyphens (opened : Place) (u : UnionSoFar) : Nat → Cursor → Except Flaw (UnionSoFar × Cursor)
  | 0, c => .ok (u, c)
  | fuel + 1, c =>
    if c.peek? == some '-' then
      let u := u.push (.literal c.charSpan ⟨'-', false⟩)
      let c := c.next
      if c.atEnd then refuse .classOpen (.at opened) else readHyphens opened u fuel c
    else .ok (u, c)

/-- Reads the front of a class: the bracket, a sign of negation, and hyphens or a closing bracket
that stand for themselves. Gives the span of all that. -/
def readClassFront (c : Cursor) : Except Flaw ((Span × Bool × UnionSoFar) × Cursor) := do
  let start := c.place
  let c := c.next
  if c.atEnd then refuse .classOpen (spanFrom start c)
  else
    let negated := c.peek? == some '^'
    let c := if negated then c.next else c
    if c.atEnd then refuse .classOpen (spanFrom start c)
    else
      let (u, c) ← readHyphens start ⟨c.here, []⟩ c.rest.length c
      if u.items.isEmpty && c.peek? == some ']' then
        let u := u.push (.literal c.charSpan ⟨']', false⟩)
        let c := c.next
        if c.atEnd then refuse .classOpen (spanFrom start c)
        else return ((spanFrom start c, negated, u), c)
      else return ((spanFrom start c, negated, u), c)

def operationAt? (c : Cursor) : Option SetOperation :=
  if c.startsWith ['&', '&'] then some .intersection
  else if c.startsWith ['-', '-'] then some .difference
  else if c.startsWith ['~', '~'] then some .symmetricDifference
  else none

def readClassRest (opened : Span) (negated : Bool) :
    Nat → Option (ClassSet × SetOperation) → UnionSoFar → Cursor → Except Flaw (ClassSet × Cursor)
  | 0, _, _, _ => refuse .classOpen opened
  | fuel + 1, left, u, c =>
    let c := c.skip
    match c.peek? with
    | none => refuse .classOpen opened
    | some a =>
      if a = '[' then
        match readAsciiClass? c with
        | some (item, c) => readClassRest opened negated fuel left (u.push item) c
        | none =>
          match readClassFront c with
          | .error e => .error e
          | .ok ((innerOpened, innerNegated, inner), c) =>
            match readClassRest innerOpened innerNegated fuel none inner c with
            | .error e => .error e
            | .ok (item, c) => readClassRest opened negated fuel left (u.push item) c
      else if a = ']' then
        let c := c.bump
        .ok (.bracketed (spanFrom opened.start c) negated (combine left u.toSet), c)
      else
        match operationAt? c with
        | some op =>
          let c := c.bumpBy 2
          readClassRest opened negated fuel (some (combine left u.toSet, op)) ⟨c.here, []⟩ c
        | none =>
          match readClassRange opened c with
          | .error e => .error e
          | .ok (item, c) => readClassRest opened negated fuel left (u.push item) c

def readClass (c : Cursor) : Except Flaw (Part × Cursor) := do
  let ((opened, negated, u), c) ← readClassFront c
  let (set, c) ← readClassRest opened negated (c.rest.length + 1) none u c
  match set with
  | .bracketed span negated body => return (.bracketed span negated body, c)
  | _ => return (.bracketed opened negated set, c)

end MetaLint.Pattern
