import MetaLint.Pattern.Flaw
import MetaLint.Pattern.Regex
import MetaLint.Text.Utf8

/-!
# Globs

A glob selects paths. A star stands for any piece of a name, two stars between separators for any
number of directories, and braces hold alternatives. A glob is matched against the bytes of a path,
each of which counts as one character.
-/

set_option autoImplicit false

namespace MetaLint

open Pattern
open Unicode (CharSet)

inductive GlobToken
  | literal (c : Char)
  | any
  | zeroOrMore
  | recursiveStart
  | recursiveEnd
  | recursiveMiddle
  | choice (negated : Bool) (ranges : List (Char × Char))
  | alternatives (branches : List (List GlobToken))
  deriving Repr, Inhabited

abbrev Glob := List GlobToken

namespace Glob

/-- The open branch of an alternative and the finished ones before it; tokens and branches are in
reverse. -/
structure Frame where
  tokens : List GlobToken := []
  finished : List (List GlobToken) := []
  deriving Inhabited

/-- What has been read: the innermost open frame, the ones around it, the last character, and
whether a class was found that does not end. -/
structure Draft where
  inner : Frame := {}
  outer : List Frame := []
  previous : Option Char := none
  openClass : Bool := false
  deriving Inhabited

namespace Draft

def push (d : Draft) (t : GlobToken) : Draft :=
  { d with inner := { d.inner with tokens := t :: d.inner.tokens } }

def pushAll (d : Draft) (ts : List GlobToken) : Draft := ts.foldl push d

def after (d : Draft) (c : Char) : Draft := { d with previous := some c }

def isNested (d : Draft) : Bool := !d.outer.isEmpty

end Draft

structure ClassDraft where
  ranges : List (Char × Char) := []
  inRange : Bool := false

def ClassDraft.add (d : ClassDraft) (c : Char) : Option ClassDraft :=
  if d.inRange then
    match d.ranges with
    | (first, _) :: rest => if first ≤ c then some ⟨(first, c) :: rest, false⟩ else none
    | [] => none
  else some ⟨(c, c) :: d.ranges, false⟩

inductive ClassResult
  | closed (ranges : List (Char × Char)) (rest : List Char)
  | unclosed
  | inverted

def readClassFrom (d : ClassDraft) : List Char → ClassResult
  | [] => .unclosed
  | c :: rest =>
    let first := d.ranges.isEmpty
    if c = ']' && !first then
      .closed (if d.inRange then ('-', '-') :: d.ranges else d.ranges).reverse rest
    else if c = '-' && !first && !d.inRange then readClassFrom { d with inRange := true } rest
    else
      match d.add c with
      | some d => readClassFrom d rest
      | none => .inverted

def readClass (cs : List Char) : Bool × ClassResult :=
  match cs with
  | '!' :: rest | '^' :: rest => (true, readClassFrom {} rest)
  | _ => (false, readClassFrom {} cs)

def replaceLast (isEnd : Bool) (d : Draft) : Draft :=
  match d.inner.tokens with
  | .recursiveStart :: _ | .recursiveEnd :: _ => d
  | _ :: rest =>
    { d with inner := { d.inner with
        tokens := (if isEnd then .recursiveEnd else .recursiveMiddle) :: rest } }
  | [] => d

def afterStars (d : Draft) (rest : List Char) : Draft × List Char :=
  let plain := (d.pushAll [.zeroOrMore, .zeroOrMore]).after '*'
  if d.inner.tokens.isEmpty then
    match rest with
    | [] => ((d.push .recursiveStart).after '*', [])
    | '/' :: more => ((d.push .recursiveStart).after '/', more)
    | _ => (plain, rest)
  else if d.previous != some '/' &&
      (!d.isNested || (d.previous != some ',' && d.previous != some '\x7b')) then (plain, rest)
  else
    match rest with
    | [] => ((replaceLast true d).after '*', [])
    | '/' :: more => ((replaceLast false d).after '/', more)
    | c :: _ =>
      if d.isNested && (c == ',' || c == '\x7d') then ((replaceLast true d).after '*', rest)
      else (plain, rest)

def closeBraces (d : Draft) : Option Draft :=
  match d.outer with
  | [] => none
  | frame :: outer =>
    let branches := (d.inner.tokens.reverse :: d.inner.finished).reverse
    some { d with inner := { frame with tokens := .alternatives branches :: frame.tokens }, outer }

def openBraces (d : Draft) : Draft := { d with inner := {}, outer := d.inner :: d.outer }

def nextBranch (d : Draft) : Draft :=
  { d with inner := ⟨[], d.inner.tokens.reverse :: d.inner.finished⟩ }

def step (d : Draft) (c : Char) (rest : List Char) : Option (Draft × List Char) :=
  match c with
  | '?' => some ((d.push .any).after c, rest)
  | '*' =>
    match rest with
    | '*' :: more => some (afterStars d more)
    | _ => some ((d.push .zeroOrMore).after c, rest)
  | '[' =>
    if d.openClass then some ((d.push (.literal c)).after c, rest)
    else
      match readClass rest with
      | (negated, .closed ranges more) => some ((d.push (.choice negated ranges)).after ']', more)
      | (_, .unclosed) => some ({ (d.push (.literal c)).after c with openClass := true }, rest)
      | (_, .inverted) => none
  | '\x7b' => some ((openBraces d).after c, rest)
  | '\x7d' => (closeBraces d).map fun d => (d.after c, rest)
  | ',' => some ((if d.isNested then nextBranch d else d.push (.literal c)).after c, rest)
  | '\\' =>
    match rest with
    | [] => none
    | e :: more => some ((d.push (.literal e)).after e, more)
  | c => some ((d.push (.literal c)).after c, rest)

def readFrom : Nat → Draft → List Char → Option Glob
  | 0, _, _ => none
  | fuel + 1, d, cs =>
    match cs with
    | [] => if d.isNested then none else some d.inner.tokens.reverse
    | c :: rest =>
      match step d c rest with
      | some (d, rest) => readFrom fuel d rest
      | none => none

def read? (text : List Char) : Option Glob := readFrom (text.length + 1) {} text

def charsOf (bytes : Text.Bytes) : List Char := bytes.map fun b => Char.ofNat b.toNat

def byteChars (cs : List Char) : List Char := charsOf (Text.encode (String.ofList cs))

/-- The depth of a sequence of parts that take this many levels below their own; a lone part takes
its place. -/
def sequenceDepth : List Nat → Nat
  | [] => 0
  | [n] => n
  | ns => ns.foldl max 0 + 1

def itemCount (r : Char × Char) : Nat :=
  if r.1 = r.2 then (byteChars [r.1]).length
  else (byteChars [r.1]).length + (byteChars [r.2]).length - 1

mutual

def isVoid : GlobToken → Bool
  | .alternatives branches => allVoid branches
  | _ => false

def isVoidBranch : List GlobToken → Bool
  | [] => true
  | t :: rest => isVoid t && isVoidBranch rest

def allVoid : List (List GlobToken) → Bool
  | [] => true
  | branch :: rest => isVoidBranch branch && allVoid rest

end

mutual

def tokenDepths : GlobToken → List Nat
  | .literal c => (byteChars [c]).map fun _ => 0
  | .any => [1]
  | .zeroOrMore => [2]
  | .recursiveStart => [4]
  | .recursiveEnd => [0, 1]
  | .recursiveMiddle => [4]
  | .choice _ ranges => [if (ranges.map itemCount).sum = 1 then 1 else 2]
  | .alternatives branches =>
    match branchDepths branches with
    | [] => []
    | [n] => [n + 1]
    | ns => [ns.foldl max 0 + 2]

def tokensDepths : List GlobToken → List Nat
  | [] => []
  | t :: rest => tokenDepths t ++ tokensDepths rest

def branchDepths : List (List GlobToken) → List Nat
  | [] => []
  | branch :: rest =>
    let deeper := branchDepths rest
    if isVoidBranch branch then deeper else sequenceDepth (tokensDepths branch) :: deeper

end

def isShallow (g : Glob) : Bool := (tokensDepths g).foldl max 0 + 1 ≤ nestBound

def anyByte : CharSet := .everything

def nameByte : CharSet := (CharSet.single '/').complement

/-- The bytes of a range: the ends in full, and the bytes between the last one of its start and the
first one of its end. -/
def rangeSet (r : Char × Char) : CharSet :=
  if r.1 = r.2 then .ofChars (byteChars [r.1])
  else
    let a := byteChars [r.1]
    let b := byteChars [r.2]
    match a.getLast?, b.head? with
    | some l, some h => CharSet.union (.range l h) (.ofChars (a.dropLast ++ b.drop 1))
    | _, _ => []

mutual

def tokenRegex : GlobToken → Regex
  | .literal c => .text (byteChars [c])
  | .any => .set nameByte
  | .zeroOrMore => .star (.set nameByte)
  | .recursiveStart => .alt [.optional (.char '/'), .seq [.star (.set anyByte), .char '/']]
  | .recursiveEnd => .seq [.char '/', .star (.set anyByte)]
  | .recursiveMiddle => .alt [.char '/', .seq [.char '/', .star (.set anyByte), .char '/']]
  | .choice negated ranges =>
    let set := CharSet.ofList (ranges.map rangeSet)
    .set (if negated then set.complement else set)
  | .alternatives branches =>
    let options := branchRegexes branches
    if options.isEmpty then .empty else .alt options

def tokensRegex : List GlobToken → List Regex
  | [] => []
  | t :: rest => tokenRegex t :: tokensRegex rest

def branchRegexes : List (List GlobToken) → List Regex
  | [] => []
  | branch :: rest =>
    let others := branchRegexes rest
    if isVoidBranch branch then others else .seq (tokensRegex branch) :: others

end

def regex (g : Glob) : Regex :=
  let body :=
    match g with
    | [.recursiveStart] => .star (.set anyByte)
    | _ => .seq (tokensRegex g)
  .seq [.look .textStart, body, .look .textEnd]

def isMatch (g : Glob) (path : OsText) : Bool := g.regex.isMatch (charsOf path.bytes)

end Glob

end MetaLint
