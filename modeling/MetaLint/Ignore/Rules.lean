import MetaLint.Ignore.Glob
import MetaLint.Text.Basic

/-!
# Ignore rules

A file of rules has one glob per line. A rule may hold for directories only, and a rule with an
exclamation mark takes back what earlier rules ignore: the last rule that matches decides. A glob
without a separator before its end matches at any depth. Lines that write no glob are left out, and
a glob that nests too deep makes a whole file count for nothing.
-/

set_option autoImplicit false

namespace MetaLint

structure IgnoreRule where
  glob : Glob
  keeps : Bool := false
  directoriesOnly : Bool := false
  deriving Repr, Inhabited

inductive Verdict
  | ignored
  | kept
  deriving Repr, DecidableEq

namespace IgnoreRule

/-- A line without blanks at its end, unless the last one is escaped. -/
def trimLine (line : List Char) : List Char :=
  if (Text.stripTail ['\\', ' '] line).isSome then line else Text.dropWhileEnd Text.isBlank line

def front (line : List Char) : Bool × Bool × List Char :=
  match line with
  | '\\' :: '!' :: rest => (false, false, '!' :: rest)
  | '\\' :: '#' :: rest => (false, false, '#' :: rest)
  | '!' :: '/' :: rest => (true, true, rest)
  | '!' :: rest => (true, false, rest)
  | '/' :: rest => (false, true, rest)
  | line => (false, false, line)

def back (line : List Char) : Bool × List Char :=
  match line.reverse with
  | '/' :: '\\' :: before => (true, before.reverse)
  | '/' :: before => (true, before.reverse)
  | _ => (false, line)

def hasAnyDepth (text : List Char) : Bool :=
  ['*', '*', '/'].isPrefixOf text || text == ['*', '*']

/-- The glob's text: at any depth unless it holds a separator, and below a directory that it names
with two stars at its end. -/
def globText (bound : Bool) (text : List Char) : List Char :=
  let text :=
    if !bound && !text.contains '/' && !hasAnyDepth text then '*' :: '*' :: '/' :: text else text
  if (Text.stripTail ['/', '*', '*'] text).isSome then text ++ ['/', '*'] else text

def ofLine? (line : List Char) : Option IgnoreRule :=
  if line.head? == some '#' then none
  else
    let line := trimLine line
    if line.isEmpty then none
    else
      let (keeps, bound, rest) := front line
      let (directoriesOnly, text) := back rest
      (Glob.read? (globText bound text)).map fun glob => { glob, keeps, directoriesOnly }

def verdict (r : IgnoreRule) : Verdict := if r.keeps then .kept else .ignored

def applies (r : IgnoreRule) (path : OsText) (isDir : Bool) : Bool :=
  (isDir || !r.directoriesOnly) && r.glob.isMatch path

end IgnoreRule

abbrev IgnoreRules := List IgnoreRule

namespace IgnoreRules

/-- What the rules say of a path, which is relative to the directory of their file. -/
def verdict? (rules : IgnoreRules) (path : OsText) (isDir : Bool) : Option Verdict :=
  (rules.find? (·.applies path isDir)).map IgnoreRule.verdict

def endedLine : List UInt8 → List UInt8
  | 13 :: line => line.reverse
  | line => line.reverse

def byteLines (line : List UInt8) : List UInt8 → List (List UInt8)
  | [] => if line.isEmpty then [] else [line.reverse]
  | b :: rest => if b == 10 then endedLine line :: byteLines [] rest else byteLines (b :: line) rest

def textLines (bytes : Text.Bytes) : List (List Char) :=
  let lines := (byteLines [] bytes).map Text.decode?
  let readable := (lines.takeWhile Option.isSome).filterMap id
  match readable with
  | first :: rest => first.dropWhile (· == Char.ofNat 0xFEFF) :: rest
  | [] => []

/-- The rules of a file. There are none if one of the globs nests too deep. -/
def ofBytes (bytes : Text.Bytes) : IgnoreRules :=
  let rules := (textLines bytes).filterMap IgnoreRule.ofLine?
  if rules.all (·.glob.isShallow) then rules.reverse else []

end IgnoreRules

end MetaLint
