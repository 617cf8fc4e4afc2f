import MetaLint.Unicode.Fold
import MetaLint.Unicode.Letter

/-!
# Regular expressions and their matches

An expression is laid over a text, which turns every character set and every condition into the set
of places where it holds. Matching then works on sets of places: from the places where a match may
end to those where one can start. A set of places is a number whose bit `p` tells about the place
before character `p`.
-/

set_option autoImplicit false

namespace MetaLint.Pattern

open Unicode (CharSet)

/-- Conditions on a place between two characters. Word characters are those of ASCII alone where
`ascii` is set. -/
inductive Look
  | textStart
  | textEnd
  | lineStart
  | lineEnd
  | crlfLineStart
  | crlfLineEnd
  | boundary (ascii : Bool)
  | notBoundary (ascii : Bool)
  | wordStart (ascii : Bool)
  | wordEnd (ascii : Bool)
  | wordStartHalf (ascii : Bool)
  | wordEndHalf (ascii : Bool)
  deriving Repr, DecidableEq, Inhabited

def isWordSide (ascii : Bool) (c : Option Char) : Bool :=
  c.elim false fun c => if ascii then Unicode.isAsciiWord c else Unicode.isWord c

def Look.holds : Look → Option Char → Option Char → Bool
  | textStart, before, _ => before.isNone
  | textEnd, _, after => after.isNone
  | lineStart, before, _ => before.isNone || before == some '\n'
  | lineEnd, _, after => after.isNone || after == some '\n'
  | crlfLineStart, before, after =>
    before.isNone || before == some '\n' || (before == some '\r' && after != some '\n')
  | crlfLineEnd, before, after =>
    after.isNone || after == some '\r' || (after == some '\n' && before != some '\r')
  | boundary a, before, after => isWordSide a before != isWordSide a after
  | notBoundary a, before, after => isWordSide a before == isWordSide a after
  | wordStart a, before, after => !isWordSide a before && isWordSide a after
  | wordEnd a, before, after => isWordSide a before && !isWordSide a after
  | wordStartHalf a, before, _ => !isWordSide a before
  | wordEndHalf a, _, after => !isWordSide a after

inductive Regex
  | empty
  | text (cs : List Char)
  | set (s : CharSet)
  | look (l : Look)
  /-- At least `least` times `r`, and no more than `most` times if there is such a bound. Greed
  prefers more rounds to fewer, which does not change where a match can start. -/
  | times (r : Regex) (least : Nat) (most : Option Nat) (greedy : Bool)
  | captured (r : Regex)
  | seq (rs : List Regex)
  | alt (rs : List Regex)
  deriving Repr, Inhabited

namespace Regex

def never : Regex := .set []

def word (text : String) : Regex := .text text.toList

def char (c : Char) : Regex := .text [c]

def star (r : Regex) : Regex := .times r 0 none true

def plus (r : Regex) : Regex := .times r 1 none true

def optional (r : Regex) : Regex := .times r 0 (some 1) true

mutual

def onlyEmpty : Regex → Bool
  | empty => true
  | text cs => cs.isEmpty
  | set _ => false
  | look _ => true
  | times r _ most _ => r.onlyEmpty || most == some 0
  | captured r => r.onlyEmpty
  | seq rs => allOnlyEmpty rs
  | alt rs => allOnlyEmpty rs

def allOnlyEmpty : List Regex → Bool
  | [] => true
  | r :: rest => r.onlyEmpty && allOnlyEmpty rest

end

end Regex

/-! ## Places -/

def marks (holds : Option Char → Option Char → Bool) (before : Option Char) : List Char → Nat
  | [] => (holds before none).toNat
  | c :: rest => (holds before (some c)).toNat + 2 * marks holds (some c) rest

def marksBefore (s : CharSet) (text : List Char) : Nat :=
  marks (fun _ after => after.elim false s.holds) none text

def allPlaces (n : Nat) : Nat := Nat.pow 2 (n + 1) - 1

/-- An expression laid over a text. -/
inductive Plan
  | stay (places : Nat)
  | pass (places : Nat)
  | seq (a b : Plan)
  | alt (a b : Plan)
  | times (p : Plan) (least : Nat) (extra : Nat)
  deriving Repr, Inhabited

def Plan.anywhere (text : List Char) : Plan := .stay (allPlaces text.length)

def Plan.ofText (text : List Char) : List Char → Plan
  | [] => .anywhere text
  | [c] => .pass (marksBefore (.single c) text)
  | c :: rest => .seq (.pass (marksBefore (.single c) text)) (ofText text rest)

mutual

/-- Lays an expression over a text. More rounds than the text has places add nothing to an
unbounded repetition, and a second round of empty matches adds nothing to the first. -/
def Regex.plan (text : List Char) : Regex → Plan
  | .empty => .anywhere text
  | .text cs => .ofText text cs
  | .set s => .pass (marksBefore s text)
  | .look l => .stay (marks l.holds none text)
  | .times r least most _ =>
    let least' := if r.onlyEmpty then min least 1 else least
    .times (r.plan text) least' (most.elim (text.length + 1) (· - least))
  | .captured r => r.plan text
  | .seq rs => Regex.planSeq text rs
  | .alt rs => Regex.planAlt text rs

def Regex.planSeq (text : List Char) : List Regex → Plan
  | [] => .anywhere text
  | r :: rest => .seq (r.plan text) (Regex.planSeq text rest)

def Regex.planAlt (text : List Char) : List Regex → Plan
  | [] => .stay 0
  | r :: rest => .alt (r.plan text) (Regex.planAlt text rest)

end

def rounds (step : Nat → Nat) : Nat → Nat → Nat
  | 0, places => places
  | n + 1, places => rounds step n (step places)

def reach (step : Nat → Nat) (ends : Nat) : Nat → Nat → Nat
  | 0, places => places
  | n + 1, places =>
    let wider := ends ||| step places
    if wider = places then places else reach step ends n wider

def Plan.starts : Plan → Nat → Nat
  | stay places, ends => ends &&& places
  | pass places, ends => (ends >>> 1) &&& places
  | seq a b, ends => a.starts (b.starts ends)
  | alt a b, ends => a.starts ends ||| b.starts ends
  | times p least extra, ends => rounds p.starts least (reach p.starts ends extra ends)

namespace Regex

def starts (r : Regex) (text : List Char) : Nat := (r.plan text).starts (allPlaces text.length)

def isMatch (r : Regex) (text : List Char) : Bool := r.starts text != 0

def firstStart? (r : Regex) (text : List Char) : Option Nat :=
  let places := r.starts text
  if places = 0 then none else (List.range (text.length + 1)).find? places.testBit

theorem firstStart?_le {r : Regex} {text : List Char} {p : Nat}
    (h : r.firstStart? text = some p) : p ≤ text.length := by
  simp only [firstStart?] at h
  split at h
  · simp at h
  · have := List.mem_of_find?_eq_some h
    simp only [List.mem_range] at this
    omega

end Regex

end MetaLint.Pattern
