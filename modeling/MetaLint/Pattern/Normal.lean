import MetaLint.Pattern.Regex
import MetaLint.Unicode.CharSet

/-!
# Normal forms and byte spellings

An expression in normal form has no empty parts in its sequences and no sequence in a sequence, puts
neighbouring characters together, writes a choice of characters as a set, and puts what all options
of a choice start with in front of it. It matches as the expression does.

A range of characters is spelled by sequences of byte ranges: a character is in the range when the
bytes of its UTF-8 form lie in the ranges of one sequence, place by place.
-/

set_option autoImplicit false

namespace MetaLint.Pattern.Regex

open Unicode (CharSet)

/-! ## Sameness -/

mutual

def same : Regex → Regex → Bool
  | empty, empty => true
  | text cs, text ds => cs == ds
  | set s, set t => s == t
  | look l, look m => l == m
  | times r l m g, times r' l' m' g' => r.same r' && l == l' && m == m' && g == g'
  | seq rs, seq rs' => sameAll rs rs'
  | alt rs, alt rs' => sameAll rs rs'
  | _, _ => false

def sameAll : List Regex → List Regex → Bool
  | [], [] => true
  | r :: rs, r' :: rs' => r.same r' && sameAll rs rs'
  | _, _ => false

end

/-! ## Construction -/

def ofSet (s : CharSet) : Regex :=
  match s.onlyMember? with
  | some c => .text [c]
  | none => .set s

def repeated (r : Regex) (least : Nat) (most : Option Nat) (greedy : Bool) : Regex :=
  let (least, most) :=
    if r.onlyEmpty then (min least 1, some (min (most.getD 1) 1)) else (least, most)
  if least = 0 && most == some 0 then .empty
  else if least = 1 && most == some 1 then r
  else .times r least most greedy

def parts : Regex → List Regex
  | empty => []
  | seq rs => rs
  | r => [r]

def fuse : List Regex → List Regex
  | [] => []
  | r :: rest =>
    match r, fuse rest with
    | .text cs, .text ds :: more => .text (cs ++ ds) :: more
    | r, more => r :: more

def sequence (rs : List Regex) : Regex :=
  match fuse (rs.flatMap parts) with
  | [] => .empty
  | [r] => r
  | rs => .seq rs

def options : Regex → List Regex
  | alt rs => rs
  | r => [r]

def character? : Regex → Option Char
  | text [c] => some c
  | _ => none

def set? : Regex → Option CharSet
  | set s => some s
  | _ => none

def choice (rs : List Regex) : Regex :=
  match rs with
  | [] => never
  | [r] => r
  | rs =>
    match rs.mapM character?, rs.mapM set? with
    | some cs, _ => ofSet (CharSet.ofChars cs)
    | none, some sets => ofSet (CharSet.ofList sets)
    | none, none => .alt rs

def sequence? : Regex → Option (List Regex)
  | seq rs => some rs
  | _ => none

def common : List Regex → List Regex → Nat
  | r :: rs, r' :: rs' => if r.same r' then common rs rs' + 1 else 0
  | _, _ => 0

def commonAll : List (List Regex) → Nat
  | [] => 0
  | first :: rest => rest.foldl (fun n rs => min n (common first rs)) first.length

def oneOf (rs : List Regex) : Regex :=
  let rs := rs.flatMap options
  match rs.mapM sequence? with
  | some (first :: second :: more) =>
    let all := first :: second :: more
    let n := commonAll all
    if n = 0 then choice rs
    else
      let tails := (all.map fun rs => sequence (rs.drop n)).flatMap options
      sequence (first.take n ++ [choice tails])
  | _ => choice rs

mutual

def normal : Regex → Regex
  | empty => .empty
  | text cs => if cs.isEmpty then .empty else .text cs
  | set s => ofSet s
  | look l => .look l
  | times r least most greedy => repeated r.normal least most greedy
  | captured r => .captured r.normal
  | seq rs => sequence (normalAll rs)
  | alt rs => oneOf (normalAll rs)

def normalAll : List Regex → List Regex
  | [] => []
  | r :: rest => r.normal :: normalAll rest

end

end MetaLint.Pattern.Regex

namespace MetaLint.Pattern

open Unicode (CharSet)

abbrev ByteRange := Nat × Nat

def codeBytes (n : Nat) : List Nat :=
  if n < 0x80 then [n]
  else if n < 0x800 then [0xC0 + n / 64, 0x80 + n % 64]
  else if n < 0x10000 then [0xE0 + n / 4096, 0x80 + n / 64 % 64, 0x80 + n % 64]
  else [0xF0 + n / 262144, 0x80 + n / 4096 % 64, 0x80 + n / 64 % 64, 0x80 + n % 64]

/-- The code points of characters, parted by the number of their bytes and by the surrogates. -/
def zones : List (Nat × Nat) :=
  [(0, 0x7F), (0x80, 0x7FF), (0x800, 0xD7FF), (0xE000, 0xFFFF), (0x10000, 0x10FFFF)]

/-- A range cut at multiples of the sizes, so that each piece has either one start or whole blocks
for every size. -/
def blocks : List Nat → Nat → Nat → List (Nat × Nat)
  | [], a, b => [(a, b)]
  | size :: larger, a, b =>
    if a / size = b / size then [(a, b)]
    else
      let start := if a % size = 0 then a else (a / size + 1) * size
      let stop := if b % size = size - 1 then b else b / size * size - 1
      let front := if a % size = 0 then [] else [(a, start - 1)]
      let back := if b % size = size - 1 then [] else [(stop + 1, b)]
      front ++ (if start ≤ stop then blocks larger start stop else []) ++ back

def rangeSpellings (r : Nat × Nat) : List (List ByteRange) :=
  zones.flatMap fun zone =>
    let a := max r.1 zone.1
    let b := min r.2 zone.2
    if b < a then []
    else if b < 0x80 then [[(a, b)]]
    else
      (blocks [64, 4096, 262144] a b).map fun piece => (codeBytes piece.1).zip (codeBytes piece.2)

def spellings (s : CharSet) : List (List ByteRange) := s.flatMap rangeSpellings

end MetaLint.Pattern
