import MetaLint.Unicode.Letter

/-!
# Texts

The characters with the White_Space property, ASCII digits and the numbers they write, lines, and
texts between double quotes as messages show them.

A line feed ends a line, and a carriage return right before it belongs to the line end. A text that
ends in a line feed has no further line after it; other carriage returns are ordinary characters.
-/

set_option autoImplicit false

namespace MetaLint.Text

def isBlank (c : Char) : Bool :=
  let n := c.toNat
  n == 0x20 || (0x9 ≤ n && n ≤ 0xD) || n == 0x85 || n == 0xA0 || n == 0x1680 ||
    (0x2000 ≤ n && n ≤ 0x200A) || n == 0x2028 || n == 0x2029 || n == 0x202F || n == 0x205F ||
    n == 0x3000

def allBlank (cs : List Char) : Bool := cs.all isBlank

def dropWhileEnd (p : Char → Bool) (cs : List Char) : List Char :=
  (cs.reverse.dropWhile p).reverse

def isDigit (a : Char) : Bool := '0' ≤ a && a ≤ '9'

def digitValue (a : Char) : Nat := a.toNat - '0'.toNat

def hexValue? (a : Char) : Option Nat :=
  if '0' ≤ a && a ≤ '9' then some (a.toNat - '0'.toNat)
  else if 'a' ≤ a && a ≤ 'f' then some (a.toNat - 'a'.toNat + 10)
  else if 'A' ≤ a && a ≤ 'F' then some (a.toNat - 'A'.toNat + 10)
  else none

def isHexDigit (a : Char) : Bool := (hexValue? a).isSome

def numberOf (base : Nat) (digits : List Char) : Nat :=
  digits.foldl (fun n a => n * base + (hexValue? a).getD 0) 0

def charOfCode? (n : Nat) : Option Char :=
  if n < 0xD800 || (0xDFFF < n && n < 0x110000) then some (Char.ofNat n) else none

/-- The line whose characters were collected in reverse, without the carriage return at its end. -/
def endedLine : List Char → List Char
  | '\r' :: line => line.reverse
  | line => line.reverse

/-- The lines of `line.reverse ++ text`, where `line` holds the line read so far in reverse. -/
def linesFrom (line : List Char) : List Char → List (List Char)
  | [] => if line.isEmpty then [] else [line.reverse]
  | c :: rest =>
    if c = '\n' then endedLine line :: linesFrom [] rest else linesFrom (c :: line) rest

def lines (text : List Char) : List (List Char) := linesFrom [] text

def numberedFrom {α : Type} (first : Nat) : List α → List (Nat × α)
  | [] => []
  | a :: rest => (first, a) :: numberedFrom (first + 1) rest

def numberedLines (text : List Char) : List (Nat × List Char) := numberedFrom 1 (lines text)

def contains (needle text : List Char) : Bool :=
  match text with
  | [] => needle.isEmpty
  | _ :: rest => needle.isPrefixOf text || contains needle rest

def splitOnce (c : Char) : List Char → Option (List Char × List Char)
  | [] => none
  | a :: rest =>
    if a = c then some ([], rest)
    else (splitOnce c rest).map fun (before, after) => (a :: before, after)

def stripTail (tail text : List Char) : Option (List Char) :=
  (List.isPrefixOf? tail.reverse text.reverse).map List.reverse

def padLeft (width : Nat) (text : String) : String :=
  String.ofList (List.replicate (width - text.length) ' ') ++ text

def padRight (width : Nat) (text : String) : String :=
  text ++ String.ofList (List.replicate (width - text.length) ' ')

theorem endedLine_of_ne {c : Char} (h : c ≠ '\r') (front : List Char) :
    endedLine (c :: front) = (c :: front).reverse := by
  rw [endedLine.eq_def]
  split
  next heq => exact absurd (List.cons.inj heq).1 h
  next => rfl

theorem splitOnce_eq_some {c : Char} {text before after : List Char}
    (h : splitOnce c text = some (before, after)) : text = before ++ c :: after ∧ c ∉ before := by
  induction text generalizing before with
  | nil => simp [splitOnce] at h
  | cons a rest ih =>
    by_cases hc : a = c
    · simp [splitOnce, hc] at h
      obtain ⟨rfl, rfl⟩ := h
      simp [hc]
    · simp only [splitOnce, hc, if_false, Option.map_eq_some_iff] at h
      obtain ⟨⟨b, t⟩, hs, he⟩ := h
      simp only [Prod.mk.injEq] at he
      obtain ⟨rfl, rfl⟩ := he
      obtain ⟨rfl, hb⟩ := ih hs
      refine ⟨rfl, ?_⟩
      simp only [List.mem_cons, not_or]
      exact ⟨fun e => hc e.symm, hb⟩

theorem splitOnce_append {c : Char} {before : List Char} (h : c ∉ before) (after : List Char) :
    splitOnce c (before ++ c :: after) = some (before, after) := by
  induction before with
  | nil => simp [splitOnce]
  | cons a before ih =>
    obtain ⟨hne, hrest⟩ := not_or.mp (mt List.mem_cons.mpr h)
    rw [List.cons_append, splitOnce, if_neg (Ne.symm hne), ih hrest]
    rfl

def hexText (n : Nat) : List Char := Nat.toDigits 16 n

def quoteChar (c : Char) : List Char :=
  if c = '"' then ['\\', '"']
  else if c = '\\' then ['\\', '\\']
  else if c = '\n' then ['\\', 'n']
  else if c = '\r' then ['\\', 'r']
  else if c = '\t' then ['\\', 't']
  else if c.toNat = 0 then ['\\', '0']
  else if Unicode.showsItself c then [c]
  else ['\\', 'u', '\x7b'] ++ hexText c.toNat ++ ['\x7d']

def quote (s : String) : String := "\"" ++ String.ofList (s.toList.flatMap quoteChar) ++ "\""

end MetaLint.Text
