/-!
# Sets of characters

A set of characters is a list of closed ranges of code points. The operations below take and give
lists in ascending order whose ranges neither overlap nor touch. Surrogates are no characters: a
range that ends before them is followed by one that starts after them.
-/

set_option autoImplicit false

namespace MetaLint.Unicode

abbrev CharSet := List (Nat × Nat)

namespace CharSet

def holdsCode (s : CharSet) (n : Nat) : Bool := s.any fun r => r.1 ≤ n && n ≤ r.2

def holds (s : CharSet) (c : Char) : Bool := s.holdsCode c.toNat

def lastCode : Nat := 0x10FFFF

def next (n : Nat) : Nat := if n = 0xD7FF then 0xE000 else n + 1

def previous (n : Nat) : Nat := if n = 0xE000 then 0xD7FF else n - 1

/-- The ranges in order, those that overlap or touch made one; `first` and `last` is the range that
is still growing. -/
def mergeFrom (first last : Nat) : CharSet → CharSet
  | [] => [(first, last)]
  | (a, b) :: rest =>
    if a ≤ last + 1 then mergeFrom first (max last b) rest
    else (first, last) :: mergeFrom a b rest

def merged : CharSet → CharSet
  | [] => []
  | (a, b) :: rest => mergeFrom a b rest

def ofRanges (ranges : List (Nat × Nat)) : CharSet :=
  merged (ranges.mergeSort fun r t => if r.1 = t.1 then r.2 ≤ t.2 else r.1 ≤ t.1)

def range (first last : Char) : CharSet := [(first.toNat, last.toNat)]

def single (c : Char) : CharSet := range c c

def ofChars (cs : List Char) : CharSet := ofRanges (cs.map fun c => (c.toNat, c.toNat))

def everything : CharSet := [(0, lastCode)]

def ascii : CharSet := [(0, 0x7F)]

def union (s t : CharSet) : CharSet := ofRanges (s ++ t)

def ofList (sets : List CharSet) : CharSet := ofRanges sets.flatten

def inter : CharSet → CharSet → CharSet
  | [], _ => []
  | _ :: _, [] => []
  | (a, b) :: s, (c, d) :: t =>
    let rest := if b < d then inter s ((c, d) :: t) else inter ((a, b) :: s) t
    if max a c ≤ min b d then (max a c, min b d) :: rest else rest
termination_by s t => s.length + t.length

def diff : CharSet → CharSet → CharSet
  | [], _ => []
  | r :: s, [] => r :: s
  | (a, b) :: s, (c, d) :: t =>
    if d < a then diff ((a, b) :: s) t
    else if b < c then (a, b) :: diff s ((c, d) :: t)
    else
      let rest := if d < b then diff ((next d, b) :: s) t else diff s ((c, d) :: t)
      if a < c then (a, previous c) :: rest else rest
termination_by s t => s.length + t.length

def symDiff (s t : CharSet) : CharSet := (s.union t).diff (s.inter t)

def gapsAfter (last : Nat) : CharSet → CharSet
  | [] => if last < lastCode then [(next last, lastCode)] else []
  | (a, b) :: rest =>
    (min (next last) (previous a), max (next last) (previous a)) :: gapsAfter b rest

/-- The characters outside a set. Where two ranges are parted by the surrogates alone, the
characters on both sides of them count as outside. -/
def complement : CharSet → CharSet
  | [] => everything
  | (a, b) :: rest => if 0 < a then (0, previous a) :: gapsAfter b rest else gapsAfter b rest

def isAscii (s : CharSet) : Bool := List.all s fun r => r.2 < 128

def onlyMember? : CharSet → Option Char
  | [(a, b)] => if a = b then some (Char.ofNat a) else none
  | _ => none

def asciiDigit : CharSet := range '0' '9'

def asciiLetter : CharSet := [(0x41, 0x5A), (0x61, 0x7A)]

def asciiWord : CharSet := [(0x30, 0x39), (0x41, 0x5A), (0x5F, 0x5F), (0x61, 0x7A)]

def asciiBlank : CharSet := [(0x9, 0xD), (0x20, 0x20)]

theorem holds_iff (s : CharSet) (c : Char) :
    s.holds c = true ↔ ∃ r ∈ s, r.1 ≤ c.toNat ∧ c.toNat ≤ r.2 := by
  simp [holds, holdsCode]

@[simp] theorem holds_range (first last c : Char) :
    (range first last).holds c = (decide (first ≤ c) && decide (c ≤ last)) := by
  simp only [range, holds, holdsCode, List.any_cons, List.any_nil, Bool.or_false]
  rfl

@[simp] theorem holds_single (a c : Char) : (single a).holds c = true ↔ c = a := by
  simp only [single, holds_range, Bool.and_eq_true, decide_eq_true_eq]
  constructor
  · intro ⟨h₁, h₂⟩
    exact Char.le_antisymm h₂ h₁
  · rintro rfl
    exact ⟨Char.le_refl _, Char.le_refl _⟩

end CharSet

end MetaLint.Unicode
