/-!
# Shortest decimals of binary fractions

A finite binary fraction is `m · 2^q`. The decimals that read back as it fill an interval around it,
ends included when `m` is even. The shortest decimal is the one with the fewest digits in that
interval, and of those the nearest; numbers of digits are tried in turn, and on each decimal grid
only the two neighbours of the fraction.
-/

set_option autoImplicit false

namespace MetaLint.Decimal

structure Scaled where
  digits : Nat
  exponent : Int
  deriving Repr, DecidableEq

/-- The fraction `m · 2^q`, and whether the next smaller one is only half as far as the next larger
one. -/
structure Binary where
  m : Nat
  q : Int
  narrowBelow : Bool
  deriving Repr, DecidableEq

/-- The finite fraction with these 64 bits, its sign aside; nothing for infinity and NaN. -/
def Binary.ofBits? (bits : UInt64) : Option Binary :=
  let biased : Nat := (bits.toNat / Nat.pow 2 52) % 2048
  let fraction : Nat := bits.toNat % Nat.pow 2 52
  if biased = 2047 then none
  else if biased = 0 then some ⟨fraction, -1074, false⟩
  else some ⟨Nat.pow 2 52 + fraction, (biased : Int) - 1075, fraction = 0 && biased != 1⟩

def Binary.isWhole (b : Binary) : Bool := 0 ≤ b.q || b.m % Nat.pow 2 (-b.q).toNat == 0

/-- `a · b^e` over `c · b^e'` as a pair of naturals, where only one of the exponents is positive. -/
def scale (b : Nat) (e : Int) (pair : Nat × Nat) : Nat × Nat :=
  if 0 ≤ e then (pair.1 * b.pow e.toNat, pair.2) else (pair.1, pair.2 * b.pow (-e).toNat)

/-- The least `j` from `start` on with `den ≤ num · 10^j`, within `fuel` steps. -/
def raise (num den : Nat) : Nat → Nat → Nat
  | 0, j => j
  | fuel + 1, j => if den ≤ num * Nat.pow 10 j then j else raise num den fuel (j + 1)

def leadingExponent (num den : Nat) : Int :=
  if den ≤ num then ((Nat.toDigits 10 (num / den)).length : Int) - 1
  else -((raise num den 400 1 : Nat) : Int)

/-- Whether the decimal `digits · 10^g` reads back as `b`. Everything is compared in quarters of the
distance between fractions. -/
def readsBack (b : Binary) (digits : Nat) (g : Int) : Bool :=
  let low := scale 2 (b.q - 2) (4 * b.m - (if b.narrowBelow then 1 else 2), 1)
  let high := scale 2 (b.q - 2) (4 * b.m + 2, 1)
  let d := scale 10 g (digits, 1)
  if b.m % 2 = 0 then low.1 * d.2 ≤ d.1 * low.2 && d.1 * high.2 ≤ high.1 * d.2
  else low.1 * d.2 < d.1 * low.2 && d.1 * high.2 < high.1 * d.2

def onGrid? (b : Binary) (lead : Int) (n : Nat) : Option Scaled :=
  let g := lead + 1 - n
  let v := scale 2 b.q (1 * b.m, 1)
  let u := scale 10 (-g) v
  let below := u.1 / u.2
  let lowHit := readsBack b below g
  let highHit := readsBack b (below + 1) g
  let distLow := u.1 - below * u.2
  let distHigh := (below + 1) * u.2 - u.1
  match lowHit, highHit with
  | true, true =>
    if distLow < distHigh || (distLow = distHigh && below % 2 = 0) then some ⟨below, g⟩
    else some ⟨below + 1, g⟩
  | true, false => some ⟨below, g⟩
  | false, true => some ⟨below + 1, g⟩
  | false, false => none

def shortest (b : Binary) : Scaled :=
  let v := scale 2 b.q (b.m, 1)
  let lead := leadingExponent v.1 v.2
  ((List.range 17).findSome? fun n => onGrid? b lead (n + 1)).getD ⟨0, 0⟩

def Scaled.normal : Nat → Scaled → Scaled
  | 0, d => d
  | fuel + 1, d =>
    if d.digits != 0 && d.digits % 10 = 0 then normal fuel ⟨d.digits / 10, d.exponent + 1⟩ else d

end MetaLint.Decimal
