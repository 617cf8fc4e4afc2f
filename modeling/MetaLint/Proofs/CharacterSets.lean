import MetaLint.Unicode.CharSet

/-!
# Members of character sets

Putting the ranges of a set in order and making one of those that touch leaves its members as they
are. A set is also a number whose bits are its members, so that arithmetic compares large sets.
-/

set_option autoImplicit false

namespace MetaLint.Unicode.CharSet

/-! ## Ranges in order -/

def startsFirst (r t : Nat × Nat) : Bool := if r.1 = t.1 then r.2 ≤ t.2 else r.1 ≤ t.1

theorem startsFirst_iff {r t : Nat × Nat} :
    startsFirst r t = true ↔ r.1 < t.1 ∨ r.1 = t.1 ∧ r.2 ≤ t.2 := by
  rw [startsFirst]
  split <;> simp only [decide_eq_true_eq] <;> omega

section Members
variable {n : Nat}

theorem holdsCode_cons {r : Nat × Nat} {s : CharSet} :
    holdsCode (r :: s) n = true ↔ (r.1 ≤ n ∧ n ≤ r.2) ∨ s.holdsCode n = true := by
  simp [holdsCode]

theorem holdsCode_mergeFrom {first last : Nat} {s : CharSet}
    (hs : ((first, last) :: s).Pairwise fun r t => r.1 ≤ t.1) :
    (mergeFrom first last s).holdsCode n = true ↔
      (first ≤ n ∧ n ≤ last) ∨ s.holdsCode n = true := by
  induction s generalizing first last with
  | nil => simp [mergeFrom, holdsCode]
  | cons r s ih =>
    obtain ⟨a, b⟩ := r
    obtain ⟨hfirst, hrest⟩ := List.pairwise_cons.mp hs
    have hle : first ≤ a := hfirst (a, b) List.mem_cons_self
    rw [mergeFrom]
    split
    next htouch =>
      have hwider : ((first, max last b) :: s).Pairwise fun r t => r.1 ≤ t.1 :=
        List.pairwise_cons.mpr ⟨fun t ht => hfirst t (List.mem_cons_of_mem _ ht),
          (List.pairwise_cons.mp hrest).2⟩
      have hrange : (first ≤ n ∧ n ≤ max last b) ↔ (first ≤ n ∧ n ≤ last) ∨ (a ≤ n ∧ n ≤ b) := by
        omega
      rw [ih hwider, holdsCode_cons, hrange, or_assoc]
    next => rw [holdsCode_cons, ih hrest, holdsCode_cons]

theorem holdsCode_merged {s : CharSet} (hs : s.Pairwise fun r t => r.1 ≤ t.1) :
    (merged s).holdsCode n = s.holdsCode n := by
  cases s with
  | nil => rfl
  | cons r s => rw [Bool.eq_iff_iff, merged, holdsCode_mergeFrom hs, holdsCode_cons]

theorem holdsCode_ofRanges (ranges : List (Nat × Nat)) :
    (ofRanges ranges).holdsCode n = holdsCode ranges n := by
  have hsorted : (ranges.mergeSort startsFirst).Pairwise fun r t => r.1 ≤ t.1 := by
    have htrans : ∀ r t u, startsFirst r t → startsFirst t u → startsFirst r u := by
      intro r t u
      simp only [startsFirst_iff]
      omega
    have htotal : ∀ r t, (startsFirst r t || startsFirst t r) = true := by
      intro r t
      rw [Bool.or_eq_true, startsFirst_iff, startsFirst_iff]
      omega
    refine (List.pairwise_mergeSort htrans htotal ranges).imp fun {r t} h => ?_
    rcases startsFirst_iff.mp h with hlt | ⟨heq, -⟩
    · exact Nat.le_of_lt hlt
    · exact Nat.le_of_eq heq
  show (merged (ranges.mergeSort startsFirst)).holdsCode n = _
  rw [holdsCode_merged hsorted]
  exact (List.mergeSort_perm ranges startsFirst).any_eq

theorem holdsCode_append (s t : CharSet) :
    holdsCode (s ++ t) n = (s.holdsCode n || t.holdsCode n) :=
  List.any_append

theorem holdsCode_flatten (sets : List CharSet) :
    holdsCode sets.flatten n = sets.any fun s => s.holdsCode n :=
  List.any_flatten

theorem holdsCode_flatMap {α : Type} (all : List α) (set : α → CharSet) :
    holdsCode (all.flatMap set) n = all.any fun a => (set a).holdsCode n :=
  List.any_flatMap

theorem holdsCode_ofList (sets : List CharSet) :
    (ofList sets).holdsCode n = sets.any fun s => s.holdsCode n := by
  rw [ofList, holdsCode_ofRanges, holdsCode_flatten]

def upTo (last : Nat) (s : CharSet) : CharSet := s.filter fun r => r.1 ≤ last

theorem holdsCode_upTo {last : Nat} {s : CharSet} (h : n ≤ last) :
    (s.upTo last).holdsCode n = s.holdsCode n := by
  rw [upTo, holdsCode, List.any_filter, holdsCode]
  refine congrArg (List.any s) (funext fun r => ?_)
  rw [Bool.eq_iff_iff, Bool.and_eq_true, Bool.and_eq_true, decide_eq_true_eq, decide_eq_true_eq]
  exact and_iff_right_of_imp fun hr => Nat.le_trans hr.1 h

theorem holdsCode_of_upTo {last : Nat} {s : CharSet} (h : (s.upTo last).holdsCode n = true) :
    s.holdsCode n = true := by
  obtain ⟨r, hr, hn⟩ := List.any_eq_true.mp h
  exact List.any_eq_true.mpr ⟨r, (List.mem_filter.mp hr).1, hn⟩

def points (codes : List Nat) : CharSet := codes.map fun n => (n, n)

theorem holdsCode_points {codes : List Nat} : (points codes).holdsCode n = true ↔ n ∈ codes := by
  simp only [points, holdsCode, List.any_map, List.any_eq_true, Function.comp, Bool.and_eq_true,
    decide_eq_true_eq, ← Nat.le_antisymm_iff, exists_eq_right]

end Members

/-! ## Sets as numbers -/

/-- The number whose bit `n` tells whether the set has the code point `n`. -/
def bits : CharSet → Nat
  | [] => 0
  | (a, b) :: rest => ((1 <<< (b + 1 - a) - 1) <<< a) ||| bits rest

theorem testBit_bits (s : CharSet) (n : Nat) : s.bits.testBit n = s.holdsCode n := by
  induction s with
  | nil => simp [bits, holdsCode]
  | cons r s ih =>
    obtain ⟨a, b⟩ := r
    have hrange : (a ≤ n ∧ n - a < b + 1 - a) ↔ (a ≤ n ∧ n ≤ b) := by omega
    rw [Bool.eq_iff_iff, bits, Nat.testBit_or, ih, holdsCode_cons, Nat.testBit_shiftLeft,
      Nat.one_shiftLeft, Nat.testBit_two_pow_sub_one]
    simp [hrange]

section Bits
variable {s t : CharSet} {n : Nat}

theorem holdsCode_of_bits_or (h : s.bits ||| t.bits = s.bits) (hn : t.holdsCode n = true) :
    s.holdsCode n = true := by
  rw [← testBit_bits, ← h, Nat.testBit_or, testBit_bits t, hn, Bool.or_true]

theorem holdsCode_of_bits_and (h : s.bits &&& t.bits = 0) (hn : t.holdsCode n = true) :
    s.holdsCode n = false := by
  have hbit : (s.bits &&& t.bits).testBit n = false := by rw [h, Nat.zero_testBit]
  rwa [Nat.testBit_and, testBit_bits, testBit_bits, hn, Bool.and_true] at hbit

theorem holdsCode_of_bits_mod {k : Nat} (h : s.bits % (1 <<< k) = t.bits) (hn : n < k) :
    s.holdsCode n = t.holdsCode n := by
  rw [← testBit_bits t, ← h, Nat.one_shiftLeft, Nat.testBit_mod_two_pow, decide_eq_true hn,
    Bool.true_and, testBit_bits]

end Bits

end MetaLint.Unicode.CharSet
