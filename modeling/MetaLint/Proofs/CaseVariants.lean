import Mathlib.Data.List.Pairwise
import MetaLint.Proofs.CharacterSets
import MetaLint.Proofs.DirectiveGrammar
import MetaLint.Unicode.Fold

/-!
# Case variants

The table of letters turns each letter that does not stand for itself into one that does, and no
letter into two. So two characters are the same up to case when they fold to the same letter, and
the variants of a character are the characters that are the same up to case.
-/

set_option autoImplicit false

namespace MetaLint.Unicode

open CharSet

/-! ## The table of letters -/

structure FoldRun.Has (r : FoldRun) (n : Nat) : Prop where
  first_le : r.first ≤ n
  le_last : n ≤ r.last
  stride : (n - r.first) % r.stride = 0

def Turns (n m : Nat) : Prop := ∃ r ∈ foldRuns, r.Has n ∧ r.image + (n - r.first) = m

namespace FoldRun

def turned (r : FoldRun) : CharSet :=
  if r.stride = 1 then [(r.first, r.last)] else points r.letters

def images (r : FoldRun) : CharSet :=
  if r.stride = 1 then [(r.image, r.image + (r.last - r.first))]
  else points (r.letters.map fun n => r.image + (n - r.first))

def Follows (r t : FoldRun) : Prop := r.last < t.first ∧ t.first ≤ t.last

/-- A run that is not empty, lies in ASCII as a whole or not at all, and turns its letters into
characters, on one side of the surrogates. -/
def Proper (r : FoldRun) : Prop :=
  r.first ≤ r.last ∧ (r = ⟨0x41, 0x5A, 1, 0x61⟩ ∨ 128 ≤ r.first) ∧
    (r.image + (r.last - r.first) < 0xD800 ∨
      0xE000 ≤ r.image ∧ r.image + (r.last - r.first) ≤ lastCode)

instance : DecidableRel Follows := fun _ _ => inferInstanceAs (Decidable (_ ∧ _))

instance : DecidablePred Proper := fun _ => inferInstanceAs (Decidable (_ ∧ _ ∧ _))

end FoldRun

def turned : CharSet := foldRuns.flatMap FoldRun.turned

def images : CharSet := foldRuns.flatMap FoldRun.images

/-- The runs stand in order, and no letter is turned that stands for another one. -/
theorem foldRuns_sound : foldRuns.IsChain FoldRun.Follows ∧ (∀ r ∈ foldRuns, r.Proper) ∧
    bits images &&& bits turned = 0 := by
  decide +kernel

section Table
variable {n m k : Nat} {r t : FoldRun}

theorem FoldRun.Has.mem_letters (h : r.Has n) : n ∈ r.letters := by
  have hlast := Nat.sub_le_sub_right h.le_last r.first
  have hstep := Nat.div_mul_cancel (Nat.dvd_of_mod_eq_zero h.stride)
  refine List.mem_map.mpr ⟨(n - r.first) / r.stride, List.mem_range.mpr ?_, ?_⟩
  · exact Nat.lt_succ_of_le (Nat.div_le_div_right hlast)
  · rw [hstep, Nat.add_sub_cancel' h.first_le]

theorem FoldRun.imageOf?_eq_some :
    r.imageOf? n = some m ↔ r.Has n ∧ r.image + (n - r.first) = m := by
  rw [imageOf?, Option.ite_none_right_eq_some, Bool.and_eq_true, Bool.and_eq_true,
    decide_eq_true_eq, decide_eq_true_eq, beq_iff_eq, Option.some_inj]
  exact and_congr_left fun _ => ⟨fun ⟨⟨h₁, h₂⟩, h₃⟩ => ⟨h₁, h₂, h₃⟩, fun h => ⟨⟨h.1, h.2⟩, h.3⟩⟩

theorem FoldRun.Has.unique (hr : r ∈ foldRuns) (ht : t ∈ foldRuns) (h : r.Has n) (h' : t.Has n) :
    r = t := by
  by_contra hne
  have : IsTrans FoldRun FoldRun.Follows :=
    ⟨fun _ _ _ h h' => ⟨Nat.lt_trans (Nat.lt_of_lt_of_le h.1 h.2) h'.1, h'.2⟩⟩
  have hapart : foldRuns.Pairwise fun r t => r.last < t.first ∨ t.last < r.first :=
    foldRuns_sound.1.pairwise.imp fun h => .inl h.1
  have : Std.Symm fun r t : FoldRun => r.last < t.first ∨ t.last < r.first :=
    ⟨fun _ _ => Or.symm⟩
  have hle := Nat.le_trans h.first_le h'.le_last
  have hle' := Nat.le_trans h'.first_le h.le_last
  rcases hapart.forall hr ht hne with hlt | hlt <;> omega

theorem Turns.unique (h : Turns n m) (h' : Turns n k) : m = k := by
  obtain ⟨r, hr, hhas, rfl⟩ := h
  obtain ⟨t, ht, hhas', rfl⟩ := h'
  rw [FoldRun.Has.unique hr ht hhas hhas']

theorem FoldRun.Has.holdsCode (h : r.Has n) : r.turned.holdsCode n = true ∧
    r.images.holdsCode (r.image + (n - r.first)) = true := by
  rw [FoldRun.turned, FoldRun.images]
  split
  · have hfirst := h.first_le
    have hlast := h.le_last
    have himage := Nat.sub_le_sub_right hlast r.first
    simp [CharSet.holdsCode, hfirst, hlast, himage]
  · exact ⟨holdsCode_points.mpr h.mem_letters,
      holdsCode_points.mpr (List.mem_map_of_mem h.mem_letters)⟩

theorem Turns.holdsCode (h : Turns n m) :
    turned.holdsCode n = true ∧ images.holdsCode m = true := by
  obtain ⟨r, hr, hhas, rfl⟩ := h
  obtain ⟨hletter, himage⟩ := hhas.holdsCode
  rw [turned, images, holdsCode_flatMap, holdsCode_flatMap]
  exact ⟨List.any_eq_true.mpr ⟨r, hr, hletter⟩, List.any_eq_true.mpr ⟨r, hr, himage⟩⟩

theorem Turns.settled (h : Turns n m) : ¬ Turns m k := by
  intro h'
  have hnot := holdsCode_of_bits_and foldRuns_sound.2.2 h'.holdsCode.1
  rw [h.holdsCode.2] at hnot
  contradiction

theorem Turns.isValidChar (h : Turns n m) : m.isValidChar := by
  obtain ⟨r, hr, hhas, rfl⟩ := h
  have hlast := Nat.sub_le_sub_right hhas.le_last r.first
  have hrange := (foldRuns_sound.2.1 r hr).2.2
  rw [Nat.isValidChar, lastCode] at *
  omega

/-! ## Folding -/

theorem foldCode_of_turns (h : Turns n m) : foldCode n = m := by
  cases hfind : foldRuns.findSome? (·.imageOf? n) with
  | none =>
    obtain ⟨r, hr, hhas, himage⟩ := h
    have hnone := List.findSome?_eq_none_iff.mp hfind r hr
    rw [FoldRun.imageOf?_eq_some.mpr ⟨hhas, himage⟩] at hnone
    contradiction
  | some k =>
    obtain ⟨r, hr, himage⟩ := List.exists_of_findSome?_eq_some hfind
    rw [foldCode, hfind, Option.getD_some]
    exact Turns.unique ⟨r, hr, FoldRun.imageOf?_eq_some.mp himage⟩ h

theorem turns_or_foldCode_eq (n : Nat) : Turns n (foldCode n) ∨ foldCode n = n := by
  cases hfind : foldRuns.findSome? (·.imageOf? n) with
  | none => exact .inr (by rw [foldCode, hfind, Option.getD_none])
  | some m =>
    obtain ⟨r, hr, himage⟩ := List.exists_of_findSome?_eq_some hfind
    have h : Turns n m := ⟨r, hr, FoldRun.imageOf?_eq_some.mp himage⟩
    rw [foldCode_of_turns h]
    exact .inl h

theorem foldCode_foldCode (n : Nat) : foldCode (foldCode n) = foldCode n := by
  rcases turns_or_foldCode_eq n with h | h
  · exact (turns_or_foldCode_eq (foldCode n)).resolve_left h.settled
  · rw [h, h]

theorem mem_preimage (hr : r ∈ foldRuns) :
    n ∈ r.preimage m ↔ r.Has n ∧ r.image + (n - r.first) = m := by
  rw [FoldRun.preimage, List.mem_ite_nil_right, Bool.and_eq_true, Bool.and_eq_true,
    decide_eq_true_eq, decide_eq_true_eq, beq_iff_eq, List.mem_singleton]
  constructor
  · rintro ⟨⟨⟨himage, hlast⟩, hstride⟩, rfl⟩
    have hrun := (foldRuns_sound.2.1 r hr).1
    refine ⟨⟨Nat.le_add_right _ _, by omega, ?_⟩, ?_⟩
    · rwa [Nat.add_sub_cancel_left]
    · rw [Nat.add_sub_cancel_left, Nat.add_sub_cancel' himage]
  · rintro ⟨⟨hfirst, hlast, hstride⟩, rfl⟩
    rw [Nat.add_sub_cancel_left]
    exact ⟨⟨⟨Nat.le_add_right _ _, Nat.sub_le_sub_right hlast _⟩, hstride⟩,
      (Nat.add_sub_cancel' hfirst).symm⟩

theorem mem_preimages : n ∈ foldRuns.flatMap (·.preimage m) ↔ Turns n m := by
  rw [List.mem_flatMap]
  exact exists_congr fun r => and_congr_right mem_preimage

theorem mem_caseVariants : m ∈ caseVariants n ↔ foldCode m = foldCode n := by
  rw [caseVariants, List.mem_cons, mem_preimages]
  constructor
  · rintro (rfl | h)
    · exact foldCode_foldCode n
    · exact foldCode_of_turns h
  · intro h
    rcases turns_or_foldCode_eq m with hturns | hself
    · exact .inr (h ▸ hturns)
    · exact .inl (hself.symm.trans h)

end Table

theorem toNat_toLower_eq_foldCode {c : Char} (h : c.toNat < 128) :
    c.toLower.toNat = foldCode c.toNat := by
  rw [Suppression.toNat_toLower]
  split
  next hupper =>
    have hturns : Turns c.toNat (0x61 + (c.toNat - 0x41)) :=
      ⟨⟨0x41, 0x5A, 1, 0x61⟩, List.mem_cons_self, ⟨hupper.1, hupper.2, Nat.mod_one _⟩, rfl⟩
    rw [foldCode_of_turns hturns]
    omega
  next hother =>
    refine ((turns_or_foldCode_eq c.toNat).resolve_left ?_).symm
    rintro ⟨r, hr, hhas, -⟩
    have hfirst := hhas.first_le
    rcases (foldRuns_sound.2.1 r hr).2.1 with rfl | hwide
    · exact hother ⟨hfirst, hhas.le_last⟩
    · omega

theorem toNat_fold (c : Char) : (fold c).toNat = foldCode c.toNat := by
  rw [fold]
  split
  next hascii => exact toNat_toLower_eq_foldCode hascii
  next =>
    rcases turns_or_foldCode_eq c.toNat with h | h
    · rw [Char.ofNat, dif_pos h.isValidChar]
      rfl
    · rw [h, Char.ofNat_toNat]

theorem sameFold_iff {a b : Char} : sameFold a b = true ↔ foldCode a.toNat = foldCode b.toNat := by
  rw [sameFold, beq_iff_eq, ← Char.toNat_inj, toNat_fold, toNat_fold]

/-- A set of one character has all its case variants when case does not matter, and no others. -/
theorem holds_folded_single (a b : Char) : (single a).folded.holds b = sameFold a b := by
  have honly : (single a).onlyMember? = some a := by
    rw [single, range, onlyMember?, if_pos rfl, Char.ofNat_toNat]
  have hsame : sameFold a b = true ↔ b.toNat ∈ caseVariants a.toNat := by
    rw [sameFold_iff, mem_caseVariants, eq_comm]
  rw [Bool.eq_iff_iff, hsame, folded, honly, holds, holdsCode_ofRanges]
  exact holdsCode_points

end MetaLint.Unicode
