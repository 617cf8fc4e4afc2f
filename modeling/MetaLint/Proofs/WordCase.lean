import MetaLint.Proofs.CaseVariants

/-!
# Words in any case

All case variants of a letter are word characters, so that two words that are the same up to case
end at the same place. No blank is a word character.
-/

set_option autoImplicit false

namespace MetaLint.Unicode

open CharSet

/-! ## The set of word characters -/

def wordRanges : CharSet :=
  [Category.uppercaseLetter, Category.lowercaseLetter, Category.titlecaseLetter,
    Category.modifierLetter, Category.otherLetter, Category.letterNumber, Trait.otherAlphabetic,
    Category.nonspacingMark, Category.spacingMark, Category.enclosingMark, Category.decimalNumber,
    Category.connectorPunctuation, Trait.joinControl].flatten

theorem holdsCode_wordSet (n : Nat) : wordSet.holdsCode n = wordRanges.holdsCode n := by
  simp only [wordSet, wordRanges, Trait.alphabetic, Category.letter, Category.casedLetter,
    Category.mark, holdsCode_ofList, holdsCode_flatten, List.any_cons, List.any_nil,
    Bool.or_false, Bool.or_assoc]

def blanks : CharSet :=
  [(0x9, 0xD), (0x20, 0x20), (0x85, 0x85), (0xA0, 0xA0), (0x1680, 0x1680), (0x2000, 0x200A),
    (0x2028, 0x2029), (0x202F, 0x202F), (0x205F, 0x205F), (0x3000, 0x3000)]

def lowWords : CharSet := wordRanges.upTo 0x1FFFF

theorem lowWords_sound : (∀ n < 128, isAsciiWord (Char.ofNat n) = asciiWord.holdsCode n) ∧
    bits lowWords % (1 <<< 128) = bits asciiWord ∧ bits lowWords &&& bits blanks = 0 ∧
    bits lowWords ||| bits (turned ++ images) = bits lowWords := by
  decide +kernel

section Words
variable {c : Char} {n : Nat}

theorem holdsCode_lowWords (h : n ≤ 0x1FFFF) : lowWords.holdsCode n = wordRanges.holdsCode n :=
  holdsCode_upTo h

theorem isAsciiWord_eq_holds (h : c.toNat < 128) : isAsciiWord c = asciiWord.holds c := by
  have hascii := lowWords_sound.1 c.toNat h
  rwa [Char.ofNat_toNat] at hascii

theorem isWord_eq_holds (c : Char) : isWord c = wordRanges.holds c := by
  rw [isWord]
  split
  next hascii =>
    rw [isAsciiWord_eq_holds hascii, holds, holds, ← holdsCode_lowWords (by omega)]
    exact (holdsCode_of_bits_mod lowWords_sound.2.1 hascii).symm
  next => exact holdsCode_wordSet _

theorem isWord_of_isBlank (h : Text.isBlank c = true) : isWord c = false := by
  simp only [Text.isBlank, Bool.or_eq_true, Bool.and_eq_true, beq_iff_eq, decide_eq_true_eq] at h
  have hblank : blanks.holdsCode c.toNat = true := by
    simp only [blanks, holdsCode, List.any_cons, List.any_nil, Bool.or_eq_true, Bool.and_eq_true,
      decide_eq_true_eq]
    omega
  rw [isWord_eq_holds, holds, ← holdsCode_lowWords (by omega)]
  exact holdsCode_of_bits_and lowWords_sound.2.2.1 hblank

/-! ## Words up to case -/

theorem holdsCode_of_cased (h : turned.holdsCode n = true ∨ images.holdsCode n = true) :
    wordRanges.holdsCode n = true := by
  have hlow : lowWords.holdsCode n = true := by
    refine holdsCode_of_bits_or lowWords_sound.2.2.2 ?_
    rwa [holdsCode_append, Bool.or_eq_true]
  exact holdsCode_of_upTo hlow

/-- A character and the letter that stands for its case variants are word characters, or neither
is one. -/
theorem isWord_fold (c : Char) : isWord (fold c) = isWord c := by
  rw [isWord_eq_holds, isWord_eq_holds, holds, holds, toNat_fold]
  rcases turns_or_foldCode_eq c.toNat with h | h
  · rw [holdsCode_of_cased (.inl h.holdsCode.1), holdsCode_of_cased (.inr h.holdsCode.2)]
  · rw [h]

end Words

end MetaLint.Unicode
