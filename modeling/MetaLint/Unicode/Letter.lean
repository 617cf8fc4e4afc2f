import MetaLint.Unicode.CharSet
import MetaLint.Unicode.Trait

/-!
# Letters, words and printed forms

Letters and printed forms follow edition 17.0 of the character database, whose additions to edition
16.0 come first. The words of patterns follow edition 16.0: a word character is an alphabetic
character, a mark, a decimal digit, a connector or a control of joining, and a boundary is a
position of which exactly one neighbour is a word character.
-/

set_option autoImplicit false

namespace MetaLint.Unicode

def newAlphabetic : CharSet :=
  [(0x88f, 0x88f), (0xc5c, 0xc5c), (0xcdc, 0xcdc), (0xa7ce, 0xa7cf), (0xa7d2, 0xa7d2),
   (0xa7d4, 0xa7d4), (0xa7f1, 0xa7f1), (0x10940, 0x10959), (0x10ec5, 0x10ec7), (0x10efa, 0x10efb),
   (0x11b60, 0x11b67), (0x11db0, 0x11ddb), (0x16ea0, 0x16eb8), (0x16ebb, 0x16ed3),
   (0x16ff2, 0x16ff6), (0x187f8, 0x187ff), (0x18d09, 0x18d1e), (0x18d80, 0x18df2),
   (0x1e6c0, 0x1e6de), (0x1e6e0, 0x1e6f5), (0x1e6fe, 0x1e6ff), (0x2b73a, 0x2b73f),
   (0x2cea2, 0x2cead), (0x323b0, 0x33479)]

def newNumber : CharSet :=
  [(0x11de0, 0x11de9), (0x16ff4, 0x16ff6)]

def newShown : CharSet :=
  [(0x88f, 0x88f), (0xc5c, 0xc5c), (0xcdc, 0xcdc), (0x1acf, 0x1add), (0x1ae0, 0x1aeb),
   (0x20c1, 0x20c1), (0x2b96, 0x2b96), (0xa7ce, 0xa7cf), (0xa7d2, 0xa7d2), (0xa7d4, 0xa7d4),
   (0xa7f1, 0xa7f1), (0xfbc3, 0xfbd2), (0xfd90, 0xfd91), (0xfdc8, 0xfdce), (0x10940, 0x10959),
   (0x10ec5, 0x10ec7), (0x10ed0, 0x10ed8), (0x10efa, 0x10efb), (0x11b60, 0x11b67),
   (0x11db0, 0x11ddb), (0x11de0, 0x11de9), (0x16ea0, 0x16eb8), (0x16ebb, 0x16ed3),
   (0x16ff2, 0x16ff6), (0x187f8, 0x187ff), (0x18d09, 0x18d1e), (0x18d80, 0x18df2),
   (0x1ccfa, 0x1ccfc), (0x1ceba, 0x1ced0), (0x1cee0, 0x1cef0), (0x1e6c0, 0x1e6de),
   (0x1e6e0, 0x1e6f5), (0x1e6fe, 0x1e6ff), (0x1f6d8, 0x1f6d8), (0x1f777, 0x1f77a),
   (0x1f8d0, 0x1f8d8), (0x1fa54, 0x1fa57), (0x1fa8a, 0x1fa8a), (0x1fa8e, 0x1fa8e),
   (0x1fac8, 0x1fac8), (0x1facd, 0x1facd), (0x1faea, 0x1faea), (0x1faef, 0x1faef),
   (0x1fbfa, 0x1fbfa), (0x2b73a, 0x2b73f), (0x2cea2, 0x2cead), (0x323b0, 0x33479)]

def newExtending : CharSet :=
  [(0x1acf, 0x1add), (0x1ae0, 0x1aeb), (0x10efa, 0x10efb), (0x11b60, 0x11b60), (0x11b62, 0x11b64),
   (0x11b66, 0x11b66), (0x1e6e3, 0x1e6e3), (0x1e6e6, 0x1e6e6), (0x1e6ee, 0x1e6ef),
   (0x1e6f5, 0x1e6f5)]

def isAlphabetic (c : Char) : Bool :=
  if c.toNat < 128 then c.isAlpha else Trait.alphabetic.holds c || newAlphabetic.holds c

def isNumber (c : Char) : Bool :=
  if c.toNat < 128 then c.isDigit else Category.number.holds c || newNumber.holds c

def isLetterOrDigit (c : Char) : Bool := isAlphabetic c || isNumber c

def hangulFiller : CharSet := [(0x115F, 0x1160), (0x3164, 0x3164), (0xFFA0, 0xFFA0)]

/-- The characters without a printed form, the space among them. -/
def unprinted : CharSet :=
  ((CharSet.ofList [Category.other, Category.separator]).diff newShown).union hangulFiller

def extending : CharSet := Trait.graphemeExtend.union newExtending

def showsItself (c : Char) : Bool :=
  if c.toNat < 127 then 32 ≤ c.toNat else !unprinted.holds c && !extending.holds c

def wordSet : CharSet :=
  .ofList [Trait.alphabetic, Category.mark, Category.decimalNumber, Category.connectorPunctuation,
    Trait.joinControl]

def isAsciiWord (c : Char) : Bool := c.isAlphanum || c == '_'

def isWord (c : Char) : Bool :=
  if c.toNat < 128 then isAsciiWord c else wordSet.holds c

def isWordAt (c : Option Char) : Bool := c.elim false isWord

/-- A boundary lies between `before` and `after`; a missing neighbour is no word character. -/
def isBoundary (before after : Option Char) : Bool := isWordAt before != isWordAt after

end MetaLint.Unicode
