import MetaLint.Unicode.LetterTable
import MetaLint.Unicode.SymbolTable

/-!
# General categories

Every character has one general category. Categories come in groups, and what has no category is
unassigned.
-/

set_option autoImplicit false

namespace MetaLint.Unicode.Category

def casedLetter : CharSet := .ofList [uppercaseLetter, lowercaseLetter, titlecaseLetter]

def letter : CharSet := .ofList [casedLetter, modifierLetter, otherLetter]

def mark : CharSet := .ofList [nonspacingMark, spacingMark, enclosingMark]

def number : CharSet := .ofList [decimalNumber, letterNumber, otherNumber]

def bracket : CharSet :=
  .ofList [openPunctuation, closePunctuation, initialPunctuation, finalPunctuation]

def punctuation : CharSet :=
  .ofList [connectorPunctuation, dashPunctuation, bracket, otherPunctuation]

def symbol : CharSet := .ofList [mathSymbol, currencySymbol, modifierSymbol, otherSymbol]

def separator : CharSet := .ofList [spaceSeparator, lineSeparator, paragraphSeparator]

def assigned : CharSet :=
  .ofList [letter, mark, number, punctuation, symbol, separator, control, format, privateUse]

/-- The code points without a character, surrogates apart. -/
def unassigned : CharSet := CharSet.diff [(0, 0xD7FF), (0xE000, CharSet.lastCode)] assigned

def other : CharSet := .ofList [control, format, privateUse, unassigned]

def named : List (List String × CharSet) :=
  [(["any"], .everything), (["assigned"], assigned), (["ascii"], .ascii),
   (["lu", "uppercaseletter"], uppercaseLetter), (["ll", "lowercaseletter"], lowercaseLetter),
   (["lt", "titlecaseletter"], titlecaseLetter), (["lc", "casedletter"], casedLetter),
   (["lm", "modifierletter"], modifierLetter), (["lo", "otherletter"], otherLetter),
   (["l", "letter"], letter), (["mn", "nonspacingmark"], nonspacingMark),
   (["mc", "spacingmark"], spacingMark), (["me", "enclosingmark"], enclosingMark),
   (["m", "mark", "combiningmark"], mark), (["nd", "decimalnumber", "digit"], decimalNumber),
   (["nl", "letternumber"], letterNumber), (["no", "othernumber"], otherNumber),
   (["n", "number"], number), (["pc", "connectorpunctuation"], connectorPunctuation),
   (["pd", "dashpunctuation"], dashPunctuation), (["ps", "openpunctuation"], openPunctuation),
   (["pe", "closepunctuation"], closePunctuation),
   (["pi", "initialpunctuation"], initialPunctuation),
   (["pf", "finalpunctuation"], finalPunctuation), (["po", "otherpunctuation"], otherPunctuation),
   (["p", "punctuation", "punct"], punctuation), (["sm", "mathsymbol"], mathSymbol),
   (["sc", "currencysymbol"], currencySymbol), (["sk", "modifiersymbol"], modifierSymbol),
   (["so", "othersymbol"], otherSymbol), (["s", "symbol"], symbol),
   (["zs", "spaceseparator"], spaceSeparator), (["zl", "lineseparator"], lineSeparator),
   (["zp", "paragraphseparator"], paragraphSeparator), (["z", "separator"], separator),
   (["cc", "control", "cntrl"], control), (["cf", "format"], format),
   (["co", "privateuse"], privateUse), (["cn", "unassigned"], unassigned), (["c", "other"], other)]

end MetaLint.Unicode.Category
