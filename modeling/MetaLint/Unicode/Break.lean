import MetaLint.Unicode.Script
import MetaLint.Unicode.Trait

/-!
# Classes at breaks

A character has a class for breaks between clusters, one for breaks between words, and one for
breaks between sentences.
-/

set_option autoImplicit false

namespace MetaLint.Unicode.Break

open Category Trait

def carriageReturn : CharSet := .single '\r'

def lineFeed : CharSet := .single '\n'

def joiner : CharSet := [(0x200D, 0x200D)]

def clusterControls : CharSet :=
  amended (.ofList [control, format, lineSeparator, paragraphSeparator]) clusterControl
    clusterNoControl

def clusterExtend : CharSet := graphemeExtend.union emojiModifier

def clusterSpacing : CharSet :=
  amended (spacingMark.diff graphemeExtend) clusterSpacingMark clusterNoSpacingMark

def hangulSyllable : CharSet := [(0xAC00, 0xD7A3)]

def openSyllable : CharSet :=
  (List.range 399).map fun n => (0xAC00 + 28 * n, 0xAC00 + 28 * n)

def closedSyllable : CharSet := hangulSyllable.diff openSyllable

def clusters : List (List String × CharSet) :=
  [(["control", "cn"], clusterControls), (["cr"], carriageReturn),
   (["extend", "ex"], clusterExtend),
   (["l"], leadingJamo), (["lf"], lineFeed), (["lv"], openSyllable), (["lvt"], closedSyllable),
   (["prepend", "pp"], clusterPrepend), (["regionalindicator", "ri"], regionalIndicator),
   (["spacingmark", "sm"], clusterSpacing), (["t"], trailingJamo), (["v"], vowelJamo),
   (["zwj"], joiner)]

def scriptMembers (name : String) : CharSet := (Script.find? name).elim [] Script.members

def wordExtend : CharSet := .ofList [mark, graphemeExtend, emojiModifier]

def wordKatakana : CharSet := (scriptMembers "katakana").union wordKatakanaMore

def hebrewLetter : CharSet := (scriptMembers "hebrew").inter otherLetter

def wordLetterOther : CharSet :=
  .ofList [mark, ideographic, wordKatakana, hebrewLetter, scriptMembers "hiragana", wordLetterLess]

def wordLetter : CharSet := (alphabetic.diff wordLetterOther).union wordLetterMore

def wordSpace : CharSet :=
  spaceSeparator.diff [(0xA0, 0xA0), (0x2007, 0x2007), (0x202F, 0x202F)]

def words : List (List String × CharSet) :=
  [(["aletter", "le"], wordLetter), (["cr"], carriageReturn), (["doublequote", "dq"], .single '"'),
   (["extend"], wordExtend), (["extendnumlet", "ex"], extendsNumberOrLetter),
   (["format", "fo"], format.diff wordNoFormat), (["hebrewletter", "hl"], hebrewLetter),
   (["katakana", "ka"], wordKatakana), (["lf"], lineFeed), (["midletter", "ml"], midLetter),
   (["midnum", "mn"], midNumber), (["midnumlet", "mb"], midNumberOrLetter),
   (["newline", "nl"], wordNewline), (["numeric", "nu"], decimalNumber.union wordNumberMore),
   (["regionalindicator", "ri"], regionalIndicator),
   (["singlequote", "sq"], .single (Char.ofNat 39)), (["wsegspace"], wordSpace), (["zwj"], joiner)]

def sentenceExtend : CharSet :=
  (CharSet.ofList [mark, graphemeExtend, joiner]).diff emojiModifier

def sentenceLower : CharSet := lowercase.diff (graphemeExtend.union georgianSmall)

def sentenceUpper : CharSet := (uppercase.union titlecaseLetter).diff georgianCapital

def sentenceLetter : CharSet :=
  (alphabetic.diff (CharSet.ofList [sentenceLower, sentenceUpper, sentenceExtend])).union
    [(0x5F3, 0x5F3)]

def sentenceClose : CharSet :=
  amended (bracket.union quotationMark) sentenceCloseMore [(0xFF02, 0xFF02), (0xFF07, 0xFF07)]

def sentenceSpace : CharSet :=
  whiteSpace.diff (CharSet.ofList [carriageReturn, lineFeed, sentenceSeparator])

def sentences : List (List String × CharSet) :=
  [(["aterm", "at"], ambiguousTerminal), (["cr"], carriageReturn), (["close", "cl"], sentenceClose),
   (["extend", "ex"], sentenceExtend), (["format", "fo"], format.diff sentenceNoFormat),
   (["lf"], lineFeed), (["lower", "lo"], sentenceLower),
   (["numeric", "nu"], decimalNumber.union sentenceNumberMore), (["oletter", "le"], sentenceLetter),
   (["scontinue", "sc"], sentenceContinue), (["sep", "se"], sentenceSeparator),
   (["sterm", "st"], sentenceTerminal.diff ambiguousTerminal), (["sp"], sentenceSpace),
   (["upper", "up"], sentenceUpper)]

end MetaLint.Unicode.Break
