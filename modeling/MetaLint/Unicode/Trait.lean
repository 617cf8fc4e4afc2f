import MetaLint.Unicode.BreakTable
import MetaLint.Unicode.Category
import MetaLint.Unicode.RemainderTable
import MetaLint.Unicode.TraitTable

/-!
# Traits

A trait is a property that a character has or lacks. Most traits follow from the general category
and a few characters more or less.
-/

set_option autoImplicit false

namespace MetaLint.Unicode.Trait

open Category

/-- The members of `s`, with those of `more` and without those of `less`. -/
def amended (s more less : CharSet) : CharSet := (s.union more).diff less

def alphabetic : CharSet := .ofList [letter, letterNumber, otherAlphabetic]

def lowercase : CharSet := .ofList [lowercaseLetter, otherLowercase]

def uppercase : CharSet := .ofList [uppercaseLetter, otherUppercase]

def cased : CharSet := .ofList [lowercase, uppercase, titlecaseLetter]

def caseIgnorable : CharSet :=
  .ofList [nonspacingMark, enclosingMark, format, modifierLetter, modifierSymbol, Break.midLetter,
    Break.midNumberOrLetter, .single (Char.ofNat 39)]

def math : CharSet := .ofList [mathSymbol, otherMath]

def graphemeExtend : CharSet := .ofList [nonspacingMark, enclosingMark, otherGraphemeExtend]

def graphemeBase : CharSet :=
  (CharSet.ofList [letter, spacingMark, number, punctuation, symbol, spaceSeparator]).diff
    graphemeExtend

def changesWhenLowercased : CharSet := (uppercase.union titlecaseLetter).diff lowercaseSame

def changesWhenUppercased : CharSet := amended lowercase uppercaseChanged uppercaseSame

def changesWhenTitlecased : CharSet := amended changesWhenUppercased titlecaseChanged titlecaseSame

def changesWhenCasefolded : CharSet := amended changesWhenLowercased foldChanged foldSame

def changesWhenCasemapped : CharSet :=
  .ofList [changesWhenLowercased, changesWhenUppercased, changesWhenTitlecased]

def idStart : CharSet :=
  (CharSet.ofList [letter, letterNumber, otherIdStart]).diff (patternSyntax.union patternWhiteSpace)

def idContinue : CharSet :=
  (CharSet.ofList [idStart, nonspacingMark, spacingMark, decimalNumber, connectorPunctuation,
    otherIdContinue]).diff (patternSyntax.union patternWhiteSpace)

def xidStart : CharSet := idStart.diff unstableStart

def xidContinue : CharSet := idContinue.diff unstableContinue

/-- Formats that show nevertheless. -/
def visibleFormat : CharSet :=
  .ofList [[(0xFFF9, 0xFFFB), (0x13430, 0x13440)], prependedConcatenationMark]

def defaultIgnorable : CharSet :=
  (CharSet.ofList [otherDefaultIgnorable, variationSelector, format]).diff visibleFormat

def ideographic : CharSet := .ofList [unifiedIdeograph, otherIdeographic]

def terminalPunctuation : CharSet := .ofList [sentenceTerminal, otherTerminal]

def named : List (List String × CharSet) :=
  [(["alphabetic", "alpha"], alphabetic), (["asciihexdigit", "ahex"], asciiHexDigit),
   (["bidicontrol", "bidic"], bidiControl), (["cased"], cased),
   (["caseignorable", "ci"], caseIgnorable),
   (["changeswhencasefolded", "cwcf"], changesWhenCasefolded),
   (["changeswhencasemapped", "cwcm"], changesWhenCasemapped),
   (["changeswhenlowercased", "cwl"], changesWhenLowercased),
   (["changeswhentitlecased", "cwt"], changesWhenTitlecased),
   (["changeswhenuppercased", "cwu"], changesWhenUppercased), (["dash"], dash),
   (["defaultignorablecodepoint", "di"], defaultIgnorable), (["deprecated", "dep"], deprecated),
   (["diacritic", "dia"], diacritic), (["emoji"], emoji),
   (["emojicomponent", "ecomp"], emojiComponent), (["emojimodifier", "emod"], emojiModifier),
   (["emojimodifierbase", "ebase"], emojiModifierBase),
   (["emojipresentation", "epres"], emojiPresentation),
   (["extendedpictographic", "extpict"], extendedPictographic), (["extender", "ext"], extender),
   (["graphemebase", "grbase"], graphemeBase), (["graphemeextend", "grext"], graphemeExtend),
   (["graphemelink", "grlink"], graphemeLink), (["hexdigit", "hex"], hexDigit),
   (["hyphen"], hyphen),
   (["idcompatmathcontinue"], idCompatMathContinue), (["idcompatmathstart"], idCompatMathStart),
   (["idcontinue", "idc"], idContinue), (["idsbinaryoperator", "idsb"], idsBinaryOperator),
   (["idstart", "ids"], idStart), (["idstrinaryoperator", "idst"], idsTrinaryOperator),
   (["idsunaryoperator", "idsu"], idsUnaryOperator), (["ideographic", "ideo"], ideographic),
   (["joincontrol", "joinc"], joinControl),
   (["logicalorderexception", "loe"], logicalOrderException), (["lowercase", "lower"], lowercase),
   (["math"], math), (["modifiercombiningmark", "mcm"], modifierCombiningMark),
   (["noncharactercodepoint", "nchar"], noncharacter),
   (["otheralphabetic", "oalpha"], otherAlphabetic),
   (["otherdefaultignorablecodepoint", "odi"], otherDefaultIgnorable),
   (["othergraphemeextend", "ogrext"], otherGraphemeExtend),
   (["otheridcontinue", "oidc"], otherIdContinue), (["otheridstart", "oids"], otherIdStart),
   (["otherlowercase", "olower"], otherLowercase), (["othermath", "omath"], otherMath),
   (["otheruppercase", "oupper"], otherUppercase), (["patternsyntax", "patsyn"], patternSyntax),
   (["patternwhitespace", "patws"], patternWhiteSpace),
   (["prependedconcatenationmark", "pcm"], prependedConcatenationMark),
   (["quotationmark", "qmark"], quotationMark), (["radical"], radical),
   (["regionalindicator", "ri"], regionalIndicator),
   (["sentenceterminal", "sterm"], sentenceTerminal),
   (["softdotted", "sd"], softDotted), (["terminalpunctuation", "term"], terminalPunctuation),
   (["unifiedideograph", "uideo"], unifiedIdeograph), (["uppercase", "upper"], uppercase),
   (["variationselector", "vs"], variationSelector),
   (["whitespace", "wspace", "space"], whiteSpace),
   (["xidcontinue", "xidc"], xidContinue), (["xidstart", "xids"], xidStart)]

end MetaLint.Unicode.Trait
