import MetaLint.Pattern.Flaw
import MetaLint.Unicode.Break
import MetaLint.Unicode.Edition
import MetaLint.Unicode.ScriptUsage

/-!
# Characters by property

A property is asked for by name alone, or by name and value. Names are compared without case,
blanks, underscores, hyphens and a leading "is", and without characters outside ASCII.
-/

set_option autoImplicit false

namespace MetaLint.Pattern

open Unicode

inductive PropertyQuery
  | named (name : String)
  | valued (name value : String)
  deriving Repr, DecidableEq, Inhabited

def normalName (name : String) : String :=
  let cs := name.toList
  let hasLead := (cs.take 2).map Char.toLower == ['i', 's']
  let body := if hasLead then cs.drop 2 else cs
  let kept := body.filter fun c => c != ' ' && c != '_' && c != '-' && c.toNat < 128
  let lowered := kept.map Char.toLower
  if hasLead && lowered == ['c'] then "isc" else String.ofList lowered

def findNamed? (name : String) (known : List (List String × CharSet)) : Option CharSet :=
  (known.find? fun entry => entry.1.contains name).map Prod.snd

/-! ## Names -/

inductive ValuedProperty
  | category
  | script
  | scriptUsage
  | edition
  | clusterBreak
  | wordBreak
  | sentenceBreak
  deriving Repr, DecidableEq

def ValuedProperty.ofName? (name : String) : Option ValuedProperty :=
  [("generalcategory", category), ("gc", category), ("script", script), ("sc", script),
   ("scriptextensions", scriptUsage), ("scx", scriptUsage), ("age", edition),
   ("graphemeclusterbreak", clusterBreak), ("gcb", clusterBreak), ("wordbreak", wordBreak),
   ("wb", wordBreak), ("sentencebreak", sentenceBreak), ("sb", sentenceBreak)].lookup name

def unkeptProperties : List String :=
  ["bc", "bidiclass", "bidim", "bidimirrored", "bidimirroringglyph", "bidipairedbracket",
   "bidipairedbrackettype", "blk", "block", "bmg", "bpb", "bpt", "canonicalcombiningclass",
   "casefolding", "ccc", "ce", "cf", "changeswhennfkccasefolded", "cjkaccountingnumeric",
   "cjkcompatibilityvariant", "cjkiicore", "cjkirggsource", "cjkirghsource", "cjkirgjsource",
   "cjkirgkpsource", "cjkirgksource", "cjkirgmsource", "cjkirgssource", "cjkirgtsource",
   "cjkirguksource", "cjkirgusource", "cjkirgvsource", "cjkmandarin", "cjkothernumeric",
   "cjkprimarynumeric", "cjkrsunicode", "cjktotalstrokes", "cjkunihancore2020", "compex",
   "compositionexclusion", "cwkcf", "decompositionmapping", "decompositiontype", "dm", "dt", "ea",
   "eastasianwidth", "equideo", "equivalentunifiedideograph", "expandsonnfc", "expandsonnfd",
   "expandsonnfkc", "expandsonnfkd", "fcnfkc", "fcnfkcclosure", "fullcompositionexclusion",
   "hangulsyllabletype", "hst", "incb", "indicconjunctbreak", "indicpositionalcategory",
   "indicsyllabiccategory", "inpc", "insc", "isc", "jamoshortname", "jg", "joininggroup",
   "joiningtype", "jsn", "jt", "kaccountingnumeric", "kcompatibilityvariant", "kehcat", "kehcore",
   "kehdesc", "kehfunc", "kehfval", "kehhg", "kehifao", "kehjsesh", "kehnomirror", "kehnorotate",
   "kehunik", "kiicore", "kirggsource", "kirghsource", "kirgjsource", "kirgkpsource", "kirgksource",
   "kirgmsource", "kirgssource", "kirgtsource", "kirguksource", "kirgusource", "kirgvsource",
   "kmandarin", "kothernumeric", "kprimarynumeric", "krsunicode", "ktotalstrokes",
   "kunihancore2020", "lb", "lc", "linebreak", "lowercasemapping", "na", "na1", "name", "namealias",
   "nfcqc", "nfcquickcheck", "nfdqc", "nfdquickcheck", "nfkccasefold", "nfkccf", "nfkcqc",
   "nfkcquickcheck", "nfkcscf", "nfkcsimplecasefold", "nfkdqc", "nfkdquickcheck", "nt",
   "numerictype", "numericvalue", "nv", "ocomment", "scf", "sfc", "simplecasefolding",
   "simplelowercasemapping", "simpletitlecasemapping", "simpleuppercasemapping", "slc", "stc",
   "suc", "tc", "titlecasemapping", "uc", "unicode1name", "unicoderadicalstroke",
   "uppercasemapping", "urs", "verticalorientation", "vo", "xonfc", "xonfd", "xonfkc", "xonfkd"]

def isProperty (name : String) : Bool :=
  (findNamed? name Trait.named).isSome || (ValuedProperty.ofName? name).isSome ||
    unkeptProperties.contains name

def categoryFirst : List String := ["cf", "lc", "sc"]

/-- Categories and scripts that have a name but no characters of their own. -/
def emptyNames : List String := ["cs", "surrogate", "zzzz", "unknown", "hrkt", "katakanaorhiragana"]

/-! ## Sets -/

def orCause (cause : Cause) : Option CharSet → Except Cause CharSet
  | some s => .ok s
  | none => .error cause

def ValuedProperty.members? (p : ValuedProperty) (value : String) : Option CharSet :=
  match p with
  | category => findNamed? value Category.named
  | script => (Script.find? value).map Script.members
  | scriptUsage => (Script.find? value).map Script.usedMembers
  | edition => Edition.membersUpTo? value
  | clusterBreak => findNamed? value Break.clusters
  | wordBreak => findNamed? value Break.words
  | sentenceBreak => findNamed? value Break.sentences

def PropertyQuery.resolve : PropertyQuery → Except Cause CharSet
  | .named name =>
    let n := normalName name
    if isProperty n && !categoryFirst.contains n then
      orCause .propertyNotFound (findNamed? n Trait.named)
    else if emptyNames.contains n then .error .propertyValueNotFound
    else
      orCause .propertyNotFound
        (findNamed? n Category.named <|> (Script.find? n).map Script.members)
  | .valued name value =>
    let n := normalName name
    match ValuedProperty.ofName? n with
    | some p => orCause .propertyValueNotFound (p.members? (normalName value))
    | none => .error (if isProperty n then .propertyValueNotFound else .propertyNotFound)

end MetaLint.Pattern
