import MetaLint.Tool.Basic
import MetaLint.Json.Parser
import MetaLint.Tool.Todo
import MetaLint.Text.Basic

/-!
# Built-in tools

JSON documents are read whole, and the first flaw of each is reported where it was found.
Credentials and private keys are each recognised by an expression and reported once per line, where
their leftmost occurrence starts. Blanks are checked at the end and in front of a line, and lines by
their length. A registry has tools by name; a tool replaces one of the same name.
-/

set_option autoImplicit false

namespace MetaLint.Tool.JsonLint

open Json

def name : String := "jsonlint"

def codeOf : FlawKind → String
  | .malformed => "syntax"
  | .ending => "eof"
  | .shape => "data"

def codes : List CodeInfo :=
  [⟨"syntax", "Malformed JSON"⟩, ⟨"eof", "Document ends unexpectedly"⟩,
   ⟨"data", "Value cannot be represented"⟩]

/-- The issue about a flaw; a flaw on no line is on the first one. -/
def issueOf (p : Path) (e : ParseError) : Issue :=
  ((Issue.create name (codeOf e.flaw.kind) e.flaw.message p).withLine
    (if e.line = 0 then none else lineNumber e.line)).withCharacter (lineNumber e.column)

def check (p : Path) (text : List Char) : List Issue :=
  match Json.parse text with
  | .ok _ => []
  | .error e => [issueOf p e]

end JsonLint

def jsonLint : Tool where
  name := JsonLint.name
  description := "Checks that JSON documents are well formed"
  defaults := { filters := ["\\.json$"] }
  codes := JsonLint.codes
  execute f d c := ToolRun.ofResult (scanFiles f d c JsonLint.check)

open Pattern
open Unicode (CharSet)

structure Detector where
  description : String
  regex : Regex

namespace Secrets

def name : String := "secrets"

def codes : List CodeInfo := [⟨"secret", "Possible secret found"⟩]

def boundary : Regex := .look (.boundary false)

def upper : CharSet := .range 'A' 'Z'

def alphanumeric : CharSet := CharSet.asciiLetter.union .asciiDigit

def atLeast (n : Nat) (s : CharSet) : Regex := .times (.set s) n none true

def anyCase (text : String) : Regex :=
  .seq (text.toList.map fun c => .set (CharSet.single c).folded)

def blank : CharSet := Unicode.Trait.whiteSpace

def blanks : Regex := .star (.set blank)

def quoteMark : CharSet := .ofChars ['"', Char.ofNat 39]

def detectors : List Detector :=
  [⟨"private key",
    .seq [.word "-----BEGIN ", .star (.seq [.plus (.set upper), .char ' ']),
      .word "PRIVATE KEY-----"]⟩,
   ⟨"AWS access key",
    .seq [boundary, .alt [.word "AKIA", .word "ASIA"],
      .times (.set (CharSet.asciiDigit.union upper)) 16 (some 16) true, boundary]⟩,
   ⟨"GitHub token",
    .seq [boundary, .word "gh", .set (.ofChars ['p', 'o', 'u', 's', 'r']), .char '_',
      atLeast 36 alphanumeric, boundary]⟩,
   ⟨"Slack token",
    .seq [boundary, .word "xox", .set (.ofChars ['a', 'b', 'p', 'r', 's']), .char '-',
      atLeast 10 (alphanumeric.union (.single '-'))]⟩,
   ⟨"hard-coded credential",
    .seq [boundary,
      .alt [anyCase "password", anyCase "passwd", anyCase "secret",
        .seq [anyCase "api", .optional (.set (.ofChars ['_', '-'])), anyCase "key"],
        .seq [anyCase "auth", .optional (.set (.ofChars ['_', '-'])), anyCase "token"]],
      boundary, blanks, .set (.ofChars [':', '=']), blanks, .set quoteMark,
      atLeast 8 (quoteMark.union blank).complement, .set quoteMark]⟩]

def finding? (p : Path) (line : Nat × List Char) (detector : Detector) : Option Issue :=
  (detector.regex.firstStart? line.2).map fun start =>
    ((Issue.create name "secret" ("Possible " ++ detector.description ++ " found") p).withLine
      (lineNumber line.1)).withCharacter (lineNumber (start + 1))

def check (p : Path) (text : List Char) : List Issue :=
  if text.contains (Char.ofNat 0) then []
  else (Text.numberedLines text).flatMap fun line => detectors.filterMap (finding? p line)

end Secrets

def secrets : Tool where
  name := Secrets.name
  description := "Detects credentials and private keys"
  codes := Secrets.codes
  execute f d c := ToolRun.ofResult (scanFiles f d c Secrets.check)

namespace Whitespace

open Text Json

def name : String := "whitespace"

def codes : List CodeInfo :=
  [⟨"trailing", "Trailing whitespace"⟩, ⟨"tab-indent", "Indentation contains tabs"⟩,
   ⟨"line-length", "Line too long"⟩, ⟨"final-newline", "No newline at end of file"⟩,
   ⟨"blank-eof", "Blank lines at end of file"⟩]

structure Options where
  /-- The longest line allowed; 0 allows every line. -/
  maxLineLength : Nat := 100
  deriving Repr, DecidableEq, Inhabited

namespace Options

def takeMaxLineLength (o : Options) (v : Value) : Shaped Options :=
  return { o with maxLineLength := ← asSize v }

def take (o : Options) (key : String) (v : Value) : Shaped Options :=
  match key with
  | "max-line-length" => o.takeMaxLineLength v
  | _ => .ok o

def ofValue : Value → Shaped Options
  | .object members => foldMembers take {} members
  | .list items => foldItems items.length {} [takeMaxLineLength] items
  | v => wrongType v "struct Options"

end Options

def isGap (c : Char) : Bool := c == ' ' || c == '\t'

def issue (p : Path) (code message : String) (line : Nat) : Issue :=
  ((Issue.create name code message p).withLine (lineNumber line)).withSeverity .convention

def trailing? (p : Path) (n : Nat) (line : List Char) : Option Issue :=
  let kept := dropWhileEnd isGap line
  if kept.length < line.length then
    some ((issue p "trailing" "Trailing whitespace" n).withCharacter
      (lineNumber (kept.length + 1)))
  else none

def tabIndent? (p : Path) (n : Nat) (line : List Char) : Option Issue :=
  if (line.takeWhile isGap).contains '\t' then
    some ((issue p "tab-indent" "Indentation contains tabs" n).withCharacter (lineNumber 1))
  else none

def tooLong? (o : Options) (p : Path) (n : Nat) (line : List Char) : Option Issue :=
  if 0 < o.maxLineLength && o.maxLineLength < line.length then
    let message := "Line too long (" ++ toString line.length ++ " > " ++
      toString o.maxLineLength ++ " characters)"
    some ((issue p "line-length" message n).withCharacter (lineNumber (o.maxLineLength + 1)))
  else none

def checkLine (o : Options) (p : Path) (line : Nat × List Char) : List Issue :=
  (trailing? p line.1 line.2).toList ++ (tabIndent? p line.1 line.2).toList ++
    (tooLong? o p line.1 line.2).toList

def blankAtEnd (lines : List (List Char)) : Nat := (lines.reverse.takeWhile allBlank).length

def checkEnd (p : Path) (text : List Char) : List Issue :=
  let ls := lines text
  if text.getLast? != some '\n' then
    [issue p "final-newline" "No newline at end of file" ls.length]
  else
    let blank := blankAtEnd ls
    if 0 < blank then
      [issue p "blank-eof" (toString blank ++ " blank line(s) at end of file")
        (ls.length - blank + 1)]
    else []

def check (o : Options) (p : Path) (text : List Char) : List Issue :=
  if text.isEmpty then []
  else (numberedLines text).flatMap (checkLine o p) ++ checkEnd p text

end Whitespace

def whitespace : Tool where
  name := Whitespace.name
  description := "Reports whitespace problems in text files"
  defaults :=
    { filters := textFilters, options := .object [("max-line-length", .ofNat 100)] }
  codes := Whitespace.codes
  execute f d c :=
    ToolRun.ofResult <|
      match readOptions Whitespace.name {} Whitespace.Options.ofValue c with
      | .ok o => scanFiles f d c (Whitespace.check o)
      | .error e => (.error e, f)

end MetaLint.Tool

namespace MetaLint

abbrev ToolRegistry := Keyed Tool

namespace ToolRegistry

def register (r : ToolRegistry) (t : Tool) : ToolRegistry := Keyed.set t.name t r

def ofList (tools : List Tool) : ToolRegistry := tools.foldl register []

def builtin : ToolRegistry := ofList [.jsonLint, .secrets, .todo, .whitespace]

def get? (r : ToolRegistry) (name : String) : Option Tool := List.lookup name r

def blocks (r : ToolRegistry) : Keyed ToolConfig := r.mapValues fun _ t => t.defaults

end ToolRegistry

def registryDisplay (kind member : String) (names : List String) : String :=
  kind ++ " \x7b " ++ member ++ ": [" ++ ", ".intercalate (names.map Text.quote) ++ "] \x7d"

end MetaLint
