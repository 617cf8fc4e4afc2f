import MetaLint.Report.Basic

/-!
# Reports from a template

A template is a text with tokens between braces; a brace that stands for itself is written twice.
Every issue is shown by the template with its values in place of the tokens.
-/

set_option autoImplicit false

namespace MetaLint.Template

inductive Token
  | filename
  | fullFilename
  | line
  | character
  | code
  | tool
  | message
  deriving Repr, DecidableEq

namespace Token

def name : Token → String
  | .filename => "filename"
  | .fullFilename => "full_filename"
  | .line => "line"
  | .character => "character"
  | .code => "code"
  | .tool => "tool"
  | .message => "message"

def all : List Token := [.filename, .fullFilename, .line, .character, .code, .tool, .message]

def ofName? (text : String) : Option Token := all.find? fun t => t.name == text

def value (ctx : ReportContext) (i : Issue) : Token → String
  | .filename => ctx.pathOf i
  | .fullFilename => i.filename.text
  | .line => numberString i.line
  | .character => numberString i.column
  | .code => i.codeText
  | .tool => i.tool
  | .message => i.message

theorem ofName?_name (t : Token) : ofName? t.name = some t := by cases t <;> decide

end Token

inductive Segment
  | literal (text : List Char)
  | token (t : Token)
  deriving Repr, DecidableEq

def openBrace : Char := '\x7b'

def closeBrace : Char := '\x7d'

inductive Flaw
  | unclosed
  | unknownToken (name : String)
  | singleClose
  deriving Repr, DecidableEq

def Flaw.message : Flaw → String
  | .unclosed => "unclosed '\x7b'"
  | .unknownToken name => "Unknown token '" ++ name ++ "'"
  | .singleClose => "single '\x7d' encountered"

def flush (literal : List Char) (segments : List Segment) : List Segment :=
  if literal.isEmpty then segments else .literal literal.reverse :: segments

def readFrom (literal : List Char) (text : List Char) : Except Flaw (List Segment) :=
  match text with
  | [] => .ok (flush literal [])
  | c :: rest =>
    if c = openBrace then
      if rest.head? = some openBrace then readFrom (c :: literal) rest.tail
      else
        match h : Text.splitOnce closeBrace rest with
        | none => .error .unclosed
        | some (name, after) =>
          match Token.ofName? (String.ofList name) with
          | none => .error (.unknownToken (String.ofList name))
          | some t =>
            have : after.length < rest.length + 1 := by
              have := (Text.splitOnce_eq_some h).1
              simp [this]
              omega
            match readFrom [] after with
            | .ok segments => .ok (flush literal (.token t :: segments))
            | .error e => .error e
    else if c = closeBrace then
      if rest.head? = some closeBrace then readFrom (c :: literal) rest.tail
      else .error .singleClose
    else readFrom (c :: literal) rest
termination_by text.length
decreasing_by all_goals (simp only [List.length_tail, List.length_cons]; omega)

def parse (text : List Char) : Except Flaw (List Segment) := readFrom [] text

def doubled (text : List Char) : List Char :=
  text.flatMap fun c => if c = openBrace || c = closeBrace then [c, c] else [c]

def Segment.source : Segment → List Char
  | .literal text => doubled text
  | .token t => openBrace :: t.name.toList ++ [closeBrace]

def source (segments : List Segment) : List Char := segments.flatMap Segment.source

def Segment.value (ctx : ReportContext) (i : Issue) : Segment → String
  | .literal text => String.ofList text
  | .token t => t.value ctx i

def fill (segments : List Segment) (ctx : ReportContext) (i : Issue) : String :=
  String.join (segments.map (Segment.value ctx i))

def defaultSource : String :=
  "\x7bfilename\x7d:\x7bline\x7d:\x7bcharacter\x7d:\x7btool\x7d:\x7bcode\x7d:\x7bmessage\x7d"

def text (segments : List Segment) (ctx : ReportContext) (view : List Issue) : String :=
  linesText ((Issue.sortBy Issue.placeOrder view).map (fill segments ctx))

def body (ctx : ReportContext) : ReportBody :=
  match parse ((ctx.config.optionText? "format").getD defaultSource).toList with
  | .ok segments => .ofIssues fun view => .whole (text segments ctx view)
  | .error flaw => .fixed (.failed (.report (.badTemplate flaw.message)))

def report : Report :=
  { name := "custom", description := "One line per issue from a user supplied template", body }

end MetaLint.Template
