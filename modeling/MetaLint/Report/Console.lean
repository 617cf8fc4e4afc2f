import MetaLint.Report.Basic

/-!
# The console report

The issues of each file below its name, each with its place, message and tool, and a summary at the
end. With colours the same characters are shown, between sequences that start and end a style.
-/

set_option autoImplicit false

namespace MetaLint.Console

structure Style where
  start : String
  stop : String
  deriving Repr, DecidableEq

def escape : String := String.ofList [Char.ofNat 27]

def reset : String := escape ++ "[0m"

def underlined : Style := ⟨escape ++ "[4m", reset⟩

def dimmed : Style := ⟨escape ++ "[2m", reset⟩

def bold : Style := ⟨escape ++ "[1m", reset⟩

def yellow : Style := ⟨escape ++ "[33m", escape ++ "[39m"⟩

def green : Style := ⟨escape ++ "[32m", escape ++ "[39m"⟩

structure Span where
  text : String
  styles : List Style := []
  deriving Repr, DecidableEq

def Span.plain (s : Span) : String := s.text

def Span.colored (s : Span) : String :=
  s.styles.foldr (fun st text => st.start ++ text ++ st.stop) s.text

def Span.write (color : Bool) (s : Span) : String := if color then s.colored else s.plain

def tab : String := "        "

def location (i : Issue) : String :=
  Text.padLeft 5 (numberString i.line) ++ (if i.character.isSome then ":" else " ") ++
    Text.padRight 3 (i.character.elim "" numberString) ++ " "

def toolInfo (i : Issue) : String := "(" ++ i.tool ++ ":" ++ i.codeText ++ ")"

def continuation (i : Issue) : String :=
  "\n" ++ String.ofList (List.replicate (location i).length ' ')

def expandTabs (text : List Char) : List Char :=
  text.flatMap fun c => if c = '\t' then tab.toList else [c]

/-- The message, and what stands between it and the tool. The lines of a message with line ends
stand below each other, and its tool on a line of its own. -/
def messageText (i : Issue) : String × String :=
  if i.message.toList.contains '\n' then
    let lines := (Text.lines (expandTabs i.message.toList)).map String.ofList
    ((continuation i).intercalate lines, continuation i)
  else (i.message, " ")

def issueSpans (i : Issue) : List Span :=
  let (message, separator) := messageText i
  [⟨location i, [dimmed]⟩, ⟨message ++ separator, []⟩, ⟨toolInfo i, [dimmed, yellow]⟩, ⟨"\n", []⟩]

def fileSpans (ctx : ReportContext) (group : Path × List Issue) : List Span :=
  [⟨group.1.relativeTo ctx.project, [underlined]⟩,
    ⟨" (" ++ Json.digitsText group.2.length ++ ")\n", []⟩] ++
    group.2.flatMap issueSpans ++ [⟨"\n", []⟩]

def summarySpans (total : Nat) : List Span :=
  let span : Span :=
    if total = 0 then ⟨"✔ No issues found!", [bold, green]⟩
    else ⟨"✗ " ++ Json.digitsText total ++ " issues found.", [bold, yellow]⟩
  [span, ⟨"\n", []⟩]

def spans (ctx : ReportContext) (view : List Issue) : List Span :=
  let groups := issuesByFile view
  groups.flatMap (fileSpans ctx) ++ summarySpans (Grouped.toList groups).length

def text (ctx : ReportContext) (view : List Issue) : String :=
  String.join ((spans ctx view).map (Span.write ctx.color))

def report : Report := .ofIssues "console" "Grouped, human readable listing for the terminal" text

end MetaLint.Console
