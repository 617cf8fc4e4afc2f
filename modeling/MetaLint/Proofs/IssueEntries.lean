import MetaLint.Proofs.LineScans
import MetaLint.Proofs.RuleTable
import MetaLint.Report.Console
import MetaLint.Report.Lines

/-!
# Entries of issues

What the entry of an issue in a report is, said by the fields of the issue: lines of a fixed layout,
places in columns of a least width, messages on one line or on several, and records that are read
back.
-/

set_option autoImplicit false

namespace MetaLint

namespace Text

theorem stripTail_eq_some {tail text front : List Char} :
    stripTail tail text = some front ↔ text = front ++ tail := by
  rw [stripTail, Option.map_eq_some_iff]
  simp only [List.isPrefixOf?_eq_some_iff_append_eq]
  constructor
  · rintro ⟨rest, h, rfl⟩
    rw [← List.reverse_reverse text, ← h, List.reverse_append, List.reverse_reverse]
  · rintro rfl
    exact ⟨front.reverse, by rw [List.reverse_append], List.reverse_reverse front⟩

theorem intercalate_concat (separator last : String) (texts : List String) :
    separator.intercalate (texts ++ [last]) =
      String.join (texts.map (· ++ separator)) ++ last := by
  induction texts with
  | nil => simp
  | cons t texts ih =>
    obtain ⟨first, rest, hne⟩ : ∃ first rest, texts ++ [last] = first :: rest :=
      List.exists_cons_of_ne_nil (by simp)
    rw [List.cons_append, hne, String.intercalate_cons_cons, ← hne, ih, List.map_cons,
      String.join_cons]
    simp only [String.append_assoc]

theorem intercalate_append_self {separator : String} {texts : List String} (h : texts ≠ []) :
    separator.intercalate texts ++ separator = String.join (texts.map (· ++ separator)) := by
  have hconcat := intercalate_concat separator "" texts
  rw [String.intercalate_append_of_ne_nil h (by simp), String.intercalate_singleton] at hconcat
  simpa using hconcat

end Text

def blanks (n : Nat) : String := String.ofList (List.replicate n ' ')

@[simp] theorem length_blanks (n : Nat) : (blanks n).length = n := by simp [blanks]

/-- A text with blanks in front that make it as wide as a column, unless it is wider. -/
def RightAligned (width : Nat) (text shown : String) : Prop :=
  ∃ n, shown = blanks n ++ text ∧ shown.length = max width text.length

def LeftAligned (width : Nat) (text shown : String) : Prop :=
  ∃ n, shown = text ++ blanks n ∧ shown.length = max width text.length

theorem rightAligned_iff {width : Nat} {text shown : String} :
    RightAligned width text shown ↔ shown = Text.padLeft width text := by
  constructor
  · rintro ⟨n, rfl, hlength⟩
    rw [String.length_append, length_blanks] at hlength
    have hn : n = width - text.length := by omega
    rw [hn, blanks, Text.padLeft]
  · rintro rfl
    refine ⟨_, rfl, ?_⟩
    rw [Text.padLeft, String.length_append, ← blanks, length_blanks]
    omega

theorem leftAligned_iff {width : Nat} {text shown : String} :
    LeftAligned width text shown ↔ shown = Text.padRight width text := by
  constructor
  · rintro ⟨n, rfl, hlength⟩
    rw [String.length_append, length_blanks] at hlength
    have hn : n = width - text.length := by omega
    rw [hn, blanks, Text.padRight]
  · rintro rfl
    refine ⟨_, rfl, ?_⟩
    rw [Text.padRight, String.length_append, ← blanks, length_blanks]
    omega

def FlatReport.Shows (ctx : ReportContext) (i : Issue) (shown : String) : Prop :=
  shown = String.join [i.filename.relativeTo ctx.project, ":", toString i.line.toNat, ":",
    toString (i.character.getD 0).toNat, " ", i.code.getD "", "@", i.tool, " ", i.message, "\n"]

theorem FlatReport.shows_line (ctx : ReportContext) (i : Issue) :
    FlatReport.Shows ctx i (line ctx i ++ "\n") := by
  simp only [Shows, String.join_cons, String.join_nil, String.append_empty, line,
    String.append_assoc]
  rfl

namespace ModuleReport

inductive Initial : Severity → String → Prop
  | error : Initial .error "E"
  | warning : Initial .warning "W"
  | refactor : Initial .refactor "R"
  | convention : Initial .convention "C"
  | fatal : Initial .fatal "F"

/-- Severity, line and column in columns of their own, where the first column is 0, and then
message, code and tool. -/
def Shows (i : Issue) (shown : String) : Prop :=
  ∃ letter line column, Initial i.severity letter ∧ RightAligned 3 (toString i.line.toNat) line ∧
    RightAligned 2 (toString ((i.character.getD 1).toNat - 1)) column ∧
    shown = String.join [letter, ":", line, ",", column, ": ", i.message, " (", i.code.getD "", "@",
      i.tool, ")\n"]

theorem initial_letter (s : Severity) : Initial s (String.ofList [s.letter]) := by
  cases s with
  | error => exact .error
  | warning => exact .warning
  | refactor => exact .refactor
  | convention => exact .convention
  | fatal => exact .fatal

theorem toNat_shownColumn (i : Issue) :
    (shownColumn i).toNat = (i.character.getD 1).toNat - 1 := by
  have hlt := (i.character.getD 1).toNat_lt
  rw [shownColumn, UInt32.toNat_ofNat']
  omega

theorem shows_line (i : Issue) : Shows i (line i ++ "\n") := by
  refine ⟨_, _, _, initial_letter i.severity, rightAligned_iff.mpr rfl, rightAligned_iff.mpr rfl,
    ?_⟩
  rw [← toNat_shownColumn]
  simp only [String.join_cons, String.join_nil, String.append_empty, line, String.append_assoc]
  rfl

/-- The name of a module: the path without its ending and with dots for slashes, or the path
itself. -/
inductive Named : String → String → Prop
  | script {root : List Char} (h : root ≠ []) :
      Named (String.ofList (root ++ ['.', 'p', 'y']))
        (String.ofList (root.map fun c => if c = '/' then '.' else c))
  | other {path : String} (h : ∀ root, path.toList = root ++ ['.', 'p', 'y'] → root = []) :
      Named path path

theorem named_moduleName (path : String) : Named path (moduleName path) := by
  have hending : ".py".toList = ['.', 'p', 'y'] := rfl
  rw [moduleName, hending]
  split
  next c root h =>
    have hscript := Named.script (List.cons_ne_nil c root)
    rwa [← Text.stripTail_eq_some.mp h, String.ofList_toList] at hscript
  next h =>
    refine .other fun root hroot => ?_
    rcases root with - | ⟨c, root⟩
    · rfl
    · exact absurd (Text.stripTail_eq_some.mpr hroot) (h c root)

end ModuleReport

namespace Console

/-- Line and column; where there is no column, blanks stand for it and its colon. -/
inductive Located (i : Issue) : String → Prop
  | at {n : UInt32} {line column : String} (h : i.character = some n)
      (hline : RightAligned 5 (toString i.line.toNat) line)
      (hcolumn : LeftAligned 3 (toString n.toNat) column) : Located i (line ++ ":" ++ column ++ " ")
  | missing {line : String} (h : i.character = none)
      (hline : RightAligned 5 (toString i.line.toNat) line) : Located i (line ++ blanks 5)

theorem located_iff {i : Issue} {shown : String} : Located i shown ↔ shown = location i := by
  constructor
  · intro h
    cases h with
    | «at» h hline hcolumn =>
      rw [rightAligned_iff.mp hline, leftAligned_iff.mp hcolumn, location, h]
      rfl
    | missing h hline =>
      rw [rightAligned_iff.mp hline, location, h]
      simp only [String.append_assoc]
      rfl
  · rintro rfl
    cases h : i.character with
    | some n =>
      have hat := Located.at h (rightAligned_iff.mpr rfl) (leftAligned_iff.mpr rfl)
      rw [location, h]
      exact hat
    | none =>
      have hmissing := Located.missing h (rightAligned_iff.mpr rfl)
      rw [location, h]
      simp only [String.append_assoc]
      exact hmissing

/-- A text with eight blanks in place of each tab. -/
inductive Expanded : List Char → List Char → Prop
  | nil : Expanded [] []
  | tab {text shown : List Char} (h : Expanded text shown) :
      Expanded ('\t' :: text) (List.replicate 8 ' ' ++ shown)
  | other {c : Char} {text shown : List Char} (hc : c ≠ '\t') (h : Expanded text shown) :
      Expanded (c :: text) (c :: shown)

theorem expanded_iff {text shown : List Char} : Expanded text shown ↔ shown = expandTabs text := by
  constructor
  · intro h
    induction h with
    | nil => rfl
    | tab _ ih =>
      rw [ih]
      rfl
    | other hc _ ih =>
      rw [ih, expandTabs, expandTabs, List.flatMap_cons, if_neg hc]
      rfl
  · rintro rfl
    induction text with
    | nil => exact .nil
    | cons c text ih =>
      by_cases hc : c = '\t'
      · rw [hc]
        exact .tab ih
      · rw [expandTabs, List.flatMap_cons, if_neg hc]
        exact .other hc ih

theorem forall₂_expanded_iff {texts shown : List (List Char)} :
    List.Forall₂ Expanded texts shown ↔ texts.map expandTabs = shown := by
  have heach : Expanded = fun text shown => expandTabs text = shown := by
    funext text shown
    exact propext (expanded_iff.trans eq_comm)
  rw [← List.forall₂_eq_eq_eq, List.forall₂_map_left_iff, heach]

theorem not_mem_expandTabs {c : Char} {text : List Char} (hblank : c ≠ ' ') (h : c ∉ text) :
    c ∉ expandTabs text := by
  intro hmem
  obtain ⟨a, ha, hshown⟩ := List.mem_flatMap.mp hmem
  split at hshown
  · exact hblank (List.eq_of_mem_replicate (n := 8) hshown)
  · exact h (List.mem_singleton.mp hshown ▸ ha)

theorem expandTabs_append (text more : List Char) :
    expandTabs (text ++ more) = expandTabs text ++ expandTabs more := List.flatMap_append

theorem expandTabs_ne_nil {text : List Char} (h : text ≠ []) : expandTabs text ≠ [] := by
  obtain ⟨c, rest, rfl⟩ := List.exists_cons_of_ne_nil h
  rw [expandTabs, List.flatMap_cons]
  split <;> simp [tab]

theorem reverse_expandTabs_cons (c : Char) (front : List Char) :
    (expandTabs (c :: front).reverse).reverse =
      (expandTabs [c]).reverse ++ (expandTabs front.reverse).reverse := by
  rw [List.reverse_cons, expandTabs_append, List.reverse_append]

theorem endedLine_expandTabs (front : List Char) :
    Text.endedLine (expandTabs front.reverse).reverse = expandTabs (Text.endedLine front) := by
  cases front with
  | nil => rfl
  | cons c front =>
    rw [reverse_expandTabs_cons]
    by_cases hreturn : c = '\r'
    · rw [hreturn]
      exact List.reverse_reverse _
    · -- Whatever is shown for the last character, it is no carriage return.
      obtain ⟨a, rest, ha, hne⟩ : ∃ a rest, (expandTabs [c]).reverse = a :: rest ∧ a ≠ '\r' := by
        by_cases htab : c = '\t'
        · rw [htab]
          exact ⟨' ', List.replicate 7 ' ', rfl, by decide⟩
        · exact ⟨c, [], by simp [expandTabs, htab], hreturn⟩
      rw [Text.endedLine_of_ne hreturn, ha, List.cons_append, Text.endedLine_of_ne hne,
        ← List.cons_append, ← ha, ← reverse_expandTabs_cons, List.reverse_reverse]

theorem linesFrom_expandTabs (front text : List Char) :
    Text.linesFrom (expandTabs front.reverse).reverse (expandTabs text) =
      (Text.linesFrom front text).map expandTabs := by
  induction text generalizing front with
  | nil =>
    cases front with
    | nil => rfl
    | cons c front =>
      have hne : expandTabs (c :: front).reverse ≠ [] := expandTabs_ne_nil (by simp)
      have hnil : expandTabs [] = [] := rfl
      rw [hnil, Text.linesFrom, Text.linesFrom, if_neg (by simpa using hne), if_neg (by simp),
        List.reverse_reverse, List.map_singleton]
  | cons c text ih =>
    by_cases hend : c = '\n'
    · have hcons : expandTabs ('\n' :: text) = '\n' :: expandTabs text := rfl
      rw [hend, hcons, Text.linesFrom, if_pos rfl, Text.linesFrom, if_pos rfl, List.map_cons,
        endedLine_expandTabs]
      exact congrArg _ (ih [])
    · have hcons : expandTabs (c :: text) = expandTabs [c] ++ expandTabs text :=
        expandTabs_append [c] text
      have hshown : '\n' ∉ expandTabs [c] := not_mem_expandTabs (by decide)
        (by simpa using Ne.symm hend)
      rw [hcons, Text.linesFrom_append hshown, ← reverse_expandTabs_cons, ih, Text.linesFrom,
        if_neg hend]

theorem lines_expandTabs (text : List Char) :
    Text.lines (expandTabs text) = (Text.lines text).map expandTabs := linesFrom_expandTabs [] text

/-- What stands between the location of an issue and its tool. The lines of a message of several
lines are followed by blanks below the location. -/
inductive Body (i : Issue) (width : Nat) : String → Prop
  | line (h : '\n' ∉ i.message.toList) : Body i width (i.message ++ " ")
  | lines {shown : List (List Char)} (h : '\n' ∈ i.message.toList)
      (hlines : List.Forall₂ Expanded (Text.lines i.message.toList) shown) :
      Body i width (String.join (shown.map fun l => String.ofList l ++ "\n" ++ blanks width))

theorem body_messageText (i : Issue) :
    Body i (location i).length ((messageText i).1 ++ (messageText i).2) := by
  rw [messageText]
  split
  next h =>
    have hmem : '\n' ∈ i.message.toList := by simpa using h
    have hne : Text.lines i.message.toList ≠ [] :=
      Text.linesFrom_ne_nil (.inr (List.ne_nil_of_mem hmem))
    have hbody : Body i (location i).length _ := .lines hmem (forall₂_expanded_iff.mpr rfl)
    have hend : ∀ l : List Char, String.ofList l ++ "\n" ++ blanks (location i).length =
        String.ofList l ++ continuation i := fun l => String.append_assoc
    simp only [hend] at hbody
    rw [lines_expandTabs, Text.intercalate_append_self (by simpa using hne), List.map_map]
    exact hbody
  next h => exact .line (by simpa using h)

def styled (color : Bool) (start stop text : String) : String :=
  if color then start ++ text ++ stop else text

/-- Where an issue is, its message, and its tool and code between parentheses. -/
def Shows (color : Bool) (i : Issue) (shown : String) : Prop :=
  ∃ place body, Located i place ∧ Body i place.length body ∧
    shown = String.join [styled color "\x1b[2m" "\x1b[0m" place, body,
      styled color "\x1b[2m\x1b[33m" "\x1b[39m\x1b[0m"
        (String.join ["(", i.tool, ":", i.code.getD "", ")"]), "\n"]

def entry (ctx : ReportContext) (i : Issue) : String :=
  String.join ((issueSpans i).map (Span.write ctx.color))

section Styled
variable (color : Bool) (text : String) (outer inner : Style)

theorem write_plain : Span.write color ⟨text, []⟩ = text := by cases color <;> rfl

theorem write_single : Span.write color ⟨text, [outer]⟩ =
    styled color outer.start outer.stop text := by cases color <;> rfl

theorem write_pair : Span.write color ⟨text, [outer, inner]⟩ =
    styled color (outer.start ++ inner.start) (inner.stop ++ outer.stop) text := by
  cases color with
  | false => rfl
  | true => simp [Span.write, Span.colored, styled, String.append_assoc]

end Styled

theorem toolInfo_eq (i : Issue) :
    toolInfo i = String.join ["(", i.tool, ":", i.code.getD "", ")"] := by
  simp only [toolInfo, Issue.codeText, String.join_cons, String.join_nil, String.append_empty,
    String.append_assoc]

theorem shows_entry (ctx : ReportContext) (i : Issue) : Shows ctx.color i (entry ctx i) := by
  refine ⟨location i, _, located_iff.mpr rfl, body_messageText i, ?_⟩
  rw [← toolInfo_eq, entry, issueSpans]
  simp only [List.map_cons, List.map_nil, write_plain, write_single, write_pair]
  rfl

end Console

namespace Sarif

open Json

def Shows (ctx : ReportContext) (i : Issue) (shown : String) : Prop :=
  ∃ result, Config.documentValue shown = .ok result ∧ Tells ctx i result

def entry (ctx : ReportContext) (i : Issue) : String :=
  Doc.indent 4 ++ (Result.ofIssue ctx i).toDoc.prettyAt 4

theorem shows_entry (ctx : ReportContext) (i : Issue) : Shows ctx i (entry ctx i) :=
  ⟨_, Config.documentValue_indented (shows_result _) 4, tells_ofIssue ctx i⟩

end Sarif

namespace SummaryReport

open Json
open Value (member?_ofMembers)

/-- What a message says of its issue. -/
structure Tells (ctx : ReportContext) (i : Issue) (message : Value) : Prop where
  source : message.member? "source" = some (.text i.tool)
  code : message.member? "code" = some (i.code.elim .null .text)
  path : message.at? ["location", "path"] = some (.text (i.filename.relativeTo ctx.project))
  line : message.at? ["location", "line"] = some (.ofNat i.line.toNat)
  character : message.at? ["location", "character"] = some (.ofNat (i.character.getD 0).toNat)
  text : message.member? "message" = some (.text i.message)

def messageValue (ctx : ReportContext) (i : Issue) : Value :=
  .ofMembers [("source", .text i.tool), ("code", i.code.elim .null .text),
    ("location", .ofMembers [("path", .text (ctx.pathOf i)), ("module", .null),
      ("function", .null), ("line", .ofNat i.line.toNat), ("character", .ofNat i.column.toNat)]),
    ("message", .text i.message)]

theorem shows_message (ctx : ReportContext) (i : Issue) :
    Jsonc.Shows (messageDoc ctx i) (messageValue ctx i) := by
  have hcode : Jsonc.Shows (i.code.elim .null .text) (i.code.elim .null .text) := by
    cases i.code with
    | none => exact Jsonc.shows_leaf Jsonc.writes_null
    | some code => exact Jsonc.shows_text code
  have hnull : Jsonc.Shows .null .null := Jsonc.shows_leaf Jsonc.writes_null
  have hplace : Jsonc.Shows (.object [("path", .text (ctx.pathOf i)), ("module", .null),
      ("function", .null), ("line", .nat i.line.toNat), ("character", .nat i.column.toNat)])
      (.ofMembers [("path", .text (ctx.pathOf i)), ("module", .null), ("function", .null),
        ("line", .ofNat i.line.toNat), ("character", .ofNat i.column.toNat)]) := by
    apply Jsonc.shows_object
    refine .cons ⟨rfl, Jsonc.shows_text _⟩ (.cons ⟨rfl, hnull⟩ (.cons ⟨rfl, hnull⟩ ?_))
    exact .cons ⟨rfl, Jsonc.shows_number _⟩ (.cons ⟨rfl, Jsonc.shows_number _⟩ .nil)
  apply Jsonc.shows_object
  refine .cons ⟨rfl, Jsonc.shows_text i.tool⟩ (.cons ⟨rfl, hcode⟩ ?_)
  exact .cons ⟨rfl, hplace⟩ (.cons ⟨rfl, Jsonc.shows_text i.message⟩ .nil)

theorem tells_messageValue (ctx : ReportContext) (i : Issue) :
    Tells ctx i (messageValue ctx i) := by
  constructor <;> simp [messageValue, Value.at?, member?_ofMembers, List.lookup_cons,
    ReportContext.pathOf, Issue.column]

def Shows (ctx : ReportContext) (i : Issue) (shown : String) : Prop :=
  ∃ message, Config.documentValue shown = .ok message ∧ Tells ctx i message

def entry (ctx : ReportContext) (i : Issue) : String :=
  Doc.indent 2 ++ (messageDoc ctx i).prettyAt 2

theorem shows_entry (ctx : ReportContext) (i : Issue) : Shows ctx i (entry ctx i) :=
  ⟨_, Config.documentValue_indented (shows_message ctx i) 2, tells_messageValue ctx i⟩

end SummaryReport

end MetaLint
