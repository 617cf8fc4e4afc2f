import MetaLint.Proofs.Delivering
import MetaLint.Proofs.IssueEntries
import MetaLint.Proofs.Logging
import MetaLint.Proofs.Templates

/-!
# Views that agree

The list of the cleaned issues and their groups by any key are two views of the same issues: the
group of a key is what the list has of it, in the same order. Reports are made of one or the other.
Each of them has one entry for every cleaned issue, and a frame that depends on the issues only by
their files, their number and their rules.
-/

set_option autoImplicit false

namespace MetaLint

theorem join_flatMap {α β : Type} (write : β → String) (parts : α → List β) (as : List α) :
    String.join ((as.flatMap parts).map write) =
      String.join (as.map fun a => String.join ((parts a).map write)) := by
  induction as with
  | nil => rfl
  | cons a as ih =>
    rw [List.flatMap_cons, List.map_append, String.join_append, ih, List.map_cons,
      String.join_cons]

/-- A text that is made of an entry for each of the issues, in their order, and of the pieces of a
frame. -/
inductive ShowsEach (shows : Issue → String → Prop) : List String → List Issue → String → Prop
  | nil : ShowsEach shows [] [] ""
  | frame {pieces : List String} {issues : List Issue} {text : String} (piece : String)
      (h : ShowsEach shows pieces issues text) :
      ShowsEach shows (piece :: pieces) issues (piece ++ text)
  | entry {pieces : List String} {issues : List Issue} {i : Issue} {shown text : String}
      (hs : shows i shown) (h : ShowsEach shows pieces issues text) :
      ShowsEach shows pieces (i :: issues) (shown ++ text)

namespace ShowsEach

variable {shows : Issue → String → Prop} {write : Issue → String} {pieces : List String}
variable {issues : List Issue} {text : String}

theorem append (h : ShowsEach shows pieces issues text) {more : List String} {others : List Issue}
    {rest : String} (hr : ShowsEach shows more others rest) :
    ShowsEach shows (pieces ++ more) (issues ++ others) (text ++ rest) := by
  induction h with
  | nil => simpa using hr
  | frame piece _ ih =>
    rw [String.append_assoc]
    exact ih.frame piece
  | entry hs _ ih =>
    rw [String.append_assoc]
    exact ih.entry hs

theorem piece (text : String) : ShowsEach shows [text] [] text := by
  simpa using nil.frame text

theorem entries (hw : ∀ i, shows i (write i)) (issues : List Issue) :
    ShowsEach shows [] issues (String.join (issues.map write)) := by
  induction issues with
  | nil => exact nil
  | cons i issues ih =>
    rw [List.map_cons, String.join_cons]
    exact ih.entry (hw i)

theorem around (h : ShowsEach shows pieces issues text) (before after : String) :
    ShowsEach shows (before :: pieces ++ [after]) issues (before ++ text ++ after) := by
  simpa using ((h.frame before).append (piece after))

theorem flatMap {α : Type} {as : List α} {frame : α → List String} {shown : α → List Issue}
    {part : α → String} (h : ∀ a ∈ as, ShowsEach shows (frame a) (shown a) (part a)) :
    ShowsEach shows (as.flatMap frame) (as.flatMap shown) (String.join (as.map part)) := by
  induction as with
  | nil => exact nil
  | cons a as ih =>
    obtain ⟨ha, hrest⟩ := List.forall_mem_cons.mp h
    rw [List.flatMap_cons, List.flatMap_cons, List.map_cons, String.join_cons]
    exact ha.append (ih hrest)

theorem lines {line : Issue → String} (hl : ∀ i, shows i (line i ++ "\n"))
    (issues : List Issue) : ShowsEach shows [] issues (linesText (issues.map line)) := by
  rw [linesText, List.map_map]
  exact entries hl issues

theorem separated (hw : ∀ i, shows i (write i)) (separator : String) (i : Issue)
    (issues : List Issue) :
    ShowsEach shows (List.replicate issues.length separator) (i :: issues)
      (separator.intercalate ((i :: issues).map write)) := by
  induction issues generalizing i with
  | nil => simpa using entry (hw i) nil
  | cons j issues ih =>
    rw [List.map_cons, List.map_cons, String.intercalate_cons_cons, String.append_assoc]
    exact ((ih j).frame separator).entry (hw i)

end ShowsEach

namespace Json.Doc

open Jsonc (prettyItems_eq_map prettyMembers_eq_map)

def listFrame (level : Nat) : Nat → List String
  | 0 => ["[]"]
  | n + 1 => "[\n" :: List.replicate n ",\n" ++ ["\n" ++ indent level ++ "]"]

def itemFrame (level : Nat) (inner : List String) : List String :=
  ("[\n" ++ indent (level + 1)) :: inner ++ ["\n" ++ indent level ++ "]"]

def memberLine (level : Nat) (m : String × Doc) : String :=
  indent level ++ (quoted m.1 ++ ": " ++ m.2.prettyAt level)

def memberFrame (level : Nat) (members : List (String × Doc)) (name : String)
    (inner : List String) : List String :=
  ("\x7b\n" ++ String.join (members.map fun m => memberLine (level + 1) m ++ ",\n") ++
    indent (level + 1) ++ quoted name ++ ": ") :: inner ++ ["\n" ++ indent level ++ "\x7d"]

section Shown
variable {shows : Issue → String → Prop} {pieces : List String} {issues : List Issue} {d : Doc}

theorem showsEach_list {level : Nat} {record : Issue → Doc}
    (hr : ∀ i, shows i (indent (level + 1) ++ (record i).prettyAt (level + 1)))
    (issues : List Issue) : ShowsEach shows (listFrame level issues.length) issues
      ((list (issues.map record)).prettyAt level) := by
  rw [prettyAt, prettyItems_eq_map]
  cases issues with
  | nil => exact .piece "[]"
  | cons i issues =>
    have h := (ShowsEach.separated hr ",\n" i issues).around "[\n" ("\n" ++ indent level ++ "]")
    simpa [bracketed, listFrame, List.map_map, Function.comp_def, String.append_assoc] using h

theorem showsEach_item {level : Nat} (h : ShowsEach shows pieces issues (d.prettyAt (level + 1))) :
    ShowsEach shows (itemFrame level pieces) issues ((list [d]).prettyAt level) := by
  have ha := h.around ("[\n" ++ indent (level + 1)) ("\n" ++ indent level ++ "]")
  rw [prettyAt, prettyItems_eq_map]
  simpa [bracketed, itemFrame, String.append_assoc] using ha

theorem showsEach_member {level : Nat} (h : ShowsEach shows pieces issues (d.prettyAt (level + 1)))
    (members : List (String × Doc)) (name : String) :
    ShowsEach shows (memberFrame level members name pieces) issues
      ((object (members ++ [(name, d)])).prettyAt level) := by
  have hlines : ((members ++ [(name, d)]).map fun m => quoted m.1 ++ ": " ++
      m.2.prettyAt (level + 1)).map (indent (level + 1) ++ ·) =
        members.map (memberLine (level + 1)) ++ [memberLine (level + 1) (name, d)] := by
    rw [List.map_map, List.map_append]
    rfl
  have ha := h.around ("\x7b\n" ++ String.join (members.map fun m =>
    memberLine (level + 1) m ++ ",\n") ++ indent (level + 1) ++ quoted name ++ ": ")
    ("\n" ++ indent level ++ "\x7d")
  rw [prettyAt, prettyMembers_eq_map, bracketed, if_neg (by simp), hlines, Text.intercalate_concat,
    List.map_map, memberFrame]
  simpa [memberLine, Function.comp_def, String.append_assoc] using ha

end Shown

end Json.Doc

/-- A report shows the cleaned issues of a collector, each of them once: its text has an entry for
each of them, in the order of a list, inside of a frame. -/
structure Report.ShowsCleaned (r : Report) (c : Collector) (d : Disk) (ctx : ReportContext)
    (shows : Issue → String → Prop) (frame : List String) (listed : List Issue) : Prop where
  text : ∃ text, r.render c d ctx = (.ok text, (c.view d).2) ∧ ShowsEach shows frame listed text
  once : listed.Perm (c.view d).1
  counted : listed.length = (c.count d).1

theorem Report.showsCleaned {r : Report} {c : Collector} {d : Disk} {ctx : ReportContext}
    {shows : Issue → String → Prop} {frame : List String} {listed : List Issue}
    {text : List Issue → String} (hbody : r.body ctx = .ofIssues fun view => .whole (text view))
    (htext : ShowsEach shows frame listed (text (c.view d).1)) (hp : listed.Perm (c.view d).1) :
    r.ShowsCleaned c d ctx shows frame listed where
  text := ⟨_, render_of_whole hbody, htext⟩
  once := hp
  counted := hp.length_eq

namespace Console

def heading (ctx : ReportContext) (file : Path) (n : Nat) : String :=
  String.join [styled ctx.color "\x1b[4m" "\x1b[0m" (file.relativeTo ctx.project), " (",
    toString n, ")\n"]

def summary (ctx : ReportContext) (n : Nat) : String :=
  if n = 0 then
    styled ctx.color "\x1b[1m\x1b[32m" "\x1b[39m\x1b[0m" "✔ No issues found!" ++ "\n"
  else
    styled ctx.color "\x1b[1m\x1b[33m" "\x1b[39m\x1b[0m"
      (String.join ["✗ ", toString n, " issues found."]) ++ "\n"

def frame (ctx : ReportContext) (groups : Grouped Path Issue) (total : Nat) : List String :=
  (groups.flatMap fun g => [heading ctx g.1 g.2.length, "\n"]) ++ [summary ctx total]

theorem heading_eq (ctx : ReportContext) (file : Path) (n : Nat) : heading ctx file n =
    String.join ([⟨file.relativeTo ctx.project, [underlined]⟩,
      ⟨" (" ++ Json.digitsText n ++ ")\n", []⟩].map (Span.write ctx.color)) := by
  rw [List.map_cons, List.map_singleton, write_single, write_plain]
  simp only [heading, String.join_cons, String.join_nil, String.append_empty, String.append_assoc]
  rfl

theorem summary_eq (ctx : ReportContext) (n : Nat) :
    summary ctx n = String.join ((summarySpans n).map (Span.write ctx.color)) := by
  simp only [summary, summarySpans, List.map_cons, List.map_nil, write_plain, String.join_cons,
    String.join_nil, String.append_empty]
  split
  next => rw [write_pair]; rfl
  next =>
    rw [write_pair, String.append_assoc]
    rfl

theorem showsEach_group (ctx : ReportContext) (g : Path × List Issue) :
    ShowsEach (Shows ctx.color) [heading ctx g.1 g.2.length, "\n"] g.2
      (String.join ((fileSpans ctx g).map (Span.write ctx.color))) := by
  have hentry : (fun i => String.join ((issueSpans i).map (Span.write ctx.color))) =
    entry ctx := rfl
  have h := (ShowsEach.entries (shows_entry ctx) g.2).around (heading ctx g.1 g.2.length) "\n"
  rw [fileSpans, List.map_append, List.map_append, String.join_append, String.join_append,
    join_flatMap, hentry, ← heading_eq]
  simpa [write_plain] using h

theorem showsEach_text (ctx : ReportContext) (view : List Issue) :
    ShowsEach (Shows ctx.color) (frame ctx (issuesByFile view) view.length)
      (Grouped.toList (issuesByFile view)) (text ctx view) := by
  have h := (ShowsEach.flatMap fun g (_ : g ∈ issuesByFile view) => showsEach_group ctx g).append
    (ShowsEach.piece (summary ctx view.length))
  rw [text, spans, (issuesByFile_perm view).length_eq, List.map_append, String.join_append,
    join_flatMap, ← summary_eq]
  simpa [frame, Grouped.toList] using h

end Console

namespace ModuleReport

def Heads (ctx : ReportContext) (group : Path × List Issue) (heading : String) : Prop :=
  ∃ name, Named (group.1.relativeTo ctx.project) name ∧
    heading = String.join ["************* Module ", name, "\n"]

def heading (ctx : ReportContext) (group : Path × List Issue) : String :=
  "************* Module " ++ moduleName (group.1.relativeTo ctx.project) ++ "\n"

theorem heads_heading (ctx : ReportContext) (group : Path × List Issue) :
    Heads ctx group (heading ctx group) := by
  refine ⟨_, named_moduleName _, ?_⟩
  unfold heading
  generalize moduleName _ = name
  simp [String.append_assoc]

theorem showsEach_text (ctx : ReportContext) (view : List Issue) :
    ShowsEach Shows ((issuesByFile view).map (heading ctx)) (Grouped.toList (issuesByFile view))
      (text ctx view) := by
  have hgroup : ∀ g ∈ issuesByFile view, ShowsEach Shows [heading ctx g] g.2
      (linesText (groupLines ctx g)) := by
    intro g _
    have h := (ShowsEach.lines shows_line g.2).frame (heading ctx g)
    rwa [groupLines, linesText, List.map_cons, String.join_cons, ← linesText]
  rw [text, linesText, join_flatMap, List.map_eq_flatMap]
  exact ShowsEach.flatMap hgroup

end ModuleReport

namespace Sarif

open Json

def frame (rules : List String) (n : Nat) : List String :=
  Doc.memberFrame 0 [("$schema", .text schemaAddress), ("version", .text "2.1.0")] "runs"
    (Doc.itemFrame 1 (Doc.memberFrame 2 [("tool", .object [("driver", driverDoc rules)])] "results"
      (Doc.listFrame 3 n))) ++ ["\n"]

theorem showsEach_text (ctx : ReportContext) (view : List Issue) :
    ShowsEach (Shows ctx) (frame (Log.ofIssues ctx view).rules view.length)
      (Issue.sortBy Issue.defaultOrder view) ((Log.ofIssues ctx view).toDoc.pretty ++ "\n") := by
  have hlist : ShowsEach (Shows ctx) (Doc.listFrame 3 view.length)
      (Issue.sortBy Issue.defaultOrder view)
      ((Doc.list ((Log.ofIssues ctx view).results.map Result.toDoc)).prettyAt 3) := by
    rw [Log.ofIssues, List.map_map, ← (Issue.sortBy_perm Issue.defaultOrder view).length_eq]
    exact Doc.showsEach_list (shows_entry ctx) _
  have hrun := Doc.showsEach_member hlist
    [("tool", .object [("driver", driverDoc (Log.ofIssues ctx view).rules)])] "results"
  have hlog := Doc.showsEach_member (Doc.showsEach_item hrun)
    [("$schema", .text schemaAddress), ("version", .text "2.1.0")] "runs"
  have htext := hlog.append (ShowsEach.piece "\n")
  rw [List.append_nil] at htext
  exact htext

end Sarif

namespace SummaryReport

open Json

def frame (ctx : ReportContext) (n : Nat) : List String :=
  Doc.memberFrame 0 [("summary", summaryDoc ctx n)] "messages" (Doc.listFrame 1 n) ++ ["\n"]

theorem showsEach_text (ctx : ReportContext) (view : List Issue) :
    ShowsEach (Shows ctx) (frame ctx view.length) (Issue.sortBy Issue.placeOrder view)
      ((doc ctx view).pretty ++ "\n") := by
  have hlist := Doc.showsEach_list (shows_entry ctx) (Issue.sortBy Issue.placeOrder view)
  rw [(Issue.sortBy_perm Issue.placeOrder view).length_eq] at hlist
  have htext := (Doc.showsEach_member hlist [("summary", summaryDoc ctx view.length)]
    "messages").append (ShowsEach.piece "\n")
  rw [List.append_nil] at htext
  exact htext

end SummaryReport

namespace Collector

open Std (TransCmp)

variable (c : Collector) (d : Disk) (ctx : ReportContext)

/-- The list of the cleaned issues and their groups agree, whichever is asked for first, and
whatever happens to the disk in between. -/
structure ViewsAgree : Prop where
  listed : ∀ order, (c.issues d order).1.Perm (c.view d).1
  grouped : ∀ {κ : Type} (cmp : κ → κ → Ordering) [TransCmp cmp] (key : Issue → κ) order later,
    Grouped.Splits cmp key (c.issues d order).1
      ((c.issues d order).2.grouped later cmp key order).1
  groupedFirst : ∀ {κ : Type} (cmp : κ → κ → Ordering) [TransCmp cmp] (key : Issue → κ) order later,
    Grouped.Splits cmp key ((c.grouped d cmp key order).2.issues later order).1
      (c.grouped d cmp key order).1
  byFile : ∀ order later p, Grouped.groupOf Path.cmp p ((c.issues d order).2.byFile later order).1 =
    (c.issues d order).1.filter fun i => i.filename.components = p.components

structure Reported : Prop where
  console : Console.report.ShowsCleaned c d ctx (Console.Shows ctx.color)
    (Console.frame ctx (c.byFile d Issue.defaultOrder).1 (c.count d).1)
    (Grouped.toList (c.byFile d Issue.defaultOrder).1)
  pylint : ∃ headings,
    List.Forall₂ (ModuleReport.Heads ctx) (c.byFile d Issue.defaultOrder).1 headings ∧
    ModuleReport.report.ShowsCleaned c d ctx ModuleReport.Shows headings
      (Grouped.toList (c.byFile d Issue.defaultOrder).1)
  pycodestyle : FlatReport.report.ShowsCleaned c d ctx (FlatReport.Shows ctx) []
    (c.issues d Issue.placeOrder).1
  custom : ∀ segments, Template.parse (Template.templateOf ctx) = .ok segments →
    Template.report.ShowsCleaned c d ctx
      (fun i shown => ∃ line, Template.Shown ctx i segments line ∧ shown = line ++ "\n") []
      (c.issues d Issue.placeOrder).1
  sarif : Sarif.report.ShowsCleaned c d ctx (Sarif.Shows ctx)
    (Sarif.frame (Sarif.Log.ofIssues ctx (c.view d).1).rules (c.count d).1)
    (c.issues d Issue.defaultOrder).1
  summary : SummaryReport.report.ShowsCleaned c d ctx (SummaryReport.Shows ctx)
    (SummaryReport.frame ctx (c.count d).1) (c.issues d Issue.placeOrder).1

theorem viewsAgree : c.ViewsAgree d where
  listed order := Issue.sortBy_perm order (c.view d).1
  grouped cmp _ key order later := by
    rw [Collector.grouped, issues, view_view]
    exact Issue.splits_sortBy key order (c.view d).1
  groupedFirst cmp _ key order later := by
    rw [Collector.grouped, issues, view_view]
    exact Issue.splits_sortBy key order (c.view d).1
  byFile order later p := by
    rw [Collector.byFile, Collector.grouped, issues, view_view]
    refine ((Issue.splits_sortBy Issue.filename order (c.view d).1).groupOf_eq p).trans ?_
    apply List.filter_congr
    intro i _
    rw [Bool.eq_iff_iff, beq_iff_eq, Path.cmp_eq_eq, decide_eq_true_iff]

theorem reported : c.Reported d ctx where
  console := Report.showsCleaned rfl (Console.showsEach_text ctx (c.view d).1)
    (issuesByFile_perm (c.view d).1)
  pylint := by
    refine ⟨_, ?_, Report.showsCleaned rfl (ModuleReport.showsEach_text ctx (c.view d).1)
      (issuesByFile_perm (c.view d).1)⟩
    rw [List.forall₂_map_right_iff]
    exact List.forall₂_same.mpr fun g _ => ModuleReport.heads_heading ctx g
  pycodestyle := Report.showsCleaned rfl (ShowsEach.lines (FlatReport.shows_line ctx) _)
    (Issue.sortBy_perm Issue.placeOrder (c.view d).1)
  custom segments h := Report.showsCleaned (Template.body_of_parse ctx h)
    (ShowsEach.lines (fun i => ⟨_, Template.shown_fill ctx i segments, rfl⟩) _)
    (Issue.sortBy_perm Issue.placeOrder (c.view d).1)
  sarif := Report.showsCleaned rfl (Sarif.showsEach_text ctx (c.view d).1)
    (Issue.sortBy_perm Issue.defaultOrder (c.view d).1)
  summary := Report.showsCleaned rfl (SummaryReport.showsEach_text ctx (c.view d).1)
    (Issue.sortBy_perm Issue.placeOrder (c.view d).1)

/-- The list of the cleaned issues and their groups agree, and six reports show each cleaned issue
once. -/
theorem agreeing_views : c.ViewsAgree d ∧ c.Reported d ctx := ⟨c.viewsAgree d, c.reported d ctx⟩

end Collector

end MetaLint
