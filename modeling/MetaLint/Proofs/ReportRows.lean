import MetaLint.Proofs.Coloring
import MetaLint.Proofs.Merging

/-!
# Rows of the console report

Each row of the plain console report ends in a line feed, the last one too. A message of several
lines stands in rows of its own: one for each of its lines and one for the tool, and behind the
first of them as many blanks as the location takes.
-/

set_option autoImplicit false

namespace MetaLint

def rows (text : String) : List String := (text.toList.splitOn '\n').dropLast.map String.ofList

def Ended (text : String) : Prop :=
  ∃ ls : List String, (∀ l ∈ ls, '\n' ∉ l.toList) ∧ text = linesText ls

theorem not_mem_of_mem_splitOn {c : Char} {text piece : List Char} (h : piece ∈ text.splitOn c) :
    c ∉ piece := by
  induction text generalizing piece with
  | nil =>
    rw [List.splitOn_nil] at h
    rw [List.mem_singleton.mp h]
    exact List.not_mem_nil
  | cons a text ih =>
    rw [List.splitOn_cons_eq_if_modifyHead] at h
    split at h
    · rcases List.mem_cons.mp h with rfl | h
      · exact List.not_mem_nil
      · exact ih h
    next ha =>
      obtain ⟨first, rest, he⟩ := List.exists_cons_of_ne_nil (List.splitOn_ne_nil c text)
      rw [he] at h ih
      rcases List.mem_cons.mp h with rfl | h
      · simpa [Ne.symm (by simpa using ha)] using ih List.mem_cons_self
      · exact ih (List.mem_cons_of_mem first h)

theorem linesText_eq_intercalate (ls : List String) :
    linesText ls = "\n".intercalate (ls ++ [""]) := by
  rw [Text.intercalate_concat, linesText, String.append_empty]

theorem linesText_append (ls more : List String) :
    linesText (ls ++ more) = linesText ls ++ linesText more := by
  rw [linesText, List.map_append, String.join_append, ← linesText, ← linesText]

theorem linesText_cons (l : String) (ls : List String) :
    linesText (l :: ls) = l ++ "\n" ++ linesText ls := by
  rw [linesText, List.map_cons, String.join_cons, ← linesText]

theorem rows_linesText {ls : List String} (h : ∀ l ∈ ls, '\n' ∉ l.toList) :
    rows (linesText ls) = ls := by
  have hall : ∀ cs ∈ (ls ++ [""]).map String.toList, '\n' ∉ cs := by
    intro cs hcs
    obtain ⟨l, hl, rfl⟩ := List.mem_map.mp hcs
    rcases List.mem_append.mp hl with hl | hl
    · exact h l hl
    · rw [List.mem_singleton.mp hl]
      exact List.not_mem_nil
  have hend : "\n".toList = ['\n'] := rfl
  rw [rows, linesText_eq_intercalate, String.toList_intercalate, hend,
    List.splitOn_intercalate '\n' hall (by simp), List.map_append, List.map_singleton,
    List.dropLast_concat, List.map_map]
  simp [Function.comp_def]

namespace Ended

variable {text other : String}

theorem linesText_rows (h : Ended text) : linesText (rows text) = text := by
  obtain ⟨ls, hls, rfl⟩ := h
  rw [rows_linesText hls]

theorem nil : Ended "" := ⟨[], by simp, rfl⟩

theorem append (h : Ended text) (ho : Ended other) : Ended (text ++ other) := by
  obtain ⟨ls, hls, rfl⟩ := h
  obtain ⟨ms, hms, rfl⟩ := ho
  exact ⟨ls ++ ms, List.forall_mem_append.mpr ⟨hls, hms⟩, (linesText_append ls ms).symm⟩

theorem concat (text : String) : Ended (text ++ "\n") := by
  refine ⟨(text.toList.splitOn '\n').map String.ofList, ?_, ?_⟩
  · intro l hl
    obtain ⟨cs, hcs, rfl⟩ := List.mem_map.mp hl
    rw [String.toList_ofList]
    exact not_mem_of_mem_splitOn hcs
  · have hend : "\n".toList = ['\n'] := rfl
    have hwhole : "\n".intercalate ((text.toList.splitOn '\n').map String.ofList) = text := by
      rw [← String.toList_inj, String.toList_intercalate, hend, List.map_map]
      simp [Function.comp_def]
    rw [linesText_eq_intercalate, String.intercalate_append_of_ne_nil (by simp) (by simp), hwhole,
      String.intercalate_singleton, String.append_empty]

end Ended

namespace ShowsEach

variable {shows : Issue → String → Prop} {pieces : List String} {issues : List Issue}
variable {text : String}

theorem ended (h : ShowsEach shows pieces issues text) (hp : ∀ piece ∈ pieces, Ended piece)
    (hs : ∀ i shown, shows i shown → Ended shown) : Ended text := by
  induction h with
  | nil => exact .nil
  | frame piece _ ih =>
    obtain ⟨hpiece, hpieces⟩ := List.forall_mem_cons.mp hp
    exact hpiece.append (ih hpieces)
  | entry hshown _ ih => exact (hs _ _ hshown).append (ih hp)

theorem split (h : ShowsEach shows pieces issues text) {is js : List Issue} {i : Issue}
    (he : issues = is ++ i :: js) : ∃ above below before shown after,
      pieces = above ++ below ∧ text = before ++ shown ++ after ∧ shows i shown ∧
      ShowsEach shows above is before ∧ ShowsEach shows below js after := by
  induction h generalizing is with
  | nil => simp at he
  | frame piece _ ih =>
    obtain ⟨above, below, before, shown, after, rfl, rfl, hshown, habove, hbelow⟩ := ih he
    exact ⟨piece :: above, below, piece ++ before, shown, after, rfl,
      by simp [String.append_assoc], hshown, habove.frame piece, hbelow⟩
  | @entry pieces issues k first text hfirst hrest ih =>
    cases is with
    | nil =>
      obtain ⟨rfl, rfl⟩ := List.cons.inj he
      exact ⟨[], pieces, "", first, text, rfl, by simp, hfirst, .nil, hrest⟩
    | cons m is =>
      obtain ⟨rfl, htail⟩ := List.cons.inj he
      obtain ⟨above, below, before, shown, after, rfl, rfl, hshown, habove, hbelow⟩ := ih htail
      exact ⟨above, below, first ++ before, shown, after, rfl, by simp [String.append_assoc],
        hshown, habove.entry hfirst, hbelow⟩

end ShowsEach

namespace Console

/-- Texts below each other behind a front, and behind as many blanks from the second one on. -/
def hanging (front : String) : List String → List String
  | [] => []
  | first :: rest => (front ++ first) :: rest.map (blanks front.length ++ ·)

theorem length_hanging (front : String) (texts : List String) :
    (hanging front texts).length = texts.length := by
  cases texts with
  | nil => rfl
  | cons first rest => rw [hanging, List.length_cons, List.length_map, List.length_cons]

theorem not_mem_hanging {front : String} {texts : List String} (hf : '\n' ∉ front.toList)
    (h : ∀ t ∈ texts, '\n' ∉ t.toList) : ∀ row ∈ hanging front texts, '\n' ∉ row.toList := by
  cases texts with
  | nil => simp [hanging]
  | cons first rest =>
    obtain ⟨hfirst, hrest⟩ := List.forall_mem_cons.mp h
    intro row hrow
    rcases List.mem_cons.mp hrow with rfl | hrow
    · rw [String.toList_append, List.mem_append, not_or]
      exact ⟨hf, hfirst⟩
    · obtain ⟨t, ht, rfl⟩ := List.mem_map.mp hrow
      rw [String.toList_append, List.mem_append, not_or, blanks, String.toList_ofList]
      exact ⟨fun hmem => absurd (List.eq_of_mem_replicate hmem) (by decide), hrest t ht⟩

theorem linesText_indented (front indent first : String) (rest : List String) :
    linesText ((front ++ first) :: rest.map (indent ++ ·)) =
      front ++ ("\n" ++ indent).intercalate (first :: rest) ++ "\n" := by
  induction rest generalizing front first with
  | nil => simp [linesText, String.append_assoc]
  | cons second rest ih =>
    rw [List.map_cons, linesText_cons, ih, String.intercalate_cons_cons]
    simp only [String.append_assoc]

theorem linesText_hanging (front last : String) (texts : List String) :
    linesText (hanging front (texts ++ [last])) =
      front ++ String.join (texts.map (· ++ ("\n" ++ blanks front.length))) ++ last ++ "\n" := by
  have hwhole : linesText (hanging front (texts ++ [last])) =
      front ++ ("\n" ++ blanks front.length).intercalate (texts ++ [last]) ++ "\n" := by
    cases texts with
    | nil => exact linesText_indented front (blanks front.length) last []
    | cons first rest => exact linesText_indented front _ first (rest ++ [last])
  rw [hwhole, Text.intercalate_concat]
  simp only [String.append_assoc]

/-- The message of an issue has several lines, and what stands behind it is on one. -/
structure Multiline (i : Issue) : Prop where
  message : '\n' ∈ i.message.toList
  tool : '\n' ∉ i.tool.toList
  code : '\n' ∉ (i.code.getD "").toList

/-- The rows of an issue whose message has several lines: behind the place and below each other
those of the message, with their tabs expanded, and then the tool and the code. -/
def EntryRows (i : Issue) (rows : List String) : Prop :=
  ∃ place lines, Located i place ∧ List.Forall₂ Expanded (Text.lines i.message.toList) lines ∧
    rows = hanging place (lines.map String.ofList ++
      [String.join ["(", i.tool, ":", i.code.getD "", ")"]])

section Entry
variable {i : Issue} {rows : List String} {shown : String}

theorem EntryRows.length_eq (h : EntryRows i rows) :
    rows.length = (Text.lines i.message.toList).length + 1 := by
  obtain ⟨place, lines, -, hlines, rfl⟩ := h
  rw [length_hanging, List.length_append, List.length_map, List.length_singleton,
    hlines.length_eq]

theorem EntryRows.not_mem (h : EntryRows i rows) (hi : Multiline i) :
    ∀ row ∈ rows, '\n' ∉ row.toList := by
  obtain ⟨place, lines, hplace, hlines, rfl⟩ := h
  rw [located_iff.mp hplace, ← forall₂_expanded_iff.mp hlines, ← toolInfo_eq]
  refine not_mem_hanging (not_mem_location (by decide) (by decide) (by decide) i) fun t ht => ?_
  rcases List.mem_append.mp ht with hline | htool
  · obtain ⟨shown, hshown, rfl⟩ := List.mem_map.mp hline
    obtain ⟨line, hmem, rfl⟩ := List.mem_map.mp hshown
    rw [String.toList_ofList]
    exact not_mem_expandTabs (by decide) (Text.not_mem_of_mem_linesFrom List.not_mem_nil hmem)
  · rw [List.mem_singleton.mp htool]
    exact not_mem_toolInfo (by decide) hi.tool hi.code

theorem Shows.exists_rows (h : Shows false i shown) (hi : Multiline i) :
    ∃ rows, EntryRows i rows ∧ shown = linesText rows := by
  obtain ⟨place, body, hplace, hbody, rfl⟩ := h
  cases hbody with
  | line hline => exact absurd hi.message hline
  | @lines lines _ hlines =>
    refine ⟨_, ⟨place, lines, hplace, hlines, rfl⟩, ?_⟩
    rw [linesText_hanging, List.map_map]
    simp [styled, String.append_assoc, Function.comp_def]

example : EntryRows
    { tool := "t", code := some "c", message := "one\n\ttwo", filename := ⟨"a.py"⟩, line := 7,
      character := some 2 }
    ["    7:2   one", "                  two", "          (t:c)"] :=
  ⟨_, _, located_iff.mpr rfl, forall₂_expanded_iff.mpr rfl, by decide⟩

theorem Shows.ended {color : Bool} (h : Shows color i shown) : Ended shown := by
  obtain ⟨place, body, -, -, rfl⟩ := h
  simp only [String.join_cons, String.join_nil, String.append_empty]
  rw [← String.append_assoc, ← String.append_assoc]
  exact .concat _

end Entry

theorem ended_of_mem_frame {ctx : ReportContext} {groups : Grouped Path Issue} {total : Nat} :
    ∀ piece ∈ frame ctx groups total, Ended piece := by
  intro piece hpiece
  rcases List.mem_append.mp hpiece with hfile | hsummary
  · obtain ⟨g, -, hg⟩ := List.mem_flatMap.mp hfile
    simp only [List.mem_cons, List.not_mem_nil, or_false] at hg
    rcases hg with rfl | rfl
    · have hend : heading ctx g.1 g.2.length =
          styled ctx.color "\x1b[4m" "\x1b[0m" (g.1.relativeTo ctx.project) ++ " (" ++
            toString g.2.length ++ ")" ++ "\n" := by
        simp [heading, String.append_assoc]
      rw [hend]
      exact .concat _
    · exact Ended.concat ""
  · rw [List.mem_singleton.mp hsummary, summary]
    split
    · exact Ended.concat _
    · exact Ended.concat _

end Console

namespace Collector

def held (c : Collector) : List Issue := c.raw ++ c.cleaned.getD []

theorem mem_held_of_mem_view {c : Collector} {d : Disk} {i : Issue} (h : i ∈ (c.view d).1) :
    i ∈ c.held := by
  rw [view] at h
  split at h
  next v hv =>
    rw [held, hv]
    exact List.mem_append_right _ h
  next =>
    have hkept : i ∈ c.raw.filter (c.settings.keeps
        (ensureIndexes c.settings d c.directives c.raw).get) := by
      simp only [CleanSettings.clean, CleanSettings.merged] at h
      split at h
      · exact Issue.mem_arranged.mp ((Issue.merge_sublist _).subset h)
      · exact h
    exact List.mem_append_left _ (List.mem_of_mem_filter hkept)

end Collector

namespace Console

variable (c : Collector) (d : Disk) (ctx : ReportContext)

def listed : List Issue := Grouped.toList (c.byFile d Issue.defaultOrder).1

def plainFrame : List String :=
  frame { ctx with color := false } (c.byFile d Issue.defaultOrder).1 (c.count d).1

/-- The rows of a report have those of `i` in one place: behind the entries of the issues `is`, and
before those of `js`. -/
def Stacked (all : List String) (is : List Issue) (i : Issue) (js : List Issue) : Prop :=
  ∃ before own after above below, all = before ++ own ++ after ∧ EntryRows i own ∧
    plainFrame c d ctx = above ++ below ∧ ShowsEach (Shows false) above is (linesText before) ∧
    ShowsEach (Shows false) below js (linesText after)

/-- The report of a collector without colours and with them. -/
structure Rendered (plain colored : String) : Prop where
  renderPlain : report.render c d { ctx with color := false } = (.ok plain, (c.view d).2)
  renderColored : report.render c d { ctx with color := true } = (.ok colored, (c.view d).2)
  uncolored : (∀ i ∈ c.held, Unescaped i) → removeColors colored = plain
  once : (listed c d).Perm (c.view d).1
  ended : linesText (rows plain) = plain
  stacked : ∀ is i js, listed c d = is ++ i :: js → Multiline i →
    Stacked c d ctx (rows plain) is i js
  height : ∀ i own, EntryRows i own → own.length = (Text.lines i.message.toList).length + 1

/-- Colours change nothing but themselves, and each issue of several lines has rows of its own, in
the order of the report. -/
theorem exists_rendered : ∃ plain colored, Rendered c d ctx plain colored := by
  have hshown : ShowsEach (Shows false) (plainFrame c d ctx) (listed c d)
      (text { ctx with color := false } (c.view d).1) :=
    showsEach_text { ctx with color := false } (c.view d).1
  refine ⟨text { ctx with color := false } (c.view d).1,
    text { ctx with color := true } (c.view d).1, Report.render_of_whole rfl,
    Report.render_of_whole rfl, ?_, issuesByFile_perm _, ?_, ?_, fun i own h => h.length_eq⟩
  · intro h
    exact removeColors_text ctx fun i hi => h i (Collector.mem_held_of_mem_view hi)
  · exact (hshown.ended ended_of_mem_frame fun i shown h => h.ended).linesText_rows
  · intro is i js hlisted hi
    obtain ⟨above, below, before, shown, after, hframe, htext, hi', habove, hbelow⟩ :=
      hshown.split hlisted
    have hpieces : ∀ piece ∈ above ++ below, Ended piece := hframe ▸ ended_of_mem_frame
    obtain ⟨habovePieces, hbelowPieces⟩ := List.forall_mem_append.mp hpieces
    obtain ⟨bs, hbs, rfl⟩ := habove.ended habovePieces fun i shown h => h.ended
    obtain ⟨as, has, rfl⟩ := hbelow.ended hbelowPieces fun i shown h => h.ended
    obtain ⟨own, hown, rfl⟩ := hi'.exists_rows hi
    refine ⟨bs, own, as, above, below, ?_, hown, hframe, habove, hbelow⟩
    rw [htext, ← linesText_append, ← linesText_append]
    apply rows_linesText
    simp only [List.forall_mem_append]
    exact ⟨⟨hbs, hown.not_mem hi⟩, has⟩

end Console

end MetaLint
