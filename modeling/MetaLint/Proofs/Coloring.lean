import MetaLint.Proofs.AgreeingViews
import MetaLint.Proofs.LineScans
import MetaLint.Report.Console

/-!
# Colours and lines of the console report

Without its colour sequences the coloured report is the plain one, unless the issues themselves hold
an escape. In the plain report a message of several lines has each of them on a line of its own, and
the tool on one more. All of them but the first stand behind as many blanks as the location takes.
-/

set_option autoImplicit false

namespace MetaLint.Console

def escapeChar : Char := Char.ofNat 27

def isCode (c : Char) : Bool := Text.isDigit c || c == ';'

def afterCodes? : List Char → Option (List Char)
  | [] => none
  | c :: rest =>
    if c = 'm' then some rest
    else if isCode c then afterCodes? rest
    else none

def afterSequence? : List Char → Option (List Char)
  | a :: b :: rest => if a = escapeChar ∧ b = '[' then afterCodes? rest else none
  | _ => none

theorem length_afterCodes?_lt {text rest : List Char} (h : afterCodes? text = some rest) :
    rest.length < text.length := by
  induction text with
  | nil => contradiction
  | cons c text ih =>
    rw [afterCodes?] at h
    split at h
    · rw [← Option.some.inj h]
      exact Nat.lt_succ_self _
    · split at h
      · exact (ih h).trans (Nat.lt_succ_self _)
      · contradiction

theorem length_afterSequence?_lt {text rest : List Char} (h : afterSequence? text = some rest) :
    rest.length < text.length := by
  rw [afterSequence?.eq_def] at h
  split at h
  next a b text =>
    split at h
    · exact (length_afterCodes?_lt h).trans (by simp)
    · contradiction
  next => contradiction

/-- A text without its colour sequences. -/
def uncolored (text : List Char) : List Char :=
  match _h : afterSequence? text with
  | some rest => uncolored rest
  | none =>
    match text with
    | [] => []
    | c :: rest => c :: uncolored rest
termination_by text.length
decreasing_by
  · exact length_afterSequence?_lt ‹_›
  · simp

section Uncolored
variable {rest : List Char} {c : Char}

theorem uncolored_nil : uncolored [] = [] := by
  rw [uncolored]
  rfl

theorem uncolored_cons (h : c ≠ escapeChar) : uncolored (c :: rest) = c :: uncolored rest := by
  have hnone : afterSequence? (c :: rest) = none := by
    cases rest <;> simp [afterSequence?, h]
  rw [uncolored]
  split
  next hsome =>
    rw [hnone] at hsome
    contradiction
  next => rfl

theorem afterCodes?_append {codes : List Char} (h : codes.all isCode = true) (rest : List Char) :
    afterCodes? (codes ++ 'm' :: rest) = some rest := by
  induction codes with
  | nil => simp [afterCodes?]
  | cons a codes ih =>
    rw [List.all_cons, Bool.and_eq_true] at h
    have hne : a ≠ 'm' := by
      rintro rfl
      exact absurd h.1 (by decide)
    rw [List.cons_append, afterCodes?, if_neg hne, if_pos h.1, ih h.2]

theorem uncolored_sequence {codes : List Char} (h : codes.all isCode = true) (rest : List Char) :
    uncolored (escapeChar :: '[' :: (codes ++ 'm' :: rest)) = uncolored rest := by
  have hsome : afterSequence? (escapeChar :: '[' :: (codes ++ 'm' :: rest)) = some rest := by
    rw [afterSequence?, if_pos ⟨rfl, rfl⟩, afterCodes?_append h]
  rw [uncolored]
  split
  next hrest =>
    rw [hsome] at hrest
    rw [Option.some.inj hrest]
  next hnone =>
    rw [hsome] at hnone
    contradiction

end Uncolored

def removeColors (text : String) : String := String.ofList (uncolored text.toList)

def ShowsPlain (text plain : String) : Prop :=
  ∀ rest, uncolored (text.toList ++ rest) = plain.toList ++ uncolored rest

namespace ShowsPlain

variable {text other plain more : String}

theorem removeColors_eq (h : ShowsPlain text plain) : removeColors text = plain := by
  have hall := h []
  rw [List.append_nil, uncolored_nil, List.append_nil] at hall
  rw [removeColors, hall, String.ofList_toList]

theorem nil : ShowsPlain "" "" := fun _ => rfl

theorem append (h : ShowsPlain text plain) (ho : ShowsPlain other more) :
    ShowsPlain (text ++ other) (plain ++ more) := by
  intro rest
  rw [String.toList_append, List.append_assoc, h, ho, String.toList_append, List.append_assoc]

theorem of_not_mem (h : escapeChar ∉ text.toList) : ShowsPlain text text := by
  intro rest
  generalize text.toList = cs at h
  induction cs with
  | nil => rfl
  | cons c cs ih =>
    obtain ⟨hc, hcs⟩ := not_or.mp (mt List.mem_cons.mpr h)
    rw [List.cons_append, uncolored_cons (Ne.symm hc), ih hcs, List.cons_append]

theorem join {spans : List Span} (h : ∀ s ∈ spans, ShowsPlain s.colored s.plain) :
    ShowsPlain (String.join (spans.map Span.colored)) (String.join (spans.map Span.plain)) := by
  induction spans with
  | nil => exact nil
  | cons s spans ih =>
    obtain ⟨hs, hspans⟩ := List.forall_mem_cons.mp h
    rw [List.map_cons, List.map_cons, String.join_cons, String.join_cons]
    exact hs.append (ih hspans)

end ShowsPlain

structure Style.Hidden (st : Style) : Prop where
  start : ShowsPlain st.start ""
  stop : ShowsPlain st.stop ""

theorem Style.hidden_of_codes {st : Style} (on off : List Char) (hon : on.all isCode = true)
    (hoff : off.all isCode = true)
    (hstart : st.start.toList = escapeChar :: '[' :: (on ++ ['m']))
    (hstop : st.stop.toList = escapeChar :: '[' :: (off ++ ['m'])) : st.Hidden where
  start rest := by
    rw [hstart]
    simpa using uncolored_sequence hon rest
  stop rest := by
    rw [hstop]
    simpa using uncolored_sequence hoff rest

def reportStyles : List Style := [underlined, dimmed, bold, yellow, green]

theorem hidden_of_mem_reportStyles {st : Style} (h : st ∈ reportStyles) : st.Hidden := by
  simp only [reportStyles, List.mem_cons, List.not_mem_nil, or_false] at h
  rcases h with rfl | rfl | rfl | rfl | rfl
  · exact Style.hidden_of_codes ['4'] ['0'] rfl rfl rfl rfl
  · exact Style.hidden_of_codes ['2'] ['0'] rfl rfl rfl rfl
  · exact Style.hidden_of_codes ['1'] ['0'] rfl rfl rfl rfl
  · exact Style.hidden_of_codes ['3', '3'] ['3', '9'] rfl rfl rfl rfl
  · exact Style.hidden_of_codes ['3', '2'] ['3', '9'] rfl rfl rfl rfl

/-- A piece of text in styles of the report, without an escape of its own. -/
structure Span.Clear (s : Span) : Prop where
  text : escapeChar ∉ s.text.toList
  styles : ∀ st ∈ s.styles, st ∈ reportStyles

theorem Span.clear {text : String} {styles : List Style} (ht : escapeChar ∉ text.toList)
    (hs : ∀ st ∈ styles, st ∈ reportStyles) : Span.Clear ⟨text, styles⟩ := ⟨ht, hs⟩

theorem Span.Clear.showsPlain {s : Span} (h : s.Clear) : ShowsPlain s.colored s.plain := by
  obtain ⟨text, own⟩ := s
  obtain ⟨htext, hstyles⟩ := h
  induction own with
  | nil => exact .of_not_mem htext
  | cons st own ih =>
    obtain ⟨hst, hown⟩ := List.forall_mem_cons.mp hstyles
    have hhidden := hidden_of_mem_reportStyles hst
    have hwhole := (hhidden.start.append (ih htext hown)).append hhidden.stop
    rw [String.empty_append, String.append_empty] at hwhole
    exact hwhole

example : removeColors (Span.colored ⟨"two", [bold, yellow]⟩) = "two" := by cbv

section Characters
variable {i : Issue} {c : Char}

theorem not_mem_digitsText (hdigit : c.isDigit = false) (n : Nat) :
    c ∉ (Json.digitsText n).toList := by
  intro hc
  rw [Json.digitsText, String.toList_ofList] at hc
  rw [Nat.isDigit_of_mem_toDigits (by decide) (by decide) hc] at hdigit
  contradiction

theorem not_mem_location (hdigit : c.isDigit = false) (hblank : c ≠ ' ') (hcolon : c ≠ ':')
    (i : Issue) : c ∉ (location i).toList := by
  have hblanks : ∀ n, c ∉ List.replicate n ' ' := fun n hc => hblank (List.eq_of_mem_replicate hc)
  have hcolumn : c ∉ (i.character.elim "" numberString).toList := by
    cases i.character with
    | none => simp
    | some n => exact not_mem_digitsText hdigit n.toNat
  have hsign : c ∉ (if i.character.isSome then ":" else " ").toList := by
    split
    · exact fun hc => hcolon (List.mem_singleton.mp hc)
    · exact fun hc => hblank (List.mem_singleton.mp hc)
  simp only [location, Text.padLeft, Text.padRight, String.toList_append, String.toList_ofList,
    List.mem_append, not_or]
  exact ⟨⟨⟨⟨hblanks _, not_mem_digitsText hdigit _⟩, hsign⟩, hcolumn, hblanks _⟩,
    fun hc => hblank (List.mem_singleton.mp hc)⟩

theorem not_mem_toolInfo (hsign : c ∉ ['(', ':', ')']) (htool : c ∉ i.tool.toList)
    (hcode : c ∉ i.codeText.toList) : c ∉ (toolInfo i).toList := by
  simp only [List.mem_cons, List.not_mem_nil, or_false, not_or] at hsign
  obtain ⟨hopen, hcolon, hclose⟩ := hsign
  simp only [toolInfo, String.toList_append, List.mem_append, not_or]
  exact ⟨⟨⟨⟨fun hc => hopen (List.mem_singleton.mp hc), htool⟩,
    fun hc => hcolon (List.mem_singleton.mp hc)⟩, hcode⟩,
    fun hc => hclose (List.mem_singleton.mp hc)⟩

end Characters

/-- Nothing that an issue shows holds an escape. -/
structure Unescaped (i : Issue) : Prop where
  tool : escapeChar ∉ i.tool.toList
  code : escapeChar ∉ i.codeText.toList
  message : escapeChar ∉ i.message.toList
  filename : escapeChar ∉ i.filename.text.toList

section Issues
variable {i : Issue}

theorem not_mem_continuation (i : Issue) : escapeChar ∉ (continuation i).toList := by
  intro h
  rw [continuation, String.toList_append, List.mem_append] at h
  rcases h with hend | hblanks
  · exact absurd hend (by decide)
  · rw [String.toList_ofList] at hblanks
    exact absurd (List.eq_of_mem_replicate hblanks) (by decide)

theorem not_mem_messageText (h : Unescaped i) :
    escapeChar ∉ (messageText i).1.toList ∧ escapeChar ∉ (messageText i).2.toList := by
  rw [messageText]
  split
  · refine ⟨fun hmem => ?_, not_mem_continuation i⟩
    rcases Path.mem_toList_intercalate hmem with hseparator | ⟨t, ht, hc⟩
    · exact not_mem_continuation i hseparator
    · obtain ⟨line, hline, rfl⟩ := List.mem_map.mp ht
      rw [String.toList_ofList] at hc
      exact not_mem_expandTabs (by decide) h.message
        ((Text.sublist_of_mem_linesFrom hline).subset hc)
  · exact ⟨h.message, show escapeChar ∉ " ".toList by decide⟩

theorem clear_issueSpans (h : Unescaped i) : ∀ s ∈ issueSpans i, s.Clear := by
  obtain ⟨hmessage, hseparator⟩ := not_mem_messageText h
  have hboth : escapeChar ∉ ((messageText i).1 ++ (messageText i).2).toList := by
    rw [String.toList_append, List.mem_append, not_or]
    exact ⟨hmessage, hseparator⟩
  intro s hs
  simp only [issueSpans, List.mem_cons, List.not_mem_nil, or_false] at hs
  rcases hs with rfl | rfl | rfl | rfl
  · exact Span.clear (not_mem_location (by decide) (by decide) (by decide) i) (by decide)
  · exact Span.clear hboth (by decide)
  · exact Span.clear (not_mem_toolInfo (by decide) h.tool h.code) (by decide)
  · exact Span.clear (by decide) (by decide)

end Issues

theorem clear_summarySpans (total : Nat) : ∀ s ∈ summarySpans total, s.Clear := by
  have hcount : escapeChar ∉ ("✗ " ++ Json.digitsText total ++ " issues found.").toList := by
    simp only [String.toList_append, List.mem_append, not_or]
    exact ⟨⟨by decide, not_mem_digitsText (by decide) total⟩, by decide⟩
  intro s hs
  simp only [summarySpans, List.mem_cons, List.not_mem_nil, or_false] at hs
  rcases hs with rfl | rfl
  · split
    · exact Span.clear (by decide) (by decide)
    · exact Span.clear hcount (by decide)
  · exact Span.clear (by decide) (by decide)

theorem clear_fileSpans (ctx : ReportContext) {g : Path × List Issue}
    (hname : escapeChar ∉ g.1.text.toList) (h : ∀ i ∈ g.2, Unescaped i) :
    ∀ s ∈ fileSpans ctx g, s.Clear := by
  have hshown : escapeChar ∉ (g.1.relativeTo ctx.project).toList := by
    intro hmem
    rcases Path.mem_of_mem_relativeTo hmem with htext | hslash | hdot
    · exact hname htext
    · exact absurd hslash (by decide)
    · exact absurd hdot (by decide)
  have hcount : escapeChar ∉ (" (" ++ Json.digitsText g.2.length ++ ")\n").toList := by
    simp only [String.toList_append, List.mem_append, not_or]
    exact ⟨⟨by decide, not_mem_digitsText (by decide) _⟩, by decide⟩
  intro s hs
  simp only [fileSpans, List.mem_append, List.mem_cons, List.not_mem_nil, or_false,
    List.mem_flatMap] at hs
  rcases hs with ((rfl | rfl) | ⟨i, hi, hs⟩) | rfl
  · exact Span.clear hshown (by decide)
  · exact Span.clear hcount (by decide)
  · exact clear_issueSpans (h i hi) s hs
  · exact Span.clear (by decide) (by decide)

theorem clear_spans (ctx : ReportContext) {view : List Issue} (h : ∀ i ∈ view, Unescaped i) :
    ∀ s ∈ spans ctx view, s.Clear := by
  intro s hs
  rw [spans] at hs
  rcases List.mem_append.mp hs with hfiles | hsummary
  · obtain ⟨g, hg, hs⟩ := List.mem_flatMap.mp hfiles
    obtain ⟨⟨i, hi, hname⟩, -⟩ := eq_of_mem_issuesByFile hg
    have hissues : ∀ j ∈ g.2, Unescaped j := fun j hj =>
      h j ((issuesByFile_perm view).mem_iff.mp (List.mem_flatMap.mpr ⟨g, hg, hj⟩))
    exact clear_fileSpans ctx (hname ▸ (h i hi).filename) hissues s hs
  · exact clear_summarySpans _ s hsummary

/-- Without its colours the coloured text is the plain one. -/
theorem removeColors_text (ctx : ReportContext) {view : List Issue}
    (h : ∀ i ∈ view, Unescaped i) :
    removeColors (text { ctx with color := true } view) = text { ctx with color := false } view :=
  (ShowsPlain.join fun s hs => (clear_spans ctx h s hs).showsPlain).removeColors_eq

end MetaLint.Console
