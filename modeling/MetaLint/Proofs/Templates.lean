import MetaLint.Report.Template
import Mathlib.Data.List.Forall2

/-!
# Templates and their segments

A template is accepted exactly when it is made of characters other than braces, of doubled braces
and of names of tokens between braces. Such a template and the segments that it is read as determine
each other, literal texts being neither empty nor next to one another.
-/

set_option autoImplicit false

namespace MetaLint.Template

inductive IsPiece : List Char → Prop
  | plain {c : Char} (ho : c ≠ '\x7b') (hc : c ≠ '\x7d') : IsPiece [c]
  | opened : IsPiece ['\x7b', '\x7b']
  | closed : IsPiece ['\x7d', '\x7d']
  | token {name : String} (h : name ∈
      ["filename", "full_filename", "line", "character", "code", "tool", "message"]) :
      IsPiece ('\x7b' :: name.toList ++ ['\x7d'])

/-- A text that falls into pieces. -/
def WellFormed (text : List Char) : Prop :=
  ∃ pieces : List (List Char), (∀ p ∈ pieces, IsPiece p) ∧ text = pieces.flatten

theorem wellFormed_nil : WellFormed [] := ⟨[], by simp, rfl⟩

theorem IsPiece.wellFormed {p : List Char} (h : IsPiece p) : WellFormed p :=
  ⟨[p], by simpa using h, by simp⟩

theorem WellFormed.append {text rest : List Char} (h : WellFormed text) (hr : WellFormed rest) :
    WellFormed (text ++ rest) := by
  obtain ⟨pieces, hp, rfl⟩ := h
  obtain ⟨more, hm, rfl⟩ := hr
  refine ⟨pieces ++ more, ?_, by simp⟩
  intro p hmem
  rcases List.mem_append.mp hmem with h | h
  · exact hp p h
  · exact hm p h

theorem doubled_append (text rest : List Char) :
    doubled (text ++ rest) = doubled text ++ doubled rest := List.flatMap_append

theorem doubled_singleton (c : Char) :
    doubled [c] = if c = openBrace || c = closeBrace then [c, c] else [c] := by simp [doubled]

theorem wellFormed_doubled (text : List Char) : WellFormed (doubled text) := by
  induction text with
  | nil => exact wellFormed_nil
  | cons c text ih =>
    have hsplit : doubled (c :: text) = doubled [c] ++ doubled text := doubled_append [c] text
    rw [hsplit, doubled_singleton]
    apply WellFormed.append _ ih
    split
    next h =>
      simp only [Bool.or_eq_true, decide_eq_true_eq] at h
      rcases h with rfl | rfl
      · exact IsPiece.opened.wellFormed
      · exact IsPiece.closed.wellFormed
    next h =>
      simp only [Bool.or_eq_true, decide_eq_true_eq, not_or] at h
      exact (IsPiece.plain h.1 h.2).wellFormed

theorem source_cons (s : Segment) (segments : List Segment) :
    source (s :: segments) = s.source ++ source segments := List.flatMap_cons

theorem wellFormed_source (segments : List Segment) : WellFormed (source segments) := by
  induction segments with
  | nil => exact wellFormed_nil
  | cons s segments ih =>
    rw [source_cons]
    apply WellFormed.append _ ih
    cases s with
    | literal text => exact wellFormed_doubled text
    | token t => exact (IsPiece.token (by cases t <;> decide)).wellFormed

theorem IsPiece.exists_segment {p : List Char} (h : IsPiece p) : ∃ s : Segment, s.source = p := by
  cases h with
  | @plain c ho hc =>
    have hplain : ¬ (c = openBrace || c = closeBrace) := by
      simpa using ⟨ho, hc⟩
    exact ⟨.literal [c], by rw [Segment.source, doubled_singleton, if_neg hplain]⟩
  | opened => exact ⟨.literal [openBrace], rfl⟩
  | closed => exact ⟨.literal [closeBrace], rfl⟩
  | token h =>
    obtain ⟨t, -, rfl⟩ : ∃ t ∈ Token.all, t.name = _ := List.mem_map.mp h
    exact ⟨.token t, rfl⟩

theorem exists_source_iff {text : List Char} :
    (∃ segments, source segments = text) ↔ WellFormed text := by
  constructor
  · rintro ⟨segments, rfl⟩
    exact wellFormed_source segments
  · rintro ⟨pieces, hp, rfl⟩
    induction pieces with
    | nil => exact ⟨[], rfl⟩
    | cons p pieces ih =>
      obtain ⟨hfirst, hrest⟩ := List.forall_mem_cons.mp hp
      obtain ⟨s, hs⟩ := hfirst.exists_segment
      obtain ⟨segments, hsegments⟩ := ih hrest
      exact ⟨s :: segments, by rw [source_cons, hs, hsegments, List.flatten_cons]⟩

def prepend (text : List Char) : List Segment → List Segment
  | .literal more :: rest => .literal (text ++ more) :: rest
  | segments => if text.isEmpty then segments else .literal text :: segments

/-- The segments with literal texts that are next to one another joined and empty ones left out. -/
def normal : List Segment → List Segment
  | [] => []
  | .literal text :: rest => prepend text (normal rest)
  | .token t :: rest => .token t :: normal rest

def Apart (segments : List Segment) : Prop := ∀ more, segments.head? ≠ some (.literal more)

/-- No literal text is empty or next to another one. -/
def Tidy : List Segment → Prop
  | [] => True
  | .literal text :: rest => text ≠ [] ∧ Apart rest ∧ Tidy rest
  | .token _ :: rest => Tidy rest

theorem prepend_nil (segments : List Segment) : prepend [] segments = segments := by
  cases segments with
  | nil => rfl
  | cons s rest => cases s <;> rfl

theorem prepend_of_apart {segments : List Segment} (h : Apart segments) (text : List Char) :
    prepend text segments = if text.isEmpty then segments else .literal text :: segments := by
  cases segments with
  | nil => rfl
  | cons s rest =>
    cases s with
    | literal more => exact absurd rfl (h more)
    | token t => rfl

theorem literal_or_apart (segments : List Segment) :
    (∃ more rest, segments = .literal more :: rest) ∨ Apart segments := by
  cases segments with
  | nil => exact .inr fun more => by simp
  | cons s rest =>
    cases s with
    | literal more => exact .inl ⟨more, rest, rfl⟩
    | token t => exact .inr fun more => by simp

theorem prepend_append (text more : List Char) (segments : List Segment) :
    prepend (text ++ more) segments = prepend text (prepend more segments) := by
  rcases literal_or_apart segments with ⟨last, rest, rfl⟩ | h
  · simp [prepend]
  · rw [prepend_of_apart h, prepend_of_apart h]
    cases more with
    | nil => simp [prepend_of_apart h]
    | cons c more => simp [prepend]

theorem tidy_prepend {segments : List Segment} (h : Tidy segments) (text : List Char) :
    Tidy (prepend text segments) := by
  cases text with
  | nil => rwa [prepend_nil]
  | cons c text =>
    rcases literal_or_apart segments with ⟨more, rest, rfl⟩ | ha
    · exact ⟨by simp, h.2⟩
    · rw [prepend_of_apart ha]
      exact ⟨by simp, ha, h⟩

theorem tidy_normal (segments : List Segment) : Tidy (normal segments) := by
  induction segments with
  | nil => trivial
  | cons s rest ih =>
    cases s with
    | literal text => exact tidy_prepend ih text
    | token t => exact ih

theorem normal_of_tidy {segments : List Segment} (h : Tidy segments) :
    normal segments = segments := by
  induction segments with
  | nil => rfl
  | cons s rest ih =>
    cases s with
    | token t => rw [normal, ih h]
    | literal text =>
      obtain ⟨hfilled, ha, hrest⟩ := h
      rw [normal, ih hrest, prepend_of_apart ha, if_neg (by simpa using hfilled)]

section Read
variable {literal text rest : List Char} {segments : List Segment} {c : Char} {t : Token}

theorem flush_token (literal : List Char) (t : Token) (rest : List Segment) :
    flush literal (.token t :: rest) = prepend literal.reverse (.token t :: rest) := by
  simp [flush, prepend]

theorem flush_nil (literal : List Char) : flush literal [] = prepend literal.reverse [] := by
  simp [flush, prepend]

theorem source_flush (literal : List Char) (segments : List Segment) :
    source (flush literal segments) = doubled literal.reverse ++ source segments := by
  rw [flush]
  split
  next h => rw [List.isEmpty_iff.mp h]; rfl
  next => rfl

theorem readFrom_plain (ho : c ≠ openBrace) (hc : c ≠ closeBrace) :
    readFrom literal (c :: rest) = readFrom (c :: literal) rest := by
  rw [readFrom, if_neg ho, if_neg hc]

theorem readFrom_opened :
    readFrom literal (openBrace :: openBrace :: rest) = readFrom (openBrace :: literal) rest := by
  rw [readFrom]
  simp

theorem readFrom_closed :
    readFrom literal (closeBrace :: closeBrace :: rest) =
      readFrom (closeBrace :: literal) rest := by
  rw [readFrom]
  have hne : closeBrace ≠ openBrace := by decide
  simp [hne]

theorem readFrom_token :
    readFrom literal (openBrace :: (t.name.toList ++ closeBrace :: rest)) =
      (readFrom [] rest).map fun segments => flush literal (.token t :: segments) := by
  have hhead : (t.name.toList ++ closeBrace :: rest).head? ≠ some openBrace := by
    cases t <;> simp [Token.name, openBrace]
  have hclose : closeBrace ∉ t.name.toList := by cases t <;> decide
  have hsplit := Text.splitOnce_append hclose rest
  have hname : Token.ofName? (String.ofList t.name.toList) = some t := by
    rw [String.ofList_toList, Token.ofName?_name]
  rw [readFrom, if_pos rfl, if_neg hhead]
  split
  next hnone => rw [hsplit] at hnone; contradiction
  next name after hsome =>
    obtain ⟨rfl, rfl⟩ := Prod.mk.inj (Option.some.inj (hsplit.symm.trans hsome))
    split
    next hnone => rw [hname] at hnone; contradiction
    next other hother =>
      obtain rfl : t = other := Option.some.inj (hname.symm.trans hother)
      cases readFrom [] rest <;> rfl

theorem readFrom_doubled (text : List Char) :
    readFrom literal (doubled text ++ rest) = readFrom (text.reverse ++ literal) rest := by
  induction text generalizing literal with
  | nil => rfl
  | cons c text ih =>
    have hsplit : doubled (c :: text) = doubled [c] ++ doubled text := doubled_append [c] text
    have hstep : readFrom literal (doubled [c] ++ (doubled text ++ rest)) =
        readFrom (c :: literal) (doubled text ++ rest) := by
      by_cases ho : c = openBrace
      · subst ho
        exact readFrom_opened
      · by_cases hc : c = closeBrace
        · subst hc
          exact readFrom_closed
        · simpa [doubled_singleton, ho, hc] using readFrom_plain ho hc
    rw [hsplit, List.append_assoc, hstep, ih, List.reverse_cons, List.append_assoc,
      List.singleton_append]

theorem readFrom_source (segments : List Segment) (literal : List Char) :
    readFrom literal (source segments) = .ok (prepend literal.reverse (normal segments)) := by
  induction segments generalizing literal with
  | nil => rw [source, List.flatMap_nil, readFrom, flush_nil, normal]
  | cons s rest ih =>
    rw [source_cons]
    cases s with
    | literal text =>
      rw [Segment.source, readFrom_doubled, ih, List.reverse_append, List.reverse_reverse,
        prepend_append, normal]
    | token t =>
      have htoken : (Segment.token t).source ++ source rest =
          openBrace :: (t.name.toList ++ closeBrace :: source rest) := by simp [Segment.source]
      rw [htoken, readFrom_token, ih, List.reverse_nil, prepend_nil, Except.map, flush_token,
        normal]

theorem name_of_ofName? {text : String} (h : Token.ofName? text = some t) : t.name = text := by
  simpa using List.find?_some h

theorem doubled_reverse_cons (c : Char) (literal rest : List Char) :
    doubled (c :: literal).reverse ++ rest =
      doubled literal.reverse ++ (doubled [c] ++ rest) := by
  rw [List.reverse_cons, doubled_append, List.append_assoc]

theorem source_of_readFrom (h : readFrom literal text = .ok segments) :
    source segments = doubled literal.reverse ++ text := by
  fun_induction readFrom literal text generalizing segments
  case case1 =>
    obtain rfl := Except.ok.inj h
    rw [source_flush, source, List.flatMap_nil]
  case case2 hhead ih =>
    obtain ⟨after, rfl⟩ := List.head?_eq_some_iff.mp hhead
    rw [ih h, doubled_reverse_cons]
    rfl
  case case3 | case4 | case6 | case8 => contradiction
  case case5 rest _ name after hsplit t hname _ read hread ih =>
    obtain rfl := Except.ok.inj h
    have htext : name = t.name.toList := by rw [name_of_ofName? hname, String.toList_ofList]
    rw [source_flush, source_cons, ih hread, (Text.splitOnce_eq_some hsplit).1, htext]
    simp [doubled, Segment.source]
  case case7 hhead _ ih =>
    obtain ⟨after, rfl⟩ := List.head?_eq_some_iff.mp hhead
    rw [ih h, doubled_reverse_cons]
    rfl
  case case9 ho hc ih =>
    rw [ih h, doubled_reverse_cons, doubled_singleton]
    simp [ho, hc]

end Read

theorem parse_source (segments : List Segment) :
    parse (source segments) = .ok (normal segments) := by
  rw [parse, readFrom_source, List.reverse_nil, prepend_nil]

theorem source_of_parse {text : List Char} {segments : List Segment}
    (h : parse text = .ok segments) : source segments = text := source_of_readFrom h

theorem parse_eq_ok_iff {text : List Char} {segments : List Segment} :
    parse text = .ok segments ↔ Tidy segments ∧ source segments = text := by
  constructor
  · intro h
    have hsource := source_of_parse h
    rw [← hsource, parse_source] at h
    exact ⟨Except.ok.inj h ▸ tidy_normal segments, hsource⟩
  · rintro ⟨htidy, rfl⟩
    rw [parse_source, normal_of_tidy htidy]

theorem exists_parse_iff {text : List Char} :
    (∃ segments, parse text = .ok segments) ↔ WellFormed text := by
  rw [← exists_source_iff]
  constructor
  · rintro ⟨segments, h⟩
    exact ⟨segments, source_of_parse h⟩
  · rintro ⟨segments, rfl⟩
    exact ⟨_, parse_source segments⟩

section Report
variable (ctx : ReportContext) (i : Issue)

/-- What stands for each name. -/
inductive Value : String → String → Prop
  | filename : Value "filename" (i.filename.relativeTo ctx.project)
  | fullFilename : Value "full_filename" i.filename.text
  | line : Value "line" (toString i.line.toNat)
  | character : Value "character" (toString (i.character.getD 0).toNat)
  | code : Value "code" (i.code.getD "")
  | tool : Value "tool" i.tool
  | message : Value "message" i.message

/-- An issue shown by segments: literal texts as they are, and values in place of the tokens. -/
inductive Shown : List Segment → String → Prop
  | nil : Shown [] ""
  | literal {segments : List Segment} {rest : String} (text : List Char)
      (h : Shown segments rest) : Shown (.literal text :: segments) (String.ofList text ++ rest)
  | token {segments : List Segment} {rest value : String} {t : Token}
      (hv : Value ctx i t.name value) (h : Shown segments rest) :
      Shown (.token t :: segments) (value ++ rest)

theorem value_token (t : Token) : Value ctx i t.name (t.value ctx i) := by
  cases t with
  | filename => exact .filename
  | fullFilename => exact .fullFilename
  | line => exact .line
  | character => exact .character
  | code => exact .code
  | tool => exact .tool
  | message => exact .message

theorem fill_cons (s : Segment) (segments : List Segment) :
    fill (s :: segments) ctx i = s.value ctx i ++ fill segments ctx i := by
  simp [fill, String.join_cons]

theorem shown_fill (segments : List Segment) : Shown ctx i segments (fill segments ctx i) := by
  induction segments with
  | nil => exact .nil
  | cons s segments ih =>
    rw [fill_cons]
    cases s with
    | literal text => exact .literal text ih
    | token t => exact .token (value_token ctx i t) ih

theorem fill_prepend (text : List Char) (segments : List Segment) :
    fill (prepend text segments) ctx i = String.ofList text ++ fill segments ctx i := by
  rcases literal_or_apart segments with ⟨more, rest, rfl⟩ | ha
  · rw [prepend, fill_cons, fill_cons]
    simp [Segment.value, String.ofList_append, String.append_assoc]
  · rw [prepend_of_apart ha]
    cases text with
    | nil => simp
    | cons c text => exact fill_cons ctx i _ segments

theorem fill_normal (segments : List Segment) :
    fill (normal segments) ctx i = fill segments ctx i := by
  induction segments with
  | nil => rfl
  | cons s rest ih =>
    cases s with
    | literal text => rw [normal, fill_prepend, ih, fill_cons]; rfl
    | token t => rw [normal, fill_cons, ih, fill_cons]

def templateOf (ctx : ReportContext) : List Char :=
  ((ctx.config.optionText? "format").getD defaultSource).toList

/-- How a report shows issues by its template: a line for each of them, or that it is refused. -/
structure ShowsBy (c : Collector) (d : Disk) (ctx : ReportContext) : Prop where
  lines : ∀ segments, source segments = templateOf ctx → ∃ lines,
    (report.render c d ctx).1 = .ok (String.join (lines.map (· ++ "\n"))) ∧
    List.Forall₂ (fun i => Shown ctx i segments) (c.issues d Issue.placeOrder).1 lines
  refused : ¬ WellFormed (templateOf ctx) →
    ∃ flaw : Flaw, (report.render c d ctx).1 = .error (.report (.badTemplate flaw.message))

theorem body_of_parse {segments : List Segment} (h : parse (templateOf ctx) = .ok segments) :
    body ctx = .ofIssues fun view => .whole (text segments ctx view) := by
  rw [body, ← templateOf, h]

theorem showsBy_report (c : Collector) (d : Disk) : ShowsBy c d ctx where
  lines segments h := by
    have hparse : parse (templateOf ctx) = .ok (normal segments) := by rw [← h, parse_source]
    refine ⟨(c.issues d Issue.placeOrder).1.map (fill (normal segments) ctx), ?_, ?_⟩
    · rw [Report.render_of_whole (body_of_parse ctx hparse)]
      rfl
    · rw [List.forall₂_map_right_iff]
      refine List.forall₂_same.mpr fun i _ => ?_
      rw [fill_normal]
      exact shown_fill ctx i segments
  refused h := by
    cases hparse : parse (templateOf ctx) with
    | ok segments => exact absurd (exists_parse_iff.mp ⟨segments, hparse⟩) h
    | error flaw =>
      have hbody : body ctx = .fixed (.failed (.report (.badTemplate flaw.message))) := by
        rw [body, ← templateOf, hparse]
      exact ⟨flaw, by rw [Report.render_of_failed hbody]⟩

end Report

/-- Templates and tidy lists of segments are two forms of one thing, and reports show issues by
either. -/
theorem parse_inverse_source :
    (∀ text, (∃ segments, parse text = .ok segments) ↔ WellFormed text) ∧
    (∀ text segments, parse text = .ok segments ↔ Tidy segments ∧ source segments = text) ∧
    (∀ segments, parse (source segments) = .ok (normal segments)) ∧
    ∀ c d ctx, ShowsBy c d ctx :=
  ⟨fun _ => exists_parse_iff, fun _ _ => parse_eq_ok_iff, parse_source,
    fun c d ctx => showsBy_report ctx c d⟩

end MetaLint.Template
