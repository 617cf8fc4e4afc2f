import MetaLint.Proofs.Delivering
import MetaLint.Proofs.Writing

/-!
# Each report as a whole or not at all

What a report comes to does not depend on the other reports: it is known what it writes and where,
or that it fails, from the disk at the start and from the issues in view. Only the fault that a
write is met with can be another one after other files were written. Standard output, the files and
the reports that count as finished are those of the reports that do not fail, in order.
-/

set_option autoImplicit false

namespace MetaLint

def Report.written (r : Report) (ctx : ReportContext) (view : List Issue) : Production :=
  match r.body ctx with
  | .fixed p => p
  | .ofIssues write => write view

def Report.textOf (r : Report) (ctx : ReportContext) (view : List Issue) : Except Error String :=
  match (r.written ctx view).error with
  | some e => .error e
  | none => .ok (String.join (r.written ctx view).pieces)

inductive ReportEnd
  | unknown
  | failed (e : Error)
  | written (location? : Option Location) (text : String)

namespace ReportEnd

def isFailed : ReportEnd → Bool
  | .failed _ => true
  | _ => false

def isWritten : ReportEnd → Bool
  | .written _ _ => true
  | _ => false

def error? : ReportEnd → Option Error
  | .failed e => some e
  | _ => none

def printed? : ReportEnd → Option String
  | .written none text => some text
  | _ => none

def filed? : ReportEnd → Option (Location × Node)
  | .written (some x) text => some (x, .file (Text.encode text))
  | _ => none

inductive Like : ReportEnd → ReportEnd → Prop
  | same (r : ReportEnd) : Like r r
  | failed (e other : Error) : Like (.failed e) (.failed other)

theorem Like.isFailed {r other : ReportEnd} (h : Like r other) : r.isFailed = other.isFailed := by
  cases h <;> rfl

theorem Like.isWritten {r other : ReportEnd} (h : Like r other) :
    r.isWritten = other.isWritten := by
  cases h <;> rfl

theorem Like.printed? {r other : ReportEnd} (h : Like r other) : r.printed? = other.printed? := by
  cases h <;> rfl

theorem Like.filed? {r other : ReportEnd} (h : Like r other) : r.filed? = other.filed? := by
  cases h <;> rfl

theorem isFailed_eq_false {r : ReportEnd} : r.isFailed = false ↔ r.error? = none := by
  cases r <;> simp [ReportEnd.isFailed, error?]

theorem error?_eq_some {r : ReportEnd} {e : Error} : r.error? = some e ↔ r = .failed e := by
  cases r <;> simp [error?]

end ReportEnd

/-- Where the text of a report goes: to standard output, or to the location of its file. -/
def ReportConfig.aim (rc : ReportConfig) (d : Disk) : Except Error (Option Location) :=
  match rc.file with
  | none => .ok none
  | some path =>
    match d.aim path with
    | .ok x => .ok (some x)
    | .error fault => .error (.report (.unwritable path fault))

def DeliveryRequest.endOf (q : DeliveryRequest) (d : Disk) (view : List Issue)
    (rc : ReportConfig) : ReportEnd :=
  match q.registry.get? rc.kind with
  | none => .unknown
  | some report =>
    match report.textOf (q.context rc) view, rc.aim d with
    | .error e, _ => .failed e
    | .ok _, .error e => .failed e
    | .ok text, .ok location? => .written location? text

/-- The file that reports leave at a location: that of the last one that is written there. -/
def DeliveryRequest.fileOf? (q : DeliveryRequest) (d : Disk) (view : List Issue)
    (reports : List ReportConfig) (l : Location) : Option Node :=
  (reports.filterMap fun rc => (q.endOf d view rc).filed?).reverse.lookup l

section EndOf
variable {q : DeliveryRequest} {d later : Disk} {view : List Issue} {rc : ReportConfig}

theorem ReportConfig.aim_eq_some {x : Location} (h : rc.aim d = .ok (some x)) :
    ∃ p, rc.file = some p ∧ d.aim p = .ok x := by
  rw [aim] at h
  cases hf : rc.file with
  | none => simp [hf] at h
  | some path =>
    cases ha : d.aim path with
    | error fault => simp [hf, ha] at h
    | ok y => exact ⟨path, rfl, by simpa [hf, ha] using h⟩

theorem ReportConfig.toOption_aim (rc : ReportConfig)
    (h : ∀ p, (later.aim p).toOption = (d.aim p).toOption) :
    (rc.aim later).toOption = (rc.aim d).toOption := by
  rw [aim, aim]
  cases rc.file with
  | none => rfl
  | some path =>
    have haim := h path
    cases hl : later.aim path <;> cases hd : d.aim path <;> simp_all [Except.toOption]

theorem DeliveryRequest.aim_of_endOf {location? : Option Location} {text : String}
    (h : q.endOf d view rc = .written location? text) : rc.aim d = .ok location? := by
  rw [endOf] at h
  cases hreport : q.registry.get? rc.kind with
  | none => simp [hreport] at h
  | some report =>
    cases ht : report.textOf (q.context rc) view <;> cases ha : rc.aim d <;>
      simp_all

/-- Where the same paths can be written to, reports come to the same, up to the fault of a write. -/
theorem DeliveryRequest.endOf_like (h : ∀ p, (later.aim p).toOption = (d.aim p).toOption) :
    (q.endOf later view rc).Like (q.endOf d view rc) := by
  have haim := rc.toOption_aim h
  rw [endOf, endOf]
  cases q.registry.get? rc.kind with
  | none => exact .same _
  | some report =>
    dsimp only
    cases report.textOf (q.context rc) view with
    | error e => exact .same _
    | ok text =>
      cases hl : rc.aim later <;> cases hd : rc.aim d <;>
        simp only [hl, hd, Except.toOption, Option.some.injEq, reduceCtorEq] at haim
      · exact .failed _ _
      · rw [haim]
        exact .same _

end EndOf

namespace Delivery

def view (s : Delivery) : List Issue := (s.collector.view s.disk).1

theorem render_eq_textOf (s : Delivery) (report : Report) (ctx : ReportContext) :
    (report.render s.collector s.disk ctx).1 = report.textOf ctx s.view := by
  have hproduced : (report.produce s.collector s.disk ctx).1 = report.written ctx s.view := by
    rw [Report.produce, Report.written]
    cases report.body ctx <;> rfl
  rw [Report.render, Report.textOf, ← hproduced]
  dsimp only
  cases (report.produce s.collector s.disk ctx).1.error <;> rfl

def settle (s : Delivery) (rc : ReportConfig) : ReportEnd → Delivery
  | .unknown => s
  | .failed e => s.fail e
  | .written none text => { s with out := s.out ++ text }.finish rc
  | .written (some x) text => { s with disk := s.disk.putFile (Text.encode text) x }.finish rc

theorem deliver_eq_settle (q : DeliveryRequest) (s : Delivery) (rc : ReportConfig) :
    ∃ c, deliver q s rc = settle { s with collector := c } rc (q.endOf s.disk s.view rc) := by
  rw [deliver, DeliveryRequest.endOf]
  cases hreport : q.registry.get? rc.kind with
  | none => exact ⟨s.collector, rfl⟩
  | some report =>
    refine ⟨(report.render s.collector s.disk (q.context rc)).2, ?_⟩
    simp only [← render_eq_textOf]
    cases (report.render s.collector s.disk (q.context rc)).1 with
    | error e => rfl
    | ok text =>
      rw [ReportConfig.aim]
      cases hf : rc.file with
      | none => simp [put, hf, settle]
      | some path =>
        cases ha : s.disk.aim path <;>
          simp [put, hf, Disk.write_eq_map_aim, ha, Except.map, settle]

section Settle
variable (s : Delivery) (rc : ReportConfig) (r : ReportEnd)

theorem out_settle : (s.settle rc r).out = s.out ++ r.printed?.getD "" := by
  cases r with
  | written location? text => cases location? <;> simp [settle, finish, ReportEnd.printed?]
  | _ => simp [settle, fail, ReportEnd.printed?]

theorem finished_settle :
    (s.settle rc r).finished = s.finished ++ if r.isWritten then [rc] else [] := by
  cases r with
  | written location? text => cases location? <;> rfl
  | _ => simp [settle, fail, ReportEnd.isWritten]

theorem firstError_settle : (s.settle rc r).firstError = s.firstError.or r.error? := by
  cases r with
  | written location? text => cases location? <;> simp [settle, finish, ReportEnd.error?]
  | _ => simp [settle, fail, ReportEnd.error?]

theorem shows_settle (h : ∀ x text, r = .written (some x) text → s.disk.root.Spot x)
    (l : Location) : (s.settle rc r).disk.root.shows l =
      (r.filed?.toList.lookup l).or (s.disk.root.shows l) := by
  cases r with
  | unknown => rfl
  | failed e => rfl
  | written location? text =>
    cases location? with
    | none => rfl
    | some x =>
      rw [settle, finish, ReportEnd.filed?, Option.toList_some, List.lookup_cons, List.lookup_nil,
        Disk.shows_putFile (h x text rfl)]
      by_cases hl : l = x
      · simp [hl]
      · have hne : (l == x) = false := by simp [hl]
        simp [hl, hne]

theorem aim_settle (h : ∀ x text, r = .written (some x) text → s.disk.root.Spot x) (p : Path) :
    ((s.settle rc r).disk.aim p).toOption = (s.disk.aim p).toOption := by
  cases r with
  | unknown => rfl
  | failed e => rfl
  | written location? text =>
    cases location? with
    | none => rfl
    | some x => exact Disk.toOption_aim_putFile (h x text rfl) (Text.encode text) p

end Settle

section View
variable {q : DeliveryRequest} {s : Delivery} {rc : ReportConfig}

theorem collector_foldl {c : Collector} {d : Disk} (h : s.collector = (c.view d).2)
    (reports : List ReportConfig) : (reports.foldl (deliver q) s).collector = (c.view d).2 := by
  induction reports generalizing s with
  | nil => exact h
  | cons rc rest ih =>
    apply ih
    obtain ⟨kept, hkept, hcollector, -⟩ := deliver_cases q s rc
    rw [hcollector]
    rcases hkept with rfl | rfl
    · exact h
    · rw [h, Collector.view_view]

theorem written_view {report : Report} (hreport : q.registry.get? rc.kind = some report)
    (rest : List ReportConfig) : report.written (q.context rc) s.view =
      report.written (q.context rc) (rest.foldl (deliver q) (deliver q s rc)).view := by
  rw [Report.written, Report.written]
  cases hbody : report.body (q.context rc) with
  | fixed p => rfl
  | ofIssues write =>
    -- The first look settles the view for whatever comes later.
    have hlooked : (deliver q s rc).collector = (s.collector.view s.disk).2 := by
      simp only [deliver, hreport, Report.render, Report.produce, hbody]
      cases (write (s.collector.view s.disk).1).error with
      | some e => rfl
      | none => exact (put_cases { s with collector := (s.collector.view s.disk).2 } rc _).1
    have hview : (rest.foldl (deliver q) (deliver q s rc)).view = s.view := by
      rw [view, collector_foldl hlooked, Collector.view_view, view]
    rw [hview]

theorem textOf_view {report : Report} (hreport : q.registry.get? rc.kind = some report)
    (rest : List ReportConfig) : report.textOf (q.context rc) s.view =
      report.textOf (q.context rc) (rest.foldl (deliver q) (deliver q s rc)).view := by
  rw [Report.textOf, Report.textOf, written_view hreport rest]

theorem deliver_of_error {report : Report} {error : Error} {v : List Issue}
    (hreport : q.registry.get? rc.kind = some report)
    (hv : report.written (q.context rc) s.view = report.written (q.context rc) v)
    (herror : (report.written (q.context rc) v).error = some error) :
    ∃ c, deliver q s rc = { s with collector := c }.fail error := by
  obtain ⟨c, hdeliver⟩ := deliver_eq_settle q s rc
  have htext : report.textOf (q.context rc) s.view = .error error := by
    rw [Report.textOf, hv, herror]
  have hend : q.endOf s.disk s.view rc = .failed error := by
    rw [DeliveryRequest.endOf, hreport]
    simp only [htext]
  exact ⟨c, by rw [hdeliver, hend, settle]⟩

theorem endOf_view (q : DeliveryRequest) (s : Delivery) (rc : ReportConfig)
    (rest : List ReportConfig) : q.endOf s.disk s.view rc =
      q.endOf s.disk (rest.foldl (deliver q) (deliver q s rc)).view rc := by
  rw [DeliveryRequest.endOf, DeliveryRequest.endOf]
  cases hreport : q.registry.get? rc.kind with
  | none => rfl
  | some report =>
    dsimp only
    rw [textOf_view hreport rest]

end View

def firstFailure (q : DeliveryRequest) (view : List Issue) (s : Delivery) :
    List ReportConfig → Option Error
  | [] => none
  | rc :: rest => (q.endOf s.disk view rc).error?.or (firstFailure q view (deliver q s rc) rest)

/-- What reports leave behind, told by what each of them comes to by itself at the start. -/
structure Leaves (q : DeliveryRequest) (view : List Issue) (reports : List ReportConfig)
    (s e : Delivery) : Prop where
  out : e.out = s.out ++ String.join (reports.filterMap fun rc => (q.endOf s.disk view rc).printed?)
  files : ∀ l, e.disk.root.shows l =
    (q.fileOf? s.disk view reports l).or (s.disk.root.shows l)
  aim : ∀ p, (e.disk.aim p).toOption = (s.disk.aim p).toOption
  finished : e.finished =
    s.finished ++ reports.filter fun rc => (q.endOf s.disk view rc).isWritten
  firstError : e.firstError = s.firstError.or (firstFailure q view s reports)

section Leaves
variable {q : DeliveryRequest} {v : List Issue} {s e : Delivery} {rc : ReportConfig}
  {reports rest : List ReportConfig}

theorem leaves_nil (q : DeliveryRequest) (v : List Issue) (s : Delivery) : Leaves q v [] s s where
  out := by simp
  files l := rfl
  aim p := rfl
  finished := by simp
  firstError := by simp [firstFailure]

theorem leaves_one (hview : q.endOf s.disk s.view rc = q.endOf s.disk v rc) :
    Leaves q v [rc] s (deliver q s rc) := by
  obtain ⟨c, hdeliver⟩ := deliver_eq_settle q s rc
  rw [hview] at hdeliver
  have hspot : ∀ x text, q.endOf s.disk v rc = .written (some x) text → s.disk.root.Spot x := by
    intro x text hwritten
    obtain ⟨p, -, hp⟩ := ReportConfig.aim_eq_some (q.aim_of_endOf hwritten)
    exact Disk.spot_of_aim hp
  rw [hdeliver]
  constructor
  case out =>
    rw [out_settle]
    cases hp : (q.endOf s.disk v rc).printed? <;> simp [hp]
  case files =>
    intro l
    rw [shows_settle { s with collector := c } rc _ hspot, DeliveryRequest.fileOf?]
    cases hf : (q.endOf s.disk v rc).filed? <;> simp [hf]
  case aim => exact aim_settle _ rc _ hspot
  case finished =>
    rw [finished_settle]
    cases hw : (q.endOf s.disk v rc).isWritten <;> simp [hw]
  case firstError => rw [firstError_settle, firstFailure, firstFailure, Option.or_none]

theorem Leaves.read_eq (h : Leaves q v reports s e) {p : Path} {l : Location}
    {content : Text.Bytes} (hp : s.disk.aim p = .ok l)
    (hl : q.fileOf? s.disk v reports l = some (.file content)) : e.disk.read p = .ok content := by
  have haim := h.aim p
  have hfile := h.files l
  rw [hl, Option.some_or, Node.shows_eq_file] at hfile
  cases he : e.disk.aim p with
  | error fault => simp [he, hp, Except.toOption] at haim
  | ok x =>
    obtain rfl : x = l := by simpa [he, hp, Except.toOption] using haim
    exact Disk.read_of_aim he hfile

theorem Leaves.cons (h : Leaves q v [rc] s (deliver q s rc))
    (hrest : Leaves q v rest (deliver q s rc) e) : Leaves q v (rc :: rest) s e := by
  have hlike : ∀ other, (q.endOf (deliver q s rc).disk v other).Like (q.endOf s.disk v other) :=
    fun _ => DeliveryRequest.endOf_like h.aim
  have hsplit : rc :: rest = [rc] ++ rest := rfl
  constructor
  case out =>
    rw [hrest.out, h.out, hsplit, List.filterMap_append, String.join_append, String.append_assoc]
    simp only [(hlike _).printed?]
  case files =>
    intro l
    rw [hrest.files, h.files, ← Option.or_assoc]
    simp only [DeliveryRequest.fileOf?, (hlike _).filed?]
    rw [hsplit, List.filterMap_append, List.reverse_append, List.lookup_append]
  case aim => exact fun p => (hrest.aim p).trans (h.aim p)
  case finished =>
    rw [hrest.finished, h.finished, hsplit, List.filter_append, List.append_assoc]
    simp only [(hlike _).isWritten]
  case firstError =>
    rw [hrest.firstError, h.firstError, firstFailure, firstFailure, Option.or_none, Option.or_assoc,
      firstFailure]

/-- Each report sees what the last one sees, so all are told by the view at the end. -/
theorem leaves_foldl (q : DeliveryRequest) (s : Delivery) (reports : List ReportConfig) :
    Leaves q (reports.foldl (deliver q) s).view reports s (reports.foldl (deliver q) s) := by
  induction reports generalizing s with
  | nil => exact leaves_nil q s.view s
  | cons rc rest ih => exact (leaves_one (endOf_view q s rc rest)).cons (ih (deliver q s rc))

theorem render_foldl {report : Report} {before : List ReportConfig}
    (hsplit : reports = before ++ rc :: rest) (hreport : q.registry.get? rc.kind = some report) :
    (report.render (before.foldl (deliver q) s).collector (before.foldl (deliver q) s).disk
      (q.context rc)).1 = report.textOf (q.context rc) (reports.foldl (deliver q) s).view := by
  rw [render_eq_textOf, textOf_view hreport rest, hsplit, List.foldl_append, List.foldl_cons]

theorem isFailed_deliver (q : DeliveryRequest) (v : List Issue) (s : Delivery)
    (rc other : ReportConfig) : (q.endOf (deliver q s rc).disk v other).isFailed =
      (q.endOf s.disk v other).isFailed :=
  (DeliveryRequest.endOf_like (leaves_one rfl : Leaves q s.view [rc] s _).aim).isFailed

theorem firstFailure_eq_none : firstFailure q v s reports = none ↔
    ∀ rc ∈ reports, (q.endOf s.disk v rc).isFailed = false := by
  induction reports generalizing s with
  | nil => simp [firstFailure]
  | cons rc rest ih =>
    rw [firstFailure, Option.or_eq_none_iff, ih, List.forall_mem_cons, ReportEnd.isFailed_eq_false]
    simp only [isFailed_deliver]

theorem exists_split_cons_iff {P : List ReportConfig → ReportConfig → Prop} {first : ReportConfig} :
    (∃ before rc after, first :: rest = before ++ rc :: after ∧ P before rc) ↔
      P [] first ∨ ∃ before rc after, rest = before ++ rc :: after ∧ P (first :: before) rc := by
  constructor
  · rintro ⟨before, rc, after, hsplit, hP⟩
    cases before with
    | nil =>
      obtain ⟨rfl, -⟩ := List.cons.inj hsplit
      exact .inl hP
    | cons b before =>
      obtain ⟨rfl, hrest⟩ := List.cons.inj hsplit
      exact .inr ⟨before, rc, after, hrest, hP⟩
  · rintro (hP | ⟨before, rc, after, hrest, hP⟩)
    · exact ⟨[], first, rest, rfl, hP⟩
    · exact ⟨first :: before, rc, after, by rw [hrest, List.cons_append], hP⟩

theorem firstFailure_eq_some {error : Error} : firstFailure q v s reports = some error ↔
    ∃ before rc after, reports = before ++ rc :: after ∧
      (∀ r ∈ before, (q.endOf s.disk v r).isFailed = false) ∧
      q.endOf (before.foldl (deliver q) s).disk v rc = .failed error := by
  induction reports generalizing s with
  | nil => simp [firstFailure]
  | cons first rest ih =>
    rw [firstFailure, Option.or_eq_some_iff, ih, exists_split_cons_iff, ReportEnd.error?_eq_some]
    apply or_congr
    · simp
    · simp only [isFailed_deliver, List.forall_mem_cons, ReportEnd.isFailed_eq_false,
        List.foldl_cons]
      constructor
      · rintro ⟨hfirst, before, rc, after, hsplit, hbefore, hfailed⟩
        exact ⟨before, rc, after, hsplit, ⟨hfirst, hbefore⟩, hfailed⟩
      · rintro ⟨before, rc, after, hsplit, ⟨hfirst, hbefore⟩, hfailed⟩
        exact ⟨hfirst, before, rc, after, hsplit, hbefore, hfailed⟩

end Leaves

/-- Reports that are made as a whole or not at all. What each of them comes to is told by the disk
at the start and the issues in view; only the fault of a write that fails is that of its moment. -/
structure AllOrNothing (q : DeliveryRequest) (s e : Delivery) : Prop where
  view : ∃ n, e.view = (s.collector.view (s.after q n).disk).1
  texts : ∀ before rc rest report, q.config.reports = before ++ rc :: rest →
    q.registry.get? rc.kind = some report →
    (report.render (before.foldl (deliver q) s).collector (before.foldl (deliver q) s).disk
      (q.context rc)).1 = report.textOf (q.context rc) e.view
  /-- A report that fails leaves nothing of what it wrote before, neither in a file nor on standard
  output, and is not finished. -/
  silent : ∀ before rc rest report error, q.config.reports = before ++ rc :: rest →
    q.registry.get? rc.kind = some report →
    (report.written (q.context rc) e.view).error = some error →
    ((before ++ [rc]).foldl (deliver q) s).out = (before.foldl (deliver q) s).out ∧
      ((before ++ [rc]).foldl (deliver q) s).disk = (before.foldl (deliver q) s).disk ∧
      ((before ++ [rc]).foldl (deliver q) s).finished = (before.foldl (deliver q) s).finished
  out : e.out = String.join (q.config.reports.filterMap fun rc =>
    (q.endOf s.disk e.view rc).printed?)
  files : ∀ l, e.disk.root.shows l =
    (q.fileOf? s.disk e.view q.config.reports l).or (s.disk.root.shows l)
  reads : ∀ p l content, s.disk.aim p = .ok l →
    q.fileOf? s.disk e.view q.config.reports l = some (.file content) →
    e.disk.read p = .ok content
  finished : e.finished = q.config.reports.filter fun rc => (q.endOf s.disk e.view rc).isWritten
  success : e.outcome = .ok () ↔
    ∀ rc ∈ q.config.reports, (q.endOf s.disk e.view rc).isFailed = false
  failure : ∀ error, e.outcome = .error error ↔
    ∃ before rc after, q.config.reports = before ++ rc :: after ∧
      (∀ r ∈ before, (q.endOf s.disk e.view r).isFailed = false) ∧
      q.endOf (before.foldl (deliver q) s).disk e.view rc = .failed error

theorem allOrNothing_deliverAll (q : DeliveryRequest) (d : Disk) (c : Collector) :
    AllOrNothing q { disk := d, collector := c }
      (deliverAll q { disk := d, collector := c }) := by
  have h : Leaves q (deliverAll q { disk := d, collector := c }).view q.config.reports
      { disk := d, collector := c } (deliverAll q { disk := d, collector := c }) :=
    leaves_foldl q { disk := d, collector := c } q.config.reports
  have hfirst := h.firstError
  rw [Option.none_or] at hfirst
  constructor
  case view =>
    obtain ⟨n, hn⟩ := view_after q { disk := d, collector := c } q.config.reports.length
    rw [after_all] at hn
    exact ⟨n, by rw [Delivery.view, hn]⟩
  case texts => exact fun before rc rest report hsplit hreport => render_foldl hsplit hreport
  case silent =>
    intro before rc rest report error hsplit hreport herror
    have hview := written_view (s := before.foldl (deliver q) { disk := d, collector := c })
      hreport rest
    rw [← List.foldl_cons, ← List.foldl_append, ← hsplit] at hview
    obtain ⟨kept, hdeliver⟩ := deliver_of_error hreport hview herror
    rw [List.foldl_append, List.foldl_cons, List.foldl_nil, hdeliver]
    exact ⟨rfl, rfl, rfl⟩
  case out => rw [h.out, String.empty_append]
  case files => exact h.files
  case reads => exact fun p l content hp hl => h.read_eq hp hl
  case finished => rw [h.finished, List.nil_append]
  case success =>
    rw [outcome, hfirst, ← firstFailure_eq_none]
    split <;> simp_all
  case failure =>
    intro error
    rw [outcome, hfirst, ← firstFailure_eq_some]
    split <;> simp_all

/-- A report that writes a line and then finds that it cannot go on. -/
def brokenReport : Report where
  name := "broken"
  description := ""
  body _ := .fixed { pieces := ["half of it\n"], error := some (.pattern .tooLarge) }

def brokenRequest : DeliveryRequest where
  registry := .ofList [brokenReport, emptyReport]
  config := { reports := [{ kind := "broken" }, { kind := "null" }] }
  project := ⟨"/"⟩

example : (deliverAll brokenRequest { disk := {}, collector := .create {} }).out = "" ∧
    (deliverAll brokenRequest { disk := {}, collector := .create {} }).finished.map
      ReportConfig.kind = ["null"] := by decide

end Delivery

end MetaLint
