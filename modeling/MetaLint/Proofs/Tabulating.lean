import MetaLint.Command.Catalog
import MetaLint.Proofs.TableReading

/-!
# Logs and listings as tables

The table of a log has a record for every entry, with the path and the texts of the entry as they
are and its numbers in decimal; that of a listing has one for every name. Both are read back from
their texts. The header of a listing is written without quotes, so of the headers it could have
those are read back whose names stand for themselves.
-/

set_option autoImplicit false

namespace MetaLint

structure Decimal (text : List Char) (n : Nat) : Prop where
  filled : text ≠ []
  digits : ∀ c ∈ text, c.isDigit = true
  value : Nat.ofDigitChars 10 text 0 = n

theorem decimal_numberString (n : UInt32) : Decimal (numberString n).toList n.toNat := by
  rw [numberString, Json.digitsText, String.toList_ofList]
  exact ⟨Nat.toDigits_ne_nil,
    fun c hc => Nat.isDigit_of_mem_toDigits (by decide) (by decide) hc,
    Nat.ofDigitChars_ten_toDigits⟩

namespace IssueLog

/-- The entries of a log in order, each with the path it stands under. -/
def rows (log : IssueLog) : List (String × LogEntry) :=
  log.flatMap fun (path, es) => es.map (path, ·)

/-- A record has the path, the numbers and the texts of an entry. -/
def Shows (r : Csv.Record) (row : String × LogEntry) : Prop :=
  ∃ line character, Decimal line row.2.line.toNat ∧ Decimal character row.2.character.toNat ∧
    r = [row.1.toList, line, character, row.2.tool.toList, row.2.code.toList, row.2.message.toList]

theorem shows_toRecord (path : String) (e : LogEntry) : Shows (e.toRecord path) (path, e) :=
  ⟨_, _, decimal_numberString e.line, decimal_numberString e.character, rfl⟩

theorem toRecords_eq (log : IssueLog) :
    log.toRecords = csvHeader :: log.rows.map fun row => row.2.toRecord row.1 := by
  simp [toRecords, rows, List.map_flatMap, Function.comp_def]

theorem ne_nil_of_mem_toRecords {log : IssueLog} {r : Csv.Record} (h : r ∈ log.toRecords) :
    r ≠ [] := by
  rw [toRecords_eq] at h
  rcases List.mem_cons.mp h with rfl | h
  · decide
  · obtain ⟨row, -, rfl⟩ := List.mem_map.mp h
    exact List.cons_ne_nil _ _

/-- The table that a collector is reported as is read as a header and the entries of its log. -/
def ReadsBack (c : Collector) (d : Disk) (ctx : ReportContext) : Prop :=
  ∃ text records, (csvReport.render c d ctx).1 = .ok text ∧
    Csv.read? text.toList = some (["filename", "line", "character", "tool", "code", "message"].map
      String.toList :: records) ∧
    List.Forall₂ Shows records (ofIssues ctx (c.view d).1).rows

theorem readsBack_report (c : Collector) (d : Disk) (ctx : ReportContext) :
    ReadsBack c d ctx := by
  have hrender : (csvReport.render c d ctx).1 =
      .ok (String.ofList (Csv.text (ofIssues ctx (c.view d).1).toRecords)) := by
    rw [Report.render_of_whole rfl]
  refine ⟨_, (ofIssues ctx (c.view d).1).rows.map fun row => row.2.toRecord row.1, hrender, ?_, ?_⟩
  · rw [String.toList_ofList, Csv.read?_text fun r hr => ne_nil_of_mem_toRecords hr, toRecords_eq]
    rfl
  · rw [List.forall₂_map_left_iff]
    exact List.forall₂_same.mpr fun row _ => shows_toRecord row.1 row.2

end IssueLog

namespace Listing

/-- The records of a listing: one for each name, with its section in front and its text behind, in
the order of the listing. -/
inductive Tabulates : Listing → List Csv.Record → Prop
  | nil : Tabulates [] []
  | next {l : Listing} {records : List Csv.Record} (heading : String)
      (h : Tabulates l records) : Tabulates ((heading, []) :: l) records
  | entry {l : Listing} {records : List Csv.Record} {entries : Keyed String}
      (heading name text : String) (h : Tabulates ((heading, entries) :: l) records) :
      Tabulates ((heading, (name, text) :: entries) :: l)
        ([heading.toList, name.toList, text.toList] :: records)

theorem tabulates_toRecords (l : Listing) : Tabulates l l.toRecords := by
  induction l with
  | nil => exact .nil
  | cons group l ih =>
    obtain ⟨heading, entries⟩ := group
    induction entries with
    | nil => exact .next heading ih
    | cons e entries he => exact .entry heading e.1 e.2 he

theorem Tabulates.eq_toRecords {l : Listing} {records : List Csv.Record}
    (h : Tabulates l records) : records = l.toRecords := by
  induction h with
  | nil => rfl
  | next heading _ ih => exact ih
  | entry heading name text _ ih =>
    rw [ih]
    rfl

theorem ne_nil_of_mem_toRecords {l : Listing} {r : Csv.Record} (h : r ∈ l.toRecords) :
    r ≠ [] := by
  obtain ⟨⟨name, entries⟩, -, hr⟩ := List.mem_flatMap.mp h
  obtain ⟨⟨n, text⟩, -, rfl⟩ := List.mem_map.mp hr
  exact List.cons_ne_nil _ _

theorem toList_render_csv (l : Listing) (header : List String) :
    (l.render .csv header).toList =
      [','].intercalate (header.map String.toList) ++ '\n' :: Csv.text l.toRecords := by
  simp [render, headerText, String.toList_intercalate]

/-- The text of a listing is read as these names and the records of the listing. -/
def ReadsBackUnder (l : Listing) (header : List String) : Prop :=
  ∃ records, Csv.read? (l.render .csv header).toList =
    some (header.map String.toList :: records) ∧ l.Tabulates records

theorem readsBackUnder_iff (l : Listing) {header : List String} (h : header ≠ []) :
    l.ReadsBackUnder header ↔ ∀ name ∈ header, Csv.Bare name.toList := by
  have hnames : header.map String.toList ≠ [] := by simpa using h
  have hread := Csv.read?_header_iff hnames fun r hr => ne_nil_of_mem_toRecords (l := l) hr
  rw [← toList_render_csv, List.forall_mem_map] at hread
  rw [← hread]
  constructor
  · rintro ⟨records, hrecords, htable⟩
    rw [hrecords, htable.eq_toRecords]
  · exact fun hall => ⟨l.toRecords, hall, tabulates_toRecords l⟩

theorem bare_of_mem_headers {name : String} (h : name ∈ codesHeader ++ extensionsHeader) :
    Csv.Bare name.toList := by
  apply Csv.bare_of_ordinary
  revert h name
  decide

/-- Under which headers of three names the text of a listing is read back: those whose names stand
for themselves, as the names of the headers in use do. -/
structure ReadsBack (l : Listing) : Prop where
  iff_bare : ∀ header : List String, header.length = 3 →
    (l.ReadsBackUnder header ↔ ∀ name ∈ header, Csv.Bare name.toList)
  codes : l.ReadsBackUnder codesHeader
  extensions : l.ReadsBackUnder extensionsHeader

theorem readsBack_listing (l : Listing) : l.ReadsBack where
  iff_bare header h := by
    apply l.readsBackUnder_iff
    rintro rfl
    contradiction
  codes := by
    apply (l.readsBackUnder_iff (by decide)).mpr
    exact fun name hn => bare_of_mem_headers (List.mem_append_left _ hn)
  extensions := by
    apply (l.readsBackUnder_iff (by decide)).mpr
    exact fun name hn => bare_of_mem_headers (List.mem_append_right _ hn)

end Listing

/-- The tables of logs and of listings are read back from their texts, whatever stands in them. -/
theorem readsBack_tables :
    (∀ c d ctx, IssueLog.ReadsBack c d ctx) ∧ ∀ l : Listing, l.ReadsBack :=
  ⟨IssueLog.readsBack_report, Listing.readsBack_listing⟩

end MetaLint
