import MetaLint.Proofs.Suppressing
import MetaLint.Proofs.TidyText

/-!
# Scans of joined texts

Scanners look at one line at a time, and the number of the line is all they take from what stands
before it. A text that goes on behind a line feed is therefore scanned part by part, with the
numbers of the second part raised, and a directive has the number of the findings on its line.
-/

set_option autoImplicit false

namespace MetaLint

namespace Text

theorem numberedFrom_append {α : Type} (first : Nat) (as bs : List α) :
    numberedFrom first (as ++ bs) =
      numberedFrom first as ++ numberedFrom (first + as.length) bs := by
  induction as generalizing first with
  | nil => rfl
  | cons a as ih =>
    have hnext : first + 1 + as.length = first + (a :: as).length := by
      rw [List.length_cons]
      omega
    rw [List.cons_append, numberedFrom, numberedFrom, ih, hnext, List.cons_append]

/-- Behind a line feed lines start anew. A line feed that no line stands before ends an empty one.
-/
theorem exists_linesFrom_joined (front : List Char) {a : List Char} (b : List Char)
    (h : (front.reverse ++ a).getLast? ≠ some '\r') :
    ∃ more : List (List Char), (∀ line ∈ more, line = []) ∧
      linesFrom front (a ++ '\n' :: b) = linesFrom front a ++ more ++ lines b ∧
      (linesFrom front a ++ more).length = 1 + a.count '\n' := by
  induction a generalizing front with
  | nil =>
    -- The line feed ends the line in front, or an empty one where there is none.
    rw [List.append_nil, List.getLast?_reverse] at h
    have hfirst : linesFrom front ('\n' :: b) = endedLine front :: lines b := by
      rw [linesFrom, if_pos rfl]
      rfl
    rw [List.nil_append, hfirst]
    cases front with
    | nil => exact ⟨[[]], by simp, rfl, rfl⟩
    | cons c front =>
      have hc : c ≠ '\r' := by simpa using h
      refine ⟨[], List.forall_mem_nil _, ?_, rfl⟩
      rw [endedLine_of_ne hc]
      rfl
  | cons c a ih =>
    rw [List.cons_append, linesFrom, linesFrom]
    by_cases hc : c = '\n'
    · rw [if_pos hc, if_pos hc]
      have hrest : (([] : List Char).reverse ++ a).getLast? ≠ some '\r' := by
        intro hlast
        apply h
        rw [List.reverse_nil, List.nil_append] at hlast
        rw [List.getLast?_append, List.getLast?_cons, hlast]
        rfl
      obtain ⟨more, hmore, hlines, hlength⟩ := ih [] hrest
      refine ⟨more, hmore, ?_, ?_⟩
      · rw [hlines, List.cons_append, List.cons_append]
      · rw [List.cons_append, List.length_cons, hlength, hc, List.count_cons_self]
        omega
    · rw [if_neg hc, if_neg hc, List.count_cons_of_ne hc]
      exact ih (c :: front) (by simpa using h)

/-- A scan is local at a line feed: it finds what it finds in the first text, and what it finds in
the second one it finds further down. -/
def JoinsUp {β : Type} (move : Nat → β → β) (find : List Char → List β) (a b : List Char) : Prop :=
  find (a ++ '\n' :: b) = find a ++ (find b).map (move (1 + a.count '\n'))

/-- The scan of a line depends on its number only in where findings are placed, and it finds nothing
in an empty line. -/
structure Placed {β : Type} (place : Nat → β → β) (scan : Nat × List Char → List β) : Prop where
  empty : scan (1, []) = []
  placed : ∀ n line, scan (n, line) = (scan (1, line)).map (place n)

section Scan
variable {β : Type} {place move : Nat → β → β} {scan : Nat × List Char → List β}

theorem Placed.empty_at (h : Placed place scan) (n : Nat) : scan (n, []) = [] := by
  rw [h.placed, h.empty, List.map_nil]

theorem Placed.scan_blank (h : Placed place scan) (first : Nat) {more : List (List Char)}
    (hmore : ∀ line ∈ more, line = []) : (numberedFrom first more).flatMap scan = [] := by
  rw [List.flatMap_eq_nil_iff]
  rintro ⟨n, line⟩ hmem
  obtain ⟨k, -, hk⟩ := getElem?_of_mem_numberedFrom hmem
  rw [hmore line (List.mem_of_getElem? hk), h.empty_at]

theorem Placed.scan_line (h : Placed place scan) {line : List Char} (hline : '\n' ∉ line) :
    (numberedLines line).flatMap scan = scan (1, line) := by
  by_cases hne : line = []
  · rw [hne, h.empty]
    rfl
  · rw [numberedLines, lines_of_not_mem hne hline, numberedFrom, numberedFrom, List.flatMap_cons,
      List.flatMap_nil, List.append_nil]

theorem Placed.exists_of_mem_line (h : Placed place scan) {line : List Char} (hline : '\n' ∉ line)
    {y : β} (hy : y ∈ (numberedLines line).flatMap scan) : ∃ x, place 1 x = y := by
  rw [h.scan_line hline, h.placed] at hy
  obtain ⟨x, -, hx⟩ := List.mem_map.mp hy
  exact ⟨x, hx⟩

theorem Placed.mem_scan_iff (h : Placed place scan) {text : List Char} {x : β} :
    x ∈ (numberedLines text).flatMap scan ↔ ∃ n line, lineAt? text n = some line ∧
      ∃ y ∈ (numberedLines line).flatMap scan, place n y = x := by
  rw [Text.mem_scan_iff]
  constructor
  · rintro ⟨n, line, hline, hx⟩
    rw [h.placed] at hx
    obtain ⟨y, hy, rfl⟩ := List.mem_map.mp hx
    rw [← h.scan_line (not_mem_of_lineAt? hline)] at hy
    exact ⟨n, line, hline, y, hy, rfl⟩
  · rintro ⟨n, line, hline, y, hy, rfl⟩
    rw [h.scan_line (not_mem_of_lineAt? hline)] at hy
    refine ⟨n, line, hline, ?_⟩
    rw [h.placed]
    exact List.mem_map_of_mem hy

variable (hmove : ∀ k n x, move k (place n x) = place (k + n) x)
include hmove

theorem Placed.scan_moved (h : Placed place scan) (k first : Nat) (all : List (List Char)) :
    (numberedFrom (k + first) all).flatMap scan =
      ((numberedFrom first all).flatMap scan).map (move k) := by
  induction all generalizing first with
  | nil => rfl
  | cons line all ih =>
    have hline : scan (k + first, line) = (scan (first, line)).map (move k) := by
      rw [h.placed, h.placed first, List.map_map]
      exact List.map_congr_left fun x _ => (hmove k first x).symm
    rw [numberedFrom, numberedFrom, List.flatMap_cons, List.flatMap_cons, List.map_append, hline,
      Nat.add_assoc, ih]

theorem Placed.joinsUp (h : Placed place scan) {a : List Char} (ha : a.getLast? ≠ some '\r')
    (b : List Char) : JoinsUp move (fun text => (numberedLines text).flatMap scan) a b := by
  obtain ⟨more, hmore, hlines, hlength⟩ := exists_linesFrom_joined [] b ha
  have hjoined : numberedLines (a ++ '\n' :: b) = numberedLines a ++
      numberedFrom (1 + (lines a).length) more ++
      numberedFrom (1 + a.count '\n' + 1) (lines b) := by
    rw [numberedLines, lines, hlines, numberedFrom_append, numberedFrom_append, hlength,
      Nat.add_comm 1 (1 + _)]
    rfl
  show (numberedLines (a ++ '\n' :: b)).flatMap scan = _
  rw [hjoined, List.flatMap_append, List.flatMap_append, h.scan_blank _ hmore, List.append_nil,
    h.scan_moved hmove]
  rfl

end Scan

end Text

namespace Issue

def atLine (n : Nat) (i : Issue) : Issue := { i with line := UInt32.ofNat n }

def movedDown (k : Nat) (i : Issue) : Issue := i.atLine (k + i.line.toNat)

theorem movedDown_atLine (k n : Nat) (i : Issue) : (i.atLine n).movedDown k = i.atLine (k + n) := by
  have hline : UInt32.ofNat (k + (UInt32.ofNat n).toNat) = UInt32.ofNat (k + n) := by
    rw [UInt32.ofNat_add, UInt32.ofNat_toNat, ← UInt32.ofNat_add]
  rw [movedDown, atLine, atLine, hline]
  rfl

/-- The lines of two texts below 1 GiB can be numbered one after the other. -/
theorem toNat_movedDown {a b : List Char} (ha : a.length < 1073741824) (hb : b.length < 1073741824)
    {i : Issue} (h : i.line.toNat ≤ 1 + b.count '\n') :
    (i.movedDown (1 + a.count '\n')).line.toNat = 1 + a.count '\n' + i.line.toNat := by
  have hcounta := List.count_le_length (l := a) (a := '\n')
  have hcountb := List.count_le_length (l := b) (a := '\n')
  apply UInt32.toNat_ofNat_of_lt'
  show _ < 4294967296
  omega

end Issue

namespace Tool

open Text

/-- What is found in a text is what is found in its lines alone, with their numbers. -/
structure NumbersLines (find : List Char → List Issue) (text : List Char) : Prop where
  found : ∀ i ∈ find text, ∃ line, lineAt? text i.line.toNat = some line ∧ i.atLine 1 ∈ find line
  told : ∀ n line, lineAt? text n = some line → ∀ i ∈ find line,
    i.atLine n ∈ find text ∧ (i.atLine n).line.toNat = n

section Findings
variable {scan : Nat × List Char → List Issue} {text : List Char}

theorem toNat_atLine (hs : Short text) {n : Nat} {line : List Char}
    (h : lineAt? text n = some line) (i : Issue) : (i.atLine n).line.toNat = n :=
  toNat_ofNat_of_short hs (bounds_of_lineAt? h).2

theorem numbersLines_of_placed (h : Placed Issue.atLine scan) (hs : Short text) :
    NumbersLines (fun text => (numberedLines text).flatMap scan) text where
  found i hi := by
    obtain ⟨n, line, hline, y, hy, rfl⟩ := h.mem_scan_iff.mp hi
    obtain ⟨x, rfl⟩ := h.exists_of_mem_line (not_mem_of_lineAt? hline) hy
    exact ⟨line, by rw [toNat_atLine hs hline, hline], hy⟩
  told n line hline i hi :=
    ⟨h.mem_scan_iff.mpr ⟨n, line, hline, i, hi, rfl⟩, toNat_atLine hs hline i⟩

theorem NumbersLines.congr {find other : List Char → List Issue} (h : NumbersLines find text)
    (htext : other text = find text) (hlines : ∀ line ∈ lines text, other line = find line) :
    NumbersLines other text where
  found i hi := by
    rw [htext] at hi
    obtain ⟨line, hline, hfound⟩ := h.found i hi
    exact ⟨line, hline, by rwa [hlines line (mem_of_lineAt? hline)]⟩
  told n line hline i hi := by
    rw [hlines line (mem_of_lineAt? hline)] at hi
    rw [htext]
    exact h.told n line hline i hi

end Findings

namespace Todo

def checkLine (o : Options) (p : Path) (l : Nat × List Char) : List Issue :=
  if o.ignores l.2 then [] else (markersIn o l.2).map (issueOf p l.1)

theorem check_eq (o : Options) (p : Path) :
    check o p = fun text => (numberedLines text).flatMap (checkLine o p) := rfl

theorem placed_checkLine (o : Options) (p : Path) : Placed Issue.atLine (checkLine o p) where
  empty := by
    have hnone : markersIn o [] = [] := rfl
    rw [checkLine, hnone, List.map_nil, ite_self]
  placed n line := by
    rw [checkLine, checkLine]
    split
    · rfl
    · rw [List.map_map]
      rfl

end Todo

namespace Secrets

def checkLine (p : Path) (l : Nat × List Char) : List Issue := detectors.filterMap (finding? p l)

theorem check_of_not_mem {p : Path} {text : List Char} (h : Char.ofNat 0 ∉ text) :
    check p text = (numberedLines text).flatMap (checkLine p) := by
  rw [check, if_neg (by simpa using h)]
  rfl

theorem placed_checkLine (p : Path) : Placed Issue.atLine (checkLine p) where
  empty := by
    have hnone : ∀ d ∈ detectors, d.regex.firstStart? [] = none := by decide +kernel
    rw [checkLine, List.filterMap_eq_nil_iff]
    intro d hd
    rw [finding?, hnone d hd, Option.map_none]
  placed n line := by
    rw [checkLine, checkLine, List.map_filterMap]
    apply List.filterMap_congr
    intro d _
    rw [finding?, finding?, Option.map_map]
    rfl

end Secrets

namespace Whitespace

def lineCodes : List String := ["trailing", "tab-indent", "line-length"]

def checkLines (o : Options) (p : Path) (text : List Char) : List Issue :=
  (check o p text).filter fun i => lineCodes.contains i.codeText

theorem codeText_issue (p : Path) (v : Violation) : (v.issue p).codeText = v.rule.code :=
  Issue.codeText_create name v.rule.code v.message p

theorem code_of_mem_checkLine {o : Options} {p : Path} {l : Nat × List Char} {i : Issue}
    (h : i ∈ checkLine o p l) : i.codeText ∈ lineCodes := by
  rw [checkLine_eq] at h
  obtain ⟨v, hv, rfl⟩ := List.mem_map.mp h
  obtain ⟨r, hr, hbroken⟩ := mem_brokenOn.mp hv
  have hall : ∀ r ∈ lineRules, r.code ∈ lineCodes := by decide
  rw [codeText_issue, (broken?_place hbroken).1]
  exact hall r hr

theorem code_of_mem_checkEnd {p : Path} {text : List Char} {i : Issue} (h : i ∈ checkEnd p text) :
    i.codeText ∉ lineCodes := by
  rw [checkEnd_eq] at h
  obtain ⟨v, hv, rfl⟩ := List.mem_map.mp h
  have hrule : v.rule = .finalNewline ∨ v.rule = .blankEnd := by
    rw [brokenAtEnd] at hv
    split at hv
    · exact .inl (congrArg Violation.rule (List.mem_singleton.mp hv))
    · simp only at hv
      split at hv
      · exact .inr (congrArg Violation.rule (List.mem_singleton.mp hv))
      · contradiction
  rw [codeText_issue]
  rcases hrule with h | h <;> rw [h] <;> decide

theorem checkLines_eq (o : Options) (p : Path) :
    checkLines o p = fun text => (numberedLines text).flatMap (checkLine o p) := by
  funext text
  rw [checkLines, check]
  by_cases hne : text = []
  · rw [hne]
    rfl
  · have hlines : ∀ i ∈ (numberedLines text).flatMap (checkLine o p),
        lineCodes.contains i.codeText = true := by
      intro i hi
      obtain ⟨l, -, hl⟩ := List.mem_flatMap.mp hi
      exact List.contains_iff_mem.mpr (code_of_mem_checkLine hl)
    have hend : ∀ i ∈ checkEnd p text, ¬ lineCodes.contains i.codeText = true :=
      fun i hi hmem => code_of_mem_checkEnd hi (List.contains_iff_mem.mp hmem)
    rw [if_neg (by simpa using hne), List.filter_append, List.filter_eq_self.mpr hlines,
      List.filter_eq_nil_iff.mpr hend, List.append_nil]

theorem placed_checkLine (o : Options) (p : Path) : Placed Issue.atLine (checkLine o p) where
  empty := by
    rw [checkLine_eq, List.map_eq_nil_iff, List.eq_nil_iff_forall_not_mem]
    intro v hv
    obtain ⟨r, -, hbroken⟩ := mem_brokenOn.mp hv
    cases r <;> simp [broken?] at hbroken
  placed n line := by
    have htrailing : trailing? p n line = (trailing? p 1 line).map (Issue.atLine n) := by
      simp only [trailing?]
      split <;> rfl
    have htab : tabIndent? p n line = (tabIndent? p 1 line).map (Issue.atLine n) := by
      simp only [tabIndent?]
      split <;> rfl
    have hlong : tooLong? o p n line = (tooLong? o p 1 line).map (Issue.atLine n) := by
      simp only [tooLong?]
      split <;> rfl
    rw [checkLine, checkLine, htrailing, htab, hlong]
    simp only [List.map_append, Option.toList_map]

end Whitespace

end Tool

namespace SuppressionIndex

open Text

def atLine (n : Nat) (e : Nat × Suppression) : Nat × Suppression := (n, e.2)

def movedDown (k : Nat) (e : Nat × Suppression) : Nat × Suppression := (k + e.1, e.2)

theorem movedDown_atLine (k n : Nat) (e : Nat × Suppression) :
    movedDown k (atLine n e) = atLine (k + n) e := rfl

def entriesOn (l : Nat × List Char) : List (Nat × Suppression) := Option.toList <| entry? l

theorem entries_parse : (fun text => (parse text).entries) =
    fun text => (numberedLines text).flatMap entriesOn := by
  funext text
  exact List.filterMap_eq_flatMap_toList _ _

theorem placed_entriesOn : Placed atLine entriesOn where
  empty := rfl
  placed n line := by
    simp only [entriesOn, entry?]
    cases Suppression.ofLine? line <;> rfl

theorem mem_entries_parse {text : List Char} {n : Nat} {s : Suppression} :
    (n, s) ∈ (parse text).entries ↔
      ∃ line, lineAt? text n = some line ∧ (1, s) ∈ (parse line).entries := by
  have hentries : ∀ t, (parse t).entries = (numberedLines t).flatMap entriesOn :=
    congrFun entries_parse
  rw [hentries, placed_entriesOn.mem_scan_iff]
  constructor
  · rintro ⟨m, line, hline, e, he, hplace⟩
    obtain ⟨x, rfl⟩ := placed_entriesOn.exists_of_mem_line (not_mem_of_lineAt? hline) he
    obtain ⟨rfl, rfl⟩ := Prod.mk.inj hplace
    exact ⟨line, hline, by rwa [hentries]⟩
  · rintro ⟨line, hline, he⟩
    rw [hentries] at he
    exact ⟨n, line, hline, _, he, rfl⟩

theorem get?_parse_line {line : List Char} (h : '\n' ∉ line) :
    (parse line).get? 1 = Suppression.ofLine? line := by
  rw [get?_parse]
  by_cases hne : line = []
  · rw [hne]
    rfl
  · rw [lineAt?_of_not_mem hne h, Option.bind_some]

theorem suppresses_parse {text line : List Char} {i : Issue}
    (h : lineAt? text i.line.toNat = some line) :
    (parse text).suppresses i = (parse line).suppresses (i.atLine 1) := by
  have htext : (parse text).get? i.line.toNat = Suppression.ofLine? line := by
    rw [get?_parse, h, Option.bind_some]
  have hline : (parse line).get? (i.atLine 1).line.toNat = Suppression.ofLine? line :=
    get?_parse_line (not_mem_of_lineAt? h)
  rw [suppresses, suppresses, htext, hline]
  cases Suppression.ofLine? line with
  | none => rfl
  | some s => exact s.covers_congr rfl rfl

end SuppressionIndex

namespace Tool

open Text

section Scanners
variable (o : Todo.Options) (w : Whitespace.Options) (p : Path)

/-- Findings and directives have the number of the line that they stand on. -/
structure SameNumbers (text : List Char) : Prop where
  todo : NumbersLines (Todo.check o p) text
  secrets : Char.ofNat 0 ∉ text → NumbersLines (Secrets.check p) text
  whitespace : NumbersLines (Whitespace.checkLines w p) text
  directives : ∀ n s, (n, s) ∈ (SuppressionIndex.parse text).entries ↔
    ∃ line, lineAt? text n = some line ∧ (1, s) ∈ (SuppressionIndex.parse line).entries
  suppressed : ∀ i line, lineAt? text i.line.toNat = some line →
    (SuppressionIndex.parse text).suppresses i =
      (SuppressionIndex.parse line).suppresses (i.atLine 1)

/-- Texts that are joined by a line feed are scanned one after the other. -/
structure ScannedInParts (a b : List Char) : Prop where
  todo : JoinsUp Issue.movedDown (Todo.check o p) a b
  secrets : Char.ofNat 0 ∉ a → Char.ofNat 0 ∉ b → JoinsUp Issue.movedDown (Secrets.check p) a b
  whitespace : JoinsUp Issue.movedDown (Whitespace.checkLines w p) a b
  directives : JoinsUp SuppressionIndex.movedDown
    (fun text => (SuppressionIndex.parse text).entries) a b
  raised : ∀ i, i ∈ Todo.check o p b ∨ i ∈ Secrets.check p b ∨ i ∈ Whitespace.checkLines w p b →
    (i.movedDown (1 + a.count '\n')).line.toNat = 1 + a.count '\n' + i.line.toNat
  sameNumbers : ∀ text, Short text → SameNumbers o w p text

variable {o w p} {a b text : List Char}

theorem sameNumbers_of_short (hs : Short text) : SameNumbers o w p text where
  todo := by
    rw [Todo.check_eq]
    exact numbersLines_of_placed (Todo.placed_checkLine o p) hs
  secrets hnul := by
    refine (numbersLines_of_placed (Secrets.placed_checkLine p) hs).congr
      (Secrets.check_of_not_mem hnul) fun line hline => Secrets.check_of_not_mem fun hmem => ?_
    have hsub : line.Sublist text := sublist_of_mem_linesFrom hline
    exact hnul (hsub.subset hmem)
  whitespace := by
    rw [Whitespace.checkLines_eq]
    exact numbersLines_of_placed (Whitespace.placed_checkLine w p) hs
  directives n s := SuppressionIndex.mem_entries_parse
  suppressed i line h := SuppressionIndex.suppresses_parse h

/-- Two texts below 1 GiB, the first without a carriage return at its end, are scanned one after the
other. A text below 1 GiB has fewer than that many characters. -/
theorem scannedInParts_joined (o : Todo.Options) (w : Whitespace.Options) (p : Path)
    (ha : a.length < 1073741824) (hb : b.length < 1073741824) (hend : a.getLast? ≠ some '\r') :
    ScannedInParts o w p a b where
  todo := by
    rw [Todo.check_eq]
    exact (Todo.placed_checkLine o p).joinsUp Issue.movedDown_atLine hend b
  secrets hnula hnulb := by
    have hjoined : Char.ofNat 0 ∉ a ++ '\n' :: b := by simp [hnula, hnulb]
    have hlines := (Secrets.placed_checkLine p).joinsUp Issue.movedDown_atLine hend b
    rw [JoinsUp, Secrets.check_of_not_mem hnula, Secrets.check_of_not_mem hnulb,
      Secrets.check_of_not_mem hjoined]
    exact hlines
  whitespace := by
    rw [Whitespace.checkLines_eq]
    exact (Whitespace.placed_checkLine w p).joinsUp Issue.movedDown_atLine hend b
  directives := by
    rw [SuppressionIndex.entries_parse]
    exact SuppressionIndex.placed_entriesOn.joinsUp SuppressionIndex.movedDown_atLine hend b
  raised i hi := by
    have hs : Short b := Nat.lt_trans hb (by decide)
    have hmem : (∃ n, FoundAt todo List.length p b n i) ∨
        (∃ n, FoundAt secrets List.length p b n i) ∨
          ∃ n, FoundAt whitespace List.length p b n i :=
      hi.imp Todo.foundAt_of_mem_check (Or.imp Secrets.foundAt_of_mem_check fun h =>
        Whitespace.foundAt_of_mem_check (List.mem_of_mem_filter h))
    apply Issue.toNat_movedDown ha hb
    rcases hmem with ⟨n, h⟩ | ⟨n, h⟩ | ⟨n, h⟩
    · exact (h.finding hs).last
    · exact (h.finding hs).last
    · exact (h.finding hs).last
  sameNumbers text hs := sameNumbers_of_short hs

end Scanners

/-! The first text ends in a line feed, so that an empty line stands between it and the second. -/

def upperText : List Char := "x = 1\r\n# TODO: a  # noqa\n".toList

def lowerText : List Char := "\ty = 2 \n# fixme  # noqa: todo\r\n".toList

theorem scannedInParts_joined_gap : upperText.length < 1073741824 ∧ lowerText.length < 1073741824 ∧
    upperText.getLast? ≠ some '\r' ∧ Char.ofNat 0 ∉ upperText ∧ Char.ofNat 0 ∉ lowerText ∧
    ScannedInParts {} {} ⟨"a.py"⟩ upperText lowerText ∧
    (Todo.check {} ⟨"a.py"⟩ (upperText ++ '\n' :: lowerText)).map Issue.line = [2, 5, 5] ∧
    (Whitespace.checkLines {} ⟨"a.py"⟩ (upperText ++ '\n' :: lowerText)).map
      (fun i => (i.codeText, i.line)) = [("trailing", 4), ("tab-indent", 4)] ∧
    (SuppressionIndex.parse (upperText ++ '\n' :: lowerText)).entries =
      [(2, .everything), (5, .targets ["todo"])] := by
  have hupper : upperText.length < 1073741824 := by decide
  have hlower : lowerText.length < 1073741824 := by decide
  have hend : upperText.getLast? ≠ some '\r' := by decide
  exact ⟨hupper, hlower, hend, by decide, by decide,
    scannedInParts_joined {} {} ⟨"a.py"⟩ hupper hlower hend, by decide +kernel, by decide +kernel,
    by decide +kernel⟩

end Tool

end MetaLint
