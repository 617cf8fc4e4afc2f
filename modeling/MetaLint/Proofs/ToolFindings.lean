import MetaLint.Tool.Builtin
import MetaLint.Proofs.FlawPlaces

/-!
# What tools find in a text

Every finding of a scanner has the name of its tool, one of the documented codes and a line of the
text; a column, where there is one, is on that line or right behind it. For the scanners that go
through a text line by line, this follows from the line that they look at.
-/

set_option autoImplicit false

namespace MetaLint

namespace Text

theorem getElem?_of_mem_numberedFrom {α : Type} {first n : Nat} {a : α} {all : List α}
    (h : (n, a) ∈ numberedFrom first all) : ∃ k, n = first + k ∧ all[k]? = some a := by
  induction all generalizing first with
  | nil => contradiction
  | cons b all ih =>
    rcases List.mem_cons.mp h with h | h
    · obtain ⟨rfl, rfl⟩ := Prod.mk.inj h
      exact ⟨0, rfl, rfl⟩
    · obtain ⟨k, rfl, hk⟩ := ih h
      exact ⟨k + 1, by omega, hk⟩

theorem lineAt?_of_mem_numberedLines {text line : List Char} {n : Nat}
    (h : (n, line) ∈ numberedLines text) : lineAt? text n = some line := by
  obtain ⟨k, rfl, hk⟩ := getElem?_of_mem_numberedFrom h
  rw [Nat.add_comm]
  exact hk

theorem length_linesFrom_le (line text : List Char) :
    (linesFrom line text).length ≤ 1 + text.count '\n' := by
  induction text generalizing line with
  | nil =>
    rw [linesFrom]
    split <;> simp
  | cons a text ih =>
    rw [linesFrom]
    split
    next ha =>
      subst ha
      have hrest := ih []
      rw [List.length_cons, List.count_cons_self]
      omega
    next ha => exact Nat.le_trans (ih (a :: line)) (Nat.add_le_add_left List.count_le_count_cons 1)

theorem linesFrom_ne_nil {line text : List Char} (h : line ≠ [] ∨ text ≠ []) :
    linesFrom line text ≠ [] := by
  induction text generalizing line with
  | nil => simpa [linesFrom] using h
  | cons a text ih =>
    rw [linesFrom]
    split
    · exact List.cons_ne_nil _ _
    · exact ih (.inl (List.cons_ne_nil a line))

theorem bounds_of_lineAt? {text line : List Char} {n : Nat} (h : lineAt? text n = some line) :
    1 ≤ n ∧ n ≤ 1 + text.count '\n' := by
  cases n with
  | zero => contradiction
  | succ n =>
    have hlength := length_linesFrom_le [] text
    obtain ⟨hn, -⟩ := List.getElem?_eq_some_iff.mp h
    exact ⟨Nat.succ_pos n, Nat.le_trans hn hlength⟩

end Text

namespace Tool

open Text

/-- A text of less than 2 GiB has fewer than that many characters. -/
def Short (text : List Char) : Prop := text.length < 2147483648

/-- What a tool may say of the text of a file. -/
structure Finding (t : Tool) (p : Path) (text : List Char) (i : Issue) : Prop where
  tool : i.tool = t.name
  code : ∃ info ∈ t.codes, i.code = some info.code
  file : i.filename = p
  first : 1 ≤ i.line.toNat
  last : i.line.toNat ≤ 1 + text.count '\n'

/-- The column, if there is one, lies on the line of the issue or right behind it. -/
def Columned (size : List Char → Nat) (text : List Char) (i : Issue) : Prop :=
  ∀ c, i.character = some c → ∃ line, lineAt? text i.line.toNat = some line ∧
    1 ≤ c.toNat ∧ c.toNat ≤ 1 + size line

section Findings
variable {t : Tool} {p : Path} {text : List Char} {i : Issue} {n : Nat}

theorem toNat_ofNat_of_short (hs : Short text) (h : n ≤ 1 + text.count '\n') :
    (UInt32.ofNat n).toNat = n := by
  have hcount := List.count_le_length (l := text) (a := '\n')
  have hlt : text.length < 2147483648 := hs
  apply UInt32.toNat_ofNat_of_lt'
  show n < 4294967296
  omega

theorem column_of_lineNumber {c : UInt32} (h : (lineNumber n).filter (0 < ·) = some c) :
    1 ≤ c.toNat ∧ c.toNat ≤ n := by
  obtain ⟨hc, hpos⟩ := Option.filter_eq_some_iff.mp h
  obtain rfl := Option.some.inj hc
  refine ⟨UInt32.lt_iff_toNat_lt.mp (of_decide_eq_true hpos), ?_⟩
  rw [UInt32.toNat_ofNat']
  exact Nat.mod_le _ _

/-- A finding whose line has this number and whose column is one of this line. -/
structure FoundAt (t : Tool) (size : List Char → Nat) (p : Path) (text : List Char) (n : Nat)
    (i : Issue) : Prop where
  tool : i.tool = t.name
  code : ∃ info ∈ t.codes, i.code = some info.code
  file : i.filename = p
  line : i.line = UInt32.ofNat n
  first : 1 ≤ n
  last : n ≤ 1 + text.count '\n'
  column : ∀ c, i.character = some c → ∃ line, lineAt? text n = some line ∧
    1 ≤ c.toNat ∧ c.toNat ≤ 1 + size line

variable {size : List Char → Nat}

theorem FoundAt.columned (h : FoundAt t size p text n i) (hs : Short text) :
    Columned size text i := by
  have hn : i.line.toNat = n := by rw [h.line, toNat_ofNat_of_short hs h.last]
  intro c hc
  rw [hn]
  exact h.column c hc

theorem FoundAt.finding (h : FoundAt t size p text n i) (hs : Short text) :
    Finding t p text i := by
  have hn : i.line.toNat = n := by rw [h.line, toNat_ofNat_of_short hs h.last]
  exact ⟨h.tool, h.code, h.file, hn ▸ h.first, hn ▸ h.last⟩

end Findings

namespace Secrets

theorem foundAt_of_mem_check {p : Path} {text : List Char} {i : Issue} (h : i ∈ check p text) :
    ∃ n, FoundAt secrets List.length p text n i := by
  rw [check] at h
  split at h
  · contradiction
  · obtain ⟨⟨n, line⟩, hmem, hi⟩ := List.mem_flatMap.mp h
    obtain ⟨detector, -, hfound⟩ := List.mem_filterMap.mp hi
    obtain ⟨start, hstart, rfl⟩ := Option.map_eq_some_iff.mp hfound
    have hline := lineAt?_of_mem_numberedLines hmem
    obtain ⟨hfirst, hlast⟩ := bounds_of_lineAt? hline
    refine ⟨n, rfl, ⟨_, List.mem_singleton_self _, rfl⟩, rfl, rfl, hfirst, hlast, fun c hc => ?_⟩
    have hle : start ≤ line.length := Pattern.Regex.firstStart?_le hstart
    obtain ⟨hpos, hcolumn⟩ := column_of_lineNumber hc
    exact ⟨line, hline, hpos, by omega⟩

end Secrets

namespace Todo

variable {same : Char → Char → Bool} {markers : List (List Char)}

theorem position_le_of_mem_markersFrom {skip position : Nat} {barred : Bool} {before : Option Char}
    {text : List Char} {m : Nat × List Char}
    (h : m ∈ markersFrom same markers skip barred position before text) :
    m.1 ≤ position + text.length := by
  fun_induction markersFrom same markers skip barred position before text <;> grind

theorem foundAt_of_mem_check {o : Options} {p : Path} {text : List Char} {i : Issue}
    (h : i ∈ check o p text) : ∃ n, FoundAt todo List.length p text n i := by
  obtain ⟨⟨n, line⟩, hmem, hi⟩ := List.mem_flatMap.mp h
  have hline := lineAt?_of_mem_numberedLines hmem
  obtain ⟨hfirst, hlast⟩ := bounds_of_lineAt? hline
  simp only at hi
  split at hi
  · contradiction
  · obtain ⟨m, hm, rfl⟩ := List.mem_map.mp hi
    refine ⟨n, rfl, ⟨_, List.mem_singleton_self _, rfl⟩, rfl, rfl, hfirst, hlast, fun c hc => ?_⟩
    have hle := position_le_of_mem_markersFrom hm
    obtain ⟨hpos, hcolumn⟩ := column_of_lineNumber hc
    exact ⟨line, hline, hpos, by omega⟩

end Todo

namespace Whitespace

variable {o : Options} {p : Path} {text : List Char} {i : Issue} {n : Nat}

theorem mem_codes_of_mem {code : String} (h : code ∈ codes.map CodeInfo.code) :
    ∃ info ∈ codes, (if code = "" then none else some code) = some info.code := by
  obtain ⟨info, hm, rfl⟩ := List.mem_map.mp h
  refine ⟨info, hm, ?_⟩
  have hall : ∀ info ∈ codes, info.code ≠ "" := by decide
  rw [if_neg (hall info hm)]

theorem foundAt_of_lineAt? {line : List Char} (hline : lineAt? text n = some line) {code : String}
    (hcode : code ∈ codes.map CodeInfo.code) (message : String) {column : Nat}
    (hcolumn : column ≤ 1 + line.length) : FoundAt whitespace List.length p text n
      ((issue p code message n).withCharacter (lineNumber column)) := by
  obtain ⟨hfirst, hlast⟩ := bounds_of_lineAt? hline
  refine ⟨rfl, mem_codes_of_mem hcode, rfl, rfl, hfirst, hlast, fun c hc => ?_⟩
  obtain ⟨hpos, hle⟩ := column_of_lineNumber hc
  exact ⟨line, hline, hpos, by omega⟩

theorem foundAt_of_mem_checkLine {line : List Char} (hline : lineAt? text n = some line)
    (h : i ∈ checkLine o p (n, line)) : FoundAt whitespace List.length p text n i := by
  rw [checkLine, List.mem_append, List.mem_append] at h
  rcases h with (h | h) | h
  · obtain h := Option.mem_toList.mp h
    rw [trailing?] at h
    simp only at h
    split at h
    next hlt =>
      rw [← Option.some.inj h]
      exact foundAt_of_lineAt? hline (by decide) _ (by omega)
    next => contradiction
  · obtain h := Option.mem_toList.mp h
    rw [tabIndent?] at h
    simp only at h
    split at h
    · rw [← Option.some.inj h]
      exact foundAt_of_lineAt? hline (by decide) _ (Nat.le_add_right 1 _)
    · contradiction
  · obtain h := Option.mem_toList.mp h
    rw [tooLong?] at h
    simp only at h
    split at h
    next hlong =>
      rw [Bool.and_eq_true, decide_eq_true_eq, decide_eq_true_eq] at hlong
      rw [← Option.some.inj h]
      exact foundAt_of_lineAt? hline (by decide) _ (by omega)
    next => contradiction

theorem foundAt_of_mem_checkEnd (hne : text ≠ []) (h : i ∈ checkEnd p text) :
    ∃ n, FoundAt whitespace List.length p text n i := by
  have hle : (lines text).length ≤ 1 + text.count '\n' := length_linesFrom_le [] text
  have hlines : linesFrom [] text ≠ [] := linesFrom_ne_nil (.inr hne)
  have hpos : 0 < (lines text).length := List.length_pos_iff.mpr hlines
  have hissue : ∀ {code message : String} {n : Nat}, code ∈ codes.map CodeInfo.code → 1 ≤ n →
      n ≤ 1 + text.count '\n' →
      FoundAt whitespace List.length p text n (issue p code message n) :=
    fun hcode hfirst hlast =>
      ⟨rfl, mem_codes_of_mem hcode, rfl, rfl, hfirst, hlast, fun c hc => by contradiction⟩
  rw [checkEnd] at h
  simp only at h
  split at h
  · rw [List.mem_singleton.mp h]
    exact ⟨_, hissue (by decide) hpos hle⟩
  · split at h
    · rw [List.mem_singleton.mp h]
      exact ⟨_, hissue (by decide) (Nat.succ_pos _) (by omega)⟩
    · contradiction

theorem foundAt_of_mem_check (h : i ∈ check o p text) :
    ∃ n, FoundAt whitespace List.length p text n i := by
  rw [check] at h
  split at h
  · contradiction
  next hne =>
    rcases List.mem_append.mp h with h | h
    · obtain ⟨⟨n, line⟩, hmem, hi⟩ := List.mem_flatMap.mp h
      exact ⟨n, foundAt_of_mem_checkLine (lineAt?_of_mem_numberedLines hmem) hi⟩
    · exact foundAt_of_mem_checkEnd (by simpa using hne) h

end Whitespace

namespace JsonLint

open Json (ParseError)

variable {p : Path} {text : List Char} {i : Issue}

theorem exists_of_mem_check (h : i ∈ check p text) :
    ∃ e, Json.parse text = .error e ∧ i = issueOf p e := by
  rw [check] at h
  split at h
  · contradiction
  next e he => exact ⟨e, he, List.mem_singleton.mp h⟩

theorem code_issueOf (e : ParseError) : ∃ info ∈ codes, (issueOf p e).code = some info.code := by
  show ∃ info ∈ codes,
    (if codeOf e.flaw.kind = "" then none else some (codeOf e.flaw.kind)) = some info.code
  cases e.flaw.kind <;> decide

theorem foundAt_issueOf {e : ParseError} (h : e.Within text) :
    FoundAt jsonLint byteLength p text e.line (issueOf p e) := by
  have hline : (issueOf p e).line = UInt32.ofNat e.line := by
    have hne : e.line ≠ 0 := Nat.ne_of_gt h.first
    simp [issueOf, hne, Issue.withLine, Issue.withCharacter, lineNumber]
  refine ⟨rfl, code_issueOf e, rfl, hline, h.first, h.last, fun c hc => ?_⟩
  obtain ⟨hpos, hle⟩ := column_of_lineNumber hc
  obtain ⟨line, hget, hsize⟩ := h.column (by omega)
  exact ⟨line, hget, hpos, by omega⟩

theorem finding_issueOf {e : ParseError} (hs : Short text) (h : e.line ≤ 1 + text.count '\n') :
    Finding jsonLint p text (issueOf p e) := by
  have hline : 1 ≤ (issueOf p e).line.toNat ∧
      (issueOf p e).line.toNat ≤ 1 + text.count '\n' := by
    by_cases hzero : e.line = 0
    · have hfirst : (issueOf p e).line = 1 := by
        simp [issueOf, hzero, Issue.withLine, Issue.withCharacter]
      rw [hfirst]
      exact ⟨Nat.le_refl 1, Nat.le_add_right 1 _⟩
    · have hnumber : (issueOf p e).line = UInt32.ofNat e.line := by
        simp [issueOf, hzero, Issue.withLine, Issue.withCharacter, lineNumber]
      rw [hnumber, toNat_ofNat_of_short hs h]
      exact ⟨Nat.pos_of_ne_zero hzero, h⟩
  exact ⟨rfl, code_issueOf e, rfl, hline.1, hline.2⟩

end JsonLint

end Tool

end MetaLint
