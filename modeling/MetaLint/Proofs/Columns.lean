import MetaLint.Proofs.BuiltinTools

/-!
# Columns of built-in tools

The tools that go through a text line by line count the characters of a line. Where a document is
malformed, its bytes are counted instead, which is the same on a line of ASCII characters only.
-/

set_option autoImplicit false

namespace MetaLint

open Tool

theorem Text.byteLength_of_ascii {line : List Char} (h : ∀ a ∈ line, a.toNat < 128) :
    byteLength line = line.length := by
  induction line with
  | nil => rfl
  | cons a line ih =>
    obtain ⟨ha, hline⟩ := List.forall_mem_cons.mp h
    have hle : a.val ≤ 127 := UInt32.le_iff_toNat_le.mpr (Nat.le_of_lt_succ ha)
    rw [byteLength_cons, Char.utf8Size_eq_one_iff.mpr hle, ih hline, List.length_cons, Nat.add_comm]

namespace Builtin

theorem lineSize_of_ascii (b : Builtin) {line : List Char} (h : ∀ a ∈ line, a.toNat < 128) :
    b.lineSize line = line.length := by
  cases b with
  | jsonLint => exact Text.byteLength_of_ascii h
  | _ => rfl

/-- A column is on its line or right behind it, bytes counted in a document and characters by all
other tools. Only what is wrong with the shape of an embedded text has its place elsewhere. -/
theorem columned_scan {b : Builtin} {c : ToolConfig} {own : Path → List Char → List Issue}
    (hscan : b.scan c = .ok own) {p : Path} {text : List Char} (hshort : Short text) {i : Issue}
    (hi : i ∈ own p text) (hdata : b = jsonLint → i.code ≠ some "data") :
    Columned b.lineSize text i ∧
      ((∀ line, Text.lineAt? text i.line.toNat = some line → ∀ a ∈ line, a.toNat < 128) →
        Columned List.length text i) := by
  have hcolumned : Columned b.lineSize text i := by
    rcases foundAt_of_scan hscan hi with ⟨n, hn⟩ | ⟨rfl, e, he, hkind, rfl⟩
    · exact hn.columned hshort
    · refine absurd ?_ (hdata rfl)
      simp [JsonLint.issueOf, hkind, JsonLint.codeOf, Issue.create, Issue.withLine,
        Issue.withCharacter]
  refine ⟨hcolumned, fun hascii column hcolumn => ?_⟩
  obtain ⟨line, hline, hpos, hle⟩ := hcolumned column hcolumn
  rw [lineSize_of_ascii b (hascii line hline)] at hle
  exact ⟨line, hline, hpos, hle⟩

def wideText : List Char := "日本語 \n".toList

def wideIssue (p : Path) : Issue :=
  { tool := "whitespace", code := some "trailing", message := "Trailing whitespace", filename := p,
    line := 1, character := some 4, severity := .convention }

theorem columned_scan_wide : ∃ own, whitespace.scan {} = .ok own ∧ Short wideText ∧
    wideIssue ⟨"a.md"⟩ ∈ own ⟨"a.md"⟩ wideText ∧
    Columned List.length wideText (wideIssue ⟨"a.md"⟩) := by
  have hscan : whitespace.scan {} = .ok (Whitespace.check {}) := rfl
  have hlength : wideText.length < 2147483648 := by decide
  have hmem : wideIssue ⟨"a.md"⟩ ∈ Whitespace.check {} ⟨"a.md"⟩ wideText := by decide
  exact ⟨_, hscan, hlength, hmem, (columned_scan hscan hlength hmem (by decide)).1⟩

def wideDocument : List Char := "[\"日本語\" x]".toList

def documentIssue (p : Path) : Issue :=
  { tool := "jsonlint", code := some "syntax", message := "expected `,` or `]`", filename := p,
    line := 1, character := some 14 }

/-- The document has one line, of 9 characters. -/
theorem not_columned_document : jsonLint.scan {} = .ok JsonLint.check ∧ Short wideDocument ∧
    documentIssue ⟨"a.json"⟩ ∈ JsonLint.check ⟨"a.json"⟩ wideDocument ∧
    ¬ Columned List.length wideDocument (documentIssue ⟨"a.json"⟩) := by
  have hlength : wideDocument.length < 2147483648 := by decide
  have hmem : documentIssue ⟨"a.json"⟩ ∈ JsonLint.check ⟨"a.json"⟩ wideDocument := by
    decide
  have hline : Text.lineAt? wideDocument 1 = some wideDocument := by decide
  refine ⟨rfl, hlength, hmem, fun h => ?_⟩
  obtain ⟨line, hget, -, hle⟩ := h 14 rfl
  have hown : some wideDocument = some line := hline.symm.trans hget
  rw [← Option.some.inj hown] at hle
  exact absurd hle (by decide)

end Builtin

end MetaLint
