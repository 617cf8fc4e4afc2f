import MetaLint.Proofs.ToolFindings

/-!
# Scanning line by line

A scanner that looks at the lines of a text one after the other finds what it finds in each line, in
the order of the lines.
-/

set_option autoImplicit false

namespace MetaLint.Text

theorem mem_numberedFrom_add {α : Type} {first k : Nat} {a : α} {all : List α}
    (h : all[k]? = some a) : (first + k, a) ∈ numberedFrom first all := by
  induction all generalizing first k with
  | nil => contradiction
  | cons b all ih =>
    cases k with
    | zero =>
      obtain rfl := Option.some.inj h
      exact List.mem_cons_self
    | succ k =>
      rw [← Nat.succ_add_eq_add_succ]
      exact List.mem_cons_of_mem _ (ih h)

theorem ascending_numberedFrom {α : Type} (first : Nat) (all : List α) :
    (numberedFrom first all).Pairwise fun a b => a.1 < b.1 := by
  induction all generalizing first with
  | nil => exact List.Pairwise.nil
  | cons a all ih =>
    refine List.pairwise_cons.mpr ⟨fun b hb => ?_, ih (first + 1)⟩
    obtain ⟨k, hk, -⟩ := getElem?_of_mem_numberedFrom hb
    show first < b.1
    omega

theorem endedLine_sublist (front : List Char) : (endedLine front).Sublist front.reverse := by
  rw [endedLine.eq_def]
  split
  next front => exact List.reverse_sublist.mpr (List.sublist_cons_self '\r' front)
  next => exact List.Sublist.refl _

theorem sublist_of_mem_linesFrom {front text line : List Char} (h : line ∈ linesFrom front text) :
    line.Sublist (front.reverse ++ text) := by
  induction text generalizing front with
  | nil =>
    rw [linesFrom] at h
    split at h
    · contradiction
    · obtain rfl := List.mem_singleton.mp h
      exact List.sublist_append_left _ _
  | cons c text ih =>
    rw [linesFrom] at h
    split at h
    · rcases List.mem_cons.mp h with rfl | h
      · exact (endedLine_sublist front).trans (List.sublist_append_left _ _)
      · exact (ih h).trans ((List.sublist_cons_self c text).trans (List.sublist_append_right _ _))
    · simpa using ih h

theorem not_mem_of_mem_linesFrom {front text line : List Char} (hfront : '\n' ∉ front)
    (h : line ∈ linesFrom front text) : '\n' ∉ line := by
  induction text generalizing front with
  | nil =>
    rw [linesFrom] at h
    split at h
    · contradiction
    · rwa [List.mem_singleton.mp h, List.mem_reverse]
  | cons c text ih =>
    rw [linesFrom] at h
    split at h
    next hc =>
      rcases List.mem_cons.mp h with rfl | h
      · exact fun hmem => hfront (List.mem_reverse.mp ((endedLine_sublist front).subset hmem))
      · exact ih List.not_mem_nil h
    next hc => exact ih (by simpa [hfront] using Ne.symm hc) h

theorem linesFrom_append {line : List Char} (h : '\n' ∉ line) (front rest : List Char) :
    linesFrom front (line ++ rest) = linesFrom (line.reverse ++ front) rest := by
  induction line generalizing front with
  | nil => rfl
  | cons c line ih =>
    obtain ⟨hc, hline⟩ := not_or.mp (mt List.mem_cons.mpr h)
    rw [List.cons_append, linesFrom, if_neg (Ne.symm hc), ih hline, List.reverse_cons,
      List.append_assoc, List.singleton_append]

theorem lines_of_not_mem {line : List Char} (hne : line ≠ []) (h : '\n' ∉ line) :
    lines line = [line] := by
  have hlast := linesFrom_append h [] []
  rw [List.append_nil, List.append_nil] at hlast
  rw [lines, hlast, linesFrom, if_neg (by simpa using hne), List.reverse_reverse]

theorem lineAt?_of_not_mem {line : List Char} (hne : line ≠ []) (h : '\n' ∉ line) :
    lineAt? line 1 = some line := by
  show (lines line)[0]? = some line
  rw [lines_of_not_mem hne h]
  rfl

section Scan
variable {text line : List Char} {n : Nat}

theorem mem_numberedLines_iff : (n, line) ∈ numberedLines text ↔ lineAt? text n = some line := by
  constructor
  · exact lineAt?_of_mem_numberedLines
  · intro h
    cases n with
    | zero => contradiction
    | succ n =>
      rw [Nat.add_comm n 1]
      exact mem_numberedFrom_add h

theorem mem_of_lineAt? (h : lineAt? text n = some line) : line ∈ lines text := by
  cases n with
  | zero => contradiction
  | succ n => exact List.mem_of_getElem? h

theorem length_le_of_lineAt? (h : lineAt? text n = some line) : line.length ≤ text.length :=
  (sublist_of_mem_linesFrom (mem_of_lineAt? h)).length_le

theorem not_mem_of_lineAt? (h : lineAt? text n = some line) : '\n' ∉ line :=
  not_mem_of_mem_linesFrom List.not_mem_nil (mem_of_lineAt? h)

theorem exists_lineAt?_of_mem (h : line ∈ lines text) : ∃ n, lineAt? text n = some line := by
  obtain ⟨n, hn⟩ := List.getElem?_of_mem h
  exact ⟨n + 1, hn⟩

variable {β : Type} {scan : Nat × List Char → List β}

theorem mem_scan_iff {b : β} : b ∈ (numberedLines text).flatMap scan ↔
    ∃ n line, lineAt? text n = some line ∧ b ∈ scan (n, line) := by
  rw [List.mem_flatMap]
  constructor
  · rintro ⟨⟨n, line⟩, hmem, hb⟩
    exact ⟨n, line, mem_numberedLines_iff.mp hmem, hb⟩
  · rintro ⟨n, line, hline, hb⟩
    exact ⟨(n, line), mem_numberedLines_iff.mpr hline, hb⟩

/-- What is in order in each line, and from a line to a later one, is in order in the text. -/
theorem pairwise_scan {R : β → β → Prop} (hline : ∀ l, (scan l).Pairwise R)
    (hlater : ∀ l m, l.1 < m.1 → ∀ a ∈ scan l, ∀ b ∈ scan m, R a b) :
    ((numberedLines text).flatMap scan).Pairwise R := by
  refine List.pairwise_flatMap.mpr ⟨fun l _ => hline l, ?_⟩
  exact (ascending_numberedFrom 1 (lines text)).imp fun h => hlater _ _ h

end Scan

end MetaLint.Text

namespace MetaLint.Tool

theorem toNat_column_of_short {text : List Char} (hs : Short text) {c : Nat} (hpos : 1 ≤ c)
    (hle : c ≤ text.length + 1) :
    ((lineNumber c).filter (0 < ·)).map UInt32.toNat = some c := by
  have hlt : text.length < 2147483648 := hs
  have hc : (UInt32.ofNat c).toNat = c := UInt32.toNat_ofNat_of_lt' (by show c < 4294967296; omega)
  have hkeep : (0 : UInt32) < UInt32.ofNat c := UInt32.lt_iff_toNat_lt.mpr (by rw [hc]; exact hpos)
  rw [lineNumber, Option.filter_some, if_pos (by simpa using hkeep), Option.map_some, hc]

end MetaLint.Tool
