import Mathlib.Data.List.DropRight
import Mathlib.Data.List.Forall2
import MetaLint.Proofs.LineScans

/-!
# Tidy texts

A text is tidy when its last line is ended and not blank, and each line keeps the rules for lines.
Of any other text the tool tells which rule is broken on which line and in which column: first the
lines, each of them once for each rule it breaks, and then how the text ends.
-/

set_option autoImplicit false

namespace MetaLint.Tool.Whitespace

open Text

inductive Rule
  | trailing
  | tabIndent
  | lineLength
  | finalNewline
  | blankEnd
  deriving Repr, DecidableEq

namespace Rule

def code : Rule → String
  | trailing => "trailing"
  | tabIndent => "tab-indent"
  | lineLength => "line-length"
  | finalNewline => "final-newline"
  | blankEnd => "blank-eof"

def rank : Rule → Nat
  | trailing => 0
  | tabIndent => 1
  | lineLength => 2
  | finalNewline => 3
  | blankEnd => 4

end Rule

/-- A broken rule, and where this shows. -/
structure Violation where
  rule : Rule
  line : Nat
  column : Option Nat := none
  message : String
  deriving Repr, DecidableEq

def Gap (c : Char) : Prop := c = ' ' ∨ c = '\t'

def Blank (line : List Char) : Prop := ∀ c ∈ line, isBlank c = true

/-- What a line may break. `limit` is the longest length allowed, and 0 allows every length. -/
inductive LineViolation (limit : Nat) (text : List Char) : Violation → Prop
  | trailing {n : Nat} {kept gap : List Char} (hline : lineAt? text n = some (kept ++ gap))
      (hne : gap ≠ []) (hgap : ∀ c ∈ gap, Gap c) (hkept : ∀ c, kept.getLast? = some c → ¬ Gap c) :
      LineViolation limit text ⟨.trailing, n, some (kept.length + 1), "Trailing whitespace"⟩
  | tabIndent {n : Nat} {indent rest : List Char} (hline : lineAt? text n = some (indent ++ rest))
      (hindent : ∀ c ∈ indent, Gap c) (htab : '\t' ∈ indent) :
      LineViolation limit text ⟨.tabIndent, n, some 1, "Indentation contains tabs"⟩
  | lineLength {n : Nat} {line : List Char} (hline : lineAt? text n = some line) (hpos : 0 < limit)
      (hlong : limit < line.length) :
      LineViolation limit text ⟨.lineLength, n, some (limit + 1),
        "Line too long (" ++ toString line.length ++ " > " ++ toString limit ++ " characters)"⟩

/-- What the end of a text may break. -/
inductive EndViolation (text : List Char) : Violation → Prop
  | finalNewline (hne : text ≠ []) (hlast : text.getLast? ≠ some '\n') :
      EndViolation text
        ⟨.finalNewline, (lines text).length, none, "No newline at end of file"⟩
  | blankEnd {kept blank : List (List Char)} (hlast : text.getLast? = some '\n')
      (hlines : lines text = kept ++ blank) (hne : blank ≠ []) (hblank : ∀ line ∈ blank, Blank line)
      (hkept : ∀ line, kept.getLast? = some line → ¬ Blank line) :
      EndViolation text ⟨.blankEnd, kept.length + 1, none,
        toString blank.length ++ " blank line(s) at end of file"⟩

/-- An ended text that breaks no rule. -/
structure Tidy (limit : Nat) (text : List Char) : Prop where
  ended : text.getLast? = some '\n'
  last : ∀ line, (lines text).getLast? = some line → ¬ Blank line
  trailing : ∀ line ∈ lines text, ∀ c, line.getLast? = some c → ¬ Gap c
  indent : ∀ line ∈ lines text, ∀ indent, indent <+: line → (∀ c ∈ indent, Gap c) → '\t' ∉ indent
  length : limit = 0 ∨ ∀ line ∈ lines text, line.length ≤ limit

/-- The issue about a broken rule. -/
structure Tells (p : Path) (v : Violation) (i : Issue) : Prop where
  tool : i.tool = name
  code : i.code = some v.rule.code
  message : i.message = v.message
  file : i.filename = p
  line : i.line.toNat = v.line
  column : i.character.map UInt32.toNat = v.column
  severity : i.severity = .convention

def Violation.Before (v w : Violation) : Prop :=
  v.line < w.line ∨ v.line = w.line ∧ v.rule.rank < w.rule.rank

section Ends
variable {α : Type} {p : α → Bool} {kept gap : List α}

theorem rdropWhile_append (hgap : ∀ a ∈ gap, p a = true)
    (hkept : ∀ a, kept.getLast? = some a → p a = false) : (kept ++ gap).rdropWhile p = kept := by
  rw [List.rdropWhile, List.reverse_append, List.dropWhile_append_of_pos (by simpa using hgap)]
  show kept.rdropWhile p = kept
  refine List.rdropWhile_eq_self_iff.mpr fun hne => ?_
  simp [hkept _ (List.getLast?_eq_some_getLast hne)]

theorem getLast?_rdropWhile {all : List α} {a : α} (h : (all.rdropWhile p).getLast? = some a) :
    p a = false := by
  have hne : all.rdropWhile p ≠ [] := by
    intro hnil
    rw [hnil] at h
    contradiction
  rw [List.getLast?_eq_some_getLast hne] at h
  rw [← Option.some.inj h]
  simpa using List.rdropWhile_last_not p all hne

theorem exists_split_end (p : α → Bool) (all : List α) : ∃ kept gap, all = kept ++ gap ∧
    (∀ a ∈ gap, p a = true) ∧ ∀ a, kept.getLast? = some a → p a = false :=
  ⟨_, _, (List.rdropWhile_append_rtakeWhile (p := p)).symm,
    fun _ => List.mem_rtakeWhile_imp, fun _ => getLast?_rdropWhile⟩

end Ends

theorem isGap_iff {c : Char} : isGap c = true ↔ Gap c := by simp [isGap, Gap]

theorem isGap_eq_false {c : Char} : isGap c = false ↔ ¬ Gap c := by
  rw [← isGap_iff, Bool.not_eq_true]

theorem allBlank_iff {line : List Char} : allBlank line = true ↔ Blank line := by
  simp [allBlank, Blank]

theorem allBlank_eq_false {line : List Char} : allBlank line = false ↔ ¬ Blank line := by
  rw [← allBlank_iff, Bool.not_eq_true]

def broken? (limit n : Nat) (line : List Char) : Rule → Option Violation
  | .trailing =>
    let kept := line.rdropWhile isGap
    if kept.length < line.length then
      some ⟨.trailing, n, some (kept.length + 1), "Trailing whitespace"⟩
    else none
  | .tabIndent =>
    if '\t' ∈ line.takeWhile isGap then
      some ⟨.tabIndent, n, some 1, "Indentation contains tabs"⟩
    else none
  | .lineLength =>
    if 0 < limit ∧ limit < line.length then
      some ⟨.lineLength, n, some (limit + 1),
        "Line too long (" ++ toString line.length ++ " > " ++ toString limit ++ " characters)"⟩
    else none
  | _ => none

def lineRules : List Rule := [.trailing, .tabIndent, .lineLength]

def brokenOn (limit : Nat) (l : Nat × List Char) : List Violation :=
  lineRules.flatMap fun r => (broken? limit l.1 l.2 r).toList

def Violation.issue (p : Path) (v : Violation) : Issue :=
  (Whitespace.issue p v.rule.code v.message v.line).withCharacter (v.column.bind lineNumber)

theorem checkLine_eq (o : Options) (p : Path) (l : Nat × List Char) :
    checkLine o p l = (brokenOn o.maxLineLength l).map (Violation.issue p) := by
  obtain ⟨n, line⟩ := l
  have htrailing : (trailing? p n line).toList =
      ((broken? o.maxLineLength n line .trailing).map (Violation.issue p)).toList := by
    rw [trailing?, broken?]
    show Option.toList (if (line.rdropWhile isGap).length < line.length then _ else _) = _
    split <;> rfl
  have htab : (tabIndent? p n line).toList =
      ((broken? o.maxLineLength n line .tabIndent).map (Violation.issue p)).toList := by
    simp only [tabIndent?, broken?, List.contains_iff_mem]
    split <;> rfl
  have hlong : (tooLong? o p n line).toList =
      ((broken? o.maxLineLength n line .lineLength).map (Violation.issue p)).toList := by
    simp only [tooLong?, broken?, Bool.and_eq_true, decide_eq_true_eq]
    split <;> rfl
  rw [checkLine, htrailing, htab, hlong]
  simp only [brokenOn, lineRules, List.flatMap_cons, List.flatMap_nil, List.map_append,
    Option.toList_map, List.append_nil, List.append_assoc]

section Lines
variable {limit n : Nat} {text line : List Char} {v : Violation} {r : Rule}

theorem mem_brokenOn {l : Nat × List Char} :
    v ∈ brokenOn limit l ↔ ∃ r ∈ lineRules, broken? limit l.1 l.2 r = some v := by
  simp [brokenOn, List.mem_flatMap]

theorem broken?_place (h : broken? limit n line r = some v) : v.rule = r ∧ v.line = n := by
  cases r <;>
    simp only [broken?, Option.ite_none_right_eq_some, Option.some.injEq, reduceCtorEq] at h
  all_goals
    obtain ⟨-, rfl⟩ := h
    exact ⟨rfl, rfl⟩

theorem lineViolation_iff : LineViolation limit text v ↔
    ∃ n line, lineAt? text n = some line ∧ v ∈ brokenOn limit (n, line) := by
  simp only [mem_brokenOn]
  constructor
  · rintro (⟨hline, hne, hgap, hkept⟩ | ⟨hline, hindent, htab⟩ | ⟨hline, hpos, hlong⟩)
    · refine ⟨_, _, hline, .trailing, by decide, ?_⟩
      have hends := rdropWhile_append (fun c hc => isGap_iff.mpr (hgap c hc))
        fun c hc => isGap_eq_false.mpr (hkept c hc)
      have hpos := List.length_pos_iff.mpr hne
      simp only [broken?, hends, List.length_append]
      rw [if_pos (by omega)]
    · refine ⟨_, _, hline, .tabIndent, by decide, ?_⟩
      rw [broken?, List.takeWhile_append_of_pos fun c hc => isGap_iff.mpr (hindent c hc),
        if_pos (List.mem_append_left _ htab)]
    · exact ⟨_, _, hline, .lineLength, by decide, if_pos ⟨hpos, hlong⟩⟩
  · rintro ⟨n, line, hline, r, -, h⟩
    cases r <;>
      simp only [broken?, Option.ite_none_right_eq_some, Option.some.injEq, reduceCtorEq] at h
    case trailing =>
      obtain ⟨hshort, rfl⟩ := h
      have hsplit := List.rdropWhile_append_rtakeWhile (p := isGap) (l := line)
      have hparts : lineAt? text n = some (line.rdropWhile isGap ++ line.rtakeWhile isGap) := by
        rwa [hsplit]
      refine .trailing hparts ?_ (fun c hc => isGap_iff.mp (List.mem_rtakeWhile_imp hc))
        fun c hc => isGap_eq_false.mp (getLast?_rdropWhile hc)
      intro hnil
      rw [hnil, List.append_nil] at hsplit
      rw [hsplit] at hshort
      exact absurd hshort (Nat.lt_irrefl _)
    case tabIndent =>
      obtain ⟨htab, rfl⟩ := h
      have hparts : lineAt? text n = some (line.takeWhile isGap ++ line.dropWhile isGap) := by
        rwa [List.takeWhile_append_dropWhile]
      exact .tabIndent hparts (fun c hc => isGap_iff.mp (List.mem_takeWhile_imp hc)) htab
    case lineLength =>
      obtain ⟨⟨hpos, hlong⟩, rfl⟩ := h
      exact .lineLength hline hpos hlong

theorem ordered_brokenOn (l : Nat × List Char) :
    (brokenOn limit l).Pairwise Violation.Before := by
  have hrules : lineRules.Pairwise fun r s => r.rank < s.rank := by decide
  refine List.pairwise_flatMap.mpr ⟨fun r _ => ?_, hrules.imp fun {r s} hrank v hv w hw => ?_⟩
  · cases broken? limit l.1 l.2 r with
    | none => exact List.Pairwise.nil
    | some v => exact List.pairwise_singleton _ v
  · obtain ⟨rfl, hvline⟩ := broken?_place (Option.mem_toList.mp hv)
    obtain ⟨rfl, hwline⟩ := broken?_place (Option.mem_toList.mp hw)
    exact .inr ⟨hvline.trans hwline.symm, hrank⟩

end Lines

def brokenAtEnd (text : List Char) : List Violation :=
  if text.getLast? ≠ some '\n' then
    [⟨.finalNewline, (lines text).length, none, "No newline at end of file"⟩]
  else
    let blank := (lines text).rtakeWhile allBlank
    if blank ≠ [] then
      [⟨.blankEnd, ((lines text).rdropWhile allBlank).length + 1, none,
        toString blank.length ++ " blank line(s) at end of file"⟩]
    else []

section End
variable {text : List Char} {v : Violation}

theorem length_rdropWhile_add {α : Type} (p : α → Bool) (all : List α) :
    (all.rdropWhile p).length + (all.rtakeWhile p).length = all.length := by
  rw [← List.length_append, List.rdropWhile_append_rtakeWhile]

theorem checkEnd_eq (p : Path) (text : List Char) :
    checkEnd p text = (brokenAtEnd text).map (Violation.issue p) := by
  have hblank : blankAtEnd (lines text) = ((lines text).rtakeWhile allBlank).length := by
    rw [blankAtEnd, List.rtakeWhile, List.length_reverse]
  have hkept := length_rdropWhile_add allBlank (lines text)
  rw [checkEnd, brokenAtEnd]
  simp only [hblank, bne_iff_ne]
  split
  · rfl
  · simp only [List.length_pos_iff, Nat.eq_sub_of_add_eq hkept]
    split <;> rfl

theorem endViolation_iff (hne : text ≠ []) : EndViolation text v ↔ v ∈ brokenAtEnd text := by
  rw [brokenAtEnd]
  constructor
  · rintro (⟨-, hlast⟩ | ⟨hlast, hlines, hblank, hall, hkept⟩)
    · rw [if_pos hlast]
      exact List.mem_singleton_self _
    · have hall' : ∀ line ∈ _, allBlank line = true := fun line h => allBlank_iff.mpr (hall line h)
      have hends := rdropWhile_append hall' fun line h => allBlank_eq_false.mpr (hkept line h)
      have htake := List.rdropWhile_append_rtakeWhile (p := allBlank) (l := lines text)
      rw [hlines, hends] at htake
      have htake := List.append_cancel_left htake
      simp only [hlast, hlines, hends, htake]
      rw [if_neg (by simp), if_pos hblank]
      exact List.mem_singleton_self _
  · intro h
    split at h
    next hlast =>
      rw [List.mem_singleton.mp h]
      exact .finalNewline hne hlast
    next hlast =>
      simp only at h
      split at h
      next hblank =>
        rw [List.mem_singleton.mp h]
        exact .blankEnd (Decidable.not_not.mp hlast) List.rdropWhile_append_rtakeWhile.symm hblank
          (fun line h => allBlank_iff.mp (List.mem_rtakeWhile_imp h))
          fun line h => allBlank_eq_false.mp (getLast?_rdropWhile h)
      next => contradiction

theorem length_brokenAtEnd_le (text : List Char) : (brokenAtEnd text).length ≤ 1 := by
  rw [brokenAtEnd]
  split
  · exact Nat.le_refl 1
  · simp only
    split
    · exact Nat.le_refl 1
    · exact Nat.zero_le 1

end End

def brokenInLines (limit : Nat) (text : List Char) : List Violation :=
  (numberedLines text).flatMap (brokenOn limit)

section Text
variable {o : Options} {p : Path} {limit : Nat} {text : List Char} {v : Violation}

theorem check_eq (hne : text ≠ []) : check o p text =
    (brokenInLines o.maxLineLength text ++ brokenAtEnd text).map (Violation.issue p) := by
  rw [check, if_neg (by simpa using hne), checkEnd_eq, List.map_append, brokenInLines,
    List.map_flatMap]
  simp only [funext fun l => checkLine_eq o p l]

theorem mem_brokenInLines : v ∈ brokenInLines limit text ↔ LineViolation limit text v := by
  rw [brokenInLines, mem_scan_iff, lineViolation_iff]

theorem ordered_brokenInLines : (brokenInLines limit text).Pairwise Violation.Before := by
  refine pairwise_scan ordered_brokenOn fun l m hlm v hv w hw => ?_
  obtain ⟨r, -, hr⟩ := mem_brokenOn.mp hv
  obtain ⟨s, -, hs⟩ := mem_brokenOn.mp hw
  rw [Violation.Before, (broken?_place hr).2, (broken?_place hs).2]
  exact .inl hlm

structure Violation.Fits (v : Violation) (text : List Char) : Prop where
  line : v.line ≤ 1 + text.count '\n'
  column : ∀ c, v.column = some c → 1 ≤ c ∧ c ≤ text.length + 1

theorem fits_of_lineViolation (h : LineViolation limit text v) : v.Fits text := by
  cases h with
  | trailing hline hne hgap hkept =>
    have hlength := length_le_of_lineAt? hline
    rw [List.length_append] at hlength
    refine ⟨(bounds_of_lineAt? hline).2, fun c hc => ?_⟩
    obtain rfl := Option.some.inj hc
    omega
  | tabIndent hline hindent htab =>
    refine ⟨(bounds_of_lineAt? hline).2, fun c hc => ?_⟩
    obtain rfl := Option.some.inj hc
    omega
  | lineLength hline hpos hlong =>
    have hlength := length_le_of_lineAt? hline
    refine ⟨(bounds_of_lineAt? hline).2, fun c hc => ?_⟩
    obtain rfl := Option.some.inj hc
    omega

theorem fits_of_endViolation (h : EndViolation text v) : v.Fits text := by
  have hcount : (lines text).length ≤ 1 + text.count '\n' := length_linesFrom_le [] text
  cases h with
  | finalNewline hne hlast => exact ⟨hcount, fun c hc => by contradiction⟩
  | blankEnd hlast hlines hne hblank hkept =>
    have hpos := List.length_pos_iff.mpr hne
    rw [hlines, List.length_append] at hcount
    refine ⟨?_, fun c hc => by contradiction⟩
    show _ + 1 ≤ _
    omega

theorem tells_issue (hs : Short text) (h : v.Fits text) : Tells p v (v.issue p) := by
  obtain ⟨rule, line, column, message⟩ := v
  refine ⟨rfl, by cases rule <;> rfl, rfl, rfl, toNat_ofNat_of_short hs h.line, ?_, rfl⟩
  cases column with
  | none => rfl
  | some c =>
    obtain ⟨hpos, hle⟩ := h.column c rfl
    exact toNat_column_of_short hs hpos hle

theorem tidy_iff (hne : text ≠ []) : Tidy limit text ↔
    (∀ v, ¬ LineViolation limit text v) ∧ ∀ v, ¬ EndViolation text v := by
  constructor
  · intro h
    constructor
    · rintro v (⟨hline, hne, hgap, -⟩ | ⟨hline, hindent, htab⟩ | ⟨hline, hpos, hlong⟩)
      · refine h.trailing _ (mem_of_lineAt? hline) (List.getLast _ hne) ?_
          (hgap _ (List.getLast_mem hne))
        rw [List.getLast?_append_of_ne_nil _ hne, List.getLast?_eq_some_getLast]
      · exact h.indent _ (mem_of_lineAt? hline) _ (List.prefix_append _ _) hindent htab
      · have hle := h.length.resolve_left (Nat.ne_of_gt hpos) _ (mem_of_lineAt? hline)
        exact absurd hlong (Nat.not_lt.mpr hle)
    · rintro v (⟨-, hlast⟩ | ⟨-, hlines, hblank, hall, -⟩)
      · exact hlast h.ended
      · refine h.last (List.getLast _ hblank) ?_ (hall _ (List.getLast_mem hblank))
        rw [hlines, List.getLast?_append_of_ne_nil _ hblank, List.getLast?_eq_some_getLast]
  · rintro ⟨hlines, hend⟩
    have hended : text.getLast? = some '\n' := Decidable.not_not.mp fun hlast =>
      hend _ (.finalNewline hne hlast)
    refine ⟨hended, ?_, ?_, ?_, ?_⟩
    · intro line hline hall
      obtain ⟨kept, blank, hsplit, hblank, hkept⟩ := exists_split_end allBlank (lines text)
      refine hend _ (.blankEnd hended hsplit ?_ (fun l h => allBlank_iff.mp (hblank l h))
        fun l h => allBlank_eq_false.mp (hkept l h))
      rintro rfl
      rw [hsplit, List.append_nil] at hline
      exact allBlank_eq_false.mp (hkept line hline) hall
    · intro line hline c hc hgap
      obtain ⟨n, hn⟩ := exists_lineAt?_of_mem hline
      obtain ⟨kept, gap, hsplit, hall, hkept⟩ := exists_split_end isGap line
      refine hlines _ (.trailing (hsplit ▸ hn) ?_ (fun a h => isGap_iff.mp (hall a h))
        fun a h => isGap_eq_false.mp (hkept a h))
      rintro rfl
      rw [hsplit, List.append_nil] at hc
      exact isGap_eq_false.mp (hkept c hc) hgap
    · rintro line hline indent ⟨rest, rfl⟩ hindent htab
      obtain ⟨n, hn⟩ := exists_lineAt?_of_mem hline
      exact hlines _ (.tabIndent hn hindent htab)
    · rcases Nat.eq_zero_or_pos limit with hzero | hpos
      · exact .inl hzero
      · refine .inr fun line hline => Nat.not_lt.mp fun hlong => ?_
        obtain ⟨n, hn⟩ := exists_lineAt?_of_mem hline
        exact hlines _ (.lineLength hn hpos hlong)

theorem not_lineViolation_nil (v : Violation) : ¬ LineViolation limit [] v := by
  rw [lineViolation_iff]
  rintro ⟨n, line, hline, -⟩
  cases n <;> contradiction

theorem not_endViolation_nil (v : Violation) : ¬ EndViolation [] v := by
  rintro (⟨hne, -⟩ | ⟨hlast, -⟩)
  · exact hne rfl
  · contradiction

end Text

/-- What the tool has to say of a text. -/
structure Reports (limit : Nat) (p : Path) (text : List Char) (issues : List Issue) : Prop where
  /-- Nothing is said of an empty text and of a tidy one, and of these only. -/
  clean : issues = [] ↔ text = [] ∨ Tidy limit text
  told : ∃ found ending, List.Forall₂ (Tells p) (found ++ ending) issues ∧
    found.Pairwise Violation.Before ∧ (∀ v, v ∈ found ↔ LineViolation limit text v) ∧
    ending.length ≤ 1 ∧ ∀ v, v ∈ ending ↔ EndViolation text v

/-- The tool tells of each broken rule where it is broken. -/
theorem reports_check {text : List Char} (hs : Short text) (o : Options) (p : Path) :
    Reports o.maxLineLength p text (check o p text) := by
  by_cases hne : text = []
  · subst hne
    refine ⟨by simp [check], [], [], .nil, .nil, fun v => ?_, Nat.zero_le 1, fun v => ?_⟩
    · simpa using not_lineViolation_nil v
    · simpa using not_endViolation_nil v
  · rw [check_eq hne]
    constructor
    · rw [List.map_eq_nil_iff, List.append_eq_nil_iff, List.eq_nil_iff_forall_not_mem,
        List.eq_nil_iff_forall_not_mem]
      simp only [mem_brokenInLines, ← endViolation_iff hne, hne, false_or, tidy_iff hne]
    · refine ⟨_, _, ?_, ordered_brokenInLines, fun v => mem_brokenInLines,
        length_brokenAtEnd_le text, fun v => (endViolation_iff hne).symm⟩
      rw [List.forall₂_map_right_iff, List.forall₂_same]
      intro v hv
      rcases List.mem_append.mp hv with hv | hv
      · exact tells_issue hs (fits_of_lineViolation (mem_brokenInLines.mp hv))
      · exact tells_issue hs (fits_of_endViolation ((endViolation_iff hne).mpr hv))

def untidyText : List Char := "日本 \n\t x\n  \n\n".toList

theorem reports_check_untidy : Short untidyText ∧
    Reports 2 ⟨"a.py"⟩ untidyText (check ⟨2⟩ ⟨"a.py"⟩ untidyText) ∧
    (check ⟨2⟩ ⟨"a.py"⟩ untidyText).map (fun i => (i.codeText, i.line, i.character)) =
      [("trailing", 1, some 3), ("line-length", 1, some 3), ("tab-indent", 2, some 1),
       ("line-length", 2, some 3), ("trailing", 3, some 1), ("blank-eof", 3, none)] := by
  have hshort : untidyText.length < 2147483648 := by decide
  exact ⟨hshort, reports_check hshort ⟨2⟩ ⟨"a.py"⟩, by decide⟩

end MetaLint.Tool.Whitespace
