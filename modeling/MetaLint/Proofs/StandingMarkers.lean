import MetaLint.Proofs.MarkerExpression
import MetaLint.Proofs.MarkerWords

/-!
# Markers between blanks

A marker between blanks stands between word boundaries when it begins and ends with word characters,
and only then. So some markers are missed where they are words of their own, and which ones can be
told from the markers.
-/

set_option autoImplicit false

namespace MetaLint.Tool.Todo

open Text
open Unicode (isBoundary isWord isWordAt)

/-- A spelled marker with a blank or an end of the line on both sides. -/
structure Parted (o : Options) (line before run after : List Char) : Prop where
  split : line = before ++ (run ++ after)
  spells : o.Spells run
  starts : ∀ c, before.getLast? = some c → isBlank c = true
  ends : ∀ c, after.head? = some c → isBlank c = true

/-- Wherever a marker is parted from what is around it, on a line without an ignore pattern, the
tool tells of this line. -/
def Options.MissesNone (o : Options) : Prop :=
  ∀ p text n line before run after, lineAt? text n = some line → o.Heeds line →
    Parted o line before run after → ∃ i ∈ check o p text, i.line = UInt32.ofNat n

def Edged (text : List Char) : Prop :=
  isWordAt text.head? = true ∧ isWordAt text.getLast? = true

/-- Which markers the tool detects. -/
structure Detects (o : Options) : Prop where
  told : ∀ {p text n line}, Short text → lineAt? text n = some line → o.Heeds line →
    ((∃ i ∈ check o p text, i.line.toNat = n) ↔
      ∃ before run after, Standing o line before run after)
  matched : ∀ {before text}, o.regex.ways ⟨before.getLast?, text, []⟩ ≠ [] ↔
    ∃ run after, Standing o (before ++ text) before run after
  /-- What an issue quotes is what the preferred match passes. -/
  preferred : ∀ {p text i}, i ∈ check o p text → ∃ n before run after,
    lineAt? text n = some (before ++ (run ++ after)) ∧ i = issueOf p n (before.length, run) ∧
    (o.regex.ways ⟨before.getLast?, run ++ after, []⟩).head? =
      some ⟨(before ++ run).getLast?, after, []⟩
  parted : ∀ {line before run after}, Parted o line before run after →
    (Standing o line before run after ↔ Edged run)
  /-- None is missed exactly when a marker stands within every marker that can be on a line of its
  own. -/
  missed : o.MissesNone ↔ ∀ line, o.Spells line → '\n' ∉ line → o.Heeds line →
    ∃ before run after, Standing o line before run after
  edged : (∀ m ∈ o.markers, Edged m.toList) → o.MissesNone
  single : ∀ m, o.markers = [m] → '\n' ∉ m.toList → o.ignorePatterns = [] →
    (o.MissesNone ↔ Edged m.toList)

section Blanks
variable {o : Options} {line before run after : List Char}

theorem isWordAt_eq_false_of_isBlank {c? : Option Char} (h : ∀ c, c? = some c → isBlank c = true) :
    isWordAt c? = false :=
  Suppression.isWordAt_eq_false.mpr fun c hc => Unicode.isWord_of_isBlank (h c hc)

theorem isWordAt_getLast?_append (h : isWordAt before.getLast? = false) (front : List Char) :
    isWordAt (before ++ front).getLast? = isWordAt front.getLast? := by
  rw [List.getLast?_append]
  cases front.getLast? with
  | none => exact h
  | some c => rfl

theorem isWordAt_head?_append (h : isWordAt after.head? = false) (rest : List Char) :
    isWordAt (rest ++ after).head? = isWordAt rest.head? := by
  rw [List.head?_append]
  cases rest.head? with
  | none => exact h
  | some c => rfl

theorem Parted.standing {front inner rest : List Char} (h : Parted o line before run after)
    (hs : Standing o run front inner rest) :
    Standing o line (before ++ front) inner (rest ++ after) := by
  have hbefore := isWordAt_eq_false_of_isBlank h.starts
  have hafter := isWordAt_eq_false_of_isBlank h.ends
  refine ⟨?_, hs.spells, ?_, ?_⟩
  · rw [h.split, hs.split]
    simp only [List.append_assoc]
  · rw [← hs.starts, isBoundary, isBoundary, isWordAt_getLast?_append hbefore, ← List.append_assoc,
      isWordAt_head?_append hafter]
  · rw [← hs.ends, isBoundary, isBoundary, List.append_assoc, isWordAt_getLast?_append hbefore,
      isWordAt_head?_append hafter]

theorem standing_self_iff (hspells : o.Spells line) : Standing o line [] line [] ↔ Edged line := by
  have hboundary : isBoundary none line.head? = isWordAt line.head? ∧
      isBoundary line.getLast? none = isWordAt line.getLast? := by
    simp [isBoundary, isWordAt]
  constructor
  · intro h
    have hstarts := h.starts
    rw [List.append_nil] at hstarts
    exact ⟨hboundary.1.symm.trans hstarts, hboundary.2.symm.trans h.ends⟩
  · rintro ⟨hhead, hlast⟩
    refine ⟨(List.append_nil _).symm, hspells, ?_, hboundary.2.trans hlast⟩
    rw [List.append_nil]
    exact hboundary.1.trans hhead

theorem Parted.standing_iff (h : Parted o line before run after) :
    Standing o line before run after ↔ Edged run := by
  have hbefore := isWordAt_eq_false_of_isBlank h.starts
  have hafter := isWordAt_eq_false_of_isBlank h.ends
  constructor
  · intro hs
    have hstarts := hs.starts
    have hends := hs.ends
    rw [isBoundary, hbefore, isWordAt_head?_append hafter, Bool.false_bne] at hstarts
    rw [isBoundary, hafter, isWordAt_getLast?_append hbefore, Bool.bne_false] at hends
    exact ⟨hstarts, hends⟩
  · intro hedged
    have hs := h.standing ((standing_self_iff h.spells).mpr hedged)
    rwa [List.append_nil, List.nil_append] at hs

end Blanks

section Expression
variable {o : Options} {before text : List Char}

theorem ways_regex_ne_nil_iff : o.regex.ways ⟨before.getLast?, text, []⟩ ≠ [] ↔
    ∃ run after, Standing o (before ++ text) before run after := by
  rw [ne_eq, ← List.head?_eq_none_iff, head?_ways_regex, Option.map_eq_none_iff,
    markerHere?_eq_none]
  push Not
  rfl

theorem head?_ways_regex_of_taken {line : List Char} {m : Nat × List Char}
    (h : m ∈ markersIn o line) : ∃ before after, line = before ++ (m.2 ++ after) ∧
      m.1 = before.length ∧ (o.regex.ways ⟨before.getLast?, m.2 ++ after, []⟩).head? =
        some ⟨(before ++ m.2).getLast?, after, []⟩ := by
  obtain ⟨before, rest, rfl, hposition, hhere⟩ := takenAt_of_mem h
  rw [lastOr_none] at hhere
  obtain ⟨after, hs⟩ := Standing.of_markerHere? hhere
  obtain rfl := List.append_cancel_left hs.split
  refine ⟨before, after, rfl, by omega, ?_⟩
  rw [head?_ways_regex, Options.markerHere?, hhere, Option.map_some, List.drop_left,
    lastOr_getLast?]

end Expression

section Told
variable {o : Options} {p : Path} {text line : List Char} {n : Nat}

theorem exists_mem_check (hline : lineAt? text n = some line) (hheeds : o.Heeds line)
    {before run after : List Char} (h : Standing o line before run after) :
    ∃ i ∈ check o p text, i.line = UInt32.ofNat n := by
  have hne : markersIn o line ≠ [] := fun hnil => markersIn_eq_nil_iff.mp hnil before run after h
  obtain ⟨m, hm⟩ := List.exists_mem_of_ne_nil _ hne
  exact ⟨issueOf p n m, mem_check.mpr ⟨n, line, hline, hheeds, m, hm, rfl⟩, rfl⟩

theorem exists_preferred_of_mem_check {i : Issue} (h : i ∈ check o p text) : ∃ n before run after,
    lineAt? text n = some (before ++ (run ++ after)) ∧ i = issueOf p n (before.length, run) ∧
    (o.regex.ways ⟨before.getLast?, run ++ after, []⟩).head? =
      some ⟨(before ++ run).getLast?, after, []⟩ := by
  obtain ⟨n, line, hline, -, ⟨position, run⟩, hm, rfl⟩ := mem_check.mp h
  obtain ⟨before, after, rfl, rfl, hmatch⟩ := head?_ways_regex_of_taken hm
  exact ⟨n, before, run, after, hline, rfl, hmatch⟩

theorem exists_standing_of_mem_check {i : Issue} (h : i ∈ check o p text) :
    ∃ k line, lineAt? text k = some line ∧ i.line = UInt32.ofNat k ∧
      ∃ before run after, Standing o line before run after := by
  obtain ⟨k, line, hline, -, m, hm, rfl⟩ := mem_check.mp h
  refine ⟨k, line, hline, rfl, ?_⟩
  by_contra hnone
  have hnil := markersIn_eq_nil_iff.mpr fun before run after hs => hnone ⟨before, run, after, hs⟩
  rw [hnil] at hm
  contradiction

theorem told_iff (hs : Short text) (hline : lineAt? text n = some line) (hheeds : o.Heeds line) :
    (∃ i ∈ check o p text, i.line.toNat = n) ↔
      ∃ before run after, Standing o line before run after := by
  constructor
  · rintro ⟨i, hi, hn⟩
    obtain ⟨k, line', hline', hk, hstanding⟩ := exists_standing_of_mem_check hi
    rw [hk, toNat_ofNat_of_short hs (bounds_of_lineAt? hline').2] at hn
    obtain rfl := hn
    obtain rfl := Option.some.inj (hline.symm.trans hline')
    exact hstanding
  · rintro ⟨before, run, after, h⟩
    obtain ⟨i, hi, hn⟩ := exists_mem_check (p := p) hline hheeds h
    exact ⟨i, hi, by rw [hn, toNat_ofNat_of_short hs (bounds_of_lineAt? hline).2]⟩

theorem Options.Heeds.of_infix {part : List Char} (h : o.Heeds line) (hpart : part <:+: line) :
    o.Heeds part :=
  fun pattern hp hin => h pattern hp (hin.trans hpart)

theorem Options.Spells.ne_nil (ho : ∀ m ∈ o.patterns, m ≠ "") (h : o.Spells line) :
    line ≠ [] := by
  rintro rfl
  obtain ⟨m, hm, hsame⟩ := h
  have hempty : m.toList = [] := List.map_eq_nil_iff.mp hsame.map_isWord
  exact o.forall_mem_markers ho (by decide) m hm (String.toList_eq_nil_iff.mp hempty)

theorem missesNone_iff (ho : ∀ m ∈ o.patterns, m ≠ "") : o.MissesNone ↔
    ∀ line, o.Spells line → '\n' ∉ line → o.Heeds line →
      ∃ before run after, Standing o line before run after := by
  constructor
  · intro h line hspells hend hheeds
    have hlines := lines_of_not_mem (hspells.ne_nil ho) hend
    have hline := lineAt?_of_not_mem (hspells.ne_nil ho) hend
    have hparted : Parted o line [] line [] :=
      ⟨(List.append_nil _).symm, hspells, nofun, nofun⟩
    obtain ⟨i, hi, -⟩ := h ⟨""⟩ line 1 line [] line [] hline hheeds hparted
    obtain ⟨k, only, honly, -, hstanding⟩ := exists_standing_of_mem_check hi
    have hmem := mem_of_lineAt? honly
    rw [hlines, List.mem_singleton] at hmem
    rwa [hmem] at hstanding
  · intro h p text n line before run after hline hheeds hparted
    have hin : run <:+: line := ⟨before, after, by rw [hparted.split, List.append_assoc]⟩
    have hend : '\n' ∉ run := fun hmem => not_mem_of_lineAt? hline (hin.subset hmem)
    obtain ⟨front, inner, rest, hs⟩ := h run hparted.spells hend (hheeds.of_infix hin)
    exact exists_mem_check hline hheeds (hparted.standing hs)

theorem Options.SameText.edged {a b : List Char} (h : o.SameText a b) (ha : Edged a) :
    Edged b := by
  have hat : ∀ c? : Option Char, isWordAt c? = (c?.map isWord).getD false := by
    rintro (_ | c) <;> rfl
  obtain ⟨hhead, hlast⟩ := ha
  rw [hat, ← List.head?_map, h.map_isWord, List.head?_map, ← hat] at hhead
  rw [hat, ← List.getLast?_map, h.map_isWord, List.getLast?_map, ← hat] at hlast
  exact ⟨hhead, hlast⟩

theorem missesNone_of_edged (ho : ∀ m ∈ o.patterns, m ≠ "")
    (h : ∀ m ∈ o.markers, Edged m.toList) : o.MissesNone := by
  refine (missesNone_iff ho).mpr fun line hspells _ _ => ?_
  have ⟨m, hm, hsame⟩ := hspells
  exact ⟨[], line, [], (standing_self_iff hspells).mpr (hsame.edged (h m hm))⟩

theorem Options.SameText.refl (a : List Char) : o.SameText a a := by
  rw [SameText]
  split <;> rfl

theorem Options.SameText.length_eq {a b : List Char} (h : o.SameText a b) :
    a.length = b.length := by
  have hlength := congrArg List.length h.map_isWord
  rwa [List.length_map, List.length_map] at hlength

theorem missesNone_single_iff (ho : ∀ m ∈ o.patterns, m ≠ "") {m : String} (hm : o.markers = [m])
    (hend : '\n' ∉ m.toList) (hignore : o.ignorePatterns = []) :
    o.MissesNone ↔ Edged m.toList := by
  constructor
  · intro h
    have hspells : o.Spells m.toList := ⟨m, by rw [hm]; exact List.mem_singleton_self m, .refl _⟩
    have hheeds : o.Heeds m.toList := by
      rw [Options.Heeds, hignore]
      exact nofun
    obtain ⟨before, run, after, hs⟩ := (missesNone_iff ho).mp h _ hspells hend hheeds
    obtain ⟨k, hk, hsame⟩ := hs.spells
    rw [hm, List.mem_singleton] at hk
    rw [hk] at hsame
    -- A spelling of the marker is as long as the marker, so it is all of the line.
    have hlength := congrArg List.length hs.split
    rw [List.length_append, List.length_append, hsame.length_eq] at hlength
    obtain rfl : before = [] := List.length_eq_zero_iff.mp (by omega)
    obtain rfl : after = [] := List.length_eq_zero_iff.mp (by omega)
    have hrun : m.toList = run := by simpa using hs.split
    rw [← hrun] at hs
    exact (standing_self_iff hspells).mp hs
  · intro hedged
    refine missesNone_of_edged ho fun k hk => ?_
    rw [hm, List.mem_singleton] at hk
    rwa [hk]

/-- A marker between blanks is found when it is a word at both ends. -/
theorem detects_check (ho : ∀ m ∈ o.patterns, m ≠ "") : Detects o where
  told := told_iff
  matched := ways_regex_ne_nil_iff
  preferred := exists_preferred_of_mem_check
  parted := Parted.standing_iff
  missed := missesNone_iff ho
  edged := missesNone_of_edged ho
  single _ := missesNone_single_iff ho

end Told

def colonMarker : Options := { patterns := ["TODO:"] }

theorem detects_check_colon : (∀ m ∈ colonMarker.patterns, m ≠ "") ∧ Detects colonMarker ∧
    (check colonMarker ⟨"a.py"⟩ "TODO: x\nTODO:x".toList).map (fun i => (i.line, i.character)) =
      [(2, some 1)] := by
  have hfilled : ∀ m ∈ colonMarker.patterns, m ≠ "" := by decide
  exact ⟨hfilled, detects_check hfilled, by decide⟩

def colonLine : List Char := "# TODO: x".toList

theorem not_missesNone_colon : colonMarker.patterns ≠ [] ∧
    (∀ m ∈ colonMarker.patterns, m ≠ "") ∧ lineAt? colonLine 1 = some colonLine ∧
    colonMarker.Heeds colonLine ∧
    Parted colonMarker colonLine "# ".toList "TODO:".toList " x".toList ∧
    check colonMarker ⟨"a.py"⟩ colonLine = [] ∧ ¬ colonMarker.MissesNone := by
  have hline : lineAt? colonLine 1 = some colonLine := by decide
  have hheeds : colonMarker.Heeds colonLine := nofun
  have hparted : Parted colonMarker colonLine "# ".toList "TODO:".toList " x".toList := by
    refine ⟨by decide, ⟨"TODO:", List.mem_singleton_self _, .refl _⟩, ?_, ?_⟩
    · intro c hc
      obtain rfl := Option.some.inj hc
      decide
    · intro c hc
      obtain rfl := Option.some.inj hc
      decide
  have hnone : check colonMarker ⟨"a.py"⟩ colonLine = [] := by decide
  refine ⟨by decide, by decide, hline, hheeds, hparted, hnone, fun h => ?_⟩
  obtain ⟨i, hi, -⟩ := h ⟨"a.py"⟩ colonLine 1 colonLine _ _ _ hline hheeds hparted
  rw [hnone] at hi
  contradiction

end MetaLint.Tool.Todo
