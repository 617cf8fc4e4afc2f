import Mathlib.Data.List.Forall2
import MetaLint.Proofs.LineScans

/-!
# Standing markers

A marker stands in a line where a spelling of it lies between two word boundaries. The search finds
nothing in a line exactly when no marker stands there, and what it finds is in the order of the
line.
-/

set_option autoImplicit false

namespace MetaLint

theorem Text.contains_iff {needle text : List Char} :
    contains needle text = true ↔ needle <:+: text := by
  induction text with
  | nil => rw [contains, List.isEmpty_iff, List.infix_nil]
  | cons c text ih =>
    rw [contains, Bool.or_eq_true, List.isPrefixOf_iff_prefix, ih, List.infix_cons_iff]

namespace Tool.Todo

open Text
open Unicode (isBoundary isWord isWordAt fold sameFold)

/-- The same text, up to simple case folding unless case matters. -/
def Options.SameText (o : Options) (a b : List Char) : Prop :=
  if o.caseSensitive then a = b else a.map fold = b.map fold

/-- A text that is some marker. -/
def Options.Spells (o : Options) (run : List Char) : Prop :=
  ∃ m ∈ o.markers, o.SameText m.toList run

/-- A line that holds no ignore pattern. -/
def Options.Heeds (o : Options) (line : List Char) : Prop :=
  ∀ pattern ∈ o.ignorePatterns, ¬ pattern.toList <:+: line

/-- A spelled marker between two word boundaries. -/
structure Standing (o : Options) (line before run after : List Char) : Prop where
  split : line = before ++ (run ++ after)
  spells : o.Spells run
  starts : isBoundary before.getLast? (run ++ after).head? = true
  ends : isBoundary (before ++ run).getLast? after.head? = true

theorem Options.forall_mem_markers {o : Options} {P : String → Prop}
    (ho : ∀ m ∈ o.patterns, P m) (hdefault : ∀ m ∈ defaultMarkers, P m) :
    ∀ m ∈ o.markers, P m := by
  rw [markers]
  split
  · exact hdefault
  · exact ho

theorem Options.ignores_eq_false {o : Options} {line : List Char} :
    o.ignores line = false ↔ o.Heeds line := by
  rw [ignores, List.any_eq_false]
  exact forall₂_congr fun pattern _ => not_congr contains_iff

theorem Options.forall₂_sameChar {o : Options} {a b : List Char} :
    List.Forall₂ (fun c d => o.sameChar c d = true) a b ↔ o.SameText a b := by
  by_cases hcase : o.caseSensitive = true
  · simp only [sameChar, SameText, hcase, if_true, beq_iff_eq, List.forall₂_eq_eq_eq]
  · simp only [sameChar, SameText, hcase, Bool.false_eq_true, if_false, sameFold, beq_iff_eq]
    rw [← List.forall₂_eq_eq_eq, List.forall₂_map_left_iff, List.forall₂_map_right_iff]

section Spelling
variable {same : Char → Char → Bool} {marker text front rest : List Char}

theorem spelled?_of_forall₂ (h : List.Forall₂ (fun c d => same c d = true) marker front) :
    spelled? same marker (front ++ rest) = some (front, rest) := by
  induction h with
  | nil => rfl
  | cons hsame _ ih => rw [List.cons_append, spelled?, if_pos hsame, ih, Option.map_some]

theorem forall₂_of_spelled? (h : spelled? same marker text = some (front, rest)) :
    text = front ++ rest ∧ List.Forall₂ (fun c d => same c d = true) marker front := by
  induction marker generalizing text front with
  | nil =>
    obtain ⟨rfl, rfl⟩ := Prod.mk.inj (Option.some.inj h)
    exact ⟨rfl, .nil⟩
  | cons m marker ih =>
    cases text with
    | nil => contradiction
    | cons c text =>
      rw [spelled?, Option.ite_none_right_eq_some, Option.map_eq_some_iff] at h
      obtain ⟨hsame, ⟨spelling, after⟩, hrest, hparts⟩ := h
      obtain ⟨rfl, rfl⟩ := Prod.mk.inj hparts
      obtain ⟨rfl, hall⟩ := ih hrest
      exact ⟨rfl, .cons hsame hall⟩

end Spelling

theorem lastOr_getLast? (line front : List Char) :
    lastOr line.getLast? front = (line ++ front).getLast? := by
  rw [lastOr, List.getLast?_append]
  cases front.getLast? <;> rfl

theorem lastOr_none (front : List Char) : lastOr none front = front.getLast? :=
  lastOr_getLast? [] front

theorem getLast?_toList (before : Option Char) : before.toList.getLast? = before := by
  cases before <;> rfl

def Options.markerHere? (o : Options) : Option Char → List Char → Option (List Char) :=
  Todo.markerHere? o.sameChar (o.markers.map String.toList)

section Place
variable {o : Options} {before text front : List Char}

theorem Standing.of_markerHere? (h : o.markerHere? before.getLast? text = some front) :
    ∃ after, Standing o (before ++ text) before front after := by
  rw [Options.markerHere?, Todo.markerHere?, Option.ite_none_right_eq_some] at h
  obtain ⟨hstarts, hfind⟩ := h
  obtain ⟨marker, hmarker, hfront⟩ := List.exists_of_findSome?_eq_some hfind
  obtain ⟨m, hm, rfl⟩ := List.mem_map.mp hmarker
  cases hspelled : spelled? o.sameChar m.toList text with
  | none => simp [hspelled] at hfront
  | some parts =>
    obtain ⟨spelling, after⟩ := parts
    simp only [hspelled, Option.ite_none_right_eq_some, Option.some.injEq] at hfront
    obtain ⟨hends, rfl⟩ := hfront
    obtain ⟨rfl, hsame⟩ := forall₂_of_spelled? hspelled
    rw [lastOr_getLast?] at hends
    exact ⟨after, rfl, ⟨m, hm, Options.forall₂_sameChar.mp hsame⟩, hstarts, hends⟩

theorem markerHere?_eq_none : o.markerHere? before.getLast? text = none ↔
    ∀ run after, ¬ Standing o (before ++ text) before run after := by
  constructor
  · intro hnone run after h
    obtain rfl := List.append_cancel_left h.split
    rw [Options.markerHere?, Todo.markerHere?, if_pos h.starts, List.findSome?_eq_none_iff] at hnone
    obtain ⟨m, hm, hsame⟩ := h.spells
    have hmarker := hnone _ (List.mem_map_of_mem hm)
    simp only [spelled?_of_forall₂ (Options.forall₂_sameChar.mpr hsame), lastOr_getLast?] at hmarker
    rw [if_pos h.ends] at hmarker
    contradiction
  · intro h
    cases hhere : o.markerHere? before.getLast? text with
    | none => rfl
    | some front =>
      obtain ⟨after, hstanding⟩ := Standing.of_markerHere? hhere
      exact absurd hstanding (h front after)

end Place

section Search
variable {same : Char → Char → Bool} {markers : List (List Char)} {skip position : Nat}
  {barred : Bool} {before : Option Char} {text : List Char} {m : Nat × List Char}

theorem lastOr_cons (c : Char) (front : List Char) :
    lastOr before (c :: front) = lastOr (some c) front := by
  rw [lastOr, lastOr, List.getLast?_cons]
  cases front.getLast? <;> rfl

/-- A marker can be taken in the text, whose first character has the number `position`. -/
def TakenAt (same : Char → Char → Bool) (markers : List (List Char)) (position : Nat)
    (before : Option Char) (text : List Char) (m : Nat × List Char) : Prop :=
  ∃ front rest, text = front ++ rest ∧ m.1 = position + front.length ∧
    Todo.markerHere? same markers (lastOr before front) rest = some m.2

theorem takenAt_nil : TakenAt same markers position before [] m ↔
    m.1 = position ∧ Todo.markerHere? same markers before [] = some m.2 := by
  constructor
  · rintro ⟨front, rest, htext, hposition, hhere⟩
    obtain ⟨rfl, rfl⟩ := List.append_eq_nil_iff.mp htext.symm
    exact ⟨hposition, hhere⟩
  · rintro ⟨hposition, hhere⟩
    exact ⟨[], [], rfl, hposition, hhere⟩

theorem takenAt_cons {c : Char} : TakenAt same markers position before (c :: text) m ↔
    (m.1 = position ∧ Todo.markerHere? same markers before (c :: text) = some m.2) ∨
      TakenAt same markers (position + 1) (some c) text m := by
  constructor
  · rintro ⟨front, rest, htext, hposition, hhere⟩
    cases front with
    | nil =>
      rw [List.nil_append] at htext
      subst htext
      exact .inl ⟨hposition, hhere⟩
    | cons d front =>
      obtain ⟨rfl, rfl⟩ := List.cons.inj htext
      rw [lastOr_cons] at hhere
      rw [List.length_cons] at hposition
      exact .inr ⟨front, rest, rfl, by omega, hhere⟩
  · rintro (⟨hposition, hhere⟩ | ⟨front, rest, rfl, hposition, hhere⟩)
    · exact ⟨[], c :: text, rfl, hposition, hhere⟩
    · rw [← lastOr_cons] at hhere
      exact ⟨c :: front, rest, rfl, by rw [List.length_cons]; omega, hhere⟩

theorem TakenAt.le_position (h : TakenAt same markers position before text m) :
    position ≤ m.1 := by
  obtain ⟨front, -, -, hposition, -⟩ := h
  omega

theorem takenAt_of_mem (h : m ∈ markersFrom same markers skip barred position before text) :
    TakenAt same markers position before text m := by
  fun_induction markersFrom same markers skip barred position before text
  case case1 | case3 | case4 => contradiction
  case case2 hhere _ =>
    obtain rfl := List.mem_singleton.mp h
    exact takenAt_nil.mpr ⟨rfl, hhere⟩
  case case5 ih | case8 ih | case9 ih => exact takenAt_cons.mpr (.inr (ih h))
  case case6 hhere _ _ ih | case7 hhere ih =>
    rcases List.mem_cons.mp h with rfl | h
    · exact takenAt_cons.mpr (.inl ⟨rfl, hhere⟩)
    · exact takenAt_cons.mpr (.inr (ih h))

theorem ascending_markersFrom :
    (markersFrom same markers skip barred position before text).Pairwise fun m n => m.1 < n.1 := by
  fun_induction markersFrom same markers skip barred position before text
  case case1 | case3 | case4 => exact List.Pairwise.nil
  case case2 => exact List.pairwise_singleton _ _
  case case5 ih | case8 ih | case9 ih => exact ih
  case case6 ih | case7 ih =>
    exact List.pairwise_cons.mpr ⟨fun m hm => (takenAt_of_mem hm).le_position, ih⟩

theorem markersFrom_eq_nil_iff : markersFrom same markers 0 false position before text = [] ↔
    ∀ m, ¬ TakenAt same markers position before text m := by
  constructor
  · intro hnil
    induction text generalizing position before with
    | nil =>
      rintro m h
      obtain ⟨-, hhere⟩ := takenAt_nil.mp h
      simp [markersFrom, hhere] at hnil
    | cons c text ih =>
      rw [markersFrom] at hnil
      split at hnil
      next => contradiction
      next => contradiction
      next hnone =>
        intro m h
        rcases takenAt_cons.mp h with ⟨-, hhere⟩ | hlater
        · rw [hnone] at hhere
          contradiction
        · exact ih hnil m hlater
  · intro h
    exact List.eq_nil_iff_forall_not_mem.mpr fun m hm => h m (takenAt_of_mem hm)

/-- Markers that are never empty and never begin inside one another. -/
structure Apart (same : Char → Char → Bool) (markers : List (List Char)) : Prop where
  filled : ∀ {before text}, Todo.markerHere? same markers before text ≠ some []
  clear : ∀ {before c rest a front}, Todo.markerHere? same markers before (c :: rest) =
    some (a :: front) → ∀ {position m}, TakenAt same markers position (some c) rest m →
    position + front.length ≤ m.1

/-- Of markers that are apart the search finds all. -/
theorem mem_markersFrom_iff (hapart : Apart same markers)
    (hskip : ∀ {m}, TakenAt same markers position before text m → position + skip ≤ m.1) :
    m ∈ markersFrom same markers skip barred position before text ↔
      TakenAt same markers position before text m := by
  refine ⟨takenAt_of_mem, fun h => ?_⟩
  fun_induction markersFrom same markers skip barred position before text
  case case1 hhere hempty =>
    obtain ⟨hnil, -⟩ := Bool.and_eq_true_iff.mp hempty
    rw [List.isEmpty_iff.mp hnil] at hhere
    exact absurd hhere hapart.filled
  case case2 hhere _ =>
    obtain ⟨hposition, hm⟩ := takenAt_nil.mp h
    rw [hhere] at hm
    exact List.mem_singleton.mpr (Prod.ext hposition (Option.some.inj hm).symm)
  case case3 hnone =>
    obtain ⟨-, hm⟩ := takenAt_nil.mp h
    rw [hnone] at hm
    contradiction
  case case4 =>
    have hle := hskip h
    obtain ⟨hposition, -⟩ := takenAt_nil.mp h
    omega
  case case5 hhere _ _ | case6 hhere _ _ _ => exact absurd hhere hapart.filled
  case case7 hhere ih =>
    rcases takenAt_cons.mp h with ⟨hposition, hm⟩ | hlater
    · rw [hhere] at hm
      exact List.mem_cons.mpr (.inl (Prod.ext hposition (Option.some.inj hm).symm))
    · exact List.mem_cons_of_mem _ (ih (hapart.clear hhere) hlater)
  case case8 hnone ih =>
    rcases takenAt_cons.mp h with ⟨-, hm⟩ | hlater
    · rw [hnone] at hm
      contradiction
    · exact ih TakenAt.le_position hlater
  case case9 ih =>
    rcases takenAt_cons.mp h with ⟨hposition, -⟩ | hlater
    · have hle := hskip h
      omega
    · refine ih (fun hm => ?_) hlater
      have hle := hskip (takenAt_cons.mpr (.inr hm))
      omega

end Search

/-- Nothing is found in a line exactly where no marker stands in it. -/
theorem markersIn_eq_nil_iff {o : Options} {line : List Char} : markersIn o line = [] ↔
    ∀ before run after, ¬ Standing o line before run after := by
  rw [markersIn, markersFrom_eq_nil_iff]
  constructor
  · intro hnone before run after h
    obtain rfl := h.split
    cases hhere : o.markerHere? before.getLast? (run ++ after) with
    | none => exact markerHere?_eq_none.mp hhere run after h
    | some front =>
      rw [← lastOr_none] at hhere
      exact hnone (before.length, front) ⟨before, run ++ after, rfl, (Nat.zero_add _).symm, hhere⟩
  · rintro hnone m ⟨before, rest, rfl, -, hhere⟩
    rw [lastOr_none] at hhere
    obtain ⟨after, h⟩ := Standing.of_markerHere? hhere
    exact hnone before m.2 after h

theorem mem_check {o : Options} {p : Path} {text : List Char} {i : Issue} : i ∈ check o p text ↔
    ∃ n line, lineAt? text n = some line ∧ o.Heeds line ∧ ∃ m ∈ markersIn o line,
      issueOf p n m = i := by
  rw [check, mem_scan_iff]
  refine exists_congr fun n => exists_congr fun line => and_congr_right fun _ => ?_
  rw [← Options.ignores_eq_false]
  by_cases hignored : o.ignores line = true <;> simp [hignored]

end Tool.Todo
end MetaLint
