import MetaLint.Proofs.CaseVariants
import MetaLint.Proofs.MarkerSearch
import MetaLint.Proofs.OrderedMatch

/-!
# The expression for markers

The scanner takes a marker exactly where the expression for any marker as a word matches, and of
several it takes the one that the expression prefers.
-/

set_option autoImplicit false

namespace MetaLint.Tool.Todo

open Pattern (Regex Stage)
open Unicode (CharSet isBoundary)

section Expression
variable {o : Options} {before : Option Char} {text : List Char}

def Options.letter (o : Options) (c : Char) : Regex :=
  .set (if o.caseSensitive then .single c else (CharSet.single c).folded)

theorem Options.holds_letter (o : Options) (c d : Char) :
    (if o.caseSensitive then CharSet.single c else (CharSet.single c).folded).holds d =
      o.sameChar c d := by
  rw [sameChar]
  split
  · rw [Bool.eq_iff_iff, CharSet.holds_single, beq_iff_eq, eq_comm]
  · exact Unicode.holds_folded_single c d

theorem waysSeq_letters (marker : List Char) :
    Regex.waysSeq (marker.map o.letter) ⟨before, text, []⟩ =
      match spelled? o.sameChar marker text with
      | some (front, rest) => [⟨lastOr before front, rest, []⟩]
      | none => [] := by
  induction marker generalizing before text with
  | nil => rfl
  | cons m marker ih =>
    cases text with
    | nil => rfl
    | cons c text =>
      rw [List.map_cons, Regex.waysSeq, Options.letter, Regex.ways, Pattern.passSet_cons,
        o.holds_letter, spelled?]
      by_cases hsame : o.sameChar m c = true
      · rw [if_pos hsame, if_pos hsame, List.flatMap_singleton, ih]
        cases spelled? o.sameChar marker text with
        | none => rfl
        | some parts => simp [lastOr_cons]
      · rw [if_neg hsame, if_neg hsame]
        rfl

theorem waysAlt_eq (rs : List Regex) (w : Stage) :
    Regex.waysAlt rs w = rs.flatMap fun r => r.ways w := by
  induction rs with
  | nil => rfl
  | cons r rs ih => rw [Regex.waysAlt, ih, List.flatMap_cons]

theorem look_boundary (w : Stage) : Stage.look (.boundary false) w =
    if isBoundary w.before w.rest.head? then [w] else [] := rfl

theorem head?_ways_marker (marker : List Char) :
    ((Regex.waysSeq (marker.map o.letter) ⟨before, text, []⟩).flatMap
      (Stage.look (.boundary false))).head? =
      (match spelled? o.sameChar marker text with
      | some (front, rest) =>
        if isBoundary (lastOr before front) rest.head? then some front else none
      | none => none).map fun front => ⟨lastOr before front, text.drop front.length, []⟩ := by
  rw [waysSeq_letters]
  cases hspelled : spelled? o.sameChar marker text with
  | none => rfl
  | some parts =>
    obtain ⟨front, rest⟩ := parts
    obtain ⟨rfl, -⟩ := forall₂_of_spelled? hspelled
    rw [List.flatMap_singleton, look_boundary]
    show List.head? (if isBoundary (lastOr before front) rest.head? then _ else _) =
      Option.map _ (if isBoundary (lastOr before front) rest.head? then _ else _)
    split
    · rw [Option.map_some, List.drop_left, List.head?_cons]
    · rfl

theorem ways_regex (w : Stage) : o.regex.ways w =
    (Stage.look (.boundary false) w).flatMap fun v =>
      o.markers.flatMap fun m => (Regex.waysSeq (m.toList.map o.letter) v).flatMap
        (Stage.look (.boundary false)) := by
  have hlast : Regex.waysSeq [.look (.boundary false)] = Stage.look (.boundary false) := by
    funext v
    rw [Regex.waysSeq, Regex.ways]
    exact List.flatMap_singleton' _
  rw [Options.regex, Regex.ways, Regex.waysSeq, Regex.ways]
  refine congrArg (List.flatMap · (Stage.look (.boundary false) w)) (funext fun v => ?_)
  rw [Regex.waysSeq, Regex.ways, hlast, waysAlt_eq, List.flatMap_assoc, List.flatMap_map]
  simp only [Regex.ways]
  rfl

/-- Where the expression matches the scanner takes a marker, the one that the preferred match
passes. -/
theorem head?_ways_regex : (o.regex.ways ⟨before, text, []⟩).head? =
    (o.markerHere? before text).map fun front =>
      ⟨lastOr before front, text.drop front.length, []⟩ := by
  rw [ways_regex, look_boundary, Options.markerHere?, Todo.markerHere?]
  show List.head? (List.flatMap _ (if isBoundary before text.head? then _ else _)) = _
  split
  · rw [List.flatMap_singleton, List.head?_flatMap, List.findSome?_map, List.map_findSome?]
    exact congrArg (List.findSome? · o.markers) (funext fun m => head?_ways_marker m.toList)
  · rfl

end Expression

end MetaLint.Tool.Todo
