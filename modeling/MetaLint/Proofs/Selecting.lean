import MetaLint.Collector
import MetaLint.Proofs.Merging

/-!
# Selecting issues by kind

Sorting and merging compare issues of one kind only. A selection that takes every kind as a whole
or not at all can therefore be made before or after either of them.
-/

set_option autoImplicit false

namespace MetaLint

open Std (TransCmp OrientedCmp)

namespace Sorting

variable {α : Type} {cmp : α → α → Ordering} {as bs : List α}

theorem sameTies_filter (h : SameTies cmp as bs) (p : α → Bool) :
    SameTies cmp (as.filter p) (bs.filter p) := by
  intro a
  have hswap : ∀ cs : List α, (cs.filter p).filter (ties cmp a) =
      (cs.filter (ties cmp a)).filter p := by
    intro cs
    rw [List.filter_filter, List.filter_filter]
    simp only [Bool.and_comm]
  rw [hswap, hswap, h a]

end Sorting

namespace Issue

open Sorting

theorem filter_sortBy (fields : List Field) (issues : List Issue) (p : Issue → Bool) :
    (sortBy fields issues).filter p = sortBy fields (issues.filter p) := by
  apply eq_of_sameTies ((ordered_sortBy fields issues).filter p) (ordered_sortBy fields _)
  have hs := sameTies_filter (sameTies_sortBy fields issues) p
  exact sameTies_trans hs (sameTies_symm (sameTies_sortBy fields (issues.filter p)))

theorem filter_arranged (issues : List Issue) (p : Issue → Bool) :
    (arranged issues).filter p = arranged (issues.filter p) := by
  apply eq_of_sameTies ((ordered_arranged issues).filter p) (ordered_arranged _)
  have hs := sameTies_filter (sameTies_arranged issues) p
  exact sameTies_trans hs (sameTies_symm (sameTies_arranged (issues.filter p)))

/-- A selection that never parts two issues of one kind, and never skips one that stands between
them. -/
structure Wholesale (drops : Issue → Issue → Bool) (p : Issue → Bool) (issues : List Issue) :
    Prop where
  alike : ∀ i j, drops i j = true → p i = p j
  between : ∀ i j k, [i, j, k].Sublist issues → drops i k = true → p j = p i

section Collapse
variable {drops : Issue → Issue → Bool} {p : Issue → Bool}

theorem Wholesale.sublist {issues others : List Issue} (h : Wholesale drops p issues)
    (hs : others.Sublist issues) : Wholesale drops p others :=
  ⟨h.alike, fun i j k ht => h.between i j k (ht.trans hs)⟩

theorem collapseAfter_of_fresh {kept : Issue} {issues : List Issue}
    (h : ∀ i ∈ issues, drops kept i = false) :
    collapseAfter drops kept issues = collapseBy drops issues := by
  cases issues with
  | nil => rfl
  | cons i rest => simp [collapseAfter, collapseBy, h i List.mem_cons_self]

theorem Wholesale.filter_collapseAfter {kept : Issue} {issues : List Issue}
    (h : Wholesale drops p (kept :: issues)) :
    (collapseAfter drops kept issues).filter p =
      if p kept then collapseAfter drops kept (issues.filter p)
      else collapseBy drops (issues.filter p) := by
  induction issues generalizing kept with
  | nil => cases p kept <;> rfl
  | cons next rest ih =>
    have hskip := ih (h.sublist ((List.sublist_cons_self next rest).cons_cons kept))
    have hnext := ih (h.sublist (List.sublist_cons_self kept _))
    rw [collapseAfter]
    cases hd : drops kept next with
    | true =>
      rw [if_pos rfl, hskip]
      have hp := h.alike kept next hd
      cases hk : p kept <;> simp [collapseAfter, hd, ← hp, hk]
    | false =>
      rw [if_neg (by simp), List.filter_cons, hnext]
      cases hn : p next with
      | true => cases hk : p kept <;> simp [collapseAfter, collapseBy, hd, hn]
      | false =>
        cases hk : p kept with
        | false => simp [hn]
        | true =>
          -- What repeats `kept` cannot stand behind `next`, which is left out.
          have hfresh : ∀ k ∈ rest.filter p, drops kept k = false := by
            intro k hkr
            apply Bool.eq_false_iff.mpr
            intro hdk
            have hks := List.singleton_sublist.mpr (List.mem_filter.mp hkr).1
            have hb := h.between kept next k ((hks.cons_cons next).cons_cons kept) hdk
            rw [hn, hk] at hb
            contradiction
          simp [hn, collapseAfter_of_fresh hfresh]

theorem Wholesale.filter_collapseBy {issues : List Issue} (h : Wholesale drops p issues) :
    (collapseBy drops issues).filter p = collapseBy drops (issues.filter p) := by
  cases issues with
  | nil => rfl
  | cons first rest =>
    rw [collapseBy, List.filter_cons, h.filter_collapseAfter]
    cases hp : p first <;> simp [hp, collapseBy]

end Collapse

def ByKind (p : Issue → Bool) : Prop := ∀ i j, cmpKind i j = .eq → p i = p j

theorem byKind_isToolReport : ByKind isToolReport := by
  intro i j h
  obtain ⟨-, -, ht, hc⟩ := cmpKind_eq_eq.mp h
  have hcode : ∀ k : Issue, (k.code == some toolReportCode) = (k.codeText == toolReportCode) := by
    intro k
    rw [codeText]
    cases k.code with
    | none => rfl
    | some c => simp
  rw [isToolReport, isToolReport, isSelfReported, isSelfReported, ht, hcode, hcode, hc]

theorem ByKind.not {p : Issue → Bool} (h : ByKind p) : ByKind fun i => !p i :=
  fun i j hk => congrArg Bool.not (h i j hk)

theorem wholesale_arranged {p : Issue → Bool} (h : ByKind p) (issues : List Issue) :
    Wholesale repeatsHere p (arranged issues) where
  alike i j hd := h i j (cmpKind_of_sameKind (repeatsHere_iff.mp hd).2)
  between i j k hs hd := by
    have ho := (ordered_arranged issues).sublist hs
    have hij : (cmpKind i j).isLE := kind_le ((List.pairwise_cons.mp ho).1 j (by simp))
    have hjk : (cmpKind j k).isLE :=
      kind_le ((List.pairwise_cons.mp (List.pairwise_cons.mp ho).2).1 k (by simp))
    have hki := OrientedCmp.eq_symm (cmpKind_of_sameKind (repeatsHere_iff.mp hd).2)
    have hji : (cmpKind j i).isLE := TransCmp.isLE_trans hjk (Ordering.isLE_of_eq_eq hki)
    exact (h i j (OrientedCmp.isLE_antisymm hij hji)).symm

/-- Kinds can be selected before merging or after it. -/
theorem filter_merge {p : Issue → Bool} (h : ByKind p) (issues : List Issue) :
    (merge issues).filter p = merge (issues.filter p) := by
  rw [merge_eq, merge_eq, (wholesale_arranged h issues).filter_collapseBy, filter_arranged]

end Issue

namespace CleanSettings

variable {s : CleanSettings}

theorem filter_merged {p : Issue → Bool} (h : Issue.ByKind p) (kept : List Issue) :
    (s.merged kept).filter p = s.merged (kept.filter p) := by
  rw [merged, merged]
  split
  · exact Issue.filter_merge h kept
  · rfl

theorem perm_filter_merged {p : Issue → Bool} (h : ∀ i, p i = true → i.isToolReport = true)
    (kept : List Issue) : ((s.merged kept).filter p).Perm (kept.filter p) := by
  rw [merged]
  split
  · have hkept : ∀ i j, Issue.repeatsHere i j = true → p j = false := by
      intro i j hd
      obtain ⟨hr, hk⟩ := Issue.repeatsHere_iff.mp hd
      apply Bool.eq_false_iff.mpr
      intro hp
      rw [Issue.isToolReport_of_sameKind (Issue.sameKind_symm hk), h j hp] at hr
      contradiction
    rw [Issue.merge_eq, Issue.filter_collapseBy_of_kept hkept]
    exact (Sorting.perm_of_sameTies (Issue.sameTies_arranged kept)).filter p
  · exact List.Perm.refl _

end CleanSettings

end MetaLint
