import Mathlib.Data.List.Perm.Basic
import Mathlib.Logic.ExistsUnique
import MetaLint.Proofs.Grouping
import MetaLint.Proofs.Selecting

/-!
# Groups of a sorted list

A list may be sorted as a whole, or split by a key and then sorted group by group. As sorting keeps
ties as they are, it commutes with selecting, and the group of a key is what the sorted list has of
that key.
-/

set_option autoImplicit false

namespace MetaLint.Grouped

open Std (TransCmp OrientedCmp)

variable {κ α : Type} {cmp : κ → κ → Ordering} {key : α → κ}

/-- What stands in the group of a key, and nothing if there is no such group. -/
def groupOf (cmp : κ → κ → Ordering) (k : κ) (groups : Grouped κ α) : List α :=
  ((groups.find? fun g => cmp k g.1 == .eq).map Prod.snd).getD []

/-- A list, split into groups by a key. -/
structure Splits (cmp : κ → κ → Ordering) (key : α → κ) (listed : List α)
    (groups : Grouped κ α) : Prop where
  ascending : groups.Pairwise fun g h => cmp g.1 h.1 = .lt
  filled : ∀ g ∈ groups, g.2 ≠ []
  taken : ∀ g ∈ groups, ∃ a ∈ listed, g.1 = key a
  groupOf_eq : ∀ k, groupOf cmp k groups = listed.filter fun a => cmp (key a) k == .eq
  only : ∀ a ∈ listed, ∃! g, g ∈ groups ∧ a ∈ g.2
  perm : (toList groups).Perm listed

def arrange (f : List α → List α) (groups : Grouped κ α) : Grouped κ α :=
  groups.map fun g => (g.1, f g.2)

theorem arrange_perm {f : List α → List α} (h : ∀ as, (f as).Perm as) (groups : Grouped κ α) :
    (toList (arrange f groups)).Perm (toList groups) := by
  rw [toList, arrange, List.flatMap_map]
  exact List.Perm.flatMap_left groups fun g _ => h g.2

variable [TransCmp cmp]

theorem eq_of_ascending {groups : Grouped κ α}
    (h : groups.Pairwise fun g h => cmp g.1 h.1 = .lt) {g g' : κ × List α} (hg : g ∈ groups)
    (hg' : g' ∈ groups) (he : cmp g.1 g'.1 = .eq) : g = g' := by
  induction h with
  | nil => contradiction
  | @cons first rest hfirst _ ih =>
    rcases List.mem_cons.mp hg with rfl | hrest <;> rcases List.mem_cons.mp hg' with rfl | hrest'
    · rfl
    · rw [hfirst g' hrest'] at he
      contradiction
    · rw [OrientedCmp.gt_of_lt (hfirst g hrest)] at he
      contradiction
    · exact ih hrest hrest'

theorem splits_of_groups {listed : List α} {groups : Grouped κ α}
    (ha : groups.Pairwise fun g h => cmp g.1 h.1 = .lt)
    (ht : ∀ g ∈ groups, ∃ a ∈ listed, g.1 = key a)
    (hg : ∀ g ∈ groups, g.2 = listed.filter fun a => cmp (key a) g.1 == .eq)
    (hp : (toList groups).Perm listed) : Splits cmp key listed groups where
  ascending := ha
  filled g h := by
    obtain ⟨a, hal, hkey⟩ := ht g h
    have hmem : a ∈ g.2 := by
      rw [hg g h, hkey]
      exact List.mem_filter.mpr ⟨hal, beq_iff_eq.mpr Std.ReflCmp.compare_self⟩
    exact List.ne_nil_of_mem hmem
  taken := ht
  groupOf_eq k := by
    cases hf : groups.find? fun g => cmp k g.1 == .eq with
    | some g =>
      have hfound := List.find?_some hf
      have hk : cmp k g.1 = .eq := beq_iff_eq.mp hfound
      rw [groupOf, hf, Option.map_some, Option.getD_some, hg g (List.mem_of_find?_eq_some hf)]
      simp only [TransCmp.congr_right hk]
    | none =>
      rw [groupOf, hf, Option.map_none, Option.getD_none, eq_comm, List.filter_eq_nil_iff]
      intro a hal hk
      obtain ⟨g, hgm, hag⟩ := List.mem_flatMap.mp (hp.mem_iff.mpr hal)
      rw [hg g hgm] at hag
      have hkg := TransCmp.eq_trans (OrientedCmp.eq_symm (beq_iff_eq.mp hk))
        (beq_iff_eq.mp (List.mem_filter.mp hag).2)
      exact List.find?_eq_none.mp hf g hgm (beq_iff_eq.mpr hkg)
  only a hal := by
    obtain ⟨g, hgm, hag⟩ := List.mem_flatMap.mp (hp.mem_iff.mpr hal)
    refine ⟨g, ⟨hgm, hag⟩, fun g' ⟨hgm', hag'⟩ => ?_⟩
    rw [hg g hgm] at hag
    rw [hg g' hgm'] at hag'
    exact eq_of_ascending ha hgm' hgm (TransCmp.eq_trans
      (OrientedCmp.eq_symm (beq_iff_eq.mp (List.mem_filter.mp hag').2))
      (beq_iff_eq.mp (List.mem_filter.mp hag).2))
  perm := hp

theorem Splits.group_eq {listed : List α} {groups : Grouped κ α} (h : Splits cmp key listed groups)
    {g : κ × List α} (hg : g ∈ groups) :
    g.2 = listed.filter fun a => cmp (key a) g.1 == .eq := by
  have hself : (cmp g.1 g.1 == .eq) = true := beq_iff_eq.mpr Std.ReflCmp.compare_self
  cases hf : groups.find? fun g' => cmp g.1 g'.1 == .eq with
  | some g' =>
    have hfound := List.find?_some hf
    obtain rfl := eq_of_ascending h.ascending hg (List.mem_of_find?_eq_some hf)
      (beq_iff_eq.mp hfound)
    rw [← h.groupOf_eq, groupOf, hf, Option.map_some, Option.getD_some]
  | none => exact absurd hself (List.find?_eq_none.mp hf g hg)

end MetaLint.Grouped

namespace MetaLint.Issue

open Std (TransCmp)

/-- Sorting before and after the split comes to the same. -/
theorem splits_sortBy {κ : Type} {cmp : κ → κ → Ordering} [TransCmp cmp] (key : Issue → κ)
    (order : List Field) (view : List Issue) : Grouped.Splits cmp key (sortBy order view)
      (Grouped.arrange (sortBy order) (Grouped.byKey cmp key view)) := by
  apply Grouped.splits_of_groups
  · rw [Grouped.arrange, List.pairwise_map]
    exact (Grouped.sound_byKey view).ascending
  · intro g hg
    obtain ⟨f, hf, rfl⟩ := List.mem_map.mp hg
    obtain ⟨i, hi, hkey⟩ := Grouped.key_of_mem_byKey hf
    exact ⟨i, (sortBy_perm order view).mem_iff.mpr hi, hkey⟩
  · intro g hg
    obtain ⟨f, hf, rfl⟩ := List.mem_map.mp hg
    rw [filter_sortBy, ← Grouped.group_eq hf]
  · have hgroups := Grouped.arrange_perm (sortBy_perm order) (Grouped.byKey cmp key view)
    exact (hgroups.trans (Grouped.byKey_perm cmp key view)).trans (sortBy_perm order view).symm

end MetaLint.Issue
