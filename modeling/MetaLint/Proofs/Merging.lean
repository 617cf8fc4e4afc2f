import MetaLint.Issue.Order
import MetaLint.Proofs.Grouping
import MetaLint.Proofs.Sorting

/-!
# What merging keeps

Merging arranges the issues by place, tool, code and column, stably, and then drops each issue that
repeats the one kept before it. So every tool report stays, and of the other issues with the same
file, line, tool and code the first one with the smallest column.
-/

set_option autoImplicit false

namespace MetaLint.Issue

open Std (TransCmp OrientedCmp ReflCmp)
open Sorting

section Collapse
variable {drops : Issue → Issue → Bool}

theorem collapseAfter_append {kept : Issue} {first rest : List Issue}
    (h : ∀ i ∈ kept :: first, ∀ j ∈ rest, drops i j = false) :
    collapseAfter drops kept (first ++ rest) =
      collapseAfter drops kept first ++ collapseBy drops rest := by
  induction first generalizing kept with
  | nil =>
    cases rest with
    | nil => rfl
    | cons j rest => simp [collapseAfter, collapseBy, h kept List.mem_cons_self j]
  | cons next first ih =>
    have hkept := ih fun i hi => h i (List.cons_subset_cons kept (List.subset_cons_self next _) hi)
    have hnext := ih fun i hi => h i (List.mem_cons_of_mem _ hi)
    rw [List.cons_append, collapseAfter, collapseAfter]
    split
    · exact hkept
    · rw [hnext, List.cons_append]

theorem collapseBy_append {first rest : List Issue}
    (h : ∀ i ∈ first, ∀ j ∈ rest, drops i j = false) :
    collapseBy drops (first ++ rest) = collapseBy drops first ++ collapseBy drops rest := by
  cases first with
  | nil => rfl
  | cons i first => simp [collapseBy, collapseAfter_append h]

theorem collapseAfter_congr {others : Issue → Issue → Bool} {kept : Issue} {issues : List Issue}
    (h : ∀ i ∈ kept :: issues, ∀ j ∈ issues, drops i j = others i j) :
    collapseAfter drops kept issues = collapseAfter others kept issues := by
  induction issues generalizing kept with
  | nil => rfl
  | cons next rest ih =>
    have hkept := ih fun i hi j hj =>
      h i (List.cons_subset_cons kept (List.subset_cons_self next _) hi) j
        (List.mem_cons_of_mem _ hj)
    have hnext := ih fun i hi j hj => h i (List.mem_cons_of_mem _ hi) j (List.mem_cons_of_mem _ hj)
    rw [collapseAfter, collapseAfter, h kept List.mem_cons_self next List.mem_cons_self, hkept,
      hnext]

theorem collapseBy_congr {others : Issue → Issue → Bool} {issues : List Issue}
    (h : ∀ i ∈ issues, ∀ j ∈ issues, drops i j = others i j) :
    collapseBy drops issues = collapseBy others issues := by
  cases issues with
  | nil => rfl
  | cons i issues =>
    rw [collapseBy, collapseBy, collapseAfter_congr fun i hi j hj =>
      h i hi j (List.mem_cons_of_mem _ hj)]

theorem filter_collapseBy_of_kept {p : Issue → Bool}
    (h : ∀ i j, drops i j = true → p j = false) (issues : List Issue) :
    (collapseBy drops issues).filter p = issues.filter p := by
  have hafter : ∀ kept rest, (collapseAfter drops kept rest).filter p = rest.filter p := by
    intro kept rest
    induction rest generalizing kept with
    | nil => rfl
    | cons next rest ih =>
      rw [collapseAfter]
      split
      next hd => rw [ih, List.filter_cons_of_neg (by simp [h kept next hd])]
      next => rw [List.filter_cons, List.filter_cons, ih]
  cases issues with
  | nil => rfl
  | cons first rest => rw [collapseBy, List.filter_cons, List.filter_cons, hafter]

/-- A kind of issue that stands together, and of which only a first one is kept. -/
structure Solitary (drops : Issue → Issue → Bool) (p : Issue → Bool) (issues : List Issue) :
    Prop where
  dropped : ∀ i j, p i = true → p j = true → drops i j = true
  behind : ∀ i j, drops i j = true → p j = true → p i = true
  together : ∀ i j k, [i, j, k].Sublist issues → p i = true → p k = true → p j = true

theorem Solitary.sublist {p : Issue → Bool} {issues others : List Issue}
    (h : Solitary drops p issues) (hs : others.Sublist issues) : Solitary drops p others :=
  ⟨h.dropped, h.behind, fun i j k ht => h.together i j k (ht.trans hs)⟩

theorem Solitary.filter_collapseAfter {p : Issue → Bool} {kept : Issue} {issues : List Issue}
    (h : Solitary drops p (kept :: issues)) :
    (collapseAfter drops kept issues).filter p =
      if p kept then [] else (issues.filter p).head?.toList := by
  induction issues generalizing kept with
  | nil => cases p kept <;> rfl
  | cons next rest ih =>
    have hskip := ih (h.sublist ((List.sublist_cons_self next rest).cons_cons kept))
    have hnext := ih (h.sublist (List.sublist_cons_self kept _))
    rw [collapseAfter]
    cases hd : drops kept next with
    | true =>
      rw [if_pos rfl, hskip]
      cases hk : p kept with
      | true => rfl
      | false =>
        have hn : p next = false := by
          apply Bool.eq_false_iff.mpr
          intro hn
          rw [h.behind kept next hd hn] at hk
          contradiction
        rw [List.filter_cons_of_neg (by simp [hn])]
    | false =>
      rw [if_neg (by simp), List.filter_cons, hnext]
      cases hn : p next with
      | true =>
        have hk : p kept = false := by
          apply Bool.eq_false_iff.mpr
          intro hk
          rw [h.dropped kept next hk hn] at hd
          contradiction
        simp [hk, hn]
      | false =>
        cases hk : p kept with
        | false => simp [hn]
        | true =>
          have hr : rest.filter p = [] := by
            apply List.filter_eq_nil_iff.mpr
            intro k hkr hpk
            have ht : [kept, next, k].Sublist (kept :: next :: rest) :=
              ((List.singleton_sublist.mpr hkr).cons_cons next).cons_cons kept
            rw [h.together kept next k ht hk hpk] at hn
            contradiction
          simp [hr]

theorem Solitary.filter_collapseBy {p : Issue → Bool} {issues : List Issue}
    (h : Solitary drops p issues) :
    (collapseBy drops issues).filter p = (issues.filter p).head?.toList := by
  cases issues with
  | nil => rfl
  | cons first rest =>
    rw [collapseBy, List.filter_cons, h.filter_collapseAfter]
    cases hp : p first <;> simp [hp]

end Collapse

instance : TransCmp cmpPlace :=
  inferInstanceAs (TransCmp (compareLex (cmpOn Path.cmp Prod.fst) (compareOn Prod.snd)))

def cmpKind : Issue → Issue → Ordering :=
  compareLex (cmpOn cmpPlace place) (cmpBy [.tool, .code])

def cmpMerged : Issue → Issue → Ordering := compareLex cmpKind (compareOn column)

instance : TransCmp cmpKind :=
  inferInstanceAs (TransCmp (compareLex (cmpOn cmpPlace place) (cmpBy [.tool, .code])))

instance : TransCmp cmpMerged :=
  inferInstanceAs (TransCmp (compareLex cmpKind (compareOn column)))

theorem cmpMerged_eq : cmpMerged = compareLex (cmpOn cmpPlace place) (cmpBy mergeOrder) := by
  funext i j
  simp [cmpMerged, cmpKind, compareLex, cmpBy, mergeOrder, Field.cmp, compareOn,
    Ordering.then_assoc]

theorem cmpKind_eq_eq {i j : Issue} : cmpKind i j = .eq ↔
    i.filename.same j.filename = true ∧ i.line = j.line ∧ i.tool = j.tool ∧
      i.codeText = j.codeText := by
  simp [cmpKind, compareLex_eq_eq, cmpOn, cmpPlace, place, cmpBy, Field.cmp,
    Ordering.then_eq_eq, Path.cmp_eq_eq, Path.same_iff, and_assoc]

theorem cmpMerged_eq_eq {i j : Issue} :
    cmpMerged i j = .eq ↔ cmpKind i j = .eq ∧ i.column = j.column := by
  rw [cmpMerged, compareLex_eq_eq, compareOn]
  simp

theorem kind_le {i j : Issue} (h : (cmpMerged i j).isLE) : (cmpKind i j).isLE := by
  rw [cmpMerged, compareLex] at h
  cases hk : cmpKind i j with
  | lt => rfl
  | eq => rfl
  | gt => simp [hk] at h

/-- The issues by place, those of one place by tool, code and column. -/
def arranged (issues : List Issue) : List Issue :=
  (Grouped.byKey cmpPlace place issues).flatMap fun group => sortBy mergeOrder group.2

theorem ordered_arranged (issues : List Issue) : Ordered cmpMerged (arranged issues) := by
  have h : Grouped.Sound cmpPlace place (Grouped.byKey cmpPlace place issues) :=
    Grouped.sound_byKey issues
  have hplace : ∀ g ∈ Grouped.byKey cmpPlace place issues, ∀ i ∈ sortBy mergeOrder g.2,
      cmpPlace i.place g.1 = .eq := by
    intro g hg i hi
    exact h.keyed g hg i ((sortBy_perm mergeOrder g.2).mem_iff.mp hi)
  rw [cmpMerged_eq]
  apply List.pairwise_flatMap.mpr
  constructor
  · intro g hg
    apply List.Pairwise.imp_of_mem _ (ordered_sortBy mergeOrder g.2)
    intro i j hi hj hij
    have heq := TransCmp.eq_trans (hplace g hg i hi) (OrientedCmp.eq_symm (hplace g hg j hj))
    simpa [compareLex, cmpOn, heq] using hij
  · apply h.ascending.imp_of_mem
    intro g g' hg hg' hlt i hi j hj
    have hij : cmpPlace i.place j.place = .lt :=
      TransCmp.lt_of_eq_of_lt (hplace g hg i hi)
        (TransCmp.lt_of_lt_of_eq hlt (OrientedCmp.eq_symm (hplace g' hg' j hj)))
    simp [compareLex, cmpOn, hij]

theorem sameTies_arranged (issues : List Issue) : SameTies cmpMerged (arranged issues) issues := by
  intro i
  have hgroup : ∀ g : (Path × UInt32) × List Issue,
      (sortBy mergeOrder g.2).filter (ties cmpMerged i) = g.2.filter (ties cmpMerged i) := by
    intro g
    apply filter_of_sameTies (sameTies_sortBy mergeOrder g.2) i
    intro j hj
    rw [ties_iff, cmpMerged_eq] at hj
    exact (compareLex_eq_eq.mp hj).2
  have hall : (Grouped.toList (Grouped.byKey cmpPlace place issues)).filter (ties cmpMerged i) =
      issues.filter (ties cmpMerged i) := by
    apply filter_of_sameTies (Grouped.sameTies_byKey issues) i
    intro j hj
    rw [ties_iff, cmpMerged_eq] at hj
    exact (compareLex_eq_eq.mp hj).1
  rw [← hall, arranged, Grouped.toList, List.filter_flatMap, List.filter_flatMap]
  simp only [hgroup]

def repeatsHere (kept next : Issue) : Bool :=
  cmpPlace kept.place next.place == .eq && repeats kept next

theorem merge_eq (issues : List Issue) :
    merge issues = collapseBy repeatsHere (arranged issues) := by
  suffices h : ∀ groups : Grouped (Path × UInt32) Issue, Grouped.Sound cmpPlace place groups →
      (groups.flatMap fun g => mergeLine g.2) =
        collapseBy repeatsHere (groups.flatMap fun g => sortBy mergeOrder g.2) from
    h _ (Grouped.sound_byKey issues)
  -- Issues of different groups are at different places, so none of them repeats another.
  intro groups h
  induction groups with
  | nil => rfl
  | cons g groups ih =>
    have hplace : ∀ i ∈ sortBy mergeOrder g.2, cmpPlace i.place g.1 = .eq := fun i hi =>
      h.keyed g List.mem_cons_self i ((sortBy_perm mergeOrder g.2).mem_iff.mp hi)
    have hinside : mergeLine g.2 = collapseBy repeatsHere (sortBy mergeOrder g.2) := by
      apply collapseBy_congr
      intro i hi j hj
      have hij := TransCmp.eq_trans (hplace i hi) (OrientedCmp.eq_symm (hplace j hj))
      simp [repeatsHere, hij]
    rw [List.flatMap_cons, List.flatMap_cons, ih h.tail, hinside, collapseBy_append]
    intro i hi j hj
    obtain ⟨g', hg', hj⟩ := List.mem_flatMap.mp hj
    have hj := h.keyed g' (List.mem_cons_of_mem g hg') j
      ((sortBy_perm mergeOrder g'.2).mem_iff.mp hj)
    have hlt := (List.pairwise_cons.mp h.ascending).1 g' hg'
    have hij : cmpPlace i.place j.place = .lt :=
      TransCmp.lt_of_eq_of_lt (hplace i hi) (TransCmp.lt_of_lt_of_eq hlt (OrientedCmp.eq_symm hj))
    simp [repeatsHere, hij]

/-- Merging sees no more than the order of the issues that tie. -/
theorem merge_congr {issues others : List Issue} (h : SameTies cmpMerged issues others) :
    merge issues = merge others := by
  have ha : arranged issues = arranged others := by
    apply eq_of_sameTies (ordered_arranged issues) (ordered_arranged others)
    have hi := sameTies_trans (sameTies_arranged issues) h
    exact sameTies_trans hi (sameTies_symm (sameTies_arranged others))
  rw [merge_eq, merge_eq, ha]

theorem merge_sublist (issues : List Issue) : (merge issues).Sublist (arranged issues) := by
  rw [merge_eq]
  exact collapseBy_sublist repeatsHere (arranged issues)

/-- The same file, line, tool and code. -/
def sameKind (i j : Issue) : Bool :=
  i.filename.same j.filename && i.line == j.line && i.tool == j.tool && i.code == j.code

theorem sameKind_iff {i j : Issue} : sameKind i j = true ↔
    i.filename.same j.filename = true ∧ i.line = j.line ∧ i.tool = j.tool ∧ i.code = j.code := by
  simp [sameKind, and_assoc]

theorem sameKind_self (i : Issue) : sameKind i i = true :=
  sameKind_iff.mpr ⟨Path.same_refl i.filename, rfl, rfl, rfl⟩

theorem sameKind_left {i j k : Issue} (hi : sameKind i k = true) (hj : sameKind j k = true) :
    sameKind i j = true := by
  obtain ⟨hif, hil, hit, hic⟩ := sameKind_iff.mp hi
  obtain ⟨hjf, hjl, hjt, hjc⟩ := sameKind_iff.mp hj
  apply sameKind_iff.mpr
  rw [Path.same_iff] at *
  exact ⟨hif.trans hjf.symm, hil.trans hjl.symm, hit.trans hjt.symm, hic.trans hjc.symm⟩

theorem sameKind_symm {i j : Issue} (h : sameKind i j = true) : sameKind j i = true :=
  sameKind_left (sameKind_self j) h

theorem cmpKind_of_sameKind {i j : Issue} (h : sameKind i j = true) : cmpKind i j = .eq := by
  obtain ⟨hf, hl, ht, hc⟩ := sameKind_iff.mp h
  exact cmpKind_eq_eq.mpr ⟨hf, hl, ht, by rw [codeText, hc, codeText]⟩

theorem code_eq_of_codeText {i j : Issue} (hi : i.code ≠ some "") (hj : j.code ≠ some "")
    (h : i.codeText = j.codeText) : i.code = j.code := by
  rw [codeText, codeText] at h
  cases hci : i.code with
  | none =>
    cases hcj : j.code with
    | none => rfl
    | some d =>
      rw [hci, hcj] at h
      have hd : d = "" := h.symm
      exact absurd (by rw [hcj, hd]) hj
  | some c =>
    cases hcj : j.code with
    | none =>
      rw [hci, hcj] at h
      have hc : c = "" := h
      exact absurd (by rw [hci, hc]) hi
    | some d =>
      rw [hci, hcj] at h
      exact congrArg some h

theorem sameKind_of_cmpKind {i j : Issue} (hi : i.code ≠ some "") (hj : j.code ≠ some "")
    (h : cmpKind i j = .eq) : sameKind i j = true := by
  obtain ⟨hf, hl, ht, hc⟩ := cmpKind_eq_eq.mp h
  exact sameKind_iff.mpr ⟨hf, hl, ht, code_eq_of_codeText hi hj hc⟩

theorem isToolReport_of_sameKind {i j : Issue} (h : sameKind i j = true) :
    j.isToolReport = i.isToolReport := by
  obtain ⟨-, -, ht, hc⟩ := sameKind_iff.mp h
  rw [isToolReport, isToolReport, isSelfReported, isSelfReported, ht, hc]

theorem repeatsHere_iff {i j : Issue} :
    repeatsHere i j = true ↔ i.isToolReport = false ∧ sameKind i j = true := by
  rw [repeatsHere, repeats, sameKind, cmpPlace, place, place]
  simp only [Bool.and_eq_true, beq_iff_eq, Bool.not_eq_true', Ordering.then_eq_eq,
    Path.cmp_eq_eq, Path.same_iff, Std.LawfulEqCmp.compare_eq_iff_eq, @eq_comm _ j.tool,
    @eq_comm _ j.code]
  constructor
  · rintro ⟨⟨hf, hl⟩, ⟨hr, ht⟩, hc⟩
    exact ⟨hr, ⟨⟨hf, hl⟩, ht⟩, hc⟩
  · rintro ⟨hr, ⟨⟨hf, hl⟩, ht⟩, hc⟩
    exact ⟨⟨hf, hl⟩, ⟨hr, ht⟩, hc⟩

/-- `j` has the smallest column of its kind, and is the first one that has it. -/
def Represents (issues : List Issue) (j : Issue) : Prop :=
  ∃ before after, issues = before ++ j :: after ∧
    (∀ k ∈ before, sameKind j k = true → j.column < k.column) ∧
    ∀ k ∈ after, sameKind j k = true → j.column ≤ k.column

section Coded
variable {issues : List Issue}

theorem mem_arranged {i : Issue} : i ∈ arranged issues ↔ i ∈ issues :=
  (perm_of_sameTies (sameTies_arranged issues)).mem_iff

theorem solitary_arranged (h : ∀ i ∈ issues, i.code ≠ some "") {i : Issue} (hi : i ∈ issues)
    (hr : i.isToolReport = false) : Solitary repeatsHere (sameKind i) (arranged issues) where
  dropped j k hj hk := by
    apply repeatsHere_iff.mpr
    exact ⟨(isToolReport_of_sameKind hj).trans hr,
      sameKind_left (sameKind_symm hj) (sameKind_symm hk)⟩
  behind j k hd hk := sameKind_left hk (repeatsHere_iff.mp hd).2
  together j k l hs hj hl := by
    have ho := (ordered_arranged issues).sublist hs
    have hjk : (cmpKind j k).isLE := kind_le ((List.pairwise_cons.mp ho).1 k (by simp))
    have hkl : (cmpKind k l).isLE :=
      kind_le ((List.pairwise_cons.mp (List.pairwise_cons.mp ho).2).1 l (by simp))
    have hji := cmpKind_of_sameKind (sameKind_symm hj)
    have hil := cmpKind_of_sameKind hl
    have hik : (cmpKind i k).isLE :=
      TransCmp.isLE_trans (Ordering.isLE_of_eq_eq (OrientedCmp.eq_symm hji)) hjk
    have hki : (cmpKind k i).isLE :=
      TransCmp.isLE_trans hkl (Ordering.isLE_of_eq_eq (OrientedCmp.eq_symm hil))
    have hk : k ∈ issues := mem_arranged.mp (hs.subset (by simp))
    exact sameKind_of_cmpKind (h i hi) (h k hk) (OrientedCmp.isLE_antisymm hik hki)

theorem represents_of_arranged (h : ∀ i ∈ issues, i.code ≠ some "") {i j : Issue}
    {rest : List Issue} (hj : (arranged issues).filter (sameKind i) = j :: rest) :
    Represents issues j := by
  obtain ⟨pre, post, ha, hpre, hij, -⟩ := List.filter_eq_cons_iff.mp hj
  have hmem : ∀ k ∈ issues, k ∈ pre ++ j :: post := fun k hk => ha ▸ mem_arranged.mpr hk
  have hji : j ∈ issues := mem_arranged.mp (by simp [ha])
  have hle : ∀ k ∈ issues, sameKind j k = true → j.column ≤ k.column := by
    intro k hk hjk
    rcases List.mem_append.mp (hmem k hk) with hp | hp
    · exact absurd (sameKind_left hij (sameKind_symm hjk)) (hpre k hp)
    · rcases List.mem_cons.mp hp with rfl | hp
      · exact UInt32.le_refl _
      · have ho := ordered_arranged issues
        rw [ha] at ho
        have hle := (List.pairwise_cons.mp (List.pairwise_append.mp ho).2.1).1 k hp
        rw [cmpMerged, compareLex, cmpKind_of_sameKind hjk] at hle
        exact Std.isLE_compare.mp hle
  have htied : (arranged issues).filter (ties cmpMerged j) =
      j :: post.filter (ties cmpMerged j) := by
    have hnone : pre.filter (ties cmpMerged j) = [] := by
      apply List.filter_eq_nil_iff.mpr
      intro k hk ht
      have hki : k ∈ issues := mem_arranged.mp (by simp [ha, hk])
      have hjk := sameKind_of_cmpKind (h j hji) (h k hki) (cmpMerged_eq_eq.mp (ties_iff.mp ht)).1
      exact hpre k hk (sameKind_left hij (sameKind_symm hjk))
    rw [ha, List.filter_append, hnone, List.nil_append, List.filter_cons_of_pos (ties_self j)]
  rw [sameTies_arranged issues j] at htied
  obtain ⟨before, after, hi, hbefore, -, -⟩ := List.filter_eq_cons_iff.mp htied
  refine ⟨before, after, hi, ?_, ?_⟩
  · intro k hk hjk
    have hcol := hle k (by simp [hi, hk]) hjk
    have hne : j.column ≠ k.column := by
      intro he
      exact hbefore k hk (ties_iff.mpr (cmpMerged_eq_eq.mpr ⟨cmpKind_of_sameKind hjk, he⟩))
    exact UInt32.lt_of_le_of_ne hcol hne
  · intro k hk hjk
    exact hle k (by simp [hi, hk]) hjk

end Coded

/-- What is left of issues after merging. -/
structure Merged (issues merged : List Issue) : Prop where
  ordered : Ordered cmpMerged merged
  inOrder : ∀ i, (merged.filter (ties cmpMerged i)).Sublist (issues.filter (ties cmpMerged i))
  drawn : ∃ dropped, (merged ++ dropped).Perm issues
  reports : (merged.filter isToolReport).Perm (issues.filter isToolReport)
  single : ∀ i ∈ issues, i.isToolReport = false →
    ∃ j, merged.filter (sameKind i) = [j] ∧ Represents issues j

/-- Merging keeps every tool report, one issue of every other kind, and nothing else. -/
theorem merged_merge (issues : List Issue) (h : ∀ i ∈ issues, i.code ≠ some "") :
    Merged issues (merge issues) where
  ordered := (ordered_arranged issues).sublist (merge_sublist issues)
  inOrder i := by
    rw [← sameTies_arranged issues i]
    exact (merge_sublist issues).filter _
  drawn := by
    obtain ⟨dropped, hd⟩ := (merge_sublist issues).exists_perm_append
    exact ⟨dropped, hd.symm.trans (perm_of_sameTies (sameTies_arranged issues))⟩
  reports := by
    have hkept : ∀ i j, repeatsHere i j = true → j.isToolReport = false := by
      intro i j hd
      obtain ⟨hr, hk⟩ := repeatsHere_iff.mp hd
      exact (isToolReport_of_sameKind hk).trans hr
    rw [merge_eq, filter_collapseBy_of_kept hkept]
    exact (perm_of_sameTies (sameTies_arranged issues)).filter isToolReport
  single i hi hr := by
    have hmem : i ∈ (arranged issues).filter (sameKind i) :=
      List.mem_filter.mpr ⟨mem_arranged.mpr hi, sameKind_self i⟩
    have hf := (solitary_arranged h hi hr).filter_collapseBy
    rw [← merge_eq] at hf
    cases ha : (arranged issues).filter (sameKind i) with
    | nil => simp [ha] at hmem
    | cons j rest =>
      rw [ha] at hf
      exact ⟨j, hf, represents_of_arranged h ha⟩

def duplicates : List Issue :=
  [{ (create "spell" "typo" "third" ⟨"src//a.py"⟩) with character := some 9 },
   toolReport "spell failed horribly" ⟨"src"⟩ none true,
   { (create "spell" "typo" "first" ⟨"src/a.py"⟩) with character := some 4 },
   { (create "spell" "typo" "second" ⟨"src/a.py"⟩) with character := some 4 }]

theorem merged_merge_duplicates :
    (∀ i ∈ duplicates, i.code ≠ some "") ∧ Merged duplicates (merge duplicates) := by
  have h : ∀ i ∈ duplicates, i.code ≠ some "" := by decide
  exact ⟨h, merged_merge duplicates h⟩

end MetaLint.Issue
