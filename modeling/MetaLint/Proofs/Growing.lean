import Mathlib.Data.List.Destutter
import MetaLint.Proofs.Consistency
import MetaLint.Proofs.Selecting
import MetaLint.Proofs.Undisturbed

/-!
# Counts that grow

An issue that comes in may part a run of issues that were merged into one, or join one. Of the lists
without neighbours of one kind that can be taken out of a list, none is longer than what merging
leaves, so merging more issues leaves at least as many. As the directives of a file are kept for
good, the number of cleaned issues never shrinks.
-/

set_option autoImplicit false

namespace MetaLint

namespace Sorting

open Std (TransCmp)

variable {α : Type} {cmp : α → α → Ordering} [TransCmp cmp] {as bs : List α}

theorem mergeSort_cons_eq (a : α) (as : List α) :
    ((a :: as).mergeSort fun x y => (cmp x y).isLE) =
      (as.mergeSort fun x y => (cmp x y).isLE).filter (fun b => !(cmp a b).isLE) ++
        a :: (as.mergeSort fun x y => (cmp x y).isLE).filter fun b => (cmp a b).isLE := by
  obtain ⟨before, after, hsorted, hrest, hbefore⟩ :=
    @List.mergeSort_cons _ (fun x y => (cmp x y).isLE) (fun _ _ _ => TransCmp.isLE_trans)
      isLE_total a as
  have hordered : Ordered cmp (before ++ a :: after) := hsorted ▸ ordered_mergeSort (a :: as)
  have hafter : ∀ b ∈ after, (cmp a b).isLE :=
    (List.pairwise_cons.mp (List.pairwise_append.mp hordered).2.1).1
  have hnone : after.filter (fun b => !(cmp a b).isLE) = [] := by
    apply List.filter_eq_nil_iff.mpr
    intro b hb
    simp [hafter b hb]
  have hnone' : before.filter (fun b => (cmp a b).isLE) = [] := by
    apply List.filter_eq_nil_iff.mpr
    intro b hb
    simpa using hbefore b hb
  rw [hsorted, hrest, List.filter_append, List.filter_append, hnone, hnone', List.append_nil,
    List.nil_append, List.filter_eq_self.mpr hbefore, List.filter_eq_self.mpr hafter]

theorem mergeSort_sublist (h : as.Sublist bs) :
    (as.mergeSort fun a b => (cmp a b).isLE).Sublist (bs.mergeSort fun a b => (cmp a b).isLE) := by
  induction h with
  | slnil => exact List.Sublist.refl _
  | @cons as bs b _ ih =>
    obtain ⟨before, after, hsorted, hrest, -⟩ :=
      @List.mergeSort_cons _ (fun x y => (cmp x y).isLE) (fun _ _ _ => TransCmp.isLE_trans)
        isLE_total b bs
    rw [hrest] at ih
    rw [hsorted]
    exact ih.middle b
  | cons_cons a _ ih =>
    rw [mergeSort_cons_eq, mergeSort_cons_eq]
    exact (ih.filter _).append ((ih.filter _).cons_cons a)

end Sorting

namespace Issue

open Sorting

variable {issues others : List Issue}

theorem arranged_eq_mergeSort (issues : List Issue) :
    arranged issues = issues.mergeSort fun i j => (cmpMerged i j).isLE := by
  apply eq_of_sameTies (ordered_arranged issues) (ordered_mergeSort issues)
  exact sameTies_trans (sameTies_arranged issues) (sameTies_symm (sameTies_mergeSort issues))

theorem arranged_sublist (h : issues.Sublist others) :
    (arranged issues).Sublist (arranged others) := by
  rw [arranged_eq_mergeSort, arranged_eq_mergeSort]
  exact mergeSort_sublist h

/-- Collapsing takes out of a list what stands next to its like. -/
theorem collapseBy_eq_destutter (drops : Issue → Issue → Bool) (issues : List Issue) :
    collapseBy drops issues = issues.destutter fun i j => drops i j = false := by
  have hafter : ∀ kept rest, kept :: collapseAfter drops kept rest =
      List.destutter' (fun i j => drops i j = false) kept rest := by
    intro kept rest
    induction rest generalizing kept with
    | nil => rfl
    | cons next rest ih =>
      rw [collapseAfter, List.destutter'_cons, ← ih, ← ih]
      cases drops kept next <;> rfl
  cases issues with
  | nil => rfl
  | cons first rest => exact hafter first rest

theorem compl_sameKind_iff {i j : Issue} :
    (fun i j => sameKind i j = false)ᶜ i j ↔ sameKind i j = true := by
  show ¬sameKind i j = false ↔ _
  rw [Bool.not_eq_false]

instance : IsEquiv Issue (fun i j => sameKind i j = false)ᶜ where
  refl i := compl_sameKind_iff.mpr (sameKind_self i)
  symm _ _ h := compl_sameKind_iff.mpr (sameKind_symm (compl_sameKind_iff.mp h))
  trans _ _ _ hij hjk := compl_sameKind_iff.mpr
    (sameKind_left (compl_sameKind_iff.mp hij) (sameKind_symm (compl_sameKind_iff.mp hjk)))

theorem merge_eq_destutter (h : ∀ i ∈ issues, i.isToolReport = false) :
    merge issues = (arranged issues).destutter fun i j => sameKind i j = false := by
  rw [merge_eq, ← collapseBy_eq_destutter]
  apply collapseBy_congr
  intro i hi j _
  rw [Bool.eq_iff_iff, repeatsHere_iff]
  exact and_iff_right (h i (mem_arranged.mp hi))

/-- What merging leaves of a part has no neighbours of one kind, and merging leaves a longest part
of this form. -/
theorem length_merge_le (hs : issues.Sublist others)
    (h : ∀ i ∈ others, i.isToolReport = false) : (merge issues).length ≤ (merge others).length := by
  rw [merge_eq_destutter h, merge_eq_destutter fun i hi => h i (hs.subset hi)]
  apply List.IsChain.length_le_length_destutter
  · exact (List.destutter_sublist _ _).trans (arranged_sublist hs)
  · exact List.isChain_destutter _ _

end Issue

namespace CleanSettings

variable {kept others raw more : List Issue}

theorem length_merged_le (s : CleanSettings) (h : kept.Sublist others) :
    (s.merged kept).length ≤ (s.merged others).length := by
  have hsplit : ∀ issues : List Issue, (s.merged issues).length =
      (issues.filter Issue.isToolReport).length +
        (s.merged (issues.filter fun i => !i.isToolReport)).length := by
    intro issues
    have hreports := perm_filter_merged (s := s) (fun _ hi => hi) issues
    rw [← filter_merged Issue.byKind_isToolReport.not, ← hreports.length_eq]
    exact List.length_eq_length_filter_add _
  have hothers : (s.merged (kept.filter fun i => !i.isToolReport)).length ≤
      (s.merged (others.filter fun i => !i.isToolReport)).length := by
    rw [merged, merged]
    split
    · apply Issue.length_merge_le (h.filter _)
      intro i hi
      simpa using (List.mem_filter.mp hi).2
    · exact (h.filter _).length_le
  rw [hsplit kept, hsplit others]
  exact Nat.add_le_add (h.filter _).length_le hothers

theorem length_clean_le (s : CleanSettings) (index : Path → SuppressionIndex)
    (h : raw.Sublist more) : (s.clean index raw).length ≤ (s.clean index more).length :=
  s.length_merged_le (h.filter _)

end CleanSettings

namespace Collector

variable (c : Collector) (d : Disk)

theorem cleaned_view : (c.view d).2.cleaned = some (c.view d).1 := by
  cases hc : c.cleaned <;> simp [view, hc, store, snapshot]

theorem raw_view : (c.view d).2.raw = c.raw := by
  cases hc : c.cleaned <;> simp [view, hc, store, snapshot]

end Collector

namespace SharedCollector

open DirectiveCache (Agrees)

variable {index : Path → SuppressionIndex} {s : SharedCollector}

/-- How many issues are counted by someone who asks the collector in one go. -/
def total (s : SharedCollector) : Nat := (s.collector.count s.disk).1

def counted (s : SharedCollector) : SharedCollector :=
  { s with collector := (s.collector.count s.disk).2 }

/-- To ask in one go is to read without being disturbed. -/
theorem extends_counted (s : SharedCollector) : s.collector.Extends s.counted.collector := by
  obtain ⟨n, hn⟩ := s.perform_undisturbed
  have h := s.extends_perform (s.undisturbed n)
  rw [hn] at h
  exact h

theorem sound_counted (h : Sound index s) (hd : Agrees index s.counted.collector.directives) :
    Sound index s.counted := by
  obtain ⟨n, hn⟩ := s.perform_undisturbed
  have hs := sound_perform h (s.undisturbed n) (by rw [hn]; exact hd)
  rw [hn] at hs
  exact ⟨hs.view, fun reading hr => hs.readers reading (List.mem_append_left _ hr)⟩

theorem total_eq (h : Sound index s) (hd : Agrees index s.counted.collector.directives) :
    s.total = (s.collector.settings.clean index s.collector.raw).length := by
  have hview := (sound_counted h hd).view _ (s.collector.cleaned_view s.disk)
  have hraw : s.counted.collector.raw = s.collector.raw := s.collector.raw_view s.disk
  rw [hraw, s.extends_counted.settings] at hview
  exact congrArg List.length hview

theorem total_le_total (h : Sound index s) (after : List Move)
    (hd : Agrees index (s.counted.perform after).counted.collector.directives) :
    s.total ≤ (s.counted.perform after).total := by
  have hafter := hd.of_grows (s.counted.perform after).extends_counted.directives
  have hcounted := hafter.of_grows (s.counted.extends_perform after).directives
  have hraw : s.collector.raw <+: (s.counted.perform after).collector.raw :=
    s.extends_counted.raw.trans (s.counted.extends_perform after).raw
  rw [total_eq h hcounted, total_eq (sound_perform (sound_counted h hcounted) after hafter) hd,
    (s.counted.extends_perform after).settings, s.extends_counted.settings]
  exact CleanSettings.length_clean_le _ _ hraw.sublist

theorem length_answer (h : Sound index s) {mid : List Move}
    (hd : Agrees index (s.perform (.ask :: mid)).collector.directives) {v : List Issue}
    (hv : (s.perform (.ask :: mid)).answer? s.readers.length = some v) :
    (s.collector.settings.clean index s.collector.raw).length ≤ v.length ∧
      v.length ≤
        (s.collector.settings.clean index (s.perform (.ask :: mid)).collector.raw).length := by
  obtain ⟨during, ⟨rest, rfl⟩, -, rfl⟩ := exists_during h hd hv
  constructor
  · apply CleanSettings.length_clean_le
    exact (s.extends_perform (.ask :: during)).raw.sublist
  · rw [← List.cons_append, perform_append]
    apply CleanSettings.length_clean_le
    exact (extends_perform _ rest).raw.sublist

/-- Whoever counts the cleaned issues later counts at least as many. -/
structure CountsGrow (s : SharedCollector) : Prop where
  counted : ∀ before after,
    (s.perform before).total ≤ ((s.perform before).counted.perform after).total
  answered : ∀ before mid n v w, (s.perform before).answer? n = some v →
    (s.perform (before ++ .ask :: mid)).answer? (s.perform before).readers.length = some w →
    v.length ≤ w.length

theorem countsGrow_start (settings : CleanSettings) (disk : Disk) :
    CountsGrow (start settings disk) where
  counted before after := by
    have hend := DirectiveCache.agrees_get
      (((start settings disk).perform before).counted.perform after).counted.collector.directives
    have hlast := ((start settings disk).perform before).extends_counted.trans
      ((extends_perform _ after).trans (extends_counted _))
    have hbefore := hend.of_grows hlast.directives
    exact total_le_total (sound_perform (sound_start _ settings disk) before hbefore) after hend
  answered before mid n v w hv hw := by
    rw [perform_append] at hw
    have hend := DirectiveCache.agrees_get
      (((start settings disk).perform before).perform (.ask :: mid)).collector.directives
    have hbefore := hend.of_grows (extends_perform _ (.ask :: mid)).directives
    have hlater :=
      length_answer (sound_perform (sound_start _ settings disk) before hbefore) hend hw
    -- The first reader asked at some time before, and all it saw is there when the other one asks.
    obtain ⟨first, between, rfl, rfl⟩ :=
      exists_ask before (Nat.zero_le n) (lt_of_answer?_eq_some hv)
    rw [perform_append] at hv hbefore hlater
    have hfirst := hbefore.of_grows (extends_perform _ (.ask :: between)).directives
    have hearlier :=
      length_answer (sound_perform (sound_start _ settings disk) first hfirst) hbefore hv
    rw [(extends_perform _ (.ask :: between)).settings] at hlater
    exact hearlier.2.trans hlater.1

end SharedCollector

end MetaLint
