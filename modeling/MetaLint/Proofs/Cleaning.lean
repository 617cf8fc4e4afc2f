import MetaLint.Proofs.Directives
import MetaLint.Proofs.Merging

/-!
# The view of a fresh collector

A collector that has shown nothing yet loads the directives of every file at the first issue in it.
What it shows then depends on the kept issues, and of these on no more than the order of those that
tie. Tool reports on one line stay in the order in which they came in.
-/

set_option autoImplicit false

namespace MetaLint

open Sorting

namespace Collector

variable {s : CleanSettings} {d : Disk}

theorem grows_ensureIndex (cache : DirectiveCache) (p : Path) :
    DirectiveCache.Grows cache (ensureIndex s d cache p) := by
  rw [ensureIndex]
  split
  · exact DirectiveCache.grows_refl cache
  · exact DirectiveCache.grows_insertNew cache p _

theorem mem_ensureIndex {cache : DirectiveCache} {p : Path} {entry : Path × SuppressionIndex}
    (h : entry ∈ ensureIndex s d cache p) : entry ∈ cache ∨ entry = (p, loadIndex s d p) := by
  rw [ensureIndex] at h
  split at h
  next => exact Or.inl h
  next hnone =>
    rw [DirectiveCache.insertNew, if_neg hnone] at h
    exact (List.mem_append.mp h).imp_right List.mem_singleton.mp

theorem find?_ensureIndex_self (cache : DirectiveCache) (p : Path) :
    ((ensureIndex s d cache p).find? p).isSome = true := by
  rw [ensureIndex]
  split
  next h => exact h
  next => rw [DirectiveCache.find?_insertNew_self, Option.isSome_some]

theorem grows_ensureAll (files : List Path) (cache : DirectiveCache) :
    DirectiveCache.Grows cache (files.foldl (ensureIndex s d) cache) := by
  induction files generalizing cache with
  | nil => exact DirectiveCache.grows_refl cache
  | cons q files ih =>
    intro p found hf
    exact ih _ p found (grows_ensureIndex cache q p found hf)

theorem mem_ensureAll {files : List Path} {cache : DirectiveCache}
    {entry : Path × SuppressionIndex} (h : entry ∈ files.foldl (ensureIndex s d) cache) :
    entry ∈ cache ∨ ∃ q ∈ files, entry = (q, loadIndex s d q) := by
  induction files generalizing cache with
  | nil => exact Or.inl h
  | cons q files ih =>
    rcases ih h with he | ⟨q', hq', he⟩
    · rcases mem_ensureIndex he with he | he
      · exact Or.inl he
      · exact Or.inr ⟨q, List.mem_cons_self, he⟩
    · exact Or.inr ⟨q', List.mem_cons_of_mem q hq', he⟩

theorem isSome_ensureAll {files : List Path} {p : Path} (hp : p ∈ files) (cache : DirectiveCache) :
    ((files.foldl (ensureIndex s d) cache).find? p).isSome = true := by
  induction files generalizing cache with
  | nil => exact absurd hp List.not_mem_nil
  | cons q files ih =>
    rcases List.mem_cons.mp hp with rfl | hp
    · obtain ⟨found, hf⟩ := Option.isSome_iff_exists.mp (find?_ensureIndex_self cache p)
      rw [List.foldl_cons, grows_ensureAll files _ p found hf, Option.isSome_some]
    · exact ih hp _

theorem scans_of_same {p q : Path} (h : p.same q = true) : s.scans p = s.scans q := by
  have hc : p.components = q.components := (Path.same_iff p q).mp h
  rw [CleanSettings.scans, CleanSettings.scans, Path.extension?, Path.extension?, Path.fileName?,
    Path.fileName?, hc]

theorem get_of_unscanned {p : Path} (h : s.scans p = false) (raw : List Issue) :
    (ensureIndexes s d [] raw).get p = .empty := by
  rw [DirectiveCache.get]
  cases hf : (ensureIndexes s d [] raw).find? p with
  | none => rfl
  | some found =>
    obtain ⟨q, hq, hsame⟩ := DirectiveCache.exists_entry hf
    rcases mem_ensureAll hq with he | ⟨q', -, he⟩
    · exact absurd he List.not_mem_nil
    · obtain ⟨rfl, rfl⟩ := Prod.mk.inj he
      rw [scans_of_same hsame] at h
      rw [loadIndex, h]
      rfl

/-- Paths of one file have the same directives, however they are spelled. -/
def SpelledAlike (s : CleanSettings) (d : Disk) (issues : List Issue) : Prop :=
  ∀ i ∈ issues, ∀ j ∈ issues, i.filename.same j.filename = true →
    loadIndex s d i.filename = loadIndex s d j.filename

def CachedFrom (s : CleanSettings) (d : Disk) (raw : List Issue) (cache : DirectiveCache) : Prop :=
  ∀ entry ∈ cache, ∃ i ∈ raw, entry = (i.filename, loadIndex s d i.filename)

theorem cachedFrom_nil (raw : List Issue) : CachedFrom s d raw [] := by
  intro entry he
  exact absurd he List.not_mem_nil

theorem mem_filesToScan {raw : List Issue} {p : Path} (h : p ∈ filesToScan s raw) :
    ∃ i ∈ raw, p = i.filename := by
  rw [filesToScan] at h
  split at h
  · obtain ⟨i, hi, rfl⟩ := List.mem_map.mp h
    exact ⟨i, (List.mem_filter.mp hi).1, rfl⟩
  · contradiction

theorem CachedFrom.ensureIndexes {raw : List Issue} {cache : DirectiveCache}
    (h : CachedFrom s d raw cache) : CachedFrom s d raw (ensureIndexes s d cache raw) := by
  intro entry he
  rcases mem_ensureAll he with he | ⟨q, hq, rfl⟩
  · exact h entry he
  · obtain ⟨i, hi, rfl⟩ := mem_filesToScan hq
    exact ⟨i, hi, rfl⟩

theorem CachedFrom.eq_loadIndex {raw : List Issue} {cache : DirectiveCache}
    (h : CachedFrom s d raw cache) (ha : SpelledAlike s d raw) {i : Issue} (hi : i ∈ raw)
    {found : SuppressionIndex} (hf : cache.find? i.filename = some found) :
    found = loadIndex s d i.filename := by
  obtain ⟨q, hq, hsame⟩ := DirectiveCache.exists_entry hf
  obtain ⟨j, hj, he⟩ := h _ hq
  obtain ⟨rfl, rfl⟩ := Prod.mk.inj he
  exact (ha i hi j hj hsame).symm

theorem keeps_ensureIndexes {raw : List Issue} {cache : DirectiveCache}
    (hc : CachedFrom s d raw cache) (h : SpelledAlike s d raw) {i : Issue} (hi : i ∈ raw) :
    s.keeps (ensureIndexes s d cache raw).get i = s.keeps (loadIndex s d) i := by
  rw [CleanSettings.keeps, CleanSettings.keeps]
  cases hd : s.disables i with
  | true => rfl
  | false =>
    cases hn : s.noqa with
    | false => rfl
    | true =>
      have hmem : i ∈ raw.filter fun j => !s.disables j :=
        List.mem_filter.mpr ⟨hi, by rw [hd]; rfl⟩
      have hfile : i.filename ∈ filesToScan s raw := by
        rw [filesToScan, if_pos hn]
        exact List.mem_map_of_mem hmem
      have hsome : ((ensureIndexes s d cache raw).find? i.filename).isSome = true :=
        isSome_ensureAll hfile cache
      obtain ⟨found, hf⟩ := Option.isSome_iff_exists.mp hsome
      rw [DirectiveCache.get_eq hf, hc.ensureIndexes.eq_loadIndex h hi hf]

/-- Nothing was shown and no directives were loaded. -/
structure Fresh (s : CleanSettings) (c : Collector) : Prop where
  settings : c.settings = s
  cleaned : c.cleaned = none
  directives : c.directives = []

theorem Fresh.add {c : Collector} (h : Fresh s c) (issues : List Issue) :
    Fresh s (c.add issues) := ⟨h.settings, rfl, h.directives⟩

theorem fresh_create (s : CleanSettings) : Fresh s (create s) := ⟨rfl, rfl, rfl⟩

theorem Fresh.issues {c : Collector} (h : Fresh s c) (d : Disk) (order : List Issue.Field) :
    (c.issues d order).1 =
      Issue.sortBy order (s.clean (ensureIndexes s d [] c.raw).get c.raw) := by
  rw [Collector.issues, view, h.cleaned, snapshot, h.settings, h.directives]

end Collector

namespace CleanSettings

variable {s : CleanSettings}

/-- Of the kept issues the view sees no more than the order of those that tie. -/
theorem sortBy_merged_congr {issues others : List Issue} {order : List Issue.Field}
    (h : SameTies Issue.cmpMerged issues others)
    (ho : ∀ i j, Issue.cmpBy order i j = .eq → Issue.cmpMerged i j = .eq) :
    Issue.sortBy order (s.merged issues) = Issue.sortBy order (s.merged others) := by
  rw [merged, merged]
  split
  · rw [Issue.merge_congr h]
  · apply Issue.sortBy_congr
    intro i
    apply filter_of_sameTies h i
    intro j hj
    exact ho i j (ties_iff.mp hj)

end CleanSettings

namespace Issue

theorem cmpMerged_of_default {i j : Issue} (h : cmpBy defaultOrder i j = .eq) :
    cmpMerged i j = .eq := by
  simp only [defaultOrder, cmpBy, Field.cmp, Ordering.then_eq_eq,
    Std.LawfulEqCmp.compare_eq_iff_eq, and_true] at h
  obtain ⟨hf, hl, hc, ht, hcode⟩ := h
  apply cmpMerged_eq_eq.mpr
  refine ⟨cmpKind_eq_eq.mpr ⟨?_, hl, ht, hcode⟩, hc⟩
  rw [Path.same_iff, Path.components, Path.components, hf]

def isReportOn (project : Path) (i : Issue) : Bool :=
  i.isToolReport && i.filename == project && i.line == 1 && i.character == none

theorem isReportOn_iff {project : Path} {i : Issue} : i.isReportOn project = true ↔
    i.isToolReport = true ∧ i.filename = project ∧ i.line = 1 ∧ i.character = none := by
  simp [isReportOn, and_assoc]

theorem default_of_reports {project : Path} {i j : Issue} (hi : i.isReportOn project = true)
    (hj : j.isReportOn project = true) : cmpBy defaultOrder i j = .eq := by
  obtain ⟨hir, hif, hil, hic⟩ := isReportOn_iff.mp hi
  obtain ⟨hjr, hjf, hjl, hjc⟩ := isReportOn_iff.mp hj
  simp only [isToolReport, isSelfReported, Bool.and_eq_true, beq_iff_eq] at hir hjr
  simp [defaultOrder, cmpBy, Field.cmp, column, codeText, hif, hjf, hil, hjl, hic, hjc, hir, hjr]

/-- The reports on a project are shown in the order in which they came in. -/
theorem filter_reports (s : CleanSettings) (project : Path) (kept : List Issue) :
    (sortBy defaultOrder (s.merged kept)).filter (isReportOn project) =
      kept.filter (isReportOn project) := by
  by_cases hx : ∃ x : Issue, x.isReportOn project = true
  · obtain ⟨x, hx⟩ := hx
    have hsort : ∀ issues, (sortBy defaultOrder issues).filter (isReportOn project) =
        issues.filter (isReportOn project) := by
      intro issues
      apply filter_of_sameTies (sameTies_sortBy defaultOrder issues) x
      intro j hj
      exact default_of_reports hx hj
    rw [hsort, CleanSettings.merged]
    split
    · have hkept : ∀ i j, repeatsHere i j = true → j.isReportOn project = false := by
        intro i j hd
        obtain ⟨hr, hk⟩ := repeatsHere_iff.mp hd
        rw [isReportOn, isToolReport_of_sameKind hk, hr]
        rfl
      rw [merge_eq, filter_collapseBy_of_kept hkept]
      apply filter_of_sameTies (sameTies_arranged kept) x
      intro j hj
      exact cmpMerged_of_default (default_of_reports hx hj)
    · rfl
  · have hnone : ∀ issues : List Issue, issues.filter (isReportOn project) = [] := by
      intro issues
      apply List.filter_eq_nil_iff.mpr
      intro i _ hi
      exact hx ⟨i, hi⟩
    rw [hnone, hnone]

end Issue

end MetaLint
